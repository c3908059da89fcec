/-!
# Hexadecimal numbers

Numbers are written with upper-case digits, either in a fixed width or with as few digits as
possible, and read from digits of either case.
-/

namespace HidMend.Hex

def digit (value : Nat) : Char :=
  if value < 10 then Char.ofNat (0x30 + value) else Char.ofNat (0x41 + (value - 10))

def lowerDigit (value : Nat) : Char :=
  if value < 10 then Char.ofNat (0x30 + value) else Char.ofNat (0x61 + (value - 10))

def digitValue? (char : Char) : Option Nat :=
  if '0' ≤ char ∧ char ≤ '9' then some (char.toNat - 0x30)
  else if 'A' ≤ char ∧ char ≤ 'F' then some (char.toNat - 0x41 + 10)
  else if 'a' ≤ char ∧ char ≤ 'f' then some (char.toNat - 0x61 + 10)
  else none

def isDigit (char : Char) : Bool :=
  (digitValue? char).isSome

/-- The last `width` digits of a number, padded with zeros. -/
def fixed : Nat → Nat → List Char
  | 0, _ => []
  | width + 1, value => fixed width (value / 16) ++ [digit (value % 16)]

/-- The digits of a number without leading zeros. -/
def shortest (value : Nat) : List Char :=
  if value < 16 then [digit value] else shortest (value / 16) ++ [digit (value % 16)]
termination_by value

/-- The number that a list of digits stands for; characters that are no digits count as zero. -/
def value (digits : List Char) : Nat :=
  digits.foldl (fun number char => number * 16 + (digitValue? char).getD 0) 0

/-- The character whose code point digits give; surrogates are no characters. -/
def char? (digits : List Char) : Option Char :=
  if digits.all isDigit then
    let code := value digits
    if code < 0xD800 ∨ (0xDFFF < code ∧ code ≤ 0x10FFFF) then some (Char.ofNat code) else none
  else none

/-- Strip one `0x` or `0X`, and accept what is left if it is one or more digits. -/
def digitsOf? (text : List Char) : Option (List Char) :=
  let digits :=
    match text with
    | '0' :: 'x' :: rest => rest
    | '0' :: 'X' :: rest => rest
    | _ => text
  if !digits.isEmpty && digits.all isDigit then some digits else none

/-- Two lower-case digits for each byte. -/
def ofBytes (bytes : List UInt8) : String :=
  String.ofList (bytes.flatMap fun byte =>
    [lowerDigit (byte.toNat / 16), lowerDigit (byte.toNat % 16)])

end HidMend.Hex

/-!
# Decimal numbers

Numbers are written without leading zeros, and read from any run of digits.  A numeral is a number
in a wider sense, with a sign, a fraction and an exponent.
-/

namespace HidMend.Decimal

def digits (value : Nat) : List Char :=
  if value < 10 then [Char.ofNat (0x30 + value)]
  else digits (value / 10) ++ [Char.ofNat (0x30 + value % 10)]
termination_by value

/-- The number that a list of digits stands for. -/
def value (digits : List Char) : Nat :=
  digits.foldl (fun number digit => number * 10 + (digit.toNat - 0x30)) 0

/-- Drop a plus or minus sign. -/
def dropSign : List Char → List Char
  | '+' :: rest => rest
  | '-' :: rest => rest
  | text => text

/-- Whether a text is an exponent behind its letter. -/
def isExponent (text : List Char) : Bool :=
  let digits := dropSign text
  !digits.isEmpty && digits.all Char.isDigit

/-- The names of numerals without digits, in lower case. -/
def numeralNames : List (List Char) :=
  ["inf".toList, "infinity".toList, "nan".toList]

/-- Whether a text is a numeral.  Digits stand in front of the point, behind it or both. -/
def isNumeral (text : List Char) : Bool :=
  let body := dropSign text
  let whole := body.takeWhile Char.isDigit
  let (fraction, rest) :=
    match body.drop whole.length with
    | '.' :: rest => (rest.takeWhile Char.isDigit, rest.dropWhile Char.isDigit)
    | rest => ([], rest)
  let ends :=
    match rest with
    | [] => true
    | letter :: exponent => (letter == 'e' || letter == 'E') && isExponent exponent
  numeralNames.contains (body.map Char.toLower) || (!(whole ++ fraction).isEmpty && ends)

end HidMend.Decimal

import HidMend.Json.Value
import HidMend.Text.Decimal
import HidMend.Text.Hex

/-!
# Reading JSON

The reader accepts exactly one value, with white space around it and between its parts, and nothing
else: no leading zeros, no trailing commas, no bare control characters in strings.  Half of a
surrogate pair in a string is accepted here and leaves the string without a text, so that a value
nobody looks at may hold it.
-/

namespace HidMend.Json

/-- The white space between the parts of a value. -/
def isSpace (char : Char) : Bool :=
  char == ' ' || char == '\n' || char == '\t' || char == '\r'

def skipSpace (text : List Char) : List Char :=
  text.dropWhile isSpace

/-- What an item of a string literal stands for: a character, or one half of a surrogate pair. -/
inductive TextUnit
  | char (value : Char)
  | surrogate (value : Nat)
  deriving DecidableEq, Repr

/-- The character that a letter stands for behind a backslash. -/
def unescape? (letter : Char) : Option Char :=
  if letter = '\x22' then some '\x22'
  else if letter = '\\' then some '\\'
  else if letter = '/' then some '/'
  else if letter = 'b' then some '\x08'
  else if letter = 'f' then some '\x0c'
  else if letter = 'n' then some '\n'
  else if letter = 'r' then some '\r'
  else if letter = 't' then some '\t'
  else none

/-- The unit that four hexadecimal digits name. -/
def unitOfDigits? (digits : List Char) : Option TextUnit :=
  if digits.all Hex.isDigit then
    let value := Hex.value digits
    if 0xD800 ≤ value ∧ value ≤ 0xDFFF then some (.surrogate value)
    else some (.char (Char.ofNat value))
  else none

/-- Read the units of a string up to the closing quotation mark. -/
def units? : List Char → Option (List TextUnit × List Char)
  | [] => none
  | '\\' :: 'u' :: first :: second :: third :: fourth :: rest =>
      match unitOfDigits? [first, second, third, fourth], units? rest with
      | some unit, some (units, after) => some (unit :: units, after)
      | _, _ => none
  | '\\' :: letter :: rest =>
      match unescape? letter, units? rest with
      | some char, some (units, after) => some (.char char :: units, after)
      | _, _ => none
  | char :: rest =>
      if char = '\x22' then some ([], rest)
      else if char = '\\' ∨ char.toNat < 0x20 then none
      else
        match units? rest with
        | some (units, after) => some (.char char :: units, after)
        | none => none

/-- The text of units, in which surrogates occur only as pairs of a high and a low half. -/
def textOf? : List TextUnit → JsonText
  | [] => some []
  | .char char :: rest => (textOf? rest).map (char :: ·)
  | .surrogate high :: .surrogate low :: rest =>
      if high < 0xDC00 ∧ 0xDC00 ≤ low then
        (textOf? rest).map (Char.ofNat (0x10000 + (high - 0xD800) * 0x400 + (low - 0xDC00)) :: ·)
      else none
  | .surrogate _ :: _ => none

/-- Read a string behind its opening quotation mark. -/
def string? (text : List Char) : Option (JsonText × List Char) :=
  (units? text).map fun result => (textOf? result.1, result.2)

/-- Split off a run of decimal digits. -/
def digits (text : List Char) : List Char × List Char :=
  (text.takeWhile Char.isDigit, text.dropWhile Char.isDigit)

/-- Read the digits of a number in front of its point: a zero alone, or digits that start with no
zero. -/
def integerPart? (text : List Char) : Option (List Char × List Char) :=
  match digits text with
  | ([], _) => none
  | ('0' :: _ :: _, _) => none
  | (run, rest) => some (run, rest)

/-- Read the part behind the point, which may be missing. -/
def fractionPart? : List Char → Option (List Char × List Char)
  | '.' :: rest =>
      match digits rest with
      | ([], _) => none
      | (run, after) => some ('.' :: run, after)
  | text => some ([], text)

/-- Read the exponent, which may be missing. -/
def exponentPart? : List Char → Option (List Char × List Char)
  | [] => some ([], [])
  | mark :: rest =>
      if mark = 'e' ∨ mark = 'E' then
        let (sign, behind) :=
          match rest with
          | '+' :: behind => (['+'], behind)
          | '-' :: behind => (['-'], behind)
          | _ => ([], rest)
        match digits behind with
        | ([], _) => none
        | (run, after) => some (mark :: sign ++ run, after)
      else some ([], mark :: rest)

/-- Read a number without its sign. -/
def unsigned? (text : List Char) : Option (Json × List Char) :=
  match integerPart? text with
  | none => none
  | some (whole, text) =>
      match fractionPart? text with
      | none => none
      | some (fraction, text) =>
          match exponentPart? text with
          | none => none
          | some (exponent, rest) =>
              if fraction.isEmpty && exponent.isEmpty then
                some (natural (Decimal.value whole), rest)
              else some (number (whole ++ fraction ++ exponent), rest)

def number? : List Char → Option (Json × List Char)
  | '-' :: rest =>
      match unsigned? rest with
      | some (natural _, after) =>
          some (number ('-' :: rest.take (rest.length - after.length)), after)
      | some (number literal, after) => some (number ('-' :: literal), after)
      | _ => none
  | text => unsigned? text

/-- Take a fixed word from the front of a text. -/
def word? (word : List Char) (value : Json) (text : List Char) : Option (Json × List Char) :=
  if text.take word.length = word then some (value, text.drop word.length) else none

mutual

/-- Read one value, with at most `fuel` steps into its parts. -/
def value? : Nat → List Char → Option (Json × List Char)
  | 0, _ => none
  | fuel + 1, text =>
      match skipSpace text with
      | [] => none
      | char :: rest =>
          if char = '\x7b' then
            match skipSpace rest with
            | '\x7d' :: after => some (object [], after)
            | inner => (members? fuel inner).map fun result => (object result.1, result.2)
          else if char = '[' then
            match skipSpace rest with
            | ']' :: after => some (array [], after)
            | inner => (elements? fuel inner).map fun result => (array result.1, result.2)
          else if char = '\x22' then
            (string? rest).map fun result => (string result.1, result.2)
          else if char = 'n' then word? "null".toList null (char :: rest)
          else if char = 't' then word? "true".toList (bool true) (char :: rest)
          else if char = 'f' then word? "false".toList (bool false) (char :: rest)
          else number? (char :: rest)

/-- Read the elements of an array up to its closing bracket. -/
def elements? : Nat → List Char → Option (List Json × List Char)
  | 0, _ => none
  | fuel + 1, text =>
      match value? fuel text with
      | none => none
      | some (element, rest) =>
          match skipSpace rest with
          | ',' :: more =>
              (elements? fuel more).map fun result => (element :: result.1, result.2)
          | ']' :: after => some ([element], after)
          | _ => none

/-- Read the members of an object up to its closing brace. -/
def members? : Nat → List Char → Option (List (JsonText × Json) × List Char)
  | 0, _ => none
  | fuel + 1, text =>
      match skipSpace text with
      | '\x22' :: keyText =>
          match string? keyText with
          | none => none
          | some (key, afterKey) =>
              match skipSpace afterKey with
              | ':' :: valueText =>
                  match value? fuel valueText with
                  | none => none
                  | some (value, rest) =>
                      match skipSpace rest with
                      | ',' :: more =>
                          (members? fuel more).map fun result =>
                            ((key, value) :: result.1, result.2)
                      | '\x7d' :: after => some ([(key, value)], after)
                      | _ => none
              | _ => none
      | _ => none

end

/-- Read a text that holds one value.  Every step into a part takes a character, so that the length
of the text bounds the steps. -/
def parse? (text : String) : Option Json :=
  match value? (text.length + 1) text.toList with
  | some (value, rest) => if (skipSpace rest).isEmpty then some value else none
  | none => none

end HidMend.Json

import HidMend.Json.Value
import HidMend.Text.Decimal
import HidMend.Text.Hex

/-!
# JSON text

Values are written compactly, without any space, or on indented lines with two spaces for each
level.  Quotation marks, backslashes and control characters are escaped, the common control
characters by a letter; every other character stands for itself.
-/

namespace HidMend.Json

/-- How a character is written between quotation marks. -/
def escape (char : Char) : List Char :=
  if char = '\x22' then ['\\', '\x22']
  else if char = '\\' then ['\\', '\\']
  else if char = '\x08' then ['\\', 'b']
  else if char = '\x0c' then ['\\', 'f']
  else if char = '\n' then ['\\', 'n']
  else if char = '\r' then ['\\', 'r']
  else if char = '\t' then ['\\', 't']
  else if char.toNat < 0x20 then
    ['\\', 'u', '0', '0', Hex.lowerDigit (char.toNat / 16), Hex.lowerDigit (char.toNat % 16)]
  else [char]

def quote (text : List Char) : List Char :=
  '\x22' :: text.flatMap escape ++ ['\x22']

/-- A string without a text is written as an empty one. -/
def quoteText (text : JsonText) : List Char :=
  quote (text.getD [])

mutual

/-- Write a value without spaces. -/
def compact : Json → List Char
  | null => "null".toList
  | bool true => "true".toList
  | bool false => "false".toList
  | natural value => Decimal.digits value
  | number literal => literal
  | string text => quoteText text
  | array [] => ['[', ']']
  | array (element :: rest) => '[' :: compact element ++ compactElements rest ++ [']']
  | object [] => ['\x7b', '\x7d']
  | object ((key, value) :: rest) =>
      '\x7b' :: quoteText key ++ ':' :: compact value ++ compactMembers rest ++ ['\x7d']

/-- Write further elements, each behind a comma. -/
def compactElements : List Json → List Char
  | [] => []
  | element :: rest => ',' :: compact element ++ compactElements rest

/-- Write further members, each behind a comma. -/
def compactMembers : List (JsonText × Json) → List Char
  | [] => []
  | (key, value) :: rest =>
      ',' :: quoteText key ++ ':' :: compact value ++ compactMembers rest

end

/-- A line end and the indentation of the line that follows. -/
def newLine (level : Nat) : List Char :=
  '\n' :: List.replicate (2 * level) ' '

mutual

/-- Write a value on indented lines; the value itself stands at the given level. -/
def pretty (level : Nat) : Json → List Char
  | null => "null".toList
  | bool true => "true".toList
  | bool false => "false".toList
  | natural value => Decimal.digits value
  | number literal => literal
  | string text => quoteText text
  | array [] => ['[', ']']
  | array (element :: rest) =>
      '[' :: newLine (level + 1) ++ pretty (level + 1) element ++ prettyElements (level + 1) rest
        ++ newLine level ++ [']']
  | object [] => ['\x7b', '\x7d']
  | object ((key, value) :: rest) =>
      '\x7b' :: newLine (level + 1) ++ quoteText key ++ ':' :: ' ' :: pretty (level + 1) value
        ++ prettyMembers (level + 1) rest ++ newLine level ++ ['\x7d']

/-- Write further elements, each behind a comma and on a line of its own. -/
def prettyElements (level : Nat) : List Json → List Char
  | [] => []
  | element :: rest =>
      ',' :: newLine level ++ pretty level element ++ prettyElements level rest

/-- Write further members, each behind a comma and on a line of its own. -/
def prettyMembers (level : Nat) : List (JsonText × Json) → List Char
  | [] => []
  | (key, value) :: rest =>
      ',' :: newLine level ++ quoteText key ++ ':' :: ' ' :: pretty level value
        ++ prettyMembers level rest

end

def toCompact (value : Json) : String :=
  String.ofList (compact value)

def toPretty (value : Json) : String :=
  String.ofList (pretty 0 value)

end HidMend.Json

/-!
# JSON values

A value as it stands in a text: members keep their order and may repeat.  Two things are kept apart
because they decide what a reader accepts.  An unsigned integer literal is a `natural`, while any
other number (with a sign, a fraction or an exponent) only keeps its literal.  And a string literal
can be well-formed JSON without being a Unicode text, if its escapes name one half of a surrogate
pair alone; its text is then `none`.
-/

namespace HidMend

/-- The text of a string literal, if it has one. -/
abbrev JsonText := Option (List Char)

inductive Json
  | null
  | bool (value : Bool)
  | natural (value : Nat)
  | number (literal : List Char)
  | string (text : JsonText)
  | array (elements : List Json)
  | object (members : List (JsonText × Json))
  deriving Repr

namespace Json

def text (value : String) : Json :=
  string (some value.toList)

/-- An object whose keys are texts. -/
def record (members : List (String × Json)) : Json :=
  object (members.map fun member => (some member.1.toList, member.2))

/-- A value that may be absent. -/
def optional (value : Option Json) : Json :=
  value.getD null

/-- An unsigned integer below a bound. -/
def toNatBelow? (bound : Nat) : Json → Option Nat
  | natural value => if value < bound then some value else none
  | _ => none

def toText? : Json → Option String
  | string (some text) => some (String.ofList text)
  | _ => none

def toElements? : Json → Option (List Json)
  | array elements => some elements
  | _ => none

/-- The one value that an object holds under a key. -/
def only? (members : List (JsonText × Json)) (key : String) : Option Json :=
  match members.filter fun member => member.1 == some key.toList with
  | [member] => some member.2
  | _ => none

/-- The values of a record with the given keys, in the order of the keys.  A record is written as an
object, in which unknown keys are ignored and known ones occur once, or as an array of the values in
order. -/
def fields? (keys : List String) : Json → Option (List Json)
  | object members =>
      if members.all fun member => member.1.isSome then keys.mapM (only? members) else none
  | array elements => if elements.length = keys.length then some elements else none
  | _ => none

end Json

end HidMend

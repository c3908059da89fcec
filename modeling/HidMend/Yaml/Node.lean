import HidMend.Yaml.Tag

/-!
# YAML nodes

A document is a tree of scalars, sequences and mappings.  A scalar keeps its text, its style and its
tag, since these decide how the text may be taken.

An alias stands in the tree by a number, and its node is looked up once the whole document is known.
The number of an anchor is how many names were known before it.  A name that is used again gets a
number in this way that the next new name gets, too; of nodes with the same number the one that
starts last counts.
-/

namespace HidMend.Yaml

inductive Style
  | plain
  | singleQuoted
  | doubleQuoted
  | literal
  | folded
  deriving DecidableEq, Repr

inductive Node
  | scalar (style : Style) (tag : Option Tag) (text : List Char)
  | sequence (elements : List Node)
  | mapping (entries : List (Node × Node))
  | alias (number : Nat)
  deriving Repr

namespace Node

/-- What stands where nothing is written. -/
def empty (tag : Option Tag) : Node :=
  scalar .plain tag []

/-- Whether nothing is written. -/
def isEmpty : Node → Bool
  | scalar .plain _ [] => true
  | _ => false

/-- The text of a scalar of any style. -/
def toText? : Node → Option String
  | scalar _ _ text => some (String.ofList text)
  | _ => none

end Node

/-- The anchors met so far. -/
structure Anchors where
  /-- The number that a name has now. -/
  numbers : List (List Char × Nat)
  /-- The anchored nodes in the order in which they start.  A node that is still being read is empty
  here. -/
  nodes : List (Nat × Node)
  deriving Repr

/-- A document that was read. -/
structure Document where
  root : Node
  anchored : List (Nat × Node)
  deriving Repr

namespace Document

/-- The node that a node of the document stands for. -/
def resolve (document : Document) : Node → Node
  | .alias number => (document.anchored.reverse.lookup number).getD (.empty none)
  | node => node

end Document

end HidMend.Yaml

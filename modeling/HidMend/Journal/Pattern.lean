import HidMend.Text.Alphanumeric
import HidMend.Text.Hex

/-!
# Patterns

The value of a field in a filter may be a pattern, which is a regular expression.  Only spans have
values that a pattern could fit, so all that matters here is whether a pattern is well formed.

A pattern is a sequence of branches with bars between them, and a branch a sequence of parts, each
of which may be repeated: characters, escapes, groups, classes in brackets and boundaries.  Classes
nest and have operators for the difference and the common part of two of them.  Flags in a group, or
in parentheses of their own, decide how the rest of the group is read.

A pattern is about characters, or about bytes if a flag says so.  It can only be about what needs no
table of characters: for characters this excludes their kinds and properties, word boundaries and
letters in any case, and for bytes all that is not a whole character.  Since patterns stand between
braces and cannot hold a closing one, whatever needs braces is refused.
-/

namespace HidMend.Pattern

/-- How a part of a pattern is read. -/
structure Mode where
  /-- Whether letters stand for both cases. -/
  anyCase : Bool
  /-- Whether the pattern is about characters, not bytes. -/
  characters : Bool
  /-- Whether white space and comments do not count. -/
  spaced : Bool
  deriving DecidableEq, Repr

/-- What stands for itself or is escaped. -/
inductive Primitive
  /-- A character, which may be written as one byte in two digits. -/
  | literal (char : Char) (octet : Bool)
  /-- Digits, white space or word characters, or all others. -/
  | kind (negated : Bool)
  | wordBoundary
  | textBoundary
  deriving DecidableEq, Repr

/-- Pass white space and comments, which run from a hash to the end of the line. -/
def passSpaceFrom (inComment : Bool) : List Char → List Char
  | [] => []
  | char :: rest =>
      if inComment then passSpaceFrom (char != '\n') rest
      else if Text.isBlank char then passSpaceFrom false rest
      else if char = '#' then passSpaceFrom true rest
      else char :: rest

namespace Mode

def initial : Mode := ⟨false, true, false⟩

/-- Switch a flag on or off.  Some flags do not matter for what is well formed. -/
def set? (mode : Mode) (on : Bool) (flag : Char) : Option Mode :=
  if flag = 'i' then some { mode with anyCase := on }
  else if flag = 'u' then some { mode with characters := on }
  else if flag = 'x' then some { mode with spaced := on }
  else if ['m', 's', 'U', 'R'].contains flag then some mode
  else none

/-- Pass what does not count. -/
def pass (mode : Mode) (text : List Char) : List Char :=
  if mode.spaced then passSpaceFrom false text else text

/-- The next character that may count.  Of a comment only the hash is passed. -/
def peek (mode : Mode) (text : List Char) : Option Char :=
  if mode.spaced then
    match text.dropWhile Text.isBlank with
    | '#' :: rest => (rest.dropWhile Text.isBlank).head?
    | rest => rest.head?
  else text.head?

/-- Whether a primitive may be a part of a branch. -/
def allows (mode : Mode) : Primitive → Bool
  | .literal char octet =>
      if mode.characters then !mode.anyCase else !octet || decide (char.toNat < 0x80)
  | .kind negated => !mode.characters && !negated
  | .wordBoundary => !mode.characters
  | .textBoundary => true

/-- Whether a primitive may be a member of a class. -/
def allowsMember (mode : Mode) : Primitive → Bool
  | .literal char _ => if mode.characters then !mode.anyCase else decide (char.toNat < 0x80)
  | .kind negated => !mode.characters && !negated
  | .wordBoundary => false
  | .textBoundary => false

/-- Whether a class with a name, or what is not in it, may be a member of a class. -/
def allowsNamed (mode : Mode) (negated : Bool) : Bool :=
  if mode.characters then !mode.anyCase else !negated

end Mode

/-- Read a number of digits. -/
def digits? (mode : Mode) : Nat → List Char → Option (List Char × List Char)
  | 0, text => some ([], text)
  | count + 1, text =>
      match mode.pass text with
      | [] => none
      | char :: rest =>
          if Hex.isDigit char then
            (digits? mode count rest).map fun (digits, behind) => (char :: digits, behind)
          else none

/-- How many digits follow a letter behind a backslash. -/
def digitCounts : List (Char × Nat) :=
  [('x', 2), ('u', 4), ('U', 8)]

/-- What a letter stands for behind a backslash. -/
def escapes : List (Char × Primitive) :=
  [('a', .literal '\x07' false), ('f', .literal '\x0c' false), ('t', .literal '\t' false),
    ('n', .literal '\n' false), ('r', .literal '\r' false), ('v', .literal '\x0b' false),
    ('d', .kind false), ('s', .kind false), ('w', .kind false),
    ('D', .kind true), ('S', .kind true), ('W', .kind true),
    ('b', .wordBoundary), ('B', .wordBoundary), ('<', .wordBoundary), ('>', .wordBoundary),
    ('A', .textBoundary), ('z', .textBoundary)]

/-- Read an escape behind its backslash.  All of ASCII but letters and digits stands for itself. -/
def escape? (mode : Mode) : List Char → Option (Primitive × List Char)
  | [] => none
  | char :: rest =>
      match digitCounts.lookup char, escapes.lookup char with
      | some count, _ =>
          match digits? mode count rest with
          | some (digits, behind) =>
              (Hex.char? digits).map fun value => (.literal value (count == 2), behind)
          | none => none
      | none, some primitive => some (primitive, rest)
      | none, none =>
          if char.toNat < 0x80 ∧ !char.isAlphanum then some (.literal char false, rest) else none

/-- Parts in a row: how many there are, and how deeply the deepest of them nests. -/
structure Row where
  size : Nat
  depth : Nat
  deriving DecidableEq, Repr

namespace Row

def empty : Row := ⟨0, 0⟩

def add (row : Row) (depth : Nat) : Row :=
  ⟨row.size + 1, max row.depth depth⟩

/-- Several parts in a row are a level of their own. -/
def nesting (row : Row) : Nat :=
  if row.size ≤ 1 then row.depth else row.depth + 1

/-- How deeply a row nests together with what may stand in front of it. -/
def nestingBehind (front : Option Nat) (row : Row) : Nat :=
  match front with
  | none => row.nesting
  | some depth => max depth row.nesting + 1

end Row

/-- A class that is being read. -/
structure OpenClass where
  /-- How deeply what is in front of the last operator nests. -/
  front : Option Nat
  members : Row
  /-- Whether nothing but dashes was read.  Dashes stand for themselves here, and so does a closing
  bracket right at the start. -/
  leading : Bool
  deriving DecidableEq, Repr

namespace OpenClass

def empty : OpenClass := ⟨none, .empty, true⟩

def add (current : OpenClass) (depth : Nat) : OpenClass :=
  ⟨current.front, current.members.add depth, false⟩

def nesting (current : OpenClass) : Nat :=
  current.members.nestingBehind current.front

/-- Start the second operand of an operator. -/
def split (current : OpenClass) : OpenClass :=
  ⟨some current.nesting, .empty, false⟩

end OpenClass

def classNames : List String :=
  ["alnum", "alpha", "ascii", "blank", "cntrl", "digit", "graph", "lower", "print", "punct",
    "space", "upper", "word", "xdigit"]

/-- Read a class with a name behind its bracket, and whether it is negated. -/
def namedClass? : List Char → Option (Bool × List Char)
  | ':' :: text =>
      let negated := text.head? == some '^'
      let rest := if negated then text.drop 1 else text
      let name := rest.takeWhile (· != ':')
      match rest.drop name.length with
      | ':' :: ']' :: behind =>
          if classNames.contains (String.ofList name) then some (negated, behind) else none
      | _ => none
  | _ => none

/-- Open a class behind its bracket. -/
def openClass? (mode : Mode) (text : List Char) : Option (List Char) :=
  match mode.pass text with
  | '^' :: rest => if mode.characters then some rest else none
  | rest => some rest

/-- Read one end of a range. -/
def primitive? (mode : Mode) : List Char → Option (Primitive × List Char)
  | [] => none
  | '\\' :: rest => escape? mode rest
  | char :: rest => some (.literal char false, rest)

/-- Read a member of a class, which may be a range of characters. -/
def member? (mode : Mode) (text : List Char) : Option (List Char) :=
  match primitive? mode text with
  | none => none
  | some (first, behind) =>
      let alone := if mode.allowsMember first then some behind else none
      match mode.pass behind with
      | '-' :: rest =>
          if [some ']', some '-'].contains (mode.peek rest) then alone
          else
            match first, primitive? mode (mode.pass rest) with
            | .literal low _, some (.literal high octet, behind) =>
                if low ≤ high ∧ mode.allowsMember first
                    ∧ mode.allowsMember (.literal high octet) then
                  some behind
                else none
            | _, _ => none
      | _ => alone

/-- Read a class up to its closing bracket, with the classes around it.  The result says how deeply
the outermost one nests. -/
def classFrom? (mode : Mode) :
    Nat → OpenClass → List OpenClass → List Char → Option (Nat × List Char)
  | 0, _, _, _ => none
  | fuel + 1, current, around, text =>
      match mode.pass text with
      | [] => none
      | char :: rest =>
          if current.leading && (char == '-' || (char == ']' && current.members.size == 0)) then
            if mode.allowsMember (.literal char false) then
              classFrom? mode fuel { current.add 0 with leading := char == '-' } around rest
            else none
          else if char = '[' then
            match namedClass? rest with
            | some (negated, behind) =>
                if mode.allowsNamed negated then classFrom? mode fuel (current.add 0) around behind
                else none
            | none =>
                (openClass? mode rest).bind fun inside =>
                  classFrom? mode fuel .empty (current :: around) inside
          else if char = ']' then
            match around with
            | [] => some (current.nesting + 1, rest)
            | outer :: around =>
                classFrom? mode fuel (outer.add (current.nesting + 1)) around rest
          else if ['&', '-', '~'].contains char && rest.head? == some char then
            classFrom? mode fuel current.split around (rest.drop 1)
          else
            (member? mode (char :: rest)).bind fun behind =>
              classFrom? mode fuel (current.add 0) around behind

/-- What stands in front of an open group. -/
structure OpenGroup where
  mode : Mode
  branches : Option Nat
  parts : Row
  deriving DecidableEq, Repr

/-- What was read of a pattern. -/
structure State where
  mode : Mode
  /-- The names of the groups so far. -/
  names : List (List Char)
  /-- How deeply the branches in front of the last bar of the group nest. -/
  branches : Option Nat
  /-- The parts of the branch. -/
  parts : Row
  /-- How deeply the last part nests, if it may be repeated. -/
  last : Option Nat
  around : List OpenGroup
  deriving DecidableEq, Repr

namespace State

def initial : State := ⟨.initial, [], none, .empty, none, []⟩

def nesting (state : State) : Nat :=
  state.parts.nestingBehind state.branches

/-- Add a part that may be repeated. -/
def add (state : State) (depth : Nat) : State :=
  { state with parts := state.parts.add depth, last := some depth }

def addPrimitive? (state : State) (primitive : Primitive) : Option State :=
  if state.mode.allows primitive then some (state.add 0) else none

def nextBranch (state : State) : State :=
  let depth := max (state.branches.getD 0) state.parts.nesting
  { state with branches := some depth, parts := .empty, last := none }

def openGroup (state : State) (mode : Mode) : State :=
  { state with
    mode, branches := none, parts := .empty, last := none
    around := ⟨state.mode, state.branches, state.parts⟩ :: state.around }

def closeGroup? (state : State) : Option State :=
  match state.around with
  | [] => none
  | outer :: around =>
      let before : State := ⟨outer.mode, state.names, outer.branches, outer.parts, none, around⟩
      some (before.add (state.nesting + 1))

/-- Repeat the last part. -/
def repeatLast? (state : State) : Option State :=
  state.last.map fun depth =>
    { state with
      parts := { state.parts with depth := max state.parts.depth (depth + 1) }
      last := some (depth + 1) }

/-- Set flags for the rest of the group. -/
def setMode (state : State) (mode : Mode) : State :=
  { state with mode, parts := state.parts.add 0, last := none }

end State

/-- Whether a name may be given to a group. -/
def isGroupName : List Char → Bool
  | [] => false
  | first :: rest =>
      (first == '_' || Text.isLetter first) &&
        rest.all fun char => ['_', '.', '[', ']'].contains char || Text.isAlphanumeric char

/-- Read flags; those behind a minus sign are switched off, and none stands twice.  The result says
whether a group follows. -/
def flagsFrom? (seen : List Char) (mode : Mode) : List Char → Option (Mode × Bool × List Char)
  | [] => none
  | char :: rest =>
      if char = ':' ∨ char = ')' then
        if seen.head? = some '-' ∨ (char = ')' ∧ seen.isEmpty) then none
        else some (mode, char == ':', rest)
      else if seen.contains char then none
      else if char = '-' then flagsFrom? (char :: seen) mode rest
      else
        (mode.set? (!seen.contains '-') char).bind fun mode =>
          flagsFrom? (char :: seen) mode rest

/-- Open a group behind its parenthesis, or set flags. -/
def openGroup? (state : State) (text : List Char) : Option (State × List Char) :=
  let named (rest : List Char) : Option (State × List Char) :=
    let name := rest.takeWhile (· != '>')
    match rest.drop name.length with
    | '>' :: behind =>
        if isGroupName name ∧ !state.names.contains name then
          some ({ state with names := name :: state.names }.openGroup state.mode, behind)
        else none
    | _ => none
  match state.mode.pass text with
  | '?' :: 'P' :: '<' :: rest => named rest
  | '?' :: '<' :: rest => named rest
  | '?' :: rest =>
      (flagsFrom? [] state.mode rest).map fun (mode, opens, behind) =>
        (if opens then state.openGroup mode else state.setMode mode, behind)
  | rest => some (state.openGroup state.mode, rest)

/-- Read the next part of a pattern. -/
def step? (state : State) (char : Char) (rest : List Char) : Option (State × List Char) :=
  let behind (next : Option State) (rest : List Char) : Option (State × List Char) :=
    next.map fun state => (state, rest)
  match char with
  | '(' => openGroup? state rest
  | ')' => behind state.closeGroup? rest
  | '|' => some (state.nextBranch, rest)
  | '[' =>
      (openClass? state.mode rest).bind fun inside =>
        (classFrom? state.mode (inside.length + 1) .empty [] inside).map fun (depth, rest) =>
          (state.add depth, rest)
  | '*' => behind state.repeatLast? (if rest.head? = some '?' then rest.drop 1 else rest)
  | '+' => behind state.repeatLast? (if rest.head? = some '?' then rest.drop 1 else rest)
  | '?' => behind state.repeatLast? (if rest.head? = some '?' then rest.drop 1 else rest)
  | '\x7b' => none
  | '\\' =>
      (escape? state.mode rest).bind fun (primitive, rest) =>
        behind (state.addPrimitive? primitive) rest
  | '.' => if state.mode.characters then some (state.add 0, rest) else none
  | '^' => behind (state.addPrimitive? .textBoundary) rest
  | '$' => behind (state.addPrimitive? .textBoundary) rest
  | char => behind (state.addPrimitive? (.literal char false)) rest

/-- How deeply a pattern may nest. -/
def maxNesting : Nat := 250

/-- Whether the rest of a pattern is well formed. -/
def acceptsFrom : Nat → State → List Char → Bool
  | 0, _, _ => false
  | fuel + 1, state, text =>
      match state.mode.pass text with
      | [] => state.around.isEmpty && decide (state.nesting ≤ maxNesting)
      | char :: rest =>
          match step? state char rest with
          | none => false
          | some (state, behind) => acceptsFrom fuel state behind

/-- Whether a text is a well-formed pattern. -/
def accepts (text : List Char) : Bool :=
  acceptsFrom (text.length + 1) .initial text

end HidMend.Pattern

/-!
# Reading position in a YAML text

A YAML text is read from a cursor, which knows what is left of the text, where that stands, and
whether a block collection may start there.  The last is true at the start of a line and right
behind the mark of an entry, and false behind anything else on a line.

Line ends are made uniform before reading: a carriage return, a line feed, both together and the
next-line character all count as one line feed.
-/

namespace HidMend.Yaml

/-- Why a text is not the YAML it should be. -/
inductive Problem
  | unreadableCharacter
  | unexpectedEnd
  | unexpectedMarker
  | unexpectedCharacter
  | tabInIndentation
  | badEscape
  | badBlockHeader
  | badDirective
  | badTag
  | badAnchor
  | unknownAnchor
  | missingKey
  | missingValue
  | misplacedEntry
  | misplacedMapping
  | misplacedContent
  | missingSeparator
  | severalDocuments
  deriving DecidableEq, Repr

namespace Problem

def message : Problem → String
  | unreadableCharacter => "control characters are not allowed"
  | unexpectedEnd => "unexpected end of the text"
  | unexpectedMarker => "unexpected document marker"
  | unexpectedCharacter => "found a character that cannot start a value"
  | tabInIndentation => "found a tab where indentation is expected"
  | badEscape => "found an unknown escape"
  | badBlockHeader => "did not find the end of a block scalar header"
  | badDirective => "found an unknown or malformed directive"
  | badTag => "found a malformed or undefined tag"
  | badAnchor => "found a malformed anchor"
  | unknownAnchor => "unknown anchor"
  | missingKey => "did not find an expected key"
  | missingValue => "did not find the colon behind a key"
  | misplacedEntry => "sequence entries are not allowed here"
  | misplacedMapping => "mapping values are not allowed here"
  | misplacedContent => "did not find the expected content"
  | missingSeparator => "did not find an expected separator"
  | severalDocuments => "more than one document"

end Problem

/-- A problem and the line and column, from zero, where it was found. -/
structure Fault where
  problem : Problem
  line : Nat
  column : Nat
  deriving DecidableEq, Repr

namespace Fault

def message (fault : Fault) : String :=
  fault.problem.message ++ " at line " ++ toString (fault.line + 1) ++ " column "
    ++ toString (fault.column + 1)

end Fault

def isBreak (char : Char) : Bool :=
  char == '\n' || char == '\u2028' || char == '\u2029'

def isGap (char : Char) : Bool :=
  char == ' ' || char == '\t'

/-- Whether a gap, a line end or the end of the text comes next. -/
def gapAhead : List Char → Bool
  | [] => true
  | char :: _ => isGap char || isBreak char

/-- The characters that a text may hold. -/
def isReadable (char : Char) : Bool :=
  let code := char.toNat
  code == 0x9 || code == 0xA || code == 0xD || (0x20 ≤ code && code ≤ 0x7E) || code == 0x85
    || (0xA0 ≤ code && code ≤ 0xD7FF) || (0xE000 ≤ code && code ≤ 0xFFFD)
    || (0x10000 ≤ code && code ≤ 0x10FFFF)

/-- The mark that may stand in front of a line; it takes up a column. -/
def byteOrderMark : Char := '\ufeff'

/-- Write every line end as a line feed. -/
def normalizeBreaks : List Char → List Char
  | [] => []
  | '\r' :: '\n' :: rest => '\n' :: normalizeBreaks rest
  | char :: rest =>
      (if char = '\r' ∨ char = '\u0085' then '\n' else char) :: normalizeBreaks rest

structure Cursor where
  /-- What is left of the text. -/
  rest : List Char
  line : Nat
  column : Nat
  /-- Whether a block collection may start here. -/
  fresh : Bool
  deriving DecidableEq, Repr

namespace Cursor

def start (text : List Char) : Cursor :=
  ⟨text, 0, 0, true⟩

def fault (cursor : Cursor) (problem : Problem) : Fault :=
  ⟨problem, cursor.line, cursor.column⟩

def atEnd (cursor : Cursor) : Bool :=
  cursor.rest.isEmpty

/-- Pass characters of a line. -/
def pass (cursor : Cursor) (count : Nat) : Cursor :=
  { cursor with rest := cursor.rest.drop count, column := cursor.column + count }

/-- Pass characters behind which no block collection may start. -/
def passToken (cursor : Cursor) (count : Nat) : Cursor :=
  { cursor.pass count with fresh := false }

/-- Pass the mark of an entry, behind which a block collection may start. -/
def passMark (cursor : Cursor) : Cursor :=
  { cursor.pass 1 with fresh := true }

/-- Whether three of a character stand alone at the start of the line. -/
def atMarker (char : Char) (cursor : Cursor) : Bool :=
  cursor.column == 0 && cursor.rest.take 3 == [char, char, char] && gapAhead (cursor.rest.drop 3)

/-- Whether a document starts or ends here. -/
def atBoundary (cursor : Cursor) : Bool :=
  cursor.atMarker '-' || cursor.atMarker '.'

/-- Whether a character stands here, with a gap behind it. -/
def atIndicator (char : Char) (cursor : Cursor) : Bool :=
  match cursor.rest with
  | [] => false
  | first :: rest => first == char && gapAhead rest

/-- How far the colon behind a key may be from its start. -/
def maxKeySize : Nat := 1024

/-- Whether the colon of a key that started somewhere may stand here: on the same line, and not too
far behind. -/
def closesKey (cursor start : Cursor) : Bool :=
  cursor.line == start.line && decide (cursor.column ≤ start.column + maxKeySize)

/-- Pass gaps, comments and line ends.  A tab counts as a gap in flow collections and where no
block collection may start, since elsewhere it would be indentation. -/
def skipFrom (flow inComment : Bool) : List Char → Nat → Nat → Bool → Cursor
  | [], line, column, fresh => ⟨[], line, column, fresh⟩
  | char :: rest, line, column, fresh =>
      if isBreak char then skipFrom flow false rest (line + 1) 0 (fresh || !flow)
      else if inComment then skipFrom flow true rest line (column + 1) fresh
      else if column = 0 ∧ char = byteOrderMark then skipFrom flow false rest line 1 fresh
      else if char = ' ' ∨ (char = '\t' ∧ (flow ∨ !fresh)) then
        skipFrom flow false rest line (column + 1) fresh
      else if char = '#' then skipFrom flow true rest line (column + 1) fresh
      else ⟨char :: rest, line, column, fresh⟩

/-- Pass what separates the parts of a block. -/
def skip (cursor : Cursor) : Cursor :=
  skipFrom false false cursor.rest cursor.line cursor.column cursor.fresh

/-- Pass what separates the parts of a flow collection. -/
def skipFlow (cursor : Cursor) : Cursor :=
  skipFrom true false cursor.rest cursor.line cursor.column cursor.fresh

end Cursor

end HidMend.Yaml

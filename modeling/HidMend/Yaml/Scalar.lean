import HidMend.Text.Hex
import HidMend.Yaml.Cursor

/-!
# YAML scalars

A scalar may run over several lines.  In plain and quoted scalars the line ends are folded: a single
one becomes a space, and of several the first is dropped; gaps around them vanish.  Block scalars
keep their lines, or fold them in the same way except around indented ones.
-/

namespace HidMend.Yaml

/-- What was read since the last character of a scalar: gaps, or line ends with the gaps around them
dropped. -/
structure Pending where
  gaps : List Char
  breaks : List Char
  /-- Whether the first line end was escaped, so that it does not count. -/
  continued : Bool
  deriving DecidableEq, Repr

namespace Pending

def none : Pending := ⟨[], [], false⟩

def lineEnded (pending : Pending) : Bool :=
  pending.continued || !pending.breaks.isEmpty

def isNone (pending : Pending) : Bool :=
  pending.gaps.isEmpty && !pending.lineEnded

def addGap (pending : Pending) (gap : Char) : Pending :=
  if pending.lineEnded then pending else { pending with gaps := pending.gaps ++ [gap] }

def addBreak (pending : Pending) (char : Char) : Pending :=
  { pending with gaps := [], breaks := pending.breaks ++ [char] }

/-- Line ends as they count in the text. -/
def fold : List Char → List Char
  | ['\n'] => [' ']
  | '\n' :: more => more
  | breaks => breaks

/-- What stands in the text for what was read. -/
def text (pending : Pending) : List Char :=
  if pending.continued then pending.breaks
  else if pending.breaks.isEmpty then pending.gaps
  else fold pending.breaks

end Pending

/-- The characters that cannot start a plain scalar, unless some of them have no gap behind. -/
def indicators : List Char :=
  ['-', '?', ':', ',', '[', ']', '\x7b', '\x7d', '#', '&', '*', '!', '|', '>', '%', '@', '\x27',
    '\x22', '\x60']

def flowIndicators : List Char :=
  [',', '[', ']', '\x7b', '\x7d']

/-- Whether a plain scalar may start here. -/
def plainAhead (flow : Bool) : List Char → Bool
  | [] => false
  | char :: rest =>
      if isGap char || isBreak char then false
      else if !indicators.contains char then true
      else (char == '-' || (!flow && (char == '?' || char == ':'))) && !gapAhead rest

/-- Read a plain scalar.  It ends at a colon with a gap behind, at a comment, at a document marker,
at a line that is indented less than `indent`, and within a flow collection at its punctuation. -/
def plainFrom (flow : Bool) (indent : Nat) (text : List Char) (pending : Pending) :
    List Char → Nat → Nat → Except Fault (List Char × Cursor)
  | [], line, column => .ok (text, ⟨[], line, column, pending.lineEnded⟩)
  | char :: rest, line, column =>
      let here : Cursor := ⟨char :: rest, line, column, pending.lineEnded⟩
      if isBreak char then plainFrom flow indent text (pending.addBreak char) rest (line + 1) 0
      else if isGap char then
        if pending.lineEnded && decide (column < indent) && char == '\t' then
          .error (here.fault .tabInIndentation)
        else plainFrom flow indent text (pending.addGap char) rest line (column + 1)
      else if !pending.isNone
          && ((!flow && decide (column < indent)) || here.atBoundary || char == '#') then
        .ok (text, here)
      else if flow && char == ':' && rest.head?.any ((',' :: '?' :: flowIndicators).contains ·) then
        .error (here.fault .unexpectedCharacter)
      else if (char == ':' && gapAhead rest) || (flow && flowIndicators.contains char) then
        .ok (text, here)
      else plainFrom flow indent (text ++ pending.text ++ [char]) .none rest line (column + 1)

/-- Read a scalar in single quotes, behind the first of them.  A quote is written twice. -/
def singleFrom (text : List Char) (pending : Pending) :
    List Char → Nat → Nat → Except Fault (List Char × Cursor)
  | [], line, column => .error ⟨.unexpectedEnd, line, column⟩
  | '\x27' :: '\x27' :: rest, line, column =>
      singleFrom (text ++ pending.text ++ ['\x27']) .none rest line (column + 2)
  | char :: rest, line, column =>
      let here : Cursor := ⟨char :: rest, line, column, false⟩
      if here.atBoundary then .error (here.fault .unexpectedMarker)
      else if char = '\x27' then .ok (text ++ pending.text, ⟨rest, line, column + 1, false⟩)
      else if isBreak char then singleFrom text (pending.addBreak char) rest (line + 1) 0
      else if isGap char then singleFrom text (pending.addGap char) rest line (column + 1)
      else singleFrom (text ++ pending.text ++ [char]) .none rest line (column + 1)

/-- The character that a letter stands for behind a backslash. -/
def escapedChar? : Char → Option Char
  | '0' => some '\x00'
  | 'a' => some '\x07'
  | 'b' => some '\x08'
  | 't' => some '\t'
  | '\t' => some '\t'
  | 'n' => some '\n'
  | 'v' => some '\x0b'
  | 'f' => some '\x0c'
  | 'r' => some '\r'
  | 'e' => some '\x1b'
  | ' ' => some ' '
  | '\x22' => some '\x22'
  | '/' => some '/'
  | '\\' => some '\\'
  | 'N' => some '\u0085'
  | '_' => some '\u00a0'
  | 'L' => some '\u2028'
  | 'P' => some '\u2029'
  | _ => none

/-- How many digits follow a letter behind a backslash. -/
def escapedDigits? : Char → Option Nat
  | 'x' => some 2
  | 'u' => some 4
  | 'U' => some 8
  | _ => none

/-- Read a scalar in double quotes, behind the first of them; `digits` counts the digits of an
escape that are still to come, and `code` holds those that were read. -/
def doubleFrom (text : List Char) (pending : Pending) (digits : Nat) (code : List Char) :
    List Char → Nat → Nat → Except Fault (List Char × Cursor)
  | [], line, column => .error ⟨.unexpectedEnd, line, column⟩
  | char :: rest, line, column =>
      let here : Cursor := ⟨char :: rest, line, column, false⟩
      match digits with
      | 0 =>
          if here.atBoundary then .error (here.fault .unexpectedMarker)
          else if char = '\x22' then .ok (text ++ pending.text, ⟨rest, line, column + 1, false⟩)
          else if char = '\\' then
            match rest with
            | [] => .error (here.fault .unexpectedEnd)
            | letter :: behind =>
                if isBreak letter then
                  doubleFrom (text ++ pending.text) ⟨[], [], true⟩ 0 [] behind (line + 1) 0
                else
                  match escapedChar? letter, escapedDigits? letter with
                  | some escaped, _ =>
                      doubleFrom (text ++ pending.text ++ [escaped]) .none 0 [] behind line
                        (column + 2)
                  | none, some count =>
                      doubleFrom (text ++ pending.text) .none count [] behind line (column + 2)
                  | none, none => .error (here.fault .badEscape)
          else if isBreak char then doubleFrom text (pending.addBreak char) 0 [] rest (line + 1) 0
          else if isGap char then doubleFrom text (pending.addGap char) 0 [] rest line (column + 1)
          else doubleFrom (text ++ pending.text ++ [char]) .none 0 [] rest line (column + 1)
      | 1 =>
          match Hex.char? (code ++ [char]) with
          | some escaped => doubleFrom (text ++ [escaped]) .none 0 [] rest line (column + 1)
          | none => .error (here.fault .badEscape)
      | more + 2 => doubleFrom text .none (more + 1) (code ++ [char]) rest line (column + 1)

/-- What happens to the line ends behind a block scalar. -/
inductive Chomping
  | clip
  | strip
  | keep
  deriving DecidableEq, Repr

/-- The header of a block scalar: chomping and indentation in either order, each at most once. -/
def blockHeader : List Char → Option (Chomping × Option Nat × Nat)
  | [] => some (.clip, none, 0)
  | first :: rest =>
      let chomping? (char : Char) : Option Chomping :=
        if char = '+' then some .keep else if char = '-' then some .strip else none
      match chomping? first with
      | some chomping =>
          match rest with
          | [] => some (chomping, none, 1)
          | second :: _ =>
              if second = '0' then none
              else if second.isDigit then some (chomping, some (second.toNat - 0x30), 2)
              else some (chomping, none, 1)
      | none =>
          if first = '0' then none
          else if first.isDigit then
            match rest.head?.bind chomping? with
            | some chomping => some (chomping, some (first.toNat - 0x30), 2)
            | none => some (.clip, some (first.toNat - 0x30), 1)
          else some (.clip, none, 0)

/-- Pass gaps and a comment up to the end of the line, and the line end. -/
def passLineEnd? (inComment : Bool) : List Char → Nat → Nat → Except Fault Cursor
  | [], line, column => .ok ⟨[], line, column, true⟩
  | char :: rest, line, column =>
      if isBreak char then .ok ⟨rest, line + 1, 0, true⟩
      else if inComment || isGap char then passLineEnd? inComment rest line (column + 1)
      else if char = '#' then passLineEnd? true rest line (column + 1)
      else .error ⟨.badBlockHeader, line, column⟩

/-- Pass indentation and empty lines in front of a line of a block scalar.  The result has the line
ends and the widest indentation that was seen; without a known indentation all spaces belong to
it. -/
def blockBreaksFrom (indent : Option Nat) (widest : Nat) (breaks : List Char) :
    List Char → Nat → Nat → Except Fault (Nat × List Char × Cursor)
  | [], line, column => .ok (max widest column, breaks, ⟨[], line, column, true⟩)
  | char :: rest, line, column =>
      let inside := indent.all (column < ·)
      if char = ' ' ∧ inside then
        blockBreaksFrom indent (max widest (column + 1)) breaks rest line (column + 1)
      else if char = '\t' ∧ inside then .error ⟨.tabInIndentation, line, column⟩
      else if isBreak char then
        blockBreaksFrom indent (max widest column) (breaks ++ [char]) rest (line + 1) 0
      else .ok (max widest column, breaks, ⟨char :: rest, line, column, true⟩)

/-- Split off the rest of a line and its line end. -/
def restOfLine : List Char → Nat → Nat → List Char × List Char × Cursor
  | [], line, column => ([], [], ⟨[], line, column, true⟩)
  | char :: rest, line, column =>
      if isBreak char then ([], [char], ⟨rest, line + 1, 0, true⟩)
      else
        let (text, lineEnd, cursor) := restOfLine rest line (column + 1)
        (char :: text, lineEnd, cursor)

/-- Read the lines of a block scalar.  `lineEnd` and `breaks` are the line end behind the last line
that was read and those of the empty lines after it. -/
def blockLines (folded : Bool) (indent : Nat) (chomping : Chomping) :
    Nat → List Char → Bool → List Char → List Char → Cursor → Except Fault (List Char × Cursor)
  | 0, _, _, _, _, cursor => .error (cursor.fault .unexpectedEnd)
  | fuel + 1, text, indented, lineEnd, breaks, cursor =>
      if cursor.column = indent ∧ !cursor.atEnd then
        let nowIndented := cursor.rest.head?.any isGap
        let join :=
          if folded && lineEnd == ['\n'] && !indented && !nowIndented then
            if breaks.isEmpty then [' '] else []
          else lineEnd
        let (lineText, nextEnd, behind) := restOfLine cursor.rest cursor.line cursor.column
        match blockBreaksFrom (some indent) 0 [] behind.rest behind.line behind.column with
        | .error fault => .error fault
        | .ok (_, nextBreaks, next) =>
            blockLines folded indent chomping fuel (text ++ join ++ breaks ++ lineText) nowIndented
              nextEnd nextBreaks next
      else
        let tail :=
          match chomping with
          | .strip => []
          | .clip => lineEnd
          | .keep => lineEnd ++ breaks
        .ok (text ++ tail, cursor)

/-- Read a block scalar behind its first character.  Its lines are indented by at least `least`, the
column behind the enclosing block, or by as much as the header says beyond the enclosing block. -/
def blockScalar (folded : Bool) (least : Nat) (cursor : Cursor) :
    Except Fault (List Char × Cursor) :=
  match blockHeader cursor.rest with
  | none => .error (cursor.fault .badBlockHeader)
  | some (chomping, extra, size) =>
      let header := cursor.pass size
      match passLineEnd? false header.rest header.line header.column with
      | .error fault => .error fault
      | .ok first =>
          let known := extra.map fun extra => least - 1 + extra
          match blockBreaksFrom known 0 [] first.rest first.line first.column with
          | .error fault => .error fault
          | .ok (widest, breaks, cursor) =>
              let indent := known.getD (max (max widest least) 1)
              blockLines folded indent chomping (cursor.rest.length + 1) [] false [] breaks cursor

end HidMend.Yaml

import HidMend.Text.Decimal
import HidMend.Yaml.Reader

/-!
# YAML documents

A text holds at most one document here.  A document may have directives and a start marker in front,
and an end marker behind; a text without any content has no document at all.
-/

namespace HidMend.Yaml

/-- What directives say. -/
structure Directives where
  version : Bool
  handles : Handles
  deriving Repr

namespace Directives

def none : Directives := ⟨false, []⟩

/-- Split off the first word of a line. -/
def wordOf (line : List Char) : List Char × List Char :=
  (line.takeWhile (!isGap ·), (line.dropWhile (!isGap ·)).dropWhile isGap)

/-- Whether nothing but a comment is left of a line. -/
def lineEnds (line : List Char) : Bool :=
  match line with
  | [] => true
  | char :: _ => char == '#'

/-- Read a number of at most nine digits. -/
def number? (text : List Char) : Option (Nat × List Char) :=
  let digits := text.takeWhile Char.isDigit
  if digits.isEmpty || 9 < digits.length then Option.none
  else some (Decimal.value digits, text.drop digits.length)

/-- Read a version; what follows may stand right behind it. -/
def version? (text : List Char) : Option ((Nat × Nat) × List Char) :=
  match number? text with
  | some (major, '.' :: rest) =>
      (number? rest).map fun (minor, rest) => ((major, minor), rest.dropWhile isGap)
  | _ => Option.none

/-- The versions that can be read. -/
def versions : List (Nat × Nat) := [(1, 1), (1, 2)]

/-- Read a directive line behind its percent sign. -/
def readLine? (directives : Directives) (line : List Char) : Option Directives :=
  let (name, rest) := wordOf line
  if name = "YAML".toList then
    match version? rest with
    | some (version, rest) =>
        if versions.contains version && lineEnds rest && !directives.version then
          some { directives with version := true }
        else Option.none
    | Option.none => Option.none
  else if name = "TAG".toList then
    let (handle, rest) := wordOf rest
    let (start, rest) := wordOf rest
    let inner := (handle.drop 1).dropLast
    let wellFormed := handle = Handles.primary ∨
      (handle.head? = some '!' ∧ handle.getLast? = some '!' ∧ inner.all isNameChar)
    if wellFormed ∧ !start.isEmpty ∧ start.all isUriChar ∧ lineEnds rest
        ∧ (directives.handles.lookup handle).isNone then
      (Tag.ofWritten? start).map fun start =>
        { directives with handles := (handle, start) :: directives.handles }
    else Option.none
  else Option.none

/-- Read the directives in front of a document. -/
def read : Nat → Directives → Cursor → Except Fault (Directives × Cursor)
  | 0, _, cursor => .error (cursor.fault .unexpectedEnd)
  | fuel + 1, directives, cursor =>
      let next := cursor.skip
      match next.rest with
      | '%' :: rest =>
          if next.column = 0 then
            let (line, _, behind) := restOfLine rest next.line 1
            match directives.readLine? line with
            | some directives => read fuel directives { behind with fresh := false }
            | Option.none => .error (next.fault .badDirective)
          else .ok (directives, next)
      | _ => .ok (directives, next)

/-- The handles of a document. -/
def allHandles (directives : Directives) : Handles :=
  directives.handles ++ Handles.default

def isNone (directives : Directives) : Bool :=
  !directives.version && directives.handles.isEmpty

end Directives

/-- Pass end markers up to the end of the text. -/
def finish : Nat → Cursor → Except Fault Unit
  | 0, cursor => .error (cursor.fault .unexpectedEnd)
  | fuel + 1, cursor =>
      let next := cursor.skip
      if next.atEnd then .ok ()
      else if next.atMarker '.' then finish fuel (next.passToken 3)
      else .error (next.fault .severalDocuments)

/-- Read the content of a document and whatever may follow it. -/
def content (handles : Handles) (size : Nat) (cursor : Cursor) : Except Fault Document :=
  match blockNode handles (4 * size + 8) 0 false .none cursor .empty with
  | .error fault => .error fault
  | .ok reading =>
      let next := reading.cursor.skip
      if next.atEnd || next.atMarker '.' then
        match finish (size + 1) next with
        | .error fault => .error fault
        | .ok () => .ok ⟨reading.node, reading.anchors.nodes⟩
      else if next.atMarker '-' then .error (next.fault .severalDocuments)
      else .error (next.fault .misplacedContent)

/-- Read the one document of characters, if there is any. -/
def documentOf? (text : List Char) : Except Fault (Option Document) :=
  let size := text.length
  match Directives.read (size + 1) .none (.start text) with
  | .error fault => .error fault
  | .ok (directives, first) =>
      if first.atMarker '-' then
        (content directives.allHandles size (first.passToken 3)).map some
      else if !directives.isNone then .error (first.fault .badDirective)
      else if first.atEnd then .ok none
      else if first.atMarker '.' then .error (first.fault .unexpectedMarker)
      else (content directives.allHandles size first).map some

/-- Read the one document of a text, if there is any. -/
def document? (text : String) : Except Fault (Option Document) :=
  let chars := text.toList
  if chars.all isReadable then documentOf? (normalizeBreaks chars)
  else .error ⟨.unreadableCharacter, 0, 0⟩

end HidMend.Yaml

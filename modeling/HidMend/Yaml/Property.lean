import HidMend.Yaml.Cursor
import HidMend.Yaml.Node

/-!
# Anchors, aliases and tags

A node may have an anchor and a tag in front of it, in either order.  An anchor names the node for
later aliases, and a tag says what kind of value it is.
-/

namespace HidMend.Yaml

structure Properties where
  anchor : Option (List Char)
  tag : Option Tag
  deriving DecidableEq, Repr

namespace Properties

def none : Properties := ⟨Option.none, Option.none⟩

def isNone (properties : Properties) : Bool :=
  properties.anchor.isNone && properties.tag.isNone

/-- The properties of a node that are written in two places; neither may be there twice. -/
def join? (outer own : Properties) : Option Properties :=
  if (outer.anchor.isSome && own.anchor.isSome) || (outer.tag.isSome && own.tag.isSome) then
    Option.none
  else some ⟨outer.anchor.or own.anchor, outer.tag.or own.tag⟩

end Properties

/-- The characters of anchors and of tag handles. -/
def isNameChar (char : Char) : Bool :=
  char.isAlphanum || char == '-' || char == '_'

/-- The further characters of tags. -/
def tagMarks : List Char :=
  ";/?:@&=+$.!~*()%".toList ++ ['\x27']

def isTagChar (char : Char) : Bool :=
  isNameChar char || tagMarks.contains char

/-- The characters of a tag that is written in full. -/
def isUriChar (char : Char) : Bool :=
  isTagChar char || [',', '[', ']'].contains char

/-- What may follow an anchor or an alias. -/
def endsName : List Char → Bool
  | [] => true
  | char :: _ =>
      isGap char || isBreak char || ['?', ':', ',', ']', '\x7d', '%', '@', '\x60'].contains char

/-- Read the name of an anchor or an alias behind its mark. -/
def anchorName (cursor : Cursor) : Except Fault (List Char × Cursor) :=
  let name := cursor.rest.takeWhile isNameChar
  let behind := cursor.passToken name.length
  if name.isEmpty || !endsName behind.rest then .error (cursor.fault .badAnchor)
  else .ok (name, behind)

/-- Split a tag in its written form, behind its first mark, into handle and rest. -/
def splitHandle (written : List Char) : List Char × List Char :=
  let name := written.takeWhile isNameChar
  match written.drop name.length with
  | '!' :: suffix => ('!' :: name ++ ['!'], suffix)
  | _ => (Handles.primary, written)

/-- Read a tag behind its first mark. -/
def tagFrom (flow : Bool) (handles : Handles) (cursor : Cursor) : Except Fault (Tag × Cursor) :=
  let checked (tag? : Option Tag) (behind : Cursor) : Except Fault (Tag × Cursor) :=
    match tag? with
    | none => .error (cursor.fault .badTag)
    | some tag =>
        if gapAhead behind.rest || (flow && behind.rest.head? == some ',') then .ok (tag, behind)
        else .error (cursor.fault .badTag)
  match cursor.rest with
  | '<' :: rest =>
      let written := rest.takeWhile isUriChar
      match rest.drop written.length with
      | '>' :: _ =>
          checked (if written.isEmpty then none else Tag.ofWritten? written)
            (cursor.passToken (written.length + 2))
      | _ => .error (cursor.fault .badTag)
  | rest =>
      let written := rest.takeWhile isTagChar
      let (handle, suffix) := splitHandle written
      checked (handles.tag? handle suffix) (cursor.passToken written.length)

/-- Read at most one anchor or tag. -/
def property (flow : Bool) (handles : Handles) (known : Properties) (cursor : Cursor) :
    Except Fault (Option (Properties × Cursor)) :=
  match cursor.rest with
  | '&' :: _ =>
      if known.anchor.isSome then .error (cursor.fault .misplacedContent)
      else
        match anchorName (cursor.passToken 1) with
        | .error fault => .error fault
        | .ok (name, behind) => .ok (some ({ known with anchor := some name }, behind))
  | '!' :: _ =>
      if known.tag.isSome then .error (cursor.fault .misplacedContent)
      else
        match tagFrom flow handles (cursor.passToken 1) with
        | .error fault => .error fault
        | .ok (tag, behind) => .ok (some ({ known with tag := some tag }, behind))
  | _ => .ok none

/-- Read an anchor, a tag or both, and what separates them from what follows.  In a block only what
is on the line of the first belongs to it. -/
def properties (flow : Bool) (handles : Handles) (cursor : Cursor) :
    Except Fault (Properties × Cursor) :=
  let skip (cursor : Cursor) := if flow then cursor.skipFlow else cursor.skip
  match property flow handles .none cursor with
  | .error fault => .error fault
  | .ok none => .ok (.none, cursor)
  | .ok (some (first, behindFirst)) =>
      let next := skip behindFirst
      if !flow && next.line != cursor.line then .ok (first, next)
      else
        match property flow handles first next with
        | .error fault => .error fault
        | .ok none => .ok (first, next)
        | .ok (some (both, behindBoth)) => .ok (both, skip behindBoth)

namespace Anchors

def empty : Anchors := ⟨[], []⟩

/-- How many anchored nodes have started. -/
def count (anchors : Anchors) : Nat :=
  anchors.nodes.length

/-- Start a node, which may have an anchor. -/
def openNode (anchors : Anchors) (properties : Properties) : Anchors :=
  match properties.anchor with
  | none => anchors
  | some name =>
      let number := anchors.numbers.length
      let others := anchors.numbers.filter fun other => other.1 ≠ name
      ⟨(name, number) :: others, anchors.nodes ++ [(number, Node.empty none)]⟩

/-- Complete a node that started when `start` anchored nodes had started. -/
def closeNode (anchors : Anchors) (start : Nat) (properties : Properties) (node : Node) :
    Anchors :=
  match properties.anchor, anchors.nodes[start]? with
  | some _, some (number, _) => { anchors with nodes := anchors.nodes.set start (number, node) }
  | _, _ => anchors

/-- Start and complete a node without any inside. -/
def nameNode (anchors : Anchors) (properties : Properties) (node : Node) : Anchors :=
  (anchors.openNode properties).closeNode anchors.count properties node

/-- The alias for a name. -/
def alias? (anchors : Anchors) (name : List Char) : Option Node :=
  (anchors.numbers.lookup name).map Node.alias

end Anchors

end HidMend.Yaml

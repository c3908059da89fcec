import HidMend.Yaml.Property
import HidMend.Yaml.Scalar

/-!
# Reading YAML nodes

Flow collections are delimited by brackets and braces and may run over lines.  Block collections
are delimited by indentation: the entries of one collection start in the same column, and what
belongs to an entry is indented further.  A sequence that is the value of a mapping may stand in the
column of the mapping.

Readers take fuel for the depth of their calls; `Document` hands out enough for any text.
-/

namespace HidMend.Yaml

/-- A node, where the text goes on, and the anchors met so far. -/
structure Reading where
  node : Node
  cursor : Cursor
  anchors : Anchors

/-- Read an alias. -/
def aliasNode (cursor : Cursor) (anchors : Anchors) : Except Fault Reading :=
  match anchorName (cursor.passToken 1) with
  | .error fault => .error fault
  | .ok (name, behind) =>
      match anchors.alias? name with
      | some node => .ok ⟨node, behind, anchors⟩
      | none => .error (cursor.fault .unknownAnchor)

/-- Read a plain or quoted scalar. -/
def inlineScalar (flow : Bool) (least : Nat) (properties : Properties) (cursor : Cursor)
    (anchors : Anchors) : Except Fault Reading :=
  let scalar (style : Style) : Except Fault (List Char × Cursor) → Except Fault Reading
    | .error fault => .error fault
    | .ok (text, behind) =>
        let node := Node.scalar style properties.tag text
        .ok ⟨node, behind, anchors.nameNode properties node⟩
  match cursor.rest with
  | '\x27' :: rest =>
      scalar .singleQuoted (singleFrom [] .none rest cursor.line (cursor.column + 1))
  | '\x22' :: rest =>
      scalar .doubleQuoted (doubleFrom [] .none 0 [] rest cursor.line (cursor.column + 1))
  | text =>
      if plainAhead flow text then
        scalar .plain (plainFrom flow least [] .none text cursor.line cursor.column)
      else .error (cursor.fault (if text.isEmpty then .unexpectedEnd else .unexpectedCharacter))

/-- Whether punctuation of a flow collection stands here, so that a value in front of it is
empty. -/
def flowEnds (cursor : Cursor) : Bool :=
  match cursor.rest with
  | char :: _ => [',', ']', '\x7d', ':'].contains char
  | [] => false

mutual

/-- Read a node inside a flow collection; the cursor stands at its first character. -/
def flowNode (handles : Handles) (least : Nat) :
    Nat → Cursor → Anchors → Except Fault Reading
  | 0, cursor, _ => .error (cursor.fault .unexpectedEnd)
  | fuel + 1, cursor, anchors =>
      if cursor.atBoundary then .error (cursor.fault .unexpectedMarker)
      else
        match cursor.rest with
        | '*' :: _ => aliasNode cursor anchors
        | _ =>
            match properties true handles cursor with
            | .error fault => .error fault
            | .ok (properties, content) =>
                if !properties.isNone && flowEnds content then
                  let node := Node.empty properties.tag
                  .ok ⟨node, content, anchors.nameNode properties node⟩
                else if content.atBoundary then .error (content.fault .unexpectedMarker)
                else
                  match content.rest with
                  | '[' :: _ => flowCollection handles least fuel properties content anchors
                  | '\x7b' :: _ => flowCollection handles least fuel properties content anchors
                  | _ => inlineScalar true least properties content anchors

/-- Read a flow collection; the cursor stands at its opening character. -/
def flowCollection (handles : Handles) (least : Nat) :
    Nat → Properties → Cursor → Anchors → Except Fault Reading
  | 0, _, cursor, _ => .error (cursor.fault .unexpectedEnd)
  | fuel + 1, properties, cursor, anchors =>
      let inside := (cursor.passToken 1).skipFlow
      let opened := anchors.openNode properties
      let start := anchors.count
      let close (node : Node) (cursor : Cursor) (anchors : Anchors) : Reading :=
        ⟨node, cursor, anchors.closeNode start properties node⟩
      match cursor.rest with
      | '[' :: _ =>
          match flowElements handles least fuel inside opened with
          | .error fault => .error fault
          | .ok (elements, behind, anchors) => .ok (close (.sequence elements) behind anchors)
      | _ =>
          match flowEntries handles least fuel inside opened with
          | .error fault => .error fault
          | .ok (entries, behind, anchors) => .ok (close (.mapping entries) behind anchors)

/-- Read the elements of a flow sequence up to its closing bracket. -/
def flowElements (handles : Handles) (least : Nat) :
    Nat → Cursor → Anchors → Except Fault (List Node × Cursor × Anchors)
  | 0, cursor, _ => .error (cursor.fault .unexpectedEnd)
  | fuel + 1, cursor, anchors =>
      match cursor.rest with
      | ']' :: _ => .ok ([], cursor.passToken 1, anchors)
      | _ =>
          match flowElement handles least fuel cursor anchors with
          | .error fault => .error fault
          | .ok element =>
              let next := element.cursor.skipFlow
              match next.rest with
              | ']' :: _ => .ok ([element.node], next.passToken 1, element.anchors)
              | ',' :: _ =>
                  match flowElements handles least fuel (next.passToken 1).skipFlow
                      element.anchors with
                  | .error fault => .error fault
                  | .ok (elements, behind, anchors) =>
                      .ok (element.node :: elements, behind, anchors)
              | _ => .error (next.fault .missingSeparator)

/-- Read an element of a flow sequence, which may be a mapping of one entry without braces. -/
def flowElement (handles : Handles) (least : Nat) :
    Nat → Cursor → Anchors → Except Fault Reading
  | 0, cursor, _ => .error (cursor.fault .unexpectedEnd)
  | fuel + 1, cursor, anchors =>
      match cursor.rest with
      | '?' :: _ =>
          match flowEntry handles least fuel cursor anchors with
          | .error fault => .error fault
          | .ok (entry, behind, anchors) => .ok ⟨.mapping [entry], behind, anchors⟩
      | _ =>
          match flowNode handles least fuel cursor anchors with
          | .error fault => .error fault
          | .ok element =>
              let next := element.cursor.skipFlow
              match next.rest with
              | ':' :: _ =>
                  match flowValue handles least fuel cursor next element.anchors with
                  | .error fault => .error fault
                  | .ok value =>
                      .ok ⟨.mapping [(element.node, value.node)], value.cursor, value.anchors⟩
              | _ => .ok element

/-- Read the entries of a flow mapping up to its closing brace. -/
def flowEntries (handles : Handles) (least : Nat) :
    Nat → Cursor → Anchors → Except Fault (List (Node × Node) × Cursor × Anchors)
  | 0, cursor, _ => .error (cursor.fault .unexpectedEnd)
  | fuel + 1, cursor, anchors =>
      match cursor.rest with
      | '\x7d' :: _ => .ok ([], cursor.passToken 1, anchors)
      | _ =>
          match flowEntry handles least fuel cursor anchors with
          | .error fault => .error fault
          | .ok (entry, behind, anchors) =>
              let next := behind.skipFlow
              match next.rest with
              | '\x7d' :: _ => .ok ([entry], next.passToken 1, anchors)
              | ',' :: _ =>
                  match flowEntries handles least fuel (next.passToken 1).skipFlow anchors with
                  | .error fault => .error fault
                  | .ok (entries, behind, anchors) => .ok (entry :: entries, behind, anchors)
              | _ => .error (next.fault .missingSeparator)

/-- Read one entry: a key, which a question mark may introduce, and a value, which may be
missing. -/
def flowEntry (handles : Handles) (least : Nat) :
    Nat → Cursor → Anchors → Except Fault ((Node × Node) × Cursor × Anchors)
  | 0, cursor, _ => .error (cursor.fault .unexpectedEnd)
  | fuel + 1, cursor, anchors =>
      let withValue (start : Cursor) (key : Reading) :
          Except Fault ((Node × Node) × Cursor × Anchors) :=
        let next := key.cursor.skipFlow
        match next.rest with
        | ':' :: _ =>
            match flowValue handles least fuel start next key.anchors with
            | .error fault => .error fault
            | .ok value => .ok ((key.node, value.node), value.cursor, value.anchors)
        | _ => .ok ((key.node, Node.empty none), next, key.anchors)
      match cursor.rest with
      | '?' :: _ =>
          let inside := (cursor.passToken 1).skipFlow
          if flowEnds inside then withValue inside ⟨Node.empty none, inside, anchors⟩
          else
            match flowNode handles least fuel inside anchors with
            | .error fault => .error fault
            | .ok key => withValue key.cursor.skipFlow key
      | _ =>
          match flowNode handles least fuel cursor anchors with
          | .error fault => .error fault
          | .ok key => withValue cursor key

/-- Read the value of an entry; the cursor stands at the colon, which must be near the start of the
key. -/
def flowValue (handles : Handles) (least : Nat) :
    Nat → Cursor → Cursor → Anchors → Except Fault Reading
  | 0, _, cursor, _ => .error (cursor.fault .unexpectedEnd)
  | fuel + 1, start, cursor, anchors =>
      if cursor.closesKey start then
        let inside := (cursor.passToken 1).skipFlow
        if flowEnds inside then .ok ⟨Node.empty none, inside, anchors⟩
        else flowNode handles least fuel inside anchors
      else .error (cursor.fault .missingSeparator)

end

/-- Read an alias, a scalar or a flow collection in a block; the cursor stands at its first
character. -/
def inlineNode (handles : Handles) (least fuel : Nat) (properties : Properties) (cursor : Cursor)
    (anchors : Anchors) : Except Fault Reading :=
  match cursor.rest with
  | '*' :: _ =>
      if properties.isNone then aliasNode cursor anchors
      else .error (cursor.fault .misplacedContent)
  | '[' :: _ => flowCollection handles least fuel properties cursor anchors
  | '\x7b' :: _ => flowCollection handles least fuel properties cursor anchors
  | _ => inlineScalar false least properties cursor anchors

/-- The colon behind a key that started somewhere, with a gap behind. -/
def keyColon? (start cursor : Cursor) : Option Cursor :=
  let next := ({ cursor with fresh := false } : Cursor).skip
  if next.closesKey start && next.atIndicator ':' then some (next.passToken 1) else none

/-- Whether nothing is left here for a block whose content starts in column `least` or behind. -/
def blockEnds (least : Nat) (cursor : Cursor) : Bool :=
  cursor.atEnd || cursor.atBoundary || decide (cursor.column < least)

/-- Whether a block scalar starts here. -/
def atBlockScalar (cursor : Cursor) : Bool :=
  cursor.rest.head? == some '|' || cursor.rest.head? == some '>'

/-- Whether a node of a block starts here.  One column in front of the others a block scalar may
start, and if `flush` holds, a sequence. -/
def blockStarts (least : Nat) (flush : Bool) (cursor : Cursor) : Bool :=
  !blockEnds least cursor ||
    (!cursor.atEnd && !cursor.atBoundary && decide (cursor.column + 1 = least)
      && (atBlockScalar cursor || (flush && cursor.atIndicator '-')))

mutual

/-- Read a node in a block, whose content starts in column `least` or behind.  The properties that
stand on lines in front of the cursor are `outer`. -/
def blockNode (handles : Handles) :
    Nat → Nat → Bool → Properties → Cursor → Anchors → Except Fault Reading
  | 0, _, _, _, cursor, _ => .error (cursor.fault .unexpectedEnd)
  | fuel + 1, least, flush, outer, cursor, anchors =>
      let first := cursor.skip
      if !blockStarts least flush first then
        let node := Node.empty outer.tag
        .ok ⟨node, first, anchors.nameNode outer node⟩
      else
        match properties false handles first with
        | .error fault => .error fault
        | .ok (own, content) =>
            if content.line == first.line && !content.atEnd then
              blockContent handles fuel least outer own first content anchors
            else
              match outer.join? own with
              | none => .error (first.fault .misplacedContent)
              | some both => blockNode handles fuel least flush both content anchors

/-- Read the content of a node; the properties on its own line are `own`, and `first` is where they
start.  If the node turns out to be a mapping whose first key starts here, they belong to the key
and `outer` to the mapping; otherwise all belong to the node. -/
def blockContent (handles : Handles) :
    Nat → Nat → Properties → Properties → Cursor → Cursor → Anchors → Except Fault Reading
  | 0, _, _, _, _, cursor, _ => .error (cursor.fault .unexpectedEnd)
  | fuel + 1, least, outer, own, first, content, anchors =>
      let inside := anchors.openNode outer
      let close (node : Node) (cursor : Cursor) (after : Anchors) : Reading :=
        ⟨node, cursor, after.closeNode anchors.count outer node⟩
      let joined : Except Fault Properties :=
        match outer.join? own with
        | none => .error (first.fault .misplacedContent)
        | some both => .ok both
      if content.atIndicator '-' then
        if content.fresh then
          match blockElements handles fuel content.column (decide (content.column < least)) content
              inside with
          | .error fault => .error fault
          | .ok (elements, behind, anchors) => .ok (close (.sequence elements) behind anchors)
        else .error (content.fault .misplacedEntry)
      else if content.atIndicator '?' || content.atIndicator ':' then
        if content.fresh then
          match blockEntries handles fuel content.column content inside with
          | .error fault => .error fault
          | .ok (entries, behind, anchors) => .ok (close (.mapping entries) behind anchors)
        else .error (content.fault .misplacedMapping)
      else if atBlockScalar content then
        joined.bind fun both => blockText least both content anchors
      else
        match inlineNode handles least fuel own content inside with
        | .error fault => .error fault
        | .ok node =>
            match keyColon? first node.cursor with
            | none =>
                if outer.isNone then .ok node
                else joined.bind fun both => inlineNode handles least fuel both content anchors
            | some _ =>
                if first.fresh then
                  match blockEntries handles fuel first.column first inside with
                  | .error fault => .error fault
                  | .ok (entries, behind, anchors) => .ok (close (.mapping entries) behind anchors)
                else .error (node.cursor.fault .misplacedMapping)

/-- Read a block scalar; the cursor stands at its first character. -/
def blockText (least : Nat) (properties : Properties) (cursor : Cursor) (anchors : Anchors) :
    Except Fault Reading :=
  let folded := cursor.rest.head? == some '>'
  match blockScalar folded least (cursor.pass 1) with
  | .error fault => .error fault
  | .ok (text, behind) =>
      let node := Node.scalar (if folded then .folded else .literal) properties.tag text
      .ok ⟨node, behind, anchors.nameNode properties node⟩

/-- Read the elements of a block sequence in one column; the cursor stands at the mark of the first.
A flush sequence shares its column with the mapping that it is a value of. -/
def blockElements (handles : Handles) :
    Nat → Nat → Bool → Cursor → Anchors → Except Fault (List Node × Cursor × Anchors)
  | 0, _, _, cursor, _ => .error (cursor.fault .unexpectedEnd)
  | fuel + 1, column, flush, cursor, anchors =>
      match blockNode handles fuel (column + 1) false .none cursor.passMark anchors with
      | .error fault => .error fault
      | .ok element =>
          let next := element.cursor.skip
          if blockEnds column next then .ok ([element.node], next, element.anchors)
          else if next.column = column ∧ next.fresh then
            if next.atIndicator '-' then
              match blockElements handles fuel column flush next element.anchors with
              | .error fault => .error fault
              | .ok (elements, behind, anchors) =>
                  .ok (element.node :: elements, behind, anchors)
            else if flush then .ok ([element.node], next, element.anchors)
            else .error (next.fault .misplacedContent)
          else .error (next.fault .misplacedContent)

/-- Read the entries of a block mapping in one column; the cursor stands at the first key. -/
def blockEntries (handles : Handles) :
    Nat → Nat → Cursor → Anchors → Except Fault (List (Node × Node) × Cursor × Anchors)
  | 0, _, cursor, _ => .error (cursor.fault .unexpectedEnd)
  | fuel + 1, column, cursor, anchors =>
      match blockEntry handles fuel column cursor anchors with
      | .error fault => .error fault
      | .ok (entry, behind, anchors) =>
          let next := behind.skip
          if blockEnds column next then .ok ([entry], next, anchors)
          else if next.column = column ∧ next.fresh then
            match blockEntries handles fuel column next anchors with
            | .error fault => .error fault
            | .ok (entries, behind, anchors) => .ok (entry :: entries, behind, anchors)
          else .error (next.fault .misplacedContent)

/-- Read one entry of a block mapping.  A question mark introduces a key that may be any node, and a
colon at the start of a line its value; any other key is on one line with its colon. -/
def blockEntry (handles : Handles) :
    Nat → Nat → Cursor → Anchors → Except Fault ((Node × Node) × Cursor × Anchors)
  | 0, _, cursor, _ => .error (cursor.fault .unexpectedEnd)
  | fuel + 1, column, cursor, anchors =>
      let withValue (key : Node) (inside : Cursor) (anchors : Anchors) :
          Except Fault ((Node × Node) × Cursor × Anchors) :=
        match blockNode handles fuel (column + 1) true .none inside anchors with
        | .error fault => .error fault
        | .ok value => .ok ((key, value.node), value.cursor, value.anchors)
      if cursor.atIndicator '?' then
        match blockNode handles fuel (column + 1) true .none cursor.passMark anchors with
        | .error fault => .error fault
        | .ok key =>
            let next := key.cursor.skip
            if next.column = column ∧ next.fresh ∧ next.atIndicator ':' then
              withValue key.node next.passMark key.anchors
            else .ok ((key.node, Node.empty none), next, key.anchors)
      else if cursor.atIndicator ':' then
        withValue (Node.empty none) cursor.passMark anchors
      else
        match properties false handles cursor with
        | .error fault => .error fault
        | .ok (properties, content) =>
            match inlineNode handles (column + 1) fuel properties content anchors with
            | .error fault => .error fault
            | .ok key =>
                match keyColon? cursor key.cursor with
                | none => .error (key.cursor.fault .missingValue)
                | some inside => withValue key.node inside key.anchors

end

end HidMend.Yaml

import HidMend.Journal.Note
import HidMend.Journal.Pattern
import HidMend.Text.Decimal

/-!
# Journal filters

A filter decides which notes are shown.  It is a list of rules, each with a limit of detail for the
components whose name starts with a given target, and of the rules that apply to a note the most
specific decides.  By default one rule covers the whole program, with a limit that grows with the
verbosity asked for.

A filter is written as directives with commas between them.  A directive is a level, a target, or
both with an equals sign between them; a target alone shows everything.  Behind a target, brackets
may name a span and braces inside them a field, which may have a value.  This program has no spans,
so a rule about a span or a value applies to nothing, while a rule about a field applies to the
notes that have it.
-/

namespace HidMend

/-! ## Positions in bytes

Positions in a text may be counted in the bytes of its UTF-8 form.  A cut inside a character counts
as one behind it. -/

namespace Text

/-- How many bytes a text takes. -/
def byteSize : List Char → Nat
  | [] => 0
  | char :: rest => char.utf8Size + byteSize rest

/-- The characters that start in front of a byte. -/
def takeBytes (count : Nat) : List Char → List Char
  | [] => []
  | char :: rest => if count = 0 then [] else char :: takeBytes (count - char.utf8Size) rest

/-- What is left behind the characters that start in front of a byte. -/
def dropBytes (count : Nat) : List Char → List Char
  | [] => []
  | char :: rest => if count = 0 then char :: rest else dropBytes (count - char.utf8Size) rest

end Text

/-! ## Filters -/

/-- A rule of a filter. -/
inductive FilterRule
  /-- Show the notes of a target, or of any, that have a field, or any, up to a limit of detail. -/
  | notes (target field : Option (List Char)) (limit : Nat)
  /-- A rule about spans. -/
  | spans
  deriving DecidableEq, Repr

abbrev Filter := List FilterRule

namespace Filter

/-- The names of the limits. -/
def limitNames : List (List Char × Nat) :=
  [("off".toList, 0), ("error".toList, 1), ("warn".toList, 2), ("info".toList, 3),
    ("debug".toList, 4), ("trace".toList, 5)]

def maxLimit : Nat := 5

/-- Read a limit: a number, which may have a plus sign in front, or a name in either case. -/
def limit? (text : List Char) : Option Nat :=
  let digits :=
    match text with
    | '+' :: rest => rest
    | _ => text
  if !digits.isEmpty && digits.all Char.isDigit then
    if Decimal.value digits ≤ maxLimit then some (Decimal.value digits) else none
  else limitNames.lookup (text.map Char.toLower)

/-- Whether a directive without brackets may start with a character. -/
def startsName (char : Char) : Bool :=
  ['-', ':', '_'].contains char || Text.isAlphanumeric char

/-- Whether a field is well formed.  What stands between its first two equals signs is its value,
which is a numeral or a pattern. -/
def isField (field : List Char) : Bool :=
  match Text.splitFirst? '=' field with
  | none => !field.isEmpty
  | some (_, rest) =>
      let value := rest.takeWhile (· != '=')
      Decimal.isNumeral value || Pattern.accepts value

/-- The limit behind an equals sign; without one, everything is shown. -/
def limitFrom? (text : List Char) : Option Nat :=
  if text.isEmpty then some maxLimit else limit? text

/-- Close a rule behind its brackets, where only a limit may follow. -/
def finish? (rule : Nat → FilterRule) (written rest : List Char) : Option FilterRule :=
  match rest with
  | [] => some (rule maxLimit)
  | '=' :: _ => (limitFrom? written).map rule
  | _ => none

/-- Read the inside of brackets, which starts at a byte of the text.  What has a span name or a
field with a value is about spans. -/
def bracket? (written text : List Char) (target : Option (List Char)) (start : Nat) :
    Option FilterRule :=
  let inside := Text.dropBytes start text
  let span := inside.takeWhile fun char => char != ']' && char != '\x7b'
  let stop := start + Text.byteSize span
  match inside.drop span.length with
  | ']' :: rest => finish? (fun _ => .spans) (Text.dropBytes (stop + 2) written) rest
  | '\x7b' :: body =>
      let laidOut := body.takeWhile (· != '\x7d')
      let field := Text.takeBytes (Text.byteSize laidOut) (Text.dropBytes (stop + 1) written)
      if isField field then
        match body.drop laidOut.length with
        | '\x7d' :: ']' :: rest =>
            let rule (limit : Nat) : FilterRule :=
              if span.isEmpty && !field.contains '=' then .notes target (some field) limit
              else .spans
            finish? rule (Text.dropBytes (stop + Text.byteSize laidOut + 4) written) rest
        | _ => none
      else none
  | _ => none

/-- Read a directive.  It is laid out without the white space around it, but its parts are cut from
the text as it is written, at the same bytes, so that in front of a directive white space is never
harmless. -/
def directive? (written : List Char) : Option FilterRule :=
  let text := Text.trim written
  match text with
  | [] => none
  | first :: _ =>
      if first = '[' then bracket? written text none 1
      else if !startsName first then none
      else
        let name := text.takeWhile fun char => char != '=' && char != '['
        let target := some (Text.takeBytes (Text.byteSize name) written)
        match text.drop name.length with
        | [] =>
            match limit? written with
            | some limit => some (.notes none none limit)
            | none => some (.notes (some written) none maxLimit)
        | '=' :: _ =>
            (limitFrom? (Text.dropBytes (Text.byteSize name + 1) written)).map (.notes target none)
        | _ => bracket? written text target (Text.byteSize name + 1)

/-- The directives of a text; empty ones do not count. -/
def directives (text : List Char) : List (List Char) :=
  (text.splitOnP (· == ',')).filter fun directive => !directive.isEmpty

/-- Read a filter.  Without any directive it shows errors only. -/
def ofText? (text : String) : Option Filter :=
  (directives text.toList).mapM directive? |>.map fun rules =>
    if rules.isEmpty then [.notes none none Level.error.rank] else rules

/-- The level shown at a verbosity. -/
def levelOf : Nat → Level
  | 0 => .warn
  | 1 => .info
  | 2 => .debug
  | _ => .trace

/-- The beginning of the names of all components. -/
def programTarget : List Char := "hid_fixup".toList

def ofVerbosity (verbosity : Nat) : Filter :=
  [.notes (some programTarget) none (levelOf verbosity).rank]

/-- The filter that is in force: the one that is written, if it can be read. -/
def choose (written : Option String) (verbosity : Nat) : Filter :=
  (written.bind ofText?).getD (ofVerbosity verbosity)

/-- Whether a rule applies to a note.  The message of a note is a field, too. -/
def applies (note : Note) : FilterRule → Bool
  | .spans => false
  | .notes target field _ =>
      target.all (fun target => target.isPrefixOf note.component.target.toList)
        && field.all fun field =>
          ("message" :: note.fields.map Prod.fst).any fun name => name.toList == field

/-- How specific a rule is: by its target, then by its field. -/
def specificity : FilterRule → Option Nat × Option (List Char)
  | .notes target field _ => (target.map List.length, field)
  | .spans => (none, none)

/-- Whether nothing comes before something, and otherwise `before` decides. -/
def optionBefore {α : Type} (before : α → α → Bool) : Option α → Option α → Bool
  | none, none => false
  | none, some _ => true
  | some _, none => false
  | some left, some right => before left right

/-- Whether a rule is less specific than another. -/
def yields (left right : FilterRule) : Bool :=
  let less := optionBefore fun (left right : Nat) => decide (left < right)
  let (target, field) := specificity left
  let (otherTarget, otherField) := specificity right
  less target otherTarget ||
    (target == otherTarget &&
      optionBefore (fun (left right : List Char) => decide (left < right)) field otherField)

/-- The more specific of two rules; of equals, the later. -/
def prefer (best : Option FilterRule) (rule : FilterRule) : Option FilterRule :=
  match best with
  | none => some rule
  | some other => if yields rule other then best else some rule

/-- Whether a note is shown. -/
def shows (filter : Filter) (note : Note) : Bool :=
  match (filter.filter (applies note)).foldl prefer none with
  | some (.notes _ _ limit) => note.level.rank ≤ limit
  | _ => false

end Filter

end HidMend

import HidMend.Files
import HidMend.Text.Blank
import HidMend.Yaml.Document

/-!
# Settings

Settings say which menders are left out, and whether the group of a device counts when menders are
looked up.  By default every mender is there and the group counts.

A settings file is a YAML mapping with at most two keys, each at most once: `disabled_modules`, a
sequence of names, and `strict_identity`, a truth value.  A key that is left out keeps its default,
and a text without content is as good as an empty mapping.  Any other key is refused, since a
misspelt one would leave a mender active that the user wants to disable.
-/

namespace HidMend

structure Settings where
  /-- The names of the menders to leave out. -/
  disabled : List String
  /-- Whether groups are compared. -/
  strict : Bool
  deriving DecidableEq, Repr

namespace Settings

def default : Settings :=
  ⟨[], true⟩

def disables (settings : Settings) (name : String) : Bool :=
  settings.disabled.any fun disabled => disabled == name

end Settings

/-! ## Settings files -/

/-- Why a YAML text is no settings file. -/
inductive SettingsProblem
  | yaml (fault : Yaml.Fault)
  | notMapping
  | keyNotText
  | unknownKey (key : String)
  | repeatedKey (key : String)
  | namesNotSequence
  | nameNotText
  | notTruthValue
  deriving DecidableEq, Repr

namespace SettingsProblem

def message : SettingsProblem → String
  | yaml fault => fault.message
  | notMapping => "the settings are not a mapping"
  | keyNotText => "a key is not a text"
  | unknownKey key => "unknown field '" ++ key ++ "'"
  | repeatedKey key => "duplicate field '" ++ key ++ "'"
  | namesNotSequence => "disabled_modules is not a sequence"
  | nameNotText => "the name of a module is not a text"
  | notTruthValue => "strict_identity is neither true nor false"

end SettingsProblem

/-- Why settings could not be loaded. -/
inductive SettingsFault
  | unreadable (path : String) (cause : FileFault)
  | malformed (problem : SettingsProblem)
  | unknownMender (name : String)
  deriving DecidableEq, Repr

namespace SettingsFault

def message : SettingsFault → String
  | unreadable path cause => "failed to read config " ++ path ++ ": " ++ cause.message
  | malformed problem => "invalid config: " ++ problem.message
  | unknownMender name => "unknown module '" ++ name ++ "'"

/-- What caused a fault in turn. -/
def causes : SettingsFault → List String
  | unreadable _ cause => [cause.message]
  | malformed problem => [problem.message]
  | unknownMender _ => []

end SettingsFault

namespace Settings

def disabledKey : String := "disabled_modules"

def strictKey : String := "strict_identity"

/-- The names of menders.  Any scalar stands for its text, and nothing at all for no names. -/
def namesOfNode (document : Yaml.Document) (node : Yaml.Node) :
    Except SettingsProblem (List String) :=
  match document.resolve node with
  | .sequence elements =>
      match elements.mapM fun element => (document.resolve element).toText? with
      | some names => .ok names
      | none => .error .nameNotText
  | other => if other.isEmpty then .ok [] else .error .namesNotSequence

/-- The spellings of truth values. -/
def truthSpellings : List (List Char × Bool) :=
  [("true".toList, true), ("True".toList, true), ("TRUE".toList, true),
    ("false".toList, false), ("False".toList, false), ("FALSE".toList, false)]

/-- A truth value is a plain scalar, or a literal one that is tagged as a truth value. -/
def truthOfNode (document : Yaml.Document) (node : Yaml.Node) : Except SettingsProblem Bool :=
  let text :=
    match document.resolve node with
    | .scalar .plain _ text => text
    | .scalar .literal tag text => if tag = some Yaml.Tag.bool then text else []
    | _ => []
  match truthSpellings.lookup text with
  | some value => .ok value
  | none => .error .notTruthValue

/-- What the entries read so far have set. -/
structure Draft where
  disabled : Option (List String)
  strict : Option Bool
  deriving DecidableEq, Repr

namespace Draft

def empty : Draft := ⟨none, none⟩

def readEntry (document : Yaml.Document) (draft : Draft) (entry : Yaml.Node × Yaml.Node) :
    Except SettingsProblem Draft :=
  match (document.resolve entry.1).toText? with
  | none => .error .keyNotText
  | some key =>
      if key = disabledKey then
        if draft.disabled.isSome then .error (.repeatedKey key)
        else (namesOfNode document entry.2).map fun names => { draft with disabled := some names }
      else if key = strictKey then
        if draft.strict.isSome then .error (.repeatedKey key)
        else (truthOfNode document entry.2).map fun strict => { draft with strict := some strict }
      else .error (.unknownKey key)

/-- Put defaults where nothing was set. -/
def complete (draft : Draft) : Settings :=
  ⟨draft.disabled.getD default.disabled, draft.strict.getD default.strict⟩

end Draft

def ofDocument (document : Yaml.Document) : Except SettingsProblem Settings :=
  match document.root with
  | .mapping entries => (entries.foldlM (Draft.readEntry document) .empty).map Draft.complete
  | other => if other.isEmpty then .ok default else .error .notMapping

def ofYaml (text : String) : Except SettingsFault Settings :=
  if (Text.trim text.toList).isEmpty then .ok default
  else
    match Yaml.document? text with
    | .error fault => .error (.malformed (.yaml fault))
    | .ok none => .ok default
    | .ok (some document) => (ofDocument document).mapError .malformed

/-- Load settings from a file, or take the defaults if no file is named. -/
def load {m : Type → Type} [Monad m] [Files m] :
    Option String → m (Except SettingsFault Settings)
  | none => return .ok default
  | some path => do
      match ← readText path with
      | .error cause => return .error (.unreadable path cause)
      | .ok text => return ofYaml text

end Settings

end HidMend

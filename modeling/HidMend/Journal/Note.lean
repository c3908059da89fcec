/-!
# Journal notes

Operations are pure, and what they would say to a journal is computed beside them: a note has a
level, the component that wrote it, a message and fields.  Notes never influence a result.
-/

namespace HidMend

/-- Levels in ascending order of detail. -/
inductive Level
  | error
  | warn
  | info
  | debug
  | trace
  deriving DecidableEq, Repr

namespace Level

/-- How much detail a level adds; 0 is left for a journal that keeps nothing. -/
def rank : Level → Nat
  | error => 1
  | warn => 2
  | info => 3
  | debug => 4
  | trace => 5

def label : Level → String
  | error => "ERROR"
  | warn => "WARN"
  | info => "INFO"
  | debug => "DEBUG"
  | trace => "TRACE"

end Level

/-- The part of the program that writes a note. -/
inductive Component
  | gate
  | patch
  | transform
  | recipe
  | compensation
  | roster
  | attachment
  | scan
  | descriptorCommand
  | replayCommand
  deriving DecidableEq, Repr

namespace Component

/-- The name under which journal filters address a component. -/
def target : Component → String
  | gate => "hid_fixup_engine::probe"
  | patch => "hid_fixup_engine::rdesc"
  | transform => "hid_fixup_engine::event"
  | recipe => "hid_fixup_engine::module"
  | compensation => "hid_fixup_tilt::compensate"
  | roster => "hid_fixup_registry::registry"
  | attachment => "hid_fixup_registry::binding"
  | scan => "hid_fixup::device"
  | descriptorCommand => "hid_fixup::commands::rdesc"
  | replayCommand => "hid_fixup::commands::replay"

end Component

structure Note where
  level : Level
  component : Component
  message : String
  /-- Names and rendered values in the order they are written. -/
  fields : List (String × String)
  deriving DecidableEq, Repr

namespace Note

/-- A text value is written between quotation marks. -/
def quoted (text : String) : String :=
  "\"" ++ text ++ "\""

/-- Level, message and fields on one line. -/
def line (note : Note) : String :=
  note.fields.foldl (fun text field => text ++ " " ++ field.1 ++ "=" ++ field.2)
    (note.level.label ++ " " ++ note.message)

end Note

end HidMend

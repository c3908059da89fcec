import HidMend.Command.Arguments
import HidMend.Command.Descriptor
import HidMend.Command.Listing
import HidMend.Command.Playback
import HidMend.Journal.Filter

/-!
# Running the program

The program reads its arguments, loads the settings and performs the task.  All that can be seen
from outside is gathered in an execution: the exit code, what goes to both output streams, and the
notes that the filter shows.
-/

namespace HidMend

/-- What the program is told besides its arguments. -/
structure Environment where
  /-- The path of the settings, where no argument names one. -/
  settingsPath : Option String
  /-- The filter for notes. -/
  filter : Option String
  deriving DecidableEq, Repr

structure Execution where
  exitCode : Nat
  output : String
  errors : String
  notes : List Note
  deriving DecidableEq, Repr

namespace Execution

def version : String := "0.1.0"

/-- The help, which also shows what the environment sets. -/
def usage (settingsPath : Option String) : String :=
  Answer.lines [
    "Inspect HID devices and apply descriptor and report fixups",
    "",
    "Usage: hid-fixup [OPTIONS] <COMMAND>",
    "",
    "Commands:",
    "  list-modules  List the fixup modules and the devices they bind to",
    "  list-devices  List HID devices and the modules that would bind to them",
    "  fixup-rdesc   Probe and patch a raw report descriptor",
    "  replay        Run captured input reports through the report fixups",
    "  help          Print this message or the help of the given subcommand(s)",
    "",
    "Options:",
    "      --json             Output in JSON format for machine parsing",
    "  -v, --verbose...       Verbose logging",
    "      --config <CONFIG>  Registry configuration file (YAML) [env: HID_FIXUP_CONFIG="
      ++ settingsPath.getD "" ++ "]",
    "  -h, --help             Print help (see more with '--help')",
    "  -V, --version          Print version"]

variable {m : Type → Type} [Monad m] [Files m]

/-- Load the roster that the settings describe. -/
def loadRoster (path : Option String) : Session m Roster := do
  let settings ← Session.require ((← Settings.load path).mapError .settings)
  let roster ← Session.require
    ((Roster.ofSettings settings).mapError fun name => .settings (.unknownMender name))
  Session.addNotes (Roster.settingsNotes settings)
  return roster

/-- Perform a task. -/
def perform (roster : Roster) : Task → Session m Answer
  | .listMenders => return Listing.menders roster
  | .listDevices directory => return Listing.ofDevices (← Listing.devices roster directory)
  | .mendDescriptor device input output => RepairedDescriptor.run roster device input output
  | .replay device recording output => Playback.run roster device recording output

/-- The execution that ends with an answer or a failure. -/
def ofResult (json : Bool) (result : Except Failure Answer) (notes : List Note) : Execution :=
  match result with
  | .ok answer =>
      let output := if json then answer.toJson.toPretty ++ "\n" else answer.text
      ⟨0, output, "", notes⟩
  | .error failure =>
      if json then ⟨failure.exitCode, failure.toJson.toPretty ++ "\n", "", notes⟩
      else ⟨failure.exitCode, "", failure.text, notes⟩

/-- Carry out an invocation. -/
def ofInvocation (invocation : Invocation) (filter : Filter) : m Execution := do
  let session : Session m Answer := do
    perform (← loadRoster invocation.settingsPath) invocation.task
  let (result, notes) ← session.run.run []
  return ofResult invocation.json result (notes.filter filter.shows)

/-- Run the program. -/
def run (environment : Environment) (arguments : List String) : m Execution :=
  match Request.ofArguments arguments environment.settingsPath with
  | .error fault => return ⟨1, "", "error: " ++ fault.message ++ "\n", []⟩
  | .ok .nothing => return ⟨1, "", usage environment.settingsPath, []⟩
  | .ok .showHelp => return ⟨0, usage environment.settingsPath, "", []⟩
  | .ok .showVersion => return ⟨0, "hid-fixup " ++ version ++ "\n", "", []⟩
  | .ok (.perform invocation) =>
      ofInvocation invocation (Filter.choose environment.filter invocation.verbosity)

end Execution

end HidMend

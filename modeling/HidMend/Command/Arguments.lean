/-!
# Arguments

The first word on the command line names a command, and what stands behind it belongs to that
command.  Options of the whole program may stand on either side of the name; where both sides set
one, the side of the command wins, and either wins over the environment.

Arguments are read from left to right, and the first of them that asks for help or the version, or
cannot be understood, settles the matter.
-/

namespace HidMend

/-- What the user asks the program to do. -/
inductive Task
  | listMenders
  | listDevices (directory : String)
  | mendDescriptor (device input : String) (output : Option String)
  | replay (device recording : String) (output : Option String)
  deriving DecidableEq, Repr

structure Invocation where
  json : Bool
  verbosity : Nat
  settingsPath : Option String
  task : Task
  deriving DecidableEq, Repr

/-- What the arguments ask for. -/
inductive Request
  | perform (invocation : Invocation)
  /-- Neither a command nor any option was given. -/
  | nothing
  | showHelp
  | showVersion
  deriving DecidableEq, Repr

/-- Why the arguments make no sense. -/
inductive UsageFault
  | unknownArgument (argument : String)
  | unknownCommand (name : String)
  | noCommand
  | repeatedOption (name : String)
  | missingValue (name : String)
  | emptyValue (name : String)
  | unwantedValue (name : String)
  | missingArgument (name : String)
  deriving DecidableEq, Repr

namespace UsageFault

def message : UsageFault → String
  | unknownArgument argument => "unexpected argument '" ++ argument ++ "' found"
  | unknownCommand name => "unrecognized subcommand '" ++ name ++ "'"
  | noCommand => "a subcommand is required but one was not provided"
  | repeatedOption name => "the argument '" ++ name ++ "' cannot be used multiple times"
  | missingValue name => "a value is required for '" ++ name ++ "' but none was supplied"
  | emptyValue name => "the value of '" ++ name ++ "' is empty"
  | unwantedValue name => "no value was expected for '" ++ name ++ "'"
  | missingArgument name => "the required argument " ++ name ++ " was not provided"

end UsageFault

inductive CommandName
  | listMenders
  | listDevices
  | mendDescriptor
  | replay
  deriving DecidableEq, Repr

namespace CommandName

def names : List (String × CommandName) :=
  [("list-modules", .listMenders), ("list-devices", .listDevices),
    ("fixup-rdesc", .mendDescriptor), ("replay", .replay)]

end CommandName

/-- Options without a value. -/
inductive Switch
  | json
  | verbose
  | help
  | version
  deriving DecidableEq, Repr

/-- Options with a value. -/
inductive Setting
  | config
  | sysfs
  | device
  | output
  deriving DecidableEq, Repr

namespace Setting

/-- The name of a setting or of the operand of a command. -/
def label : Setting → String
  | config => "--config"
  | sysfs => "--sysfs"
  | device => "--device"
  | output => "--output"

/-- Whether the value is a path, which cannot be empty. -/
def isPath : Setting → Bool
  | device => false
  | _ => true

end Setting

inductive CommandOption
  | switch (name : Switch)
  | setting (name : Setting)
  deriving DecidableEq, Repr

/-- A side of the command line: in front of the name of the command, or behind it. -/
abbrev Side := Option CommandName

namespace Side

/-- The options of a side by their long names. -/
def longNames (side : Side) : List (List Char × CommandOption) :=
  [("json".toList, .switch .json), ("verbose".toList, .switch .verbose),
    ("config".toList, .setting .config), ("help".toList, .switch .help)] ++
    match side with
    | none => [("version".toList, .switch .version)]
    | some .listMenders => []
    | some .listDevices => [("sysfs".toList, .setting .sysfs)]
    | some _ => [("device".toList, .setting .device), ("output".toList, .setting .output)]

/-- The options of a side by their letters. -/
def letters (side : Side) : List (Char × CommandOption) :=
  [('v', .switch .verbose), ('h', .switch .help)] ++
    match side with
    | none => [('V', .switch .version)]
    | some .mendDescriptor => [('o', .setting .output)]
    | some .replay => [('o', .setting .output)]
    | some _ => []

/-- How many operands a command takes. -/
def operandCount : Side → Nat
  | some .mendDescriptor => 1
  | some .replay => 1
  | _ => 0

end Side

/-- What the arguments of one side have set. -/
structure Gathered where
  json : Bool
  verbosity : Nat
  settings : List (Setting × String)
  operands : List String
  deriving DecidableEq, Repr

/-- Why reading stops before the end. -/
inductive Halt
  | help
  | version
  | usage (fault : UsageFault)
  deriving DecidableEq, Repr

namespace Gathered

def empty : Gathered := ⟨false, 0, [], []⟩

/-- Apply an option without a value. -/
def switch (gathered : Gathered) : Switch → Except Halt Gathered
  | .json =>
      if gathered.json then .error (.usage (.repeatedOption "--json"))
      else .ok { gathered with json := true }
  | .verbose => .ok { gathered with verbosity := gathered.verbosity + 1 }
  | .help => .error .help
  | .version => .error .version

/-- Apply an option with its value. -/
def assign (gathered : Gathered) (name : Setting) (value : String) : Except Halt Gathered :=
  if (gathered.settings.lookup name).isSome then .error (.usage (.repeatedOption name.label))
  else if name.isPath && value.isEmpty then .error (.usage (.emptyValue name.label))
  else .ok { gathered with settings := (name, value) :: gathered.settings }

/-- Add an operand, which is a path. -/
def operand (gathered : Gathered) (side : Side) (value : String) : Except Halt Gathered :=
  if gathered.operands.length < side.operandCount then
    if value.isEmpty then .error (.usage (.emptyValue "operand"))
    else .ok { gathered with operands := gathered.operands ++ [value] }
  else .error (.usage (.unknownArgument value))

end Gathered

/-- An argument by its form. -/
inductive ArgumentForm
  /-- Behind this mark there are operands only. -/
  | endOfOptions
  | long (name : List Char) (value : Option String)
  | letters (letters : List Char)
  | word

namespace ArgumentForm

def ofText (argument : String) : ArgumentForm :=
  match argument.toList with
  | ['-', '-'] => endOfOptions
  | '-' :: '-' :: rest =>
      let name := rest.takeWhile (· != '=')
      match rest.drop name.length with
      | [] => long name none
      | _ :: value => long name (some (String.ofList value))
  | ['-'] => word
  | '-' :: rest => letters rest
  | _ => word

end ArgumentForm

namespace Side

/-- Apply letters in order.  A letter whose option has a value takes the rest of the argument, with
an equals sign in front or without; if nothing is left, the value is still to come. -/
def applyLetters (side : Side) (argument : String) :
    List Char → Gathered → Except Halt (Gathered × Option Setting)
  | [], gathered => .ok (gathered, none)
  | letter :: rest, gathered =>
      match side.letters.lookup letter with
      | none => .error (.usage (.unknownArgument argument))
      | some (.switch name) =>
          match gathered.switch name with
          | .error halt => .error halt
          | .ok gathered => applyLetters side argument rest gathered
      | some (.setting name) =>
          match rest with
          | [] => .ok (gathered, some name)
          | '=' :: value => (gathered.assign name (String.ofList value)).map fun all => (all, none)
          | value => (gathered.assign name (String.ofList value)).map fun all => (all, none)

/-- Apply an argument that starts with a minus sign; the value of its option may be still to
come. -/
def applyOption (side : Side) (argument : String) (form : ArgumentForm) (gathered : Gathered) :
    Except Halt (Gathered × Option Setting) :=
  match form with
  | .letters letters => applyLetters side argument letters gathered
  | .long name value =>
      match side.longNames.lookup name, value with
      | none, _ => .error (.usage (.unknownArgument argument))
      | some (.switch name), none => (gathered.switch name).map fun all => (all, none)
      | some (.switch _), some _ => .error (.usage (.unwantedValue argument))
      | some (.setting name), none => .ok (gathered, some name)
      | some (.setting name), some value =>
          (gathered.assign name value).map fun all => (all, none)
  | _ => .error (.usage (.unknownArgument argument))

/-- Whether an argument can be the value of the option in front of it. -/
def isValue (argument : String) : Bool :=
  match ArgumentForm.ofText argument with
  | .word => true
  | _ => false

/-- Read the operands behind the end of the options. -/
def gatherOperands (side : Side) : List String → Gathered → Except Halt Gathered
  | [], gathered => .ok gathered
  | argument :: rest, gathered =>
      match gathered.operand side argument with
      | .error halt => .error halt
      | .ok gathered => gatherOperands side rest gathered

/-- Read the arguments of a side.  The side in front of a command ends at the first word, which is
left with what stands behind it. -/
def gather (side : Side) : List String → Gathered → Except Halt (Gathered × List String)
  | [], gathered => .ok (gathered, [])
  | argument :: rest, gathered =>
      match ArgumentForm.ofText argument with
      | .endOfOptions => (gatherOperands side rest gathered).map fun all => (all, [])
      | .word =>
          if side.isNone then .ok (gathered, argument :: rest)
          else
            match gathered.operand side argument with
            | .error halt => .error halt
            | .ok gathered => gather side rest gathered
      | form =>
          match applyOption side argument form gathered with
          | .error halt => .error halt
          | .ok (gathered, none) => gather side rest gathered
          | .ok (gathered, some name) =>
              match rest with
              | [] => .error (.usage (.missingValue name.label))
              | value :: behind =>
                  if isValue value then
                    match gathered.assign name value with
                    | .error halt => .error halt
                    | .ok gathered => gather side behind gathered
                  else .error (.usage (.missingValue name.label))

end Side

namespace Task

/-- The directory where the kernel lists devices. -/
def defaultDirectory : String := "/sys/bus/hid/devices"

/-- The task of a command, once all that it needs is there. -/
def ofGathered (name : CommandName) (gathered : Gathered) : Except UsageFault Task :=
  let needed (make : String → String → Option String → Task) : Except UsageFault Task :=
    match gathered.settings.lookup .device, gathered.operands with
    | some device, path :: _ => .ok (make device path (gathered.settings.lookup .output))
    | none, _ => .error (.missingArgument Setting.device.label)
    | _, [] => .error (.missingArgument "operand")
  match name with
  | .listMenders => .ok .listMenders
  | .listDevices =>
      .ok (.listDevices ((gathered.settings.lookup .sysfs).getD defaultDirectory))
  | .mendDescriptor => needed .mendDescriptor
  | .replay => needed .replay

end Task

namespace Request

/-- The file with settings that counts.  An empty path in the environment is a fault wherever the
environment is looked at, which is on each side that does not name a file. -/
def settingsPath (outer inner : Gathered) (environment : Option String) :
    Except UsageFault (Option String) :=
  let front := outer.settings.lookup .config
  let behind := inner.settings.lookup .config
  if environment = some "" ∧ (front.isNone ∨ behind.isNone) then
    .error (.emptyValue Setting.config.label)
  else .ok (behind.or (front.or environment))

/-- Combine both sides of a command. -/
def combine (outer : Gathered) (name : CommandName) (inner : Gathered)
    (environment : Option String) : Except UsageFault Request :=
  match Task.ofGathered name inner with
  | .error fault => .error fault
  | .ok task =>
      match settingsPath outer inner environment with
      | .error fault => .error fault
      | .ok path =>
          let verbosity := if inner.verbosity = 0 then outer.verbosity else inner.verbosity
          .ok (.perform ⟨outer.json || inner.json, verbosity, path, task⟩)

/-- Help about a command, or about the help itself. -/
def helpAbout : List String → Except UsageFault Request
  | [] => .ok .showHelp
  | [name] =>
      if name = "help" ∨ (CommandName.names.lookup name).isSome then .ok .showHelp
      else .error (.unknownCommand name)
  | _ :: name :: _ => .error (.unknownCommand name)

/-- What a reason to stop early amounts to. -/
def ofHalt : Halt → Except UsageFault Request
  | .help => .ok .showHelp
  | .version => .ok .showVersion
  | .usage fault => .error fault

/-- Read the arguments, with the path of settings that the environment names. -/
def ofArguments (arguments : List String) (environment : Option String) :
    Except UsageFault Request :=
  match Side.gather none arguments .empty with
  | .error halt => ofHalt halt
  | .ok (given, []) =>
      if given = .empty ∧ environment.isNone then .ok .nothing else .error .noCommand
  | .ok (outer, word :: rest) =>
      match CommandName.names.lookup word with
      | none => if word = "help" then helpAbout rest else .error (.unknownCommand word)
      | some name =>
          match Side.gather (some name) rest .empty with
          | .error halt => ofHalt halt
          | .ok (inner, _) => combine outer name inner environment

end Request

end HidMend

import HidMend.Command.Failure

/-!
# Sessions

A command runs in a session: it uses files, writes notes into the journal and may fail.  The notes
that were written before a failure stay.
-/

namespace HidMend

abbrev Session (m : Type → Type) :=
  ExceptT Failure (StateT (List Note) m)

namespace Session

variable {m : Type → Type} [Monad m] {α : Type}

def addNotes (notes : List Note) : Session m Unit :=
  modify fun earlier => earlier ++ notes

/-- Go on with a result, or fail. -/
def require (result : Except Failure α) : Session m α :=
  match result with
  | .ok value => pure value
  | .error failure => throw failure

/-- Go on with what was read from a file or directory, or fail. -/
def requireFile (use : FileUse) (path : String) (result : Except FileFault α) : Session m α :=
  require (result.mapError (.file use path))

end Session

/-- A session uses the files of the world it runs in. -/
instance {m : Type → Type} [Monad m] [Files m] : Files (Session m) where
  readFile path := liftM (Files.readFile path : m (Except FileFault Bytes))
  listDirectory path := liftM (Files.listDirectory path : m (Except FileFault (List Bytes)))
  writeFile path bytes := liftM (Files.writeFile path bytes : m (Except FileFault Unit))

/-- What a command says when it succeeds: lines for people and a member of the JSON answer. -/
structure Answer where
  text : String
  member : String × Json

namespace Answer

/-- The JSON answer.  Its members are in ascending order of their keys. -/
def toJson (answer : Answer) : Json :=
  if answer.member.1 < "success" then .record [answer.member, ("success", .bool true)]
  else .record [("success", .bool true), answer.member]

def texts (values : List String) : Json :=
  .array (values.map Json.text)

def optionalText (value : Option String) : Json :=
  Json.optional (value.map Json.text)

/-- An identity with its members in ascending order of their keys. -/
def device (device : DeviceId) : Json :=
  .record [("bus", .natural device.bus.number.toNat), ("group", .natural device.group.number.toNat),
    ("product_id", .natural device.product.toNat), ("vendor_id", .natural device.vendor.toNat)]

def lines (texts : List String) : String :=
  String.join (texts.map fun text => text ++ "\n")

/-- The line that names the file that was written. -/
def writtenLine (output : Option String) : List String :=
  output.toList.map fun path => "  Written to '" ++ path ++ "'"

end Answer

end HidMend

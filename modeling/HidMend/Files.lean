import HidMend.Buffer

/-!
# Files

The program reads whole files, lists directories and writes whole files.  The class `Files` is what
it asks of the world, and faults are what the world may answer.
-/

namespace HidMend

/-- Why a file or directory could not be used. -/
inductive FileFault
  | notFound
  | notDirectory
  | isDirectory
  | nameTooLong
  /-- The bytes of a file that should be a text are no UTF-8. -/
  | invalidText
  /-- Any other fault, with the wording of the host. -/
  | other (description : String)
  deriving DecidableEq, Repr

namespace FileFault

def message : FileFault → String
  | notFound => "No such file or directory (os error 2)"
  | notDirectory => "Not a directory (os error 20)"
  | isDirectory => "Is a directory (os error 21)"
  | nameTooLong => "File name too long (os error 36)"
  | invalidText => "stream did not contain valid UTF-8"
  | other description => description

end FileFault

/-- Read bytes as a text. -/
def textOfBytes (bytes : Bytes) : Except FileFault String :=
  match String.fromUTF8? ⟨bytes.toArray⟩ with
  | some text => .ok text
  | none => .error .invalidText

def bytesOfText (text : String) : Bytes :=
  text.toUTF8.toList

/-- Access to files by the paths that a user writes. -/
class Files (m : Type → Type) where
  readFile : String → m (Except FileFault Bytes)
  /-- The names in a directory, in any order.  To the host a name is a string of bytes, which need
  not be a text. -/
  listDirectory : String → m (Except FileFault (List Bytes))
  writeFile : String → Bytes → m (Except FileFault Unit)

/-- Read a file that is a text. -/
def readText {m : Type → Type} [Monad m] [Files m] (path : String) :
    m (Except FileFault String) := do
  match ← Files.readFile path with
  | .error fault => return .error fault
  | .ok bytes => return textOfBytes bytes

/-- A name below a directory. -/
def joinPath (directory name : String) : String :=
  if directory.isEmpty || directory.toList.getLast? = some '/' then directory ++ name
  else directory ++ "/" ++ name

end HidMend

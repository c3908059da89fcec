import HidMend.Command.Run

/-!
# The program

Connects the program to the files, the environment and the streams of its host.
-/

namespace HidMend.Host

/-- What the host says about a file, with the number it gives the fault. -/
def faultOf : IO.Error → FileFault
  | .noFileOrDirectory _ _ _ => .notFound
  | .noSuchThing _ _ _ => .notFound
  | .inappropriateType _ 21 _ => .isDirectory
  | .inappropriateType _ _ _ => .notDirectory
  | .permissionDenied _ 1 _ => .other "Operation not permitted (os error 1)"
  | .permissionDenied _ _ _ => .other "Permission denied (os error 13)"
  | .invalidArgument _ 36 _ => .nameTooLong
  | error => .other (toString error)

def attempt {α : Type} (action : IO α) : IO (Except FileFault α) := do
  match ← action.toBaseIO with
  | .ok value => return .ok value
  | .error error => return .error (faultOf error)

instance : Files IO where
  readFile path := attempt do
    return (← IO.FS.readBinFile path).toList
  listDirectory path := attempt do
    let entries ← ((← IO.currentDir) / path).readDir
    return entries.toList.map fun entry => bytesOfText entry.fileName
  writeFile path bytes := attempt (IO.FS.writeBinFile path ⟨bytes.toArray⟩)

end HidMend.Host

def main (arguments : List String) : IO UInt32 := do
  let settingsPath ← IO.getEnv "HID_FIXUP_CONFIG"
  let filter ← IO.getEnv "RUST_LOG"
  let execution : HidMend.Execution ← HidMend.Execution.run ⟨settingsPath, filter⟩ arguments
  for note in execution.notes do
    IO.eprintln note.line
  IO.print execution.output
  IO.eprint execution.errors
  return UInt32.ofNat execution.exitCode

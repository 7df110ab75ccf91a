import ComponentFlow.CommandLine.Run

/-!
# The program

The command line on the files of the system.
-/

namespace ComponentFlow

/-- The error that the system reports. -/
def FileError.ofSystem : IO.Error → FileError
  | .noFileOrDirectory .. => .missing
  | .inappropriateType _ 20 _ => .notADirectory
  | .inappropriateType _ 21 _ => .isADirectory
  | .permissionDenied _ code _ => .other code.toNat "Permission denied"
  | e => .other 0 (toString e)

/-- An action, with the error that the system reports if it fails. -/
def attempt {α : Type} (action : IO α) : IO (Except FileError α) := do
  try
    return .ok (← action)
  catch e =>
    return .error (.ofSystem e)

/-- Whether an action gives `true`; a failure counts as `false`. -/
def holds (action : IO Bool) : IO Bool := do
  try action catch _ => return false

/-- The files of the system. -/
def FileAccess.ofSystem : FileAccess IO where
  current := return (Path.ofText (← IO.currentDir).toString).parts
  isDirectory p := holds do (← IO.FS.realPath p.text).isDir
  isPresent p := holds do (← IO.FS.realPath p.text).pathExists
  read p := attempt (IO.FS.readBinFile p.text)
  write p text := attempt (IO.FS.writeFile p.text text)

end ComponentFlow

open ComponentFlow in
/-- Runs the program. -/
def main (args : List String) : IO UInt32 := do
  let report ← CommandLine.run FileAccess.ofSystem args
  IO.print report.output
  IO.eprint report.errors
  match report.crash with
  | none => return report.exit.toUInt32
  | some cause =>
    IO.eprintln cause.message
    return 1

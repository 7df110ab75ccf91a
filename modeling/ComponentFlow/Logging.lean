import ComponentFlow.File.Tree
import ComponentFlow.Journal

/-!
# Where records go

Records go to the console from a level that is chosen on the command line, and all of them to a
file if there is one.
-/

namespace ComponentFlow

/-- What is logged, and where. -/
structure LogSettings where
  verbose : Bool := false
  quiet : Bool := false
  file : Option Path := none
  deriving Repr, DecidableEq, Inhabited

/-- A record as a line on the console. -/
def Record.consoleLine (r : Record) : String :=
  "[" ++ programName ++ "] " ++ r.level.name ++ " " ++ r.message

/-- A record as a line of a file, without the time that stands in front of it. -/
def Record.fileLine (r : Record) : String :=
  r.level.name ++ " " ++ originName r.origin ++ ": " ++ r.message

/-- Lines, each with a line break at its end. -/
def linesText (lines : List String) : String :=
  "".intercalate (lines.map (· ++ "\n"))

namespace LogSettings

/-- The level from which records go to the console. Asking for more wins over asking for less. -/
def consoleLevel (s : LogSettings) : Level :=
  if s.verbose then .debug else if s.quiet then .warning else .info

/-- The level from which records are kept at all. -/
def level (s : LogSettings) : Level :=
  if s.file.isSome then .debug else s.consoleLevel

/-- The levels of the places where records go: the console, and the file. -/
def placeLevels (s : LogSettings) : List Level :=
  s.consoleLevel :: (if s.file.isSome then [.debug] else [])

/-- The text of records on the console. -/
def consoleText (s : LogSettings) (journal : Journal) : String :=
  linesText ((journal.from s.consoleLevel).map Record.consoleLine)

/-- Makes the file and the directories that lead to it. An error comes with its path. -/
def prepare (s : LogSettings) (t : FileTree) : Except (FileError × Path) FileTree :=
  match s.file with
  | none => .ok t
  | some path => do
    let t ← (t.makeDirectory path.parent).mapError (·, path.parent)
    (t.append path ByteArray.empty).mapError (·, path.resolve t.current)

/-- Adds records to the file. -/
def store (s : LogSettings) (journal : Journal) (t : FileTree) : FileTree :=
  match s.file with
  | none => t
  | some path =>
    ((t.append path (linesText (journal.map Record.fileLine)).toUTF8).toOption).getD t

end LogSettings

end ComponentFlow

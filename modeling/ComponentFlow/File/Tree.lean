import ComponentFlow.Assoc
import ComponentFlow.Decimal.Format
import ComponentFlow.File.Path
import ComponentFlow.Text.Quoted

/-!
# File trees

Files and directories as a value, with the outcomes that reading and writing have on a disk: a path
is followed part by part, and every part but the last has to be a directory.
-/

namespace ComponentFlow

/-- Why a file cannot be used. -/
inductive FileError where
  | missing
  | notADirectory
  | isADirectory
  | inTheWay
  /-- Another reason that the system gives. -/
  | other (code : Nat) (reason : String)
  deriving Repr, DecidableEq, Inhabited

namespace FileError

/-- The number of an error. -/
def code : FileError → Nat
  | missing => 2
  | notADirectory => 20
  | isADirectory => 21
  | inTheWay => 17
  | other code _ => code

/-- The words for an error. -/
def reason : FileError → String
  | missing => "No such file or directory"
  | notADirectory => "Not a directory"
  | isADirectory => "Is a directory"
  | inTheWay => "File exists"
  | other _ reason => reason

/-- The message for an error at a path. -/
def message (e : FileError) (path : Path) : String :=
  "[Errno " ++ Decimal.intText e.code ++ "] " ++ e.reason ++ ": " ++ Text.quoted path.text

end FileError

/-- A file or a directory. -/
inductive FileEntry where
  | file (content : ByteArray)
  | directory (entries : List (String × FileEntry))
  deriving Inhabited

namespace FileEntry

/-- The entry of a directory with the given name. -/
def child? (name : String) : FileEntry → Option FileEntry
  | file _ => none
  | directory entries => entries.lookup name

/-- The entry at a location below this one. -/
def at? (e : FileEntry) (location : List String) : Option FileEntry :=
  location.foldl (fun e name => e.bind (child? name)) (some e)

/-- Puts an entry at a location, with the directories that lead to it. Nothing changes if a file
stands in the way. -/
def put (new : FileEntry) : List String → FileEntry → FileEntry
  | [], _ => new
  | _ :: _, file content => file content
  | name :: rest, directory entries =>
    directory (Assoc.insert name (put new rest ((entries.lookup name).getD (directory []))) entries)

end FileEntry

/-- All files, and where the current directory is. -/
structure FileTree where
  root : FileEntry := .directory []
  current : List String := []

namespace FileTree

/-- One step of following a path. -/
def step (t : FileTree) (location : List String) (part : String) :
    Except FileError (List String) :=
  match t.root.at? location with
  | none => .error .missing
  | some (.file _) => .error .notADirectory
  | some (.directory entries) =>
    if part == Path.up then .ok location.dropLast
    else if (entries.lookup part).isSome then .ok (location ++ [part])
    else .error .missing

/-- Where a path leads. -/
def locate (t : FileTree) (p : Path) : Except FileError (List String) :=
  p.parts.foldlM t.step (if p.absolute then [] else t.current)

/-- What stands at a path. -/
def entry (t : FileTree) (p : Path) : Except FileError FileEntry := do
  match t.root.at? (← t.locate p) with
  | some e => return e
  | none => throw .missing

/-- The content of a file. -/
def read (t : FileTree) (p : Path) : Except FileError ByteArray := do
  match ← t.entry p with
  | .file content => return content
  | .directory _ => throw .isADirectory

/-- Whether there is something at a path. -/
def contains (t : FileTree) (p : Path) : Bool :=
  (t.entry p).toOption.isSome

/-- Whether there is a directory at a path. -/
def isDirectory (t : FileTree) (p : Path) : Bool :=
  match t.entry p with
  | .ok (.directory _) => true
  | _ => false

/-- Where a file can be written: at a name in a directory that is there, unless that name is a
directory itself. -/
def target (t : FileTree) (p : Path) : Except FileError (List String) := do
  match p.parts.getLast? with
  | none => throw .isADirectory
  | some name =>
    let location ← t.locate p.parent
    if name == Path.up then
      let _ ← t.step location name
      throw .isADirectory
    match t.root.at? location with
    | some (.directory entries) =>
      match entries.lookup name with
      | some (.directory _) => throw .isADirectory
      | _ => return location ++ [name]
    | _ => throw .notADirectory

/-- Writes a file. -/
def write (t : FileTree) (p : Path) (content : ByteArray) : Except FileError FileTree := do
  let location ← t.target p
  return { t with root := .put (.file content) location t.root }

/-- Adds to the end of a file. -/
def append (t : FileTree) (p : Path) (content : ByteArray) : Except FileError FileTree := do
  let location ← t.target p
  let before := match t.root.at? location with
    | some (.file before) => before
    | _ => ByteArray.empty
  return { t with root := .put (.file (before ++ content)) location t.root }

/-- Makes a directory, and those that lead to it, where they are missing. -/
def makeDirectory (t : FileTree) (p : Path) : Except FileError FileTree :=
  match t.entry p with
  | .ok (.directory _) => .ok t
  | .ok (.file _) => .error .inTheWay
  | .error .missing =>
    .ok { t with root := .put (.directory []) (p.resolve t.current).parts t.root }
  | .error e => .error e

end FileTree

end ComponentFlow

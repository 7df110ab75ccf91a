import ComponentFlow.File.Tree

/-!
# Access to files

What the program does with files, over any way to do it: on a disk, or on a file tree as a value.
Texts are UTF-8, and every kind of line break is read as the same character.
-/

namespace ComponentFlow

/-- The ways to use files. -/
structure FileAccess (m : Type → Type) where
  /-- The parts of the current directory, from the root. -/
  current : m (List String)
  isDirectory : Path → m Bool
  isPresent : Path → m Bool
  read : Path → m (Except FileError ByteArray)
  write : Path → String → m (Except FileError Unit)

/-- Why no text was read. -/
inductive TextError where
  | file (cause : FileError)
  /-- The content is not UTF-8. -/
  | undecodable
  deriving Repr, DecidableEq, Inhabited

/-- Line breaks of every kind as one character. -/
def unifyBreaks : List Char → List Char
  | [] => []
  | '\r' :: '\n' :: rest => '\n' :: unifyBreaks rest
  | c :: rest => (if c == '\r' then '\n' else c) :: unifyBreaks rest

/-- The text of a content. -/
def decodeText? (content : ByteArray) : Option String :=
  (String.fromUTF8? content).map fun s => String.ofList (unifyBreaks s.toList)

namespace FileAccess

variable {m : Type → Type} [Monad m]

/-- The text of a file. -/
def readText (files : FileAccess m) (p : Path) : m (Except TextError String) := do
  match ← files.read p with
  | .error e => return .error (.file e)
  | .ok content =>
    match decodeText? content with
    | some text => return .ok text
    | none => return .error .undecodable

/-- A path from the root, without two dots. -/
def resolve (files : FileAccess m) (p : Path) : m Path := do
  return p.resolve (← files.current)

/-- Files of a tree that is carried as a state. -/
def ofTree : FileAccess (StateM FileTree) where
  current := return (← get).current
  isDirectory p := return (← get).isDirectory p
  isPresent p := return (← get).contains p
  read p := return (← get).read p
  write p text := do
    match (← get).write p text.toUTF8 with
    | .ok t => set t; return .ok ()
    | .error e => return .error e

end FileAccess

end ComponentFlow

import ComponentFlow.Text.Case
import ComponentFlow.Text.Cut

/-!
# Paths

A path is a list of parts, from the root or from the current directory. Empty parts and parts that
are a single dot say nothing and are left out; two dots stay, since only the files tell where they
lead.
-/

namespace ComponentFlow

/-- A path. -/
structure Path where
  /-- Whether the path starts at the root. -/
  absolute : Bool := false
  parts : List String := []
  deriving Repr, DecidableEq, Inhabited

namespace Path

/-- The part that leads to the directory above. -/
def up : String := ".."

/-- Whether a part says something. -/
def isPart (part : String) : Bool := part != "" && part != "."

/-- The path that a text spells. -/
def ofText (text : String) : Path :=
  { absolute := text.toList.head? == some '/'
    parts := ((Text.pieces '/' text.toList).map String.ofList).filter isPart }

/-- The spelling of a path. -/
def text (p : Path) : String :=
  if p.absolute then "/" ++ "/".intercalate p.parts
  else if p.parts.isEmpty then "." else "/".intercalate p.parts

/-- The path of an entry of a directory. -/
def child (p : Path) (name : String) : Path :=
  { p with parts := p.parts ++ [name] }

/-- The path without its last part. -/
def parent (p : Path) : Path :=
  { p with parts := p.parts.dropLast }

/-- The last part. -/
def name (p : Path) : String :=
  p.parts.getLast?.getD ""

/-- The last part from its last dot on, in lower case. There is none if the dot is the first or the
last character. -/
def suffix (p : Path) : String :=
  let (tail, rest) := p.name.toList.reverse.span (· != '.')
  match rest with
  | _ :: _ :: _ => if tail.isEmpty then "" else Text.lower (String.ofList ('.' :: tail.reverse))
  | _ => ""

/-- Takes a part of a path that starts at the root; two dots remove the part in front of them. -/
def follow (parts : List String) (part : String) : List String :=
  if part == up then parts.dropLast else parts ++ [part]

/-- The path from the root without two dots, seen from the directory with the given parts. -/
def resolve (current : List String) (p : Path) : Path :=
  { absolute := true, parts := p.parts.foldl follow (if p.absolute then [] else current) }

end Path

end ComponentFlow

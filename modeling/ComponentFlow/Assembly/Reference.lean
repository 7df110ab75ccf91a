import ComponentFlow.Text.Blank
import ComponentFlow.Text.Cut

/-!
# References

A reference in a component is a name with any accesses behind it, as in `user?.profile.name` or
`items[0].id`. Only its head and the first member accessed matter. Inside a loop the name of the
loop's item refers to the collection that is looped over.
-/

namespace ComponentFlow

/-- Writes every access as a point: a mark before a point is dropped, and an index in brackets, up
to the first closing bracket, becomes a point. -/
def normalizeAccess (skipping : Bool) : List Char → List Char
  | [] => []
  | c :: rest =>
    if skipping then normalizeAccess (c != ']') rest
    else if (c == '?' || c == '!') && rest.head? == some '.' then normalizeAccess false rest
    else if c == '[' && rest.contains ']' then '.' :: normalizeAccess true rest
    else c :: normalizeAccess false rest

/-- What stands between the points of a text, where it is something. -/
def partsOf (s : List Char) : List (List Char) :=
  (Text.pieces '.' s).filter (!·.isEmpty)

/-- The names in a reference. -/
def referenceParts (reference : String) : List (List Char) :=
  partsOf (normalizeAccess false (Text.trim reference.toList))

/-- The head of a reference and the first member accessed. -/
def splitReference (reference : String) : String × Option String :=
  match referenceParts reference with
  | [] => ("", none)
  | [head] => (String.ofList head, none)
  | head :: member :: _ => (String.ofList head, some (String.ofList member))

/-- The names of loop items, with the references to the collections they come from. -/
abbrev Scope := List (String × String)

/-- The reference with a loop item replaced by the collection it comes from. -/
def resolveScope (scope : Scope) (reference : String) : String :=
  (scope.lookup (splitReference reference).1).getD reference

end ComponentFlow

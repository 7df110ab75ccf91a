import ComponentFlow.Value.Yaml.Scalar

/-!
# Trees of YAML documents

A document as it is written, before its scalars are given values. The mark `<<` as a key merges
other mappings into its own: their entries come first, so that entries of its own win, and of
several mappings in a list the first one wins.

Values are given to a whole level of the tree before the next one. So of several faults the one
nearest to the root is found, and the first one of those.
-/

namespace ComponentFlow.Yaml

/-- A document or a part of it. -/
inductive Tree where
  | scalar (text : String) (plain : Bool)
  | sequence (items : List Tree)
  | mapping (entries : List (Tree × Tree))
  deriving Inhabited

/-- Why a text has no value. -/
inductive Fault where
  /-- It is not written in YAML, or a collection or mark stands where it cannot. -/
  | malformed
  /-- A scalar has no value. -/
  | scalar (cause : ScalarFault)
  deriving Repr, DecidableEq, Inhabited

/-- The fault of a text with a scalar that has no value. -/
def Fault.ofScalar : ScalarFault → Fault
  | .mark => .malformed
  | cause => .scalar cause

namespace Tree

/-- What stands for a missing value. -/
def missing : Tree := .scalar "" true

/-! ## Merging -/

/-- Whether a key is the mark for merging. -/
def isMerge : Tree → Bool
  | scalar text plain => plain && text == "<<"
  | _ => false

/-- A key. The mark `=` is a text there. -/
def asKey : Tree → Tree
  | scalar text plain => .scalar text (plain && text != "=")
  | t => t

/-- The entries of a mapping. -/
def entries? : Tree → Option (List (Tree × Tree))
  | mapping entries => some entries
  | _ => none

/-- The entries that are gained by merging: those of a mapping, or of the mappings in a list, the
last one first. -/
def gained? : Tree → Option (List (Tree × Tree))
  | scalar _ _ => none
  | sequence items => (items.mapM entries?).map fun (groups : List _) => groups.reverse.flatten
  | mapping entries => some entries

/-- The entries of a mapping after merging. A mark with which nothing can be merged stays, and
comes first. -/
def mergeEntries (entries : List (Tree × Tree)) : List (Tree × Tree) :=
  let gained := (entries.filter (·.1.isMerge)).flatMap fun e => (gained? e.2).getD [e]
  let all := gained ++ entries.filter (!·.1.isMerge)
  all.filter (·.1.isMerge) ++ all.filter (!·.1.isMerge)

mutual

/-- A tree with everything merged. -/
def merged : Tree → Tree
  | scalar text plain => .scalar text plain
  | sequence items => .sequence (mergedItems items)
  | mapping entries => .mapping (mergeEntries (mergedEntries entries))
termination_by structural t => t

/-- Several trees with everything merged. -/
def mergedItems : List Tree → List Tree
  | [] => []
  | t :: rest => t.merged :: mergedItems rest
termination_by structural items => items

/-- Several entries with everything below them merged. -/
def mergedEntries : List (Tree × Tree) → List (Tree × Tree)
  | [] => []
  | e :: rest => mergedEntry e :: mergedEntries rest
termination_by structural entries => entries

/-- An entry with everything below it merged. -/
def mergedEntry : Tree × Tree → Tree × Tree
  | (k, v) => (k.merged.asKey, v.merged)
termination_by structural entry => entry

end

/-! ## Faults -/

/-- The fault of a scalar; collections have none by themselves. -/
def ownFault? : Tree → Option Fault
  | scalar text true =>
    match plainValue text with
    | .error cause => some (.ofScalar cause)
    | .ok _ => none
  | _ => none

/-- The fault of a key. Collections cannot be keys. -/
def keyFault? : Tree → Option Fault
  | scalar text plain => ownFault? (.scalar text plain)
  | _ => some .malformed

/-- Two lists of levels as one, level by level. -/
def joinLevels {α : Type} : List (List α) → List (List α) → List (List α)
  | [], ys => ys
  | xs, [] => xs
  | x :: xs, y :: ys => (x ++ y) :: joinLevels xs ys

mutual

/-- The faults in the collections of a tree, level by level. -/
def faultLevels : Tree → List (List Fault)
  | scalar _ _ => []
  | sequence items => items.filterMap ownFault? :: itemLevels items
  | mapping entries =>
    (entries.flatMap fun e => (keyFault? e.1).toList ++ (ownFault? e.2).toList) ::
      entryLevels entries
termination_by structural t => t

/-- The faults in the collections of several trees, level by level. -/
def itemLevels : List Tree → List (List Fault)
  | [] => []
  | t :: rest => joinLevels t.faultLevels (itemLevels rest)
termination_by structural items => items

/-- The faults in the collections of several entries, level by level. -/
def entryLevels : List (Tree × Tree) → List (List Fault)
  | [] => []
  | e :: rest => joinLevels (valueLevels e) (entryLevels rest)
termination_by structural entries => entries

/-- The faults in the collections of the value of an entry, level by level. -/
def valueLevels : Tree × Tree → List (List Fault)
  | (_, v) => v.faultLevels
termination_by structural entry => entry

end

/-- The first fault of a tree. -/
def fault? (t : Tree) : Option Fault :=
  (ownFault? t).or t.faultLevels.flatten.head?

/-! ## Values -/

/-- The value of a scalar; null if it has none. -/
def scalarValue (text : String) (plain : Bool) : Value :=
  if plain then
    match plainValue text with
    | .ok v => v
    | .error _ => .null
  else .str text

mutual

/-- The value of a tree without faults. -/
def value : Tree → Value
  | scalar text plain => scalarValue text plain
  | sequence items => .list (itemValues items)
  | mapping entries => .map (Value.ofEntries (entryValues entries))
termination_by structural t => t

/-- The values of several trees. -/
def itemValues : List Tree → List Value
  | [] => []
  | t :: rest => t.value :: itemValues rest
termination_by structural items => items

/-- The values of several entries. -/
def entryValues : List (Tree × Tree) → List (Value × Value)
  | [] => []
  | e :: rest => entryValue e :: entryValues rest
termination_by structural entries => entries

/-- The value of an entry. -/
def entryValue : Tree × Tree → Value × Value
  | (k, v) => (k.value, v.value)
termination_by structural entry => entry

end

/-- The value of a document. -/
def read (t : Tree) : Except Fault Value :=
  let t := t.merged
  match t.fault? with
  | some fault => .error fault
  | none => .ok t.value

end Tree

end ComponentFlow.Yaml

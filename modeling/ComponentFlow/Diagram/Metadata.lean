import ComponentFlow.Assoc
import ComponentFlow.Value.Basic

/-!
# Metadata

What is recorded about a node besides its label and type: values under names, in the order in which
the names were first given. Records are merged when a node is met again: lists gain the items they
lack, mappings are updated, and everything else is replaced.
-/

namespace ComponentFlow

/-- Values under names, in order. -/
abbrev Metadata := List (String × Value)

/-- A list of names as a value. -/
def Value.ofNames (names : List String) : Value :=
  .list (names.map .str)

/-- Names under names as a value. -/
def Value.ofTexts (entries : List (String × String)) : Value :=
  .map (entries.map fun e => (.str e.1, .str e.2))

/-- Whether a value is among the items. -/
def Value.isAmong (items : List Value) (v : Value) : Bool :=
  items.any (·.same v)

/-- The items with those of `news` that are not among them yet, each once. -/
def Value.gain (items news : List Value) : List Value :=
  news.foldl (fun done v => if Value.isAmong done v then done else done ++ [v]) items

/-- The entries updated by others. -/
def Value.update (entries news : List (Value × Value)) : List (Value × Value) :=
  news.foldl (fun done e => Value.insertEntry e.1 e.2 done) entries

/-- The value that results when `new` is recorded where `old` was. -/
def Value.merge (old new : Value) : Value :=
  match old, new with
  | .list items, .list news => .list (Value.gain items news)
  | .list items, .tuple news => .list (Value.gain items news)
  | .map entries, .map news => .map (Value.update entries news)
  | _, new => new

namespace Metadata

/-- The value under a name, where a missing name counts as null. -/
def get (m : Metadata) (key : String) : Value :=
  (m.lookup key).getD .null

/-- Records a value under a name, replacing the one that is there. -/
def set (m : Metadata) (key : String) (value : Value) : Metadata :=
  Assoc.insert key value m

/-- Merges one value into the record. -/
def mergeEntry (m : Metadata) (key : String) (value : Value) : Metadata :=
  m.set key ((m.get key).merge value)

/-- Merges a record into another one. -/
def merge (m patch : Metadata) : Metadata :=
  patch.foldl (fun done e => done.mergeEntry e.1 e.2) m

/-- The record with a value for a name that has none yet. -/
def setDefault (m : Metadata) (key : String) (value : Value) : Metadata :=
  if (m.lookup key).isSome then m else m ++ [(key, value)]

/-- The record as one value. -/
def toValue (m : Metadata) : Value :=
  .map (m.map fun e => (.str e.1, e.2))

end Metadata

end ComponentFlow

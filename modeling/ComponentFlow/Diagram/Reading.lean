import ComponentFlow.Diagram.Metadata

/-!
# Reading records

Links between nodes are found by reading what is recorded about the nodes: which names write a
node, what it depends on, how its variables are called. Records of this library always have the
shape that their readers expect. Records of other processors may have any shape, and reading one
that does not fit is a fault.
-/

namespace ComponentFlow

/-- Why a record cannot be read. Every cause names the kind of the value that was found. -/
inductive RecordError where
  /-- A value without members was asked for one. -/
  | noMembers (kind : String)
  /-- A value without items was gone through. -/
  | noItems (kind : String)
  /-- A value was put to a use that its kind does not have. -/
  | noUse (kind use : String)
  /-- A value was looked up that cannot be a key. -/
  | noKey (kind : String)
  deriving Repr, DecidableEq, Inhabited

/-- The message for a record that cannot be read. -/
def RecordError.message : RecordError → String
  | noMembers kind => "argument of type '" ++ kind ++ "' is not iterable"
  | noItems kind => "'" ++ kind ++ "' object is not iterable"
  | noUse kind use => "'" ++ kind ++ "' object has no attribute '" ++ use ++ "'"
  | noKey kind => "unhashable type: '" ++ kind ++ "'"

/-- Whether a text occurs within another one. -/
def Text.occursIn (part : List Char) : List Char → Bool
  | [] => part.isEmpty
  | c :: rest => part.isPrefixOf (c :: rest) || occursIn part rest

namespace Value

/-- Whether a text is a member: an item of a collection, a key of a mapping, or a part of a text. -/
def holds (name : String) : Value → Bool
  | list items => items.any (·.asText? == some name)
  | tuple items => items.any (·.asText? == some name)
  | set items => items.any (·.asText? == some name)
  | map entries => entries.any (·.1.asText? == some name)
  | str s => Text.occursIn name.toList s.toList
  | _ => false

/-- The fault of asking a value for a member. -/
def memberFault? : Value → Option RecordError
  | list _ => none
  | tuple _ => none
  | set _ => none
  | map _ => none
  | str _ => none
  | v => some (.noMembers v.kindName)

/-- What a value consists of: the items of a collection, the keys of a mapping, or the characters of
a text. -/
def parts : Value → List Value
  | list items => items
  | tuple items => items
  | set items => items
  | map entries => entries.map Prod.fst
  | str s => s.toList.map fun c => str (String.ofList [c])
  | _ => []

/-- The fault of going through the parts of a value. -/
def partsFault? : Value → Option RecordError
  | list _ => none
  | tuple _ => none
  | set _ => none
  | map _ => none
  | str _ => none
  | v => some (.noItems v.kindName)

mutual

/-- The kind of the first value that keeps a value from being a key: collections that can change
are no keys, and a tuple is one if its items are. -/
def keyFault? : Value → Option RecordError
  | list _ => some (.noKey "list")
  | set _ => some (.noKey "set")
  | map _ => some (.noKey "dict")
  | tuple items => itemsKeyFault? items
  | _ => none
termination_by structural v => v

/-- The fault of the first of several values that cannot be a key. -/
def itemsKeyFault? : List Value → Option RecordError
  | [] => none
  | v :: rest => (keyFault? v).or (itemsKeyFault? rest)
termination_by structural items => items

end

end Value

namespace Metadata

/-- Whether the value under a name lists a text. -/
def lists (m : Metadata) (key name : String) : Bool :=
  (m.lookup key).any (·.holds name)

/-- The fault of asking the value under a name for a text. What is not recorded lists nothing. -/
def listFault? (m : Metadata) (key : String) : Option RecordError :=
  (m.lookup key).bind Value.memberFault?

end Metadata

end ComponentFlow

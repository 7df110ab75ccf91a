import ComponentFlow.Assembly.Reference
import ComponentFlow.Assoc
import ComponentFlow.Component.Basic
import ComponentFlow.Diagram.Basic
import ComponentFlow.Value.Display

/-!
# Names in a component

Which node a name of the component stands for. Nodes claim the names of their variables and the
names of processes in the order of their creation, and the first claim counts. So the variables of
hooks, which come first, hide props and processes of the same name. An index notes the first record
that cannot be read.
-/

namespace ComponentFlow

/-- A claim on a name: the node, the role of the variable and the property it holds. -/
structure Claim where
  node : Node
  role : Role
  property : String
  deriving Inhabited

/-- The claims on names, the nodes by their labels, and the first fault met on the way. -/
structure NameIndex where
  claims : List (String × Claim) := []
  labels : List (String × Node) := []
  fault : Option RecordError := none
  deriving Inhabited

/-- A reference resolved to a node. -/
structure Binding where
  name : String
  node : Node
  role : Role
  property : String
  member : Option String := none
  deriving Inhabited

namespace NameIndex

/-- Claims a name that nobody has claimed. Without a property the variable holds one of its own
name. -/
def claim (x : NameIndex) (name : String) (node : Node) (role : Role) (property : Option String) :
    NameIndex :=
  { x with
    claims := Assoc.insertNew name ⟨node, role, (property.filter (· != "")).getD name⟩ x.claims }

/-- The word of a role in a record. -/
def roleOf (v : Value) : Role := ⟨v.display⟩

/-- The variables that a node records, with their roles. -/
def variablesOf (n : Node) : List (String × Role) :=
  match n.metadata.get "variables" with
  | .map entries => entries.filterMap fun e => e.1.asText?.map (·, roleOf e.2)
  | _ => []

/-- The property that a variable of a node holds under another name. -/
def aliasOf (n : Node) (name : String) : Option String :=
  match n.metadata.get "aliases" with
  | .map entries => (Value.lookup name entries).bind Value.asText?
  | _ => none

/-- The fault of looking up the properties of a node's variables: they are recorded, and not as a
mapping. -/
def aliasFault? (n : Node) : Option RecordError :=
  match n.metadata.get "variables", n.metadata.get "aliases" with
  | .map (_ :: _), .map _ => none
  | .map (_ :: _), v => if v.isTruthy then some (.noUse v.kindName "get") else none
  | _, _ => none

/-- The name of the process that a node stands for. -/
def processOf (n : Node) : Option String :=
  if n.type == NodeType.process.name then
    (n.metadata.get "process").asText?.filter (· != "")
  else none

/-- The fault of claiming the name of the process that a node stands for. -/
def processFault? (n : Node) : Option RecordError :=
  if n.type == NodeType.process.name && (n.metadata.get "process").isTruthy then
    (n.metadata.get "process").keyFault?
  else none

/-- Enters a node: its variables, the process it stands for, and its label. -/
def addNode (x : NameIndex) (n : Node) : NameIndex :=
  let fault := (x.fault.or (aliasFault? n)).or (processFault? n)
  let x := (variablesOf n).foldl (fun x v => x.claim v.1 n v.2 (aliasOf n v.1)) x
  let x := (processOf n).toList.foldl (fun x name => x.claim name n .function none) x
  { x with labels := Assoc.insertNew n.label n x.labels, fault }

/-- The index of several nodes. -/
def ofNodes (nodes : List Node) : NameIndex :=
  nodes.foldl addNode {}

/-- Whether a name is claimed. -/
def contains (x : NameIndex) (name : String) : Bool :=
  (x.claims.lookup name).isSome

/-- The node that the head of a reference stands for. -/
def resolve (x : NameIndex) (reference : String) : Option Binding :=
  let (name, member) := splitReference reference
  (x.claims.lookup name).map fun c => ⟨name, c.node, c.role, c.property, member⟩

/-- The node that a reference stands for, or else the node with that label. -/
def resolveLabel (x : NameIndex) (name : String) : Option Node :=
  match x.resolve name with
  | some b => some b.node
  | none => x.labels.lookup name

/-- The role of a reference; an unknown one is data. -/
def roleAt (x : NameIndex) (reference : String) : Role :=
  ((x.resolve reference).map (·.role)).getD .data

end NameIndex

namespace Binding

/-- Whether the variable is called. -/
def isFunction (b : Binding) : Bool := b.role = .function

/-- Whether the node stands for a process of the component. -/
def isProcess (b : Binding) : Bool :=
  b.node.type == NodeType.process.name &&
    match b.node.metadata.get "process" with
    | .null => false
    | _ => true

/-- Whether a call of the variable writes its node. -/
def isWriter (b : Binding) : Bool :=
  b.node.metadata.lists "writers" b.name

/-- The fault of asking whether the variable writes its node. -/
def writerFault? (b : Binding) : Option RecordError :=
  b.node.metadata.listFault? "writers"

/-- Whether a call of the variable sends an action to its node. -/
def isDispatcher (b : Binding) : Bool :=
  b.node.metadata.lists "dispatchers" b.name

/-- The fault of asking whether the variable sends actions to its node. -/
def dispatcherFault? (b : Binding) : Option RecordError :=
  b.node.metadata.listFault? "dispatchers"

/-- Records that list the properties of a node. -/
def propertyLists : List String :=
  ["properties", "data_properties", "state_properties", "data_values"]

/-- Whether a record lists the property among others. -/
def isListed (b : Binding) (v : Value) : Bool :=
  match v with
  | .list items => 1 < items.length && items.any (·.asText? == some b.property)
  | .tuple items => 1 < items.length && items.any (·.asText? == some b.property)
  | _ => false

/-- What an edge is about: the member accessed, or the property of a node that has several. -/
def subLabel (b : Binding) : Option String :=
  match b.member with
  | some member => some member
  | none =>
    if propertyLists.any fun key => b.isListed (b.node.metadata.get key) then some b.property
    else none

/-- The label of an edge for the binding. -/
def label (b : Binding) (base : String) : String :=
  match b.subLabel with
  | some sub => base ++ ": " ++ sub
  | none => base

/-- The binding of a callee. The member in a call with a single point is the method, not a value. -/
def ofCallee (b : Binding) (callee : String) : Binding :=
  if callee.toList.count '.' = 1 then { b with member := none } else b

end Binding

end ComponentFlow

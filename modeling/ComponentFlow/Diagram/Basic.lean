import ComponentFlow.Diagram.Reading

/-!
# Diagrams

A data-flow diagram: nodes, labelled edges between them, and groups of nodes. Every group is also a
node of its own, of the type `subgraph`. Operations check what they are given and leave the diagram
as it is if they refuse.
-/

namespace ComponentFlow

/-- The node types that renderers know. -/
inductive NodeType where
  | input
  | output
  | store
  | process
  | group
  deriving Repr, DecidableEq, Inhabited

/-- The word for a node type. -/
def NodeType.name : NodeType → String
  | input => "external-entity-input"
  | output => "external-entity-output"
  | store => "data-store"
  | process => "process"
  | group => "subgraph"

/-- All node types. -/
def NodeType.all : List NodeType := [input, output, store, process, group]

/-- Whether a word is that of a node type. -/
def isNodeType (name : String) : Bool :=
  NodeType.all.any (·.name == name)

/-- A node. Its type is a word, since contributions from outside may use any; only nodes with a
known type get into a diagram. Names in `linked` stand for one list: a list that gains items under
one of two linked names gains them under the other one too. -/
structure Node where
  id : String
  label : String
  type : String
  position : Option Position := none
  metadata : Metadata := []
  linked : List (String × String) := []
  deriving Inhabited

/-- A directed, labelled flow between two nodes. -/
structure Edge where
  source : String
  target : String
  label : String
  deriving Repr, DecidableEq, Inhabited

/-- A group of nodes. -/
structure Group where
  id : String
  label : String
  parent : Option String := none
  kind : String := "output"
  members : List String := []
  metadata : Metadata := []
  deriving Inhabited

/-- The diagram of one component. Nodes, edges and groups are in the order of their creation. -/
structure Diagram where
  component : String
  nodes : List Node := []
  edges : List Edge := []
  groups : List Group := []
  deriving Inhabited

/-- Why an operation on a diagram is refused. -/
inductive DiagramError where
  | unknownType (type id : String)
  | duplicateNode (id : String)
  | missingEndpoint (id : String)
  | unknownParent (id : String)
  /-- A group to be taken out is not among the members of its parent. -/
  | notAMember
  /-- What is recorded about a node cannot be read. -/
  | unreadable (cause : RecordError)
  deriving Repr, DecidableEq, Inhabited

/-- The message for a refusal. -/
def DiagramError.message : DiagramError → String
  | unknownType type id => "Unknown node type '" ++ type ++ "' for node '" ++ id ++ "'"
  | duplicateNode id => "Duplicate node id '" ++ id ++ "'"
  | missingEndpoint id => "Edge endpoint '" ++ id ++ "' does not exist"
  | unknownParent id => "Unknown parent subgraph '" ++ id ++ "'"
  | notAMember => "list.remove(x): x not in list"
  | unreadable cause => cause.message

namespace Node

/-- The names that stand for the same list as a name, this one first. -/
def synonyms (n : Node) (key : String) : List String :=
  key :: n.linked.filterMap fun l =>
    if l.1 == key then some l.2 else if l.2 == key then some l.1 else none

/-- Merges a record into the metadata of a node. -/
def patchEntry (n : Node) (key : String) (value : Value) : Node :=
  let merged := (n.metadata.get key).merge value
  let extended := match n.metadata.get key, value with
    | .list _, .list _ => true
    | .list _, .tuple _ => true
    | _, _ => false
  if extended then
    { n with metadata := (n.synonyms key).foldl (fun m k => m.set k merged) n.metadata }
  else
    { n with
      metadata := n.metadata.set key merged
      linked := n.linked.filter fun l => l.1 != key && l.2 != key }

/-- Merges several entries into the metadata of a node. -/
def patch (n : Node) (entries : Metadata) : Node :=
  entries.foldl (fun n e => n.patchEntry e.1 e.2) n

end Node

namespace Diagram

/-- The node with an id. -/
def node? (d : Diagram) (id : String) : Option Node :=
  d.nodes.find? (·.id == id)

/-- Whether there is a node with the id. -/
def contains (d : Diagram) (id : String) : Bool :=
  d.nodes.any (·.id == id)

/-- The group with an id. -/
def group? (d : Diagram) (id : String) : Option Group :=
  d.groups.find? (·.id == id)

/-- Adds a node of a known type with a new id. -/
def addNode (d : Diagram) (n : Node) : Except DiagramError Diagram :=
  if !isNodeType n.type then .error (.unknownType n.type n.id)
  else if d.contains n.id then .error (.duplicateNode n.id)
  else .ok { d with nodes := d.nodes ++ [n] }

/-- Removes a node with its edges, and the group with its id. -/
def removeNode (d : Diagram) (id : String) : Diagram :=
  { d with
    nodes := d.nodes.filter (·.id != id)
    groups := d.groups.filter (·.id != id)
    edges := d.edges.filter fun e => e.source != id && e.target != id }

/-- Adds an edge between two nodes. -/
def addEdge (d : Diagram) (e : Edge) : Except DiagramError Diagram :=
  if !d.contains e.source then .error (.missingEndpoint e.source)
  else if !d.contains e.target then .error (.missingEndpoint e.target)
  else .ok { d with edges := d.edges ++ [e] }

/-- Replaces all edges, without checks. -/
def replaceEdges (d : Diagram) (edges : List Edge) : Diagram :=
  { d with edges }

/-- A text, or null if there is none. -/
def optionalText (s : Option String) : Value :=
  match s with
  | some s => .str s
  | none => .null

/-- The node that stands for a group. -/
def groupNode (g : Group) : Node :=
  { id := g.id, label := g.label, type := NodeType.group.name
    metadata := [("kind", .str g.kind), ("parent", optionalText g.parent)] }

/-- Adds a group, whose parent has to be there, with the node that stands for it. -/
def addGroup (d : Diagram) (g : Group) : Except DiagramError Diagram :=
  match g.parent with
  | some parent =>
    if (d.group? parent).isNone then .error (.unknownParent parent)
    else (d.addNode (groupNode g)).map fun d => { d with groups := d.groups ++ [g] }
  | none => (d.addNode (groupNode g)).map fun d => { d with groups := d.groups ++ [g] }

/-- The edges from one node to another. -/
def edgesBetween (d : Diagram) (source target : String) : List Edge :=
  d.edges.filter fun e => e.source == source && e.target == target

/-- The nodes with a label. -/
def nodesLabelled (d : Diagram) (label : String) : List Node :=
  d.nodes.filter (·.label == label)

/-- Changes the node with an id. -/
def modifyNode (d : Diagram) (id : String) (f : Node → Node) : Diagram :=
  { d with nodes := d.nodes.map fun n => if n.id == id then f n else n }

/-- Changes the group with an id. -/
def modifyGroup (d : Diagram) (id : String) (f : Group → Group) : Diagram :=
  { d with groups := d.groups.map fun g => if g.id == id then f g else g }

end Diagram

end ComponentFlow

import ComponentFlow.Assoc
import ComponentFlow.Diagram.Basic

/-!
# Contributions

What one hook call contributes to a diagram: new nodes, edges and groups, resource keys bound to
nodes, and records to be merged into nodes that are there already. A contribution is put together
first and committed as a whole.
-/

namespace ComponentFlow

/-- The contribution of one hook call. -/
structure Contribution where
  nodes : List Node := []
  edges : List Edge := []
  groups : List Group := []
  resources : List (String × String) := []
  updates : List (String × Metadata) := []
  handled : Bool := true
  deriving Inhabited

namespace Contribution

/-- Adds a node. -/
def addNode (c : Contribution) (n : Node) : Contribution :=
  { c with nodes := c.nodes ++ [n] }

/-- Binds a resource key to a node. -/
def bind (c : Contribution) (key id : String) : Contribution :=
  { c with resources := Assoc.insert key id c.resources }

/-- Adds a node and binds a resource key to it. -/
def addShared (c : Contribution) (key : String) (n : Node) : Contribution :=
  (c.addNode n).bind key n.id

/-- Adds an edge that is not there yet. -/
def addEdge (c : Contribution) (e : Edge) : Contribution :=
  if c.edges.contains e then c else { c with edges := c.edges ++ [e] }

/-- Adds records for a node that is in the diagram already. -/
def update (c : Contribution) (id : String) (entries : Metadata) : Contribution :=
  { c with updates := c.updates ++ [(id, entries)] }

/-- The new node with an id. -/
def pending? (c : Contribution) (id : String) : Option Node :=
  c.nodes.find? (·.id == id)

/-- A contribution of at most one node. -/
def ofNode (n : Option Node) : Contribution :=
  { nodes := n.toList }

/-- Changes the new node with an id. -/
def modifyNode (c : Contribution) (id : String) (f : Node → Node) : Contribution :=
  { c with nodes := c.nodes.map fun n => if n.id == id then f n else n }

end Contribution

end ComponentFlow

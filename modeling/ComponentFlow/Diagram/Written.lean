import ComponentFlow.Diagram.Basic
import ComponentFlow.Value.Display

/-!
# Written diagrams

Diagrams as values, ready to be written as JSON or YAML. Sets are written as sorted lists, tuples as
lists, and positions as mappings of line and column.
-/

namespace ComponentFlow

/-- A column as a value. -/
def Column.toValue : Column → Value
  | .number n => .int n
  | .flag b => .bool b

/-- A position as a value. -/
def Position.toValue (p : Position) : Value :=
  .map [(.str "line", .int p.line), (.str "column", p.column.toValue)]

/-- The order of the members of a written set: texts by code points, numbers by size. -/
def Value.precedes (a b : Value) : Bool :=
  match a, b with
  | .str s, .str t => s ≤ t
  | .float x, .float y => x ≤ y
  | .float x, v => v.asInt?.all fun n => decide (x ≤ Float.ofInt n)
  | v, .float y => v.asInt?.all fun n => decide (Float.ofInt n ≤ y)
  | v, w =>
    match v.asInt?, w.asInt? with
    | some m, some n => m ≤ n
    | _, _ => true

mutual

/-- A value without sets, tuples and positions. -/
def Value.plain : Value → Value
  | .list items => .list (plainItems items)
  | .tuple items => .list (plainItems items)
  | .set items => .list (((plainPairs items).mergeSort fun a b => a.1.precedes b.1).map Prod.snd)
  | .position p => p.toValue
  | .map entries => .map (plainEntries entries)
  | v => v
termination_by structural v => v

/-- Several values without sets, tuples and positions. -/
def Value.plainItems : List Value → List Value
  | [] => []
  | v :: rest => v.plain :: plainItems rest
termination_by structural items => items

/-- Values, each with its plain form. -/
def Value.plainPairs : List Value → List (Value × Value)
  | [] => []
  | v :: rest => (v, v.plain) :: plainPairs rest
termination_by structural items => items

/-- Entries with texts as keys, without sets, tuples and positions. -/
def Value.plainEntries : List (Value × Value) → List (Value × Value)
  | [] => []
  | entry :: rest => plainEntry entry :: plainEntries rest
termination_by structural entries => entries

/-- One entry with a text as key, without sets, tuples and positions. -/
def Value.plainEntry : Value × Value → Value × Value
  | (k, v) => (.str k.display, v.plain)
termination_by structural entry => entry

end

/-- A node as a value; the position is left out if there is none. -/
def Node.toValue (n : Node) : Value :=
  .map ([(.str "id", .str n.id), (.str "label", .str n.label), (.str "type", .str n.type)] ++
    (n.position.toList.map fun p => (.str "position", p.toValue)) ++
    [(.str "metadata", n.metadata.toValue.plain)])

/-- An edge as a value. -/
def Edge.toValue (e : Edge) : Value :=
  .map [(.str "from", .str e.source), (.str "to", .str e.target), (.str "label", .str e.label)]

/-- A group as a value. -/
def Group.toValue (g : Group) : Value :=
  .map [(.str "id", .str g.id), (.str "label", .str g.label),
    (.str "parent", Diagram.optionalText g.parent), (.str "kind", .str g.kind),
    (.str "members", .ofNames g.members)]

/-- A diagram as a value. -/
def Diagram.toValue (d : Diagram) : Value :=
  .map [(.str "component", .str d.component), (.str "analyzable", .bool true),
    (.str "nodes", .list (d.nodes.map Node.toValue)),
    (.str "edges", .list (d.edges.map Edge.toValue)),
    (.str "subgraphs", .list (d.groups.map Group.toValue))]

end ComponentFlow

import ComponentFlow.Diagram.Basic
import ComponentFlow.Text.Blank
import ComponentFlow.Text.Cut

/-!
# Merging edges

The label of an edge is a base label, or a base label and, after a colon, sub-labels set apart by
commas. Edges with the same ends and the same base label are merged into one edge at the place of
the first, which carries the sub-labels of all of them, each once.
-/

namespace ComponentFlow

/-- The label up to the first colon. -/
def Edge.base (e : Edge) : String :=
  String.ofList (Text.trim (Text.before ':' e.label.toList))

/-- Whether the label has a colon. -/
def Edge.hasSubLabel (e : Edge) : Bool :=
  e.label.toList.contains ':'

/-- The sub-labels: the parts after the first colon, without blank ones. -/
def Edge.subLabels (e : Edge) : List String :=
  match Text.after? ':' e.label.toList with
  | none => []
  | some rest => (((Text.pieces ',' rest).map Text.trim).filter (!·.isEmpty)).map String.ofList

/-- All edges between two nodes that share a base label, with their sub-labels. -/
structure Flow where
  source : String
  target : String
  base : String
  subs : List String := []
  deriving Repr, DecidableEq, Inhabited

namespace Flow

/-- What edges of one flow have in common. -/
abbrev Key := String × String × String

/-- The key of a flow. -/
def key (f : Flow) : Key := (f.source, f.target, f.base)

/-- Adds a sub-label that the flow does not have yet. -/
def addSub (f : Flow) (sub : String) : Flow :=
  if f.subs.contains sub then f else { f with subs := f.subs ++ [sub] }

/-- Adds several sub-labels. -/
def addSubs (f : Flow) (subs : List String) : Flow :=
  subs.foldl addSub f

/-- The flow of a single edge. -/
def ofEdge (e : Edge) : Flow :=
  addSubs { source := e.source, target := e.target, base := e.base } e.subLabels

/-- The label of a flow. -/
def label (f : Flow) : String :=
  if f.subs.isEmpty then f.base else f.base ++ ": " ++ ", ".intercalate f.subs

/-- The flow as one edge. -/
def toEdge (f : Flow) : Edge :=
  ⟨f.source, f.target, f.label⟩

/-- Joins a flow with the one that has its key, or puts it at the end. -/
def gather (new : Flow) : List Flow → List Flow
  | [] => [new]
  | f :: rest => if f.key == new.key then f.addSubs new.subs :: rest else f :: gather new rest

end Flow

/-- The flows of a list of edges, in the order of their first edges. -/
def flows (edges : List Edge) : List Flow :=
  edges.foldl (fun done e => Flow.gather (Flow.ofEdge e) done) []

/-- One edge for each flow. -/
def mergeEdges (edges : List Edge) : List Edge :=
  (flows edges).map Flow.toEdge

end ComponentFlow

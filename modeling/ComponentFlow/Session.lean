import ComponentFlow.Component.Basic
import ComponentFlow.Decimal.Format
import ComponentFlow.Diagram.Contribution
import ComponentFlow.Journal

/-!
# Sessions

The state of one analysis: the diagram under construction, counters for new ids, the nodes that hook
calls share under resource keys, and the faults of processors. Each analysis has a session of its
own.

A contribution is checked before it is committed. A fault found by the checks leaves the session as
it is. Node types and the parents of groups are checked only while the contribution is applied, so a
fault of that kind leaves what was applied before it.
-/

namespace ComponentFlow

/-- A fault of a processor on a hook. -/
structure ProcessorFault where
  processor : String
  hook : String
  message : String
  deriving Repr, DecidableEq, Inhabited

/-- The state of one analysis. -/
structure Session where
  component : Component
  diagram : Diagram
  atoms : List (String × Atom) := []
  counters : List (String × Nat) := []
  resources : List (String × String) := []
  faults : List ProcessorFault := []
  journal : Journal := []
  deriving Inhabited

/-- Why a contribution is not committed. -/
inductive CommitError where
  | duplicateNode (id : String)
  | unknownEnds (source target : String)
  | unknownResource (key id : String)
  | unknownUpdate (id : String)
  /-- The contribution passed the checks, and the diagram refused a part of it. -/
  | refused (cause : DiagramError)
  deriving Repr, DecidableEq, Inhabited

/-- The message for a commit error. -/
def CommitError.message : CommitError → String
  | duplicateNode id => "Duplicate node id '" ++ id ++ "'"
  | unknownEnds source target =>
    "Edge " ++ source ++ " -> " ++ target ++ " references an unknown node"
  | unknownResource key id => "Resource '" ++ key ++ "' bound to unknown node '" ++ id ++ "'"
  | unknownUpdate id => "Cannot update unknown node '" ++ id ++ "'"
  | refused cause => cause.message

/-- Adds items one after the other until one is refused. -/
def Diagram.addUntil {α : Type} (add : Diagram → α → Except DiagramError Diagram) :
    Diagram → List α → Diagram × Option DiagramError
  | d, [] => (d, none)
  | d, x :: rest =>
    match add d x with
    | .ok d => Diagram.addUntil add d rest
    | .error e => (d, some e)

namespace Session

/-- The session of a component before its first hook. Of several atoms with one name the last one
counts. -/
def start (component : Component) (atoms : List Atom) : Session :=
  { component
    diagram := { component := component.name }
    atoms := Assoc.ofList (atoms.map fun a => (a.name, a)) }

/-- The id with a stem and a number. -/
def idOf (stem : String) (number : Nat) : String :=
  stem ++ "_" ++ Decimal.intText number

/-- The number of ids that were given to a stem. -/
def count (s : Session) (stem : String) : Nat :=
  (s.counters.lookup stem).getD 0

/-- A new id with the given stem: the stem and the number of ids it was given before. -/
def nextId (s : Session) (stem : String) : String × Session :=
  (idOf stem (s.count stem),
    { s with counters := Assoc.insert stem (s.count stem + 1) s.counters })

/-- Writes a record. -/
def record (s : Session) (level : Level) (origin message : String) : Session :=
  { s with journal := s.journal ++ [⟨level, origin, message⟩] }

/-- The node bound to a resource key. -/
def resource? (s : Session) (key : String) : Option Node :=
  (s.resources.lookup key).bind s.diagram.node?

/-- Notes a fault of a processor. -/
def noteFault (s : Session) (fault : ProcessorFault) : Session :=
  { s with faults := s.faults ++ [fault] }

/-- The node bound to a resource key, by the session or by the contribution. -/
def findShared? (s : Session) (c : Contribution) (key : String) : Option Node :=
  match s.resource? key with
  | some n => some n
  | none => (c.resources.lookup key).bind c.pending?

/-- The node bound to a resource key; if there is none, a new one that the contribution binds. -/
def sharedNode (s : Session) (c : Contribution) (key : String) (make : Session → Node × Session) :
    Node × Contribution × Session :=
  match s.findShared? c key with
  | some n => (n, c, s)
  | none =>
    let (n, s) := make s
    (n, c.addShared key n, s)

/-- The first new node whose id is taken, by the diagram or by a new node before it. -/
def duplicate? (s : Session) : (seen : List String) → List Node → Option String
  | _, [] => none
  | seen, n :: rest =>
    if s.diagram.contains n.id || seen.contains n.id then some n.id
    else duplicate? s (n.id :: seen) rest

/-- Whether an id is that of a node of the diagram or of a new node. -/
def knows (s : Session) (c : Contribution) (id : String) : Bool :=
  s.diagram.contains id || c.nodes.any (·.id == id)

/-- Checks a contribution: new ids, the ends of edges, bound nodes and updated nodes, in this
order. -/
def check (s : Session) (c : Contribution) : Option CommitError :=
  match s.duplicate? [] c.nodes with
  | some id => some (.duplicateNode id)
  | none =>
    match c.edges.find? fun e => !(s.knows c e.source && s.knows c e.target) with
    | some e => some (.unknownEnds e.source e.target)
    | none =>
      match c.resources.find? fun r => !s.knows c r.2 with
      | some (key, id) => some (.unknownResource key id)
      | none =>
        match c.updates.find? fun u => !s.diagram.contains u.1 with
        | some (id, _) => some (.unknownUpdate id)
        | none => none

/-- Merges records into a node of the diagram. -/
def applyUpdate (d : Diagram) (update : String × Metadata) : Diagram :=
  d.modifyNode update.1 (·.patch update.2)

/-- Applies a contribution: nodes, groups, edges, resources, updates. It stops where the diagram
refuses. -/
def apply (s : Session) (c : Contribution) : Session × Option DiagramError :=
  match s.diagram.addUntil Diagram.addNode c.nodes with
  | (d, some e) => ({ s with diagram := d }, some e)
  | (d, none) =>
    match d.addUntil Diagram.addGroup c.groups with
    | (d, some e) => ({ s with diagram := d }, some e)
    | (d, none) =>
      match d.addUntil Diagram.addEdge c.edges with
      | (d, some e) => ({ s with diagram := d }, some e)
      | (d, none) =>
        ({ s with
           diagram := c.updates.foldl applyUpdate d
           resources := Assoc.insertAll s.resources c.resources }, none)

/-- Commits a contribution: the session afterwards, and the error if there was one. -/
def commit (s : Session) (c : Contribution) : Session × Option CommitError :=
  match s.check c with
  | some e => (s, some e)
  | none =>
    let (s, refusal) := s.apply c
    (s, refusal.map .refused)

end Session

end ComponentFlow

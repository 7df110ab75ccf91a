import ComponentFlow.Session

/-!
# Builds

A diagram under construction by the assembler. A build stops at the first refusal of the diagram, or
at the first record that cannot be read: from then on nothing changes and nothing is recorded. With
the processors of this library there is no refusal; contributions of others can bring one about.
-/

namespace ComponentFlow

/-- A link that the component asks for. -/
inductive Link where
  | edge (e : Edge)
  /-- An edge whose label is no text but a value of another kind. -/
  | unlabelled (source target kind : String)
  /-- What is recorded about the nodes does not tell which edge it is. -/
  | unreadable (cause : RecordError)
  deriving Repr, DecidableEq, Inhabited

/-- The session whose diagram is built, and the first refusal. Edges whose label is no text are kept
apart, with the kinds of their labels; they end the build when edges are merged. -/
structure Build where
  session : Session
  refusal : Option DiagramError := none
  unlabelled : List (String × String × String) := []
  deriving Inhabited

theorem NodeType.output_ne_group : NodeType.output ≠ .group := nofun

theorem NodeType.process_ne_group : NodeType.process ≠ .group := nofun

/-- What a node is to be that stands for no group. Its id is drawn for the stem when it is added. -/
structure Sketch where
  stem : String
  label : String
  type : NodeType
  type_ne_group : type ≠ .group
  position : Option Position := none
  metadata : Metadata := []

namespace Build

/-- The diagram that is built. -/
def diagram (b : Build) : Diagram := b.session.diagram

/-- Changes the diagram, unless the build has stopped. -/
def change (b : Build) (f : Diagram → Except DiagramError Diagram) : Build :=
  match b.refusal with
  | some _ => b
  | none =>
    match f b.diagram with
    | .ok d => { b with session := { b.session with diagram := d } }
    | .error e => { b with refusal := some e }

/-- Stops the build, unless it has stopped. -/
def stop (b : Build) (e : DiagramError) : Build :=
  { b with refusal := b.refusal.or (some e) }

/-- Writes a record, unless the build has stopped. -/
def record (b : Build) (level : Level) (origin message : String) : Build :=
  match b.refusal with
  | some _ => b
  | none => { b with session := b.session.record level origin message }

/-- A new id. -/
def nextId (b : Build) (stem : String) : String × Build :=
  let (id, session) := b.session.nextId stem
  (id, { b with session })

/-- The node that is added next for a sketch. -/
def newNode (b : Build) (sketch : Sketch) : Node :=
  { id := (b.nextId sketch.stem).1, label := sketch.label, type := sketch.type.name
    position := sketch.position, metadata := sketch.metadata }

/-- Adds a node with a new id. -/
def addNode (b : Build) (sketch : Sketch) : String × Build :=
  let n := b.newNode sketch
  (n.id, (b.nextId sketch.stem).2.change (·.addNode n))

/-- Changes a node. -/
def modifyNode (b : Build) (id : String) (f : Node → Node) : Build :=
  b.change fun d => .ok (d.modifyNode id f)

/-- Records a value about a node. -/
def annotate (b : Build) (id key : String) (value : Value) : Build :=
  b.modifyNode id fun n => { n with metadata := n.metadata.set key value }

/-- Changes a group. -/
def modifyGroup (b : Build) (id : String) (f : Group → Group) : Build :=
  b.change fun d => .ok (d.modifyGroup id f)

/-- Adds a member to a group. -/
def addMember (b : Build) (group id : String) : Build :=
  b.modifyGroup group fun g => { g with members := g.members ++ [id] }

/-- Adds a group with a new id, as a member of its parent. -/
def openGroup (b : Build) (label : String) (parent : Option String) (kind : String)
    (metadata : Metadata) : String × Build :=
  let (id, b) := b.nextId "subgraph"
  let b := b.change (·.addGroup { id, label, parent, kind, metadata })
  match parent with
  | some parent => (id, b.addMember parent id)
  | none => (id, b)

/-- Adds an edge. No edge leads from a node to itself. -/
def link (b : Build) (e : Edge) : Build :=
  if e.source == e.target then b else b.change (·.addEdge e)

/-- Adds several edges. -/
def linkAll (b : Build) (edges : List Edge) : Build :=
  edges.foldl link b

/-- Follows a link that the component asks for. -/
def follow (b : Build) : Link → Build
  | .edge e => b.link e
  | .unlabelled source target kind =>
    if source == target then b
    else { b with unlabelled := b.unlabelled ++ [(source, target, kind)] }
  | .unreadable cause => b.stop (.unreadable cause)

/-- Follows several links. -/
def followAll (b : Build) (links : List Link) : Build :=
  links.foldl follow b

/-- Forgets the edges without a text as label at a node that is taken out. -/
def forget (b : Build) (id : String) : Build :=
  { b with unlabelled := b.unlabelled.filter fun u => u.1 != id && u.2.1 != id }

end Build

end ComponentFlow

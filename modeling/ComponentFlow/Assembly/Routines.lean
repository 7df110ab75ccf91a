import ComponentFlow.Assembly.Build
import ComponentFlow.Assembly.NameIndex
import ComponentFlow.Hook.Classifier
import ComponentFlow.TypeText.Callable

/-!
# Props and processes

Props and the processes of the component get nodes of their own, and the edges of a process follow
from the names it reads, calls and assigns. A call is an update if the name writes its node, and a
read if the name is a value on which a method is called.
-/

namespace ComponentFlow

/-- Whether a prop is a function: by its flag, by its type, or by its name. -/
def InputProp.isFunctionProp (p : InputProp) : Bool :=
  p.isFunction || p.type.any (fun t => t != "" && TypeText.isFunctionType t) ||
    isCallbackName p.name

/-- The node of a prop. -/
def InputProp.sketch (p : InputProp) : Sketch :=
  let role : Role := if p.isFunctionProp then .function else .data
  { stem := "prop", label := p.name, type := if p.isFunctionProp then .output else .input
    type_ne_group := by split <;> nofun
    position := p.position
    metadata := [("prop", .bool true), ("variables", .ofRoles [(p.name, role)])] ++
      ((p.type.filter (· != "")).map fun t => ("type_string", Value.str t)).toList }

/-- The node of a process. -/
def Routine.sketch (r : Routine) (exported : Bool) : Sketch :=
  let mark : Metadata := if exported then [("exported", .bool true)] else []
  let named : Metadata := if r.name == "" then [] else [("process", .str r.name)]
  { stem := "process", label := r.name, type := .process
    type_ne_group := NodeType.process_ne_group, position := r.position
    metadata := [("kind", .str r.kind)] ++ mark ++ named }

/-- The node of the process that cleans up after another one. -/
def Routine.cleanupSketch (owner cleanup : Routine) : Sketch :=
  { stem := "process"
    label := if cleanup.name == "" then owner.name ++ " cleanup" else cleanup.name
    type := .process, type_ne_group := NodeType.process_ne_group, position := cleanup.position
    metadata := [("kind", .str cleanup.kind), ("cleanup_of", .str owner.name)] }

namespace Assembly

/-! ## Nodes -/

/-- Adds the node of a prop, once for each name. -/
def addProp (state : Build × List (String × String)) (p : InputProp) :
    Build × List (String × String) :=
  let (b, props) := state
  if (props.lookup p.name).isSome then state
  else
    let (id, b) := b.addNode p.sketch
    (b, props ++ [(p.name, id)])

/-- Adds the nodes of the props, and gives them by name. -/
def addProps (b : Build) (props : List InputProp) : Build × List (String × String) :=
  props.foldl addProp (b, [])

/-- A process with its node. -/
structure PlacedRoutine where
  routine : Routine
  id : String
  exported : Bool := false
  cleanup : Option String := none
  deriving Inhabited

/-- Adds the nodes of a process and of the one that cleans up after it. -/
def addRoutine (exported : Bool) (state : Build × List PlacedRoutine) (r : Routine) :
    Build × List PlacedRoutine :=
  let (b, placed) := state
  let (id, b) := b.addNode (r.sketch exported)
  match r.cleanup with
  | none => (b, placed ++ [{ routine := r, id, exported }])
  | some c =>
    let (cleanup, b) := b.addNode (r.cleanupSketch c)
    (b.annotate id "cleanup" (.str cleanup),
     placed ++ [{ routine := r, id, exported, cleanup := some cleanup },
       { routine := c, id := cleanup }])

/-- Adds the nodes of several processes. -/
def addRoutines (b : Build) (exported : Bool) (routines : List Routine) :
    Build × List PlacedRoutine :=
  routines.foldl (addRoutine exported) (b, [])

/-! ## Edges -/

/-- The link from a prop to a node that starts with its value. -/
def initializerLink (props : List (String × String)) (n : Node) : Option Link :=
  let reference := n.metadata.get "initial_reference"
  if !reference.isTruthy then none
  else
    match reference.keyFault? with
    | some e => some (.unreadable e)
    | none => (reference.asText?.bind (List.lookup · props)).map fun prop =>
        .edge ⟨prop, n.id, "initializes"⟩

/-- The links from props to the nodes that start with their value. -/
def initializerLinks (props : List (String × String)) (nodes : List Node) : List Link :=
  nodes.filterMap (initializerLink props)

/-- The node that a dependency stands for. Processes are no dependencies. -/
def dependencySource (x : NameIndex) (name : String) : Option Node :=
  (x.resolveLabel name).filter fun source => !(source.metadata.get "process").isTruthy

/-- A link to a node, with the label that the node has for its dependencies. -/
def dependencyFlow (source n : Node) : Link :=
  match n.metadata.lookup "dependency_label" with
  | none => .edge ⟨source.id, n.id, "derives"⟩
  | some (.str label) => .edge ⟨source.id, n.id, label⟩
  | some v => .unlabelled source.id n.id v.kindName

/-- The link to a node from one thing it depends on. -/
def dependencyLink (x : NameIndex) (n : Node) (dependency : Value) : Option Link :=
  match dependency with
  | .str name => (dependencySource x name).map (dependencyFlow · n)
  | v => some (.unreadable (.noUse v.kindName "strip"))

/-- The links to a node from what it depends on. -/
def dependencyLinksTo (x : NameIndex) (n : Node) : List Link :=
  let dependencies := n.metadata.get "dependencies"
  if !dependencies.isTruthy then []
  else
    match dependencies.partsFault? with
    | some e => [.unreadable e]
    | none => dependencies.parts.filterMap (dependencyLink x n)

/-- The links between nodes and what they depend on. -/
def dependencyLinks (x : NameIndex) (nodes : List Node) : List Link :=
  nodes.flatMap (dependencyLinksTo x)

/-- The edges for the values that a process reads. -/
def readEdges (x : NameIndex) (process : String) (references : List String) : List Edge :=
  references.filterMap fun reference => do
    let b ← x.resolve reference
    if b.isFunction || b.isProcess then none
    else return ⟨b.node.id, process, b.label "reads"⟩

/-- The link for a call of what a name is bound to. -/
def callFlow (b : Binding) (process call : String) : Link :=
  if b.isProcess then .edge ⟨process, b.node.id, "calls"⟩
  else
    match b.dispatcherFault? with
    | some e => .unreadable e
    | none =>
      if b.isDispatcher then .edge ⟨process, b.node.id, "dispatch"⟩
      else
        match b.writerFault? with
        | some e => .unreadable e
        | none =>
          if b.isWriter then .edge ⟨process, b.node.id, b.label "updates"⟩
          else if b.isFunction then
            .edge ⟨process, b.node.id, "calls: " ++ b.member.getD b.name⟩
          else .edge ⟨b.node.id, process, (b.ofCallee call).label "reads"⟩

/-- The link for a call. -/
def callLink (x : NameIndex) (process call : String) : Option Link :=
  ((x.resolve call).filter (·.node.id != process)).map (callFlow · process call)

/-- The links for the names that a process calls. -/
def callLinks (x : NameIndex) (process : String) (calls : List String) : List Link :=
  calls.filterMap (callLink x process)

/-- The edges for the names that a process assigns. -/
def assignEdges (x : NameIndex) (process : String) (targets : List String) : List Edge :=
  targets.filterMap fun target =>
    (x.resolve target).map fun b => ⟨process, b.node.id, b.label "updates"⟩

/-- The edges for the values whose change starts a process. -/
def triggerEdges (x : NameIndex) (process : String) (dependencies : List String) : List Edge :=
  dependencies.filterMap fun dependency => do
    let b ← x.resolve dependency
    if b.isFunction then none else return ⟨b.node.id, process, b.label "triggers"⟩

/-- The node of a function from outside the component. -/
def externalSketch (callee : String) : Sketch :=
  { stem := "external", label := callee, type := .output
    type_ne_group := NodeType.output_ne_group
    metadata := [("external_call", .bool true)] }

/-- Links a process to a function from outside the component, which gets one node for all calls. -/
def linkExternal (x : NameIndex) (process : String) (state : Build × List (String × String))
    (callee : String) : Build × List (String × String) :=
  let (b, externals) := state
  if (x.resolve callee).isSome then state
  else
    match externals.lookup callee with
    | some id => (b.link ⟨process, id, "calls"⟩, externals)
    | none =>
      let (id, b) := b.addNode (externalSketch callee)
      (b.link ⟨process, id, "calls"⟩, externals ++ [(callee, id)])

/-- Links a process to what it reads, calls and assigns, and to what starts it. -/
def linkRoutine (x : NameIndex) (state : Build × List (String × String)) (p : PlacedRoutine) :
    Build × List (String × String) :=
  let (b, externals) := state
  let b := b.linkAll (readEdges x p.id p.routine.references)
  let b := b.followAll (callLinks x p.id p.routine.calls)
  let b := b.linkAll (assignEdges x p.id p.routine.assigns)
  let (b, externals) := p.routine.externalCalls.foldl (linkExternal x p.id) (b, externals)
  let b := b.linkAll (triggerEdges x p.id p.routine.dependencies)
  (b.linkAll (p.cleanup.toList.map fun id => ⟨p.id, id, "cleanup"⟩), externals)

/-- Links all processes. -/
def linkRoutines (x : NameIndex) (b : Build) (placed : List PlacedRoutine) : Build :=
  (placed.foldl (linkRoutine x) (b, [])).1

end Assembly

end ComponentFlow

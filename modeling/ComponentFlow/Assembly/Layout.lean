import ComponentFlow.Assembly.BoundContent
import ComponentFlow.Assembly.Build
import ComponentFlow.Assembly.Condition
import ComponentFlow.Assembly.Reference

/-!
# Layout of the rendered markup

The markup is laid out in groups: a root, a group for each branch of a conditional, and a group for
each loop. An element gets a node if it shows or uses a variable; its children are placed in the
group it is in. A branch without any bound content shows its top elements. A loop directly inside a
loop, elements apart, joins the group of the outer loop; a conditional in between starts a new one.

Markup nests without a limit, so it is walked with a list of frames still to be visited. Groups that
end up empty are taken out, the innermost first.
-/

namespace ComponentFlow

/-- What a group of the layout is for. -/
inductive GroupKind where
  | output
  | conditional
  | loop
  | exported
  deriving Repr, DecidableEq, Inhabited

/-- The word for a kind of group. -/
def GroupKind.name : GroupKind → String
  | output => "output"
  | conditional => "conditional"
  | loop => "loop"
  | exported => "exported-handlers"

/-- An element with its node and the loop items it can refer to. -/
structure PlacedElement where
  element : Element
  id : String
  scope : Scope
  deriving Repr, DecidableEq, Inhabited

/-- The references that decide whether, or how often, a group is rendered. -/
structure ControlFlow where
  group : String
  references : List String
  label : String
  deriving Repr, DecidableEq, Inhabited

/-- A layout under construction. -/
structure Layout where
  build : Build
  elements : List PlacedElement := []
  controls : List ControlFlow := []
  deriving Inhabited

/-- A render node to be visited: the group it is in, the kind of that group, whether an element gets
a node in any case, and the loop items in scope. -/
structure Frame where
  node : RenderNode
  group : String
  kind : GroupKind
  forced : Bool
  scope : Scope

/-- The node of an element in a group. -/
def Element.sketch (e : Element) (group : String) : Sketch :=
  { stem := "jsx", label := "<" ++ e.tag ++ ">", type := .output
    type_ne_group := NodeType.output_ne_group, position := e.position
    metadata := [("tag", .str e.tag), ("subgraph", .str group)] }

/-- The notes of a group that one more loop joins. -/
def Metadata.join (m : Metadata) (collection : String) : Metadata :=
  match m.get "merged" with
  | .list items => m.set "merged" (.list (items ++ [.str collection]))
  | _ => m.set "merged" (.list [.str collection])

namespace Layout

/-- The origin of the records about the layout. -/
def origin : String := "assembler.subgraphs"

/-- The frames of several render nodes in one group. -/
def frames (group : String) (kind : GroupKind) (forced : Bool) (scope : Scope)
    (nodes : List RenderNode) : List Frame :=
  nodes.map fun node => ⟨node, group, kind, forced, scope⟩

/-- Gives an element a node in a group. -/
def place (l : Layout) (e : Element) (group : String) (scope : Scope) : Layout :=
  let (id, b) := l.build.addNode (e.sketch group)
  { l with build := b.addMember group id, elements := l.elements ++ [⟨e, id, scope⟩] }

/-- Opens the group of a branch of a conditional. -/
def openBranch (l : Layout) (c : Condition) (negated : Bool) (group : String) (scope : Scope) :
    String × Layout :=
  let (id, b) := l.build.openGroup (conditionLabel c.expression negated) (some group)
    GroupKind.conditional.name [("expression", .str c.expression), ("negated", .bool negated)]
  (id, { l with
    build := b
    controls :=
      l.controls ++ [⟨id, c.references.map (resolveScope scope), "controls visibility"⟩] })

/-- Opens the group of a branch that is not empty, and gives the frames of the branch. -/
def enterBranch (l : Layout) (c : Condition) (negated : Bool) (group : String) (scope : Scope)
    (nodes : List RenderNode) : Layout × List Frame :=
  match nodes with
  | [] => (l, [])
  | _ :: _ =>
    let (id, l) := l.openBranch c negated group scope
    (l, frames id .conditional (!hasBoundContent nodes) scope nodes)

/-- The references that a loop goes over: those listed, or else its collection. -/
def loopVariables (head : LoopHead) (scope : Scope) : List String :=
  (if head.references.isEmpty then [head.collection] else head.references).map (resolveScope scope)

/-- The scope of the body of a loop. -/
def bodyScope (head : LoopHead) (scope : Scope) : Scope :=
  match head.item, loopVariables head scope with
  | some item, first :: _ => if item == "" then scope else Assoc.insert item first scope
  | _, _ => scope

/-- Notes that a loop joins the group of the loop around it. -/
def joinLoop (b : Build) (head : LoopHead) (group : String) : Build :=
  (b.modifyGroup group fun g =>
    { g with metadata := g.metadata.join head.collection }).record .debug origin
      ("Merged nested iteration over " ++ head.collection ++ " into " ++ group)

/-- Opens the group of a loop, or joins the one around it. -/
def enterLoop (l : Layout) (head : LoopHead) (group : String) (kind : GroupKind) (scope : Scope) :
    String × Layout :=
  let (id, b) := match kind with
    | .loop => (group, joinLoop l.build head group)
    | _ => l.build.openGroup "\x7bloop\x7d" (some group) GroupKind.loop.name
        [("collection", .str head.collection)]
  (id, { l with
    build := b
    controls := l.controls ++ [⟨id, loopVariables head scope, "iterates over"⟩] })

/-- Visits one render node: the layout with it, and the frames of the nodes below it in document
order. -/
def visit (l : Layout) (f : Frame) : Layout × List Frame :=
  match f.node with
  | .element e children =>
    (if e.hasBindings || f.forced then l.place e f.group f.scope else l,
     frames f.group f.kind false f.scope children)
  | .conditional c whenTrue whenFalse =>
    let (l, onTrue) := l.enterBranch c false f.group f.scope whenTrue
    let (l, onFalse) := l.enterBranch c true f.group f.scope whenFalse
    (l, onTrue ++ onFalse)
  | .loop head body =>
    let (id, l) := l.enterLoop head f.group f.kind f.scope
    (l, frames id .loop false (bodyScope head f.scope) body)

/-- The number of nodes in several frames. -/
def framesSize (fs : List Frame) : Nat :=
  renderSize (fs.map (·.node))

theorem framesSize_append (xs ys : List Frame) :
    framesSize (xs ++ ys) = framesSize xs + framesSize ys := by
  simp [framesSize, renderSize_append]

theorem framesSize_frames (group : String) (kind : GroupKind) (forced : Bool) (scope : Scope)
    (nodes : List RenderNode) :
    framesSize (frames group kind forced scope nodes) = renderSize nodes := by
  simp [framesSize, frames, Function.comp_def]

theorem framesSize_enterBranch (l : Layout) (c : Condition) (negated : Bool) (group : String)
    (scope : Scope) (nodes : List RenderNode) :
    framesSize (l.enterBranch c negated group scope nodes).2 = renderSize nodes := by
  cases nodes with
  | nil => simp [enterBranch, framesSize, renderSize]
  | cons n rest => simp [enterBranch, framesSize_frames]

/-- A visit leaves fewer nodes to be visited. -/
theorem framesSize_visit (l : Layout) (f : Frame) : framesSize (l.visit f).2 < f.node.size := by
  unfold visit
  split <;> rename_i h <;>
    simp [h, RenderNode.size, framesSize_frames, framesSize_append, framesSize_enterBranch]

/-- Visits frames until none is left, the first one and all below it before the others. -/
def walk (l : Layout) : List Frame → Layout
  | [] => l
  | f :: rest => walk (l.visit f).1 ((l.visit f).2 ++ rest)
termination_by fs => framesSize fs
decreasing_by
  rw [framesSize_append]
  have := framesSize_visit l f
  simp only [framesSize, List.map_cons, renderSize]
  simp only [framesSize] at this
  omega

/-- Puts a handler into a group. -/
def addHandlerTo (group : String) (b : Build) (id : String) : Build :=
  (b.addMember group id).annotate id "subgraph" (.str group)

/-- Puts exported handlers into a group of their own. -/
def addExported (l : Layout) (root : String) (handlers : List String) : Layout :=
  if handlers.isEmpty then l
  else
    let (group, b) := l.build.openGroup "exported handlers" (some root) GroupKind.exported.name []
    { l with build := handlers.foldl (addHandlerTo group) b }

/-- Takes a member out of a group. -/
def removeMember (d : Diagram) (group id : String) : Except DiagramError Diagram :=
  if (d.group? group).any (·.members.contains id) then
    .ok (d.modifyGroup group fun g => { g with members := g.members.erase id })
  else .error .notAMember

/-- Takes out a group if it is empty and not the outermost one. -/
def pruneGroup (state : Build × List String) (id : String) : Build × List String :=
  match state.1.diagram.group? id with
  | some ⟨_, label, some parent, _, [], _⟩ =>
    let b := state.1.record .debug origin
      ("Pruning empty subgraph " ++ id ++ " (" ++ label ++ ")")
    ((b.change fun d => (removeMember d parent id).map (·.removeNode id)).forget id,
     state.2 ++ [id])
  | _ => state

/-- Takes out the groups without members, the innermost first, and the control of those taken
out. -/
def prune (l : Layout) : Layout :=
  let (b, removed) := (l.build.diagram.groups.map (·.id)).reverse.foldl pruneGroup (l.build, [])
  { l with build := b, controls := l.controls.filter fun c => !removed.contains c.group }

/-- The layout of markup before empty groups are taken out. -/
def lay (b : Build) (output : List RenderNode) (exported : List String) : Layout :=
  let (root, b) := b.openGroup "JSX Output" none GroupKind.output.name []
  (walk { build := b } (frames root .output false [] output)).addExported root exported

/-- The layout of markup. -/
def ofOutput (b : Build) (output : List RenderNode) (exported : List String) : Layout :=
  (lay b output exported).prune

end Layout

end ComponentFlow

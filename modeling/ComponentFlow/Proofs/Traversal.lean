import ComponentFlow.Assembly.Layout
import Mathlib.Tactic.Lemma

/-!
# The walk as a recursion

Markup is laid out with a list of frames still to be visited. The same layout comes of a recursion
over the markup in document order (`lay_eq_layRecursively`): the frames of what is below a node are
put before all other frames, so a node and all below it are laid out before anything else is visited
(`walk_frames_append`). The recursion has no frames that could be mixed up; the group, its kind and
the loop items in scope are arguments, and what a node changes of them ends with the node.

Whether a branch shows its top elements is decided by a search of its own, with a stack of nodes. It
finds bound content exactly if there is some among the nodes that can be reached through elements
(`hasBoundContent_eq`).
-/

namespace ComponentFlow

/-! ## The search for bound content -/

mutual

/-- The nodes that can be reached from a render node through elements, itself included, in document
order. -/
def RenderNode.reached : RenderNode → List RenderNode
  | .element e children => .element e children :: reachedIn children
  | .conditional c whenTrue whenFalse => [.conditional c whenTrue whenFalse]
  | .loop head body => [.loop head body]
termination_by structural n => n

/-- The nodes that can be reached from several render nodes through elements. -/
def reachedIn : List RenderNode → List RenderNode
  | [] => []
  | n :: rest => n.reached ++ reachedIn rest
termination_by structural nodes => nodes

end

lemma reachedIn_eq_flatMap (nodes : List RenderNode) :
    reachedIn nodes = nodes.flatMap RenderNode.reached := by
  induction nodes with
  | nil => rfl
  | cons n rest ih => rw [reachedIn, ih, List.flatMap_cons]

lemma RenderNode.reached_eq (n : RenderNode) : n.reached = n :: reachedIn n.through := by
  cases n <;> rfl

/-- The order in which nodes are looked at does not matter for what is found. -/
lemma any_reachedIn_reverse (p : RenderNode → Bool) (nodes : List RenderNode) :
    (reachedIn nodes.reverse).any p = (reachedIn nodes).any p := by
  simp only [reachedIn_eq_flatMap, List.any_flatMap, List.any_reverse]

lemma boundOnStack_eq (stack : List RenderNode) :
    boundOnStack stack = (reachedIn stack).any RenderNode.isBound := by
  fun_induction boundOnStack stack with
  | case1 => rfl
  | case2 n rest hbound => simp [reachedIn, n.reached_eq, hbound]
  | case3 n rest hbound ih =>
    have hthrough : (reachedIn (n.through.reverse ++ rest)).any RenderNode.isBound =
        ((reachedIn n.through).any RenderNode.isBound ||
          (reachedIn rest).any RenderNode.isBound) := by
      rw [reachedIn_eq_flatMap, List.flatMap_append, List.any_append, ← reachedIn_eq_flatMap,
        ← reachedIn_eq_flatMap, any_reachedIn_reverse]
    rw [ih, hthrough, reachedIn, n.reached_eq, List.any_append, List.any_cons,
      Bool.of_not_eq_true hbound, Bool.false_or]

/-- Markup has bound content if some can be reached through elements. -/
lemma hasBoundContent_eq (nodes : List RenderNode) :
    hasBoundContent nodes = (reachedIn nodes).any RenderNode.isBound := by
  rw [hasBoundContent, boundOnStack_eq, any_reachedIn_reverse]

namespace Layout

/-! ## The recursion -/

/-- Whether nothing can be reached in a branch that is bound, so that its top elements are shown in
any case. -/
def isBare (nodes : List RenderNode) : Bool :=
  (reachedIn nodes).all (!·.isBound)

/-- Opens the group of a branch that is not empty. An empty branch has no group; nothing is ever put
into the one that stands in for it. -/
def openNonempty (l : Layout) (c : Condition) (negated : Bool) (group : String) (scope : Scope)
    (nodes : List RenderNode) : String × Layout :=
  if nodes.isEmpty then (group, l) else l.openBranch c negated group scope

mutual

/-- Lays out a render node and all below it, in a group of the given kind. An element comes before
its children, both groups of a conditional before its branches, and the group of a loop before its
body, which alone has the loop item in scope. -/
def layNode (group : String) (kind : GroupKind) (forced : Bool) (scope : Scope) :
    RenderNode → Layout → Layout
  | .element e children, l =>
    layNodes group kind false scope children
      (if e.hasBindings || forced then l.place e group scope else l)
  | .conditional c whenTrue whenFalse, l =>
    let (onTrue, l) := l.openNonempty c false group scope whenTrue
    let (onFalse, l) := l.openNonempty c true group scope whenFalse
    layNodes onFalse .conditional (isBare whenFalse) scope whenFalse
      (layNodes onTrue .conditional (isBare whenTrue) scope whenTrue l)
  | .loop head body, l =>
    let (id, l) := l.enterLoop head group kind scope
    layNodes id .loop false (bodyScope head scope) body l
termination_by structural n => n

/-- Lays out several render nodes, one after the other. -/
def layNodes (group : String) (kind : GroupKind) (forced : Bool) (scope : Scope) :
    List RenderNode → Layout → Layout
  | [], l => l
  | n :: rest, l => layNodes group kind forced scope rest (layNode group kind forced scope n l)
termination_by structural nodes => nodes

end

/-- The layout of markup by recursion, before empty groups are taken out. -/
def layRecursively (b : Build) (output : List RenderNode) (exported : List String) : Layout :=
  let (root, b) := b.openGroup "JSX Output" none GroupKind.output.name []
  (layNodes root .output false [] output { build := b }).addExported root exported

/-! ## Agreement -/

lemma enterBranch_eq (l : Layout) (c : Condition) (negated : Bool) (group : String) (scope : Scope)
    (nodes : List RenderNode) :
    l.enterBranch c negated group scope nodes =
      ((l.openNonempty c negated group scope nodes).2,
        frames (l.openNonempty c negated group scope nodes).1 .conditional (isBare nodes) scope
          nodes) := by
  have hbare : (!hasBoundContent nodes) = isBare nodes := by
    rw [hasBoundContent_eq, isBare, List.not_any_eq_all_not]
  cases nodes with
  | nil => rfl
  | cons n rest => rw [enterBranch, hbare]; rfl

mutual

/-- A node and all below it are laid out before the walk goes on. -/
lemma walk_cons (group : String) (kind : GroupKind) (forced : Bool) (scope : Scope)
    (n : RenderNode) (l : Layout) (fs : List Frame) :
    l.walk (⟨n, group, kind, forced, scope⟩ :: fs) =
      (layNode group kind forced scope n l).walk fs := by
  rw [walk]
  cases n with
  | element e children =>
    simp only [visit, layNode]
    rw [walk_frames_append]
  | conditional c whenTrue whenFalse =>
    simp only [visit, layNode, enterBranch_eq]
    rw [List.append_assoc, walk_frames_append, walk_frames_append]
  | loop head body =>
    simp only [visit, layNode]
    rw [walk_frames_append]

/-- Several nodes are laid out before the walk goes on. -/
lemma walk_frames_append (group : String) (kind : GroupKind) (forced : Bool) (scope : Scope)
    (nodes : List RenderNode) (l : Layout) (fs : List Frame) :
    l.walk (frames group kind forced scope nodes ++ fs) =
      (layNodes group kind forced scope nodes l).walk fs := by
  cases nodes with
  | nil => rfl
  | cons n rest =>
    rw [frames, List.map_cons, ← frames, List.cons_append, walk_cons, walk_frames_append, layNodes]

end

/-- **The walk is a recursion.** Whatever the markup, the walk over its frames gives the same layout
as the recursion over the markup in document order. -/
theorem lay_eq_layRecursively (b : Build) (output : List RenderNode) (exported : List String) :
    lay b output exported = layRecursively b output exported := by
  simp only [lay, layRecursively]
  rw [← List.append_nil (frames _ _ _ _ output), walk_frames_append, walk]

end Layout

end ComponentFlow

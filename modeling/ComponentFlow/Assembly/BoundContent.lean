import ComponentFlow.Component.Basic

/-!
# Bound content

Whether a piece of markup shows anything of the component: an element that shows or uses a variable,
or a conditional or loop, that can be reached through elements. Elements nest without a limit, so
they are searched with a stack of nodes still to be looked at.
-/

namespace ComponentFlow

mutual

/-- The number of nodes in a render node, itself included. -/
def RenderNode.size : RenderNode → Nat
  | .element _ children => renderSize children + 1
  | .conditional _ whenTrue whenFalse => renderSize whenTrue + renderSize whenFalse + 1
  | .loop _ body => renderSize body + 1
termination_by structural n => n

/-- The number of nodes in several render nodes. -/
def renderSize : List RenderNode → Nat
  | [] => 0
  | n :: rest => n.size + renderSize rest
termination_by structural nodes => nodes

end

theorem renderSize_append (xs ys : List RenderNode) :
    renderSize (xs ++ ys) = renderSize xs + renderSize ys := by
  induction xs with
  | nil => simp [renderSize]
  | cons n rest ih => simp [renderSize, ih]; omega

theorem renderSize_reverse (nodes : List RenderNode) :
    renderSize nodes.reverse = renderSize nodes := by
  induction nodes with
  | nil => rfl
  | cons n rest ih => simp [renderSize, renderSize_append, ih]; omega

namespace RenderNode

/-- Whether a node is bound content by itself: an element that shows or uses a variable, a
conditional or a loop. -/
def isBound : RenderNode → Bool
  | .element e _ => e.hasBindings
  | .conditional _ _ _ => true
  | .loop _ _ => true

/-- The nodes that can be reached from a node directly. -/
def through : RenderNode → List RenderNode
  | .element _ children => children
  | .conditional _ _ _ => []
  | .loop _ _ => []

theorem renderSize_through (n : RenderNode) : renderSize n.through < n.size := by
  cases n <;> simp [through, size, renderSize]

end RenderNode

/-- Searches a stack for bound content. The node on top is looked at first, and what can be reached
from it is put on top, the last one uppermost. -/
def boundOnStack : List RenderNode → Bool
  | [] => false
  | n :: rest => if n.isBound then true else boundOnStack (n.through.reverse ++ rest)
termination_by stack => renderSize stack
decreasing_by
  have := n.renderSize_through
  simp only [renderSize_append, renderSize_reverse, renderSize]
  omega

/-- Whether one of the render nodes has bound content. -/
def hasBoundContent (nodes : List RenderNode) : Bool :=
  boundOnStack nodes.reverse

end ComponentFlow

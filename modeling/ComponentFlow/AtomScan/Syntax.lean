import ComponentFlow.Position

/-!
# Syntax trees

The syntax tree of a source text as a parser gives it. Nodes name the range of bytes they cover, and
some of their children by the field they fill.
-/

namespace ComponentFlow

/-- A node of a syntax tree. `fields` gives the place of a child among the children. -/
inductive SyntaxNode where
  | node (kind : String) (start stop : Nat) (row column : Int) (children : List SyntaxNode)
    (fields : List (String × Nat))
  deriving Inhabited

/-- A parser for source texts. -/
abbrev SourceParser := String → SyntaxNode

/-- The characters of a text that lie wholly in a range of bytes. `offset` is the number of bytes
before the text. -/
def charsBetween (start stop : Nat) : (offset : Nat) → List Char → List Char
  | _, [] => []
  | offset, c :: rest =>
    let next := offset + c.utf8Size
    if start ≤ offset && next ≤ stop then c :: charsBetween start stop next rest
    else charsBetween start stop next rest

namespace SyntaxNode

/-- The kind of a node. -/
def kind : SyntaxNode → String
  | node kind _ _ _ _ _ _ => kind

/-- The children of a node. -/
def children : SyntaxNode → List SyntaxNode
  | node _ _ _ _ _ children _ => children

/-- The child in a field. -/
def child? (n : SyntaxNode) (field : String) : Option SyntaxNode :=
  match n with
  | node _ _ _ _ _ children fields => (fields.lookup field).bind (children[·]?)

/-- Where a node starts. Lines count from one. -/
def position : SyntaxNode → Position
  | node _ _ _ row column _ _ => ⟨row + 1, .number column⟩

/-- The text of a node. -/
def text (source : List Char) : SyntaxNode → String
  | node _ start stop _ _ _ _ => String.ofList (charsBetween start stop 0 source)

mutual

/-- The number of nodes in a tree. -/
def size : SyntaxNode → Nat
  | node _ _ _ _ _ children _ => sizes children + 1
termination_by structural n => n

/-- The number of nodes in several trees. -/
def sizes : List SyntaxNode → Nat
  | [] => 0
  | n :: rest => n.size + sizes rest
termination_by structural nodes => nodes

end

theorem sizes_append (xs ys : List SyntaxNode) : sizes (xs ++ ys) = sizes xs + sizes ys := by
  induction xs with
  | nil => simp [sizes]
  | cons n rest ih => simp [sizes, ih]; omega

theorem size_eq (n : SyntaxNode) : n.size = sizes n.children + 1 := by
  cases n
  simp [size, children]

/-- All nodes of the trees on a list, each before those below it. The trees are taken from the front
of the list, and the children of a node are put in front of those that are left. -/
def descend : List SyntaxNode → List SyntaxNode
  | [] => []
  | n :: rest => n :: descend (n.children ++ rest)
termination_by pending => sizes pending
decreasing_by
  rw [sizes_append, sizes, size_eq]
  omega

end SyntaxNode

end ComponentFlow

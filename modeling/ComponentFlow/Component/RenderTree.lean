import ComponentFlow.Component.Reader

/-!
# Reading the rendered markup

The markup of a component nests without a limit, so it is read with a work list of item lists still
to be read. An item is read on its own into a `Shell`, a render node without the nodes below it,
and the lists below it are put on the work list; the list put there last is read first. The loop
records the lists in the order of reading. The tree is then rebuilt from the last list back: when
the nodes of a list are closed, all lists below them are complete and lie on top of a stack.

Reading is at fault as soon as one item is, so among several faults the one met first on the work
list is reported.
-/

namespace ComponentFlow.Reader

/-- A render node without the nodes below it. -/
inductive Shell where
  | element (e : Element)
  | conditional (c : Condition)
  | loop (l : LoopHead)
  deriving Repr, DecidableEq, Inhabited

/-- The code of an attribute, if it holds any. -/
def readCode (data : Entries) (name : String) (form : CodeForm) (raw : Value) :
    Result Attribute := do
  let body ← if raw.isTruthy then
      match raw with
      | .map entries => pure entries
      | _ => fail (.codeNotAMapping name form.name)
    else pure []
  let calls ← namesField body "calls"
  let references ← namesField body "references"
  let assigns ← namesField body "assigns"
  return { name, content := .code form calls references assigns
           source := (Value.field "source" data).scalarText? }

/-- An attribute: a reference, or code in one of its two forms. -/
def readAttribute (item : Value) : Result Attribute := do
  let data ← mapping item "Attribute"
  let name ← nameField data "Attribute" "name"
  match Value.lookup "reference" data with
  | some target =>
    return { name, content := .reference target.scalarText?
             source := (Value.field "source" data).scalarText? }
  | none =>
    match Value.lookup "arrow" data with
    | some raw => readCode data name .arrow raw
    | none =>
      match Value.lookup "expression" data with
      | some raw => readCode data name .expression raw
      | none => fail (.attributeWithoutContent name)

/-- A call whose result is displayed. -/
def readDisplayCall (item : Value) : Result DisplayCall := do
  let data ← mapping item "Display call"
  let callee ← nameField data "Display call" "callee"
  let arguments ← namesField data "arguments"
  return { callee, arguments }

/-- An element and the items of its children. -/
def readElement (data : Entries) (tag : Value) : Result (Shell × List (List Value)) := do
  let display ← namesField data "display"
  let calls ← listField data "calls"
  let calls ← calls.mapM readDisplayCall
  let attributes ← listField data "attributes"
  let attributes ← attributes.mapM readAttribute
  let children ← listField data "children"
  return (.element { tag := tag.display, display, calls, attributes, position := positionOf data },
    [children])

/-- A condition and the items of its two branches. Variables that are not listed are those the
expression refers to. -/
def readConditional (data : Entries) (raw : Value) : Result (Shell × List (List Value)) := do
  let expression := raw.display
  let listed ← namesField data "variables"
  let references := if listed.isEmpty then Text.referredNames expression else listed
  let whenTrue ← listField data "then"
  let whenFalse ← listField data "else"
  return (.conditional { expression, references, position := positionOf data },
    [whenTrue, whenFalse])

/-- A loop and the items of its body. -/
def readLoop (data : Entries) (raw : Value) : Result (Shell × List (List Value)) := do
  let references ← namesField data "variables"
  let item := (Value.field "item" data).scalarText?
  let body ← listField data "body"
  let head := { collection := raw.display, references, item, position := positionOf data }
  return (.loop head, [body])

/-- One item on its own, and the lists of items below it. -/
def readShell (item : Value) : Result (Shell × List (List Value)) := do
  let data ← mapping item "Render"
  match Value.lookup "element" data, Value.lookup "conditional" data, Value.lookup "loop" data with
  | some tag, none, none => readElement data tag
  | none, some expression, none => readConditional data expression
  | none, none, some collection => readLoop data collection
  | _, _, _ => fail .ambiguousRenderNode

mutual

/-- The number of values in a value, itself included. -/
def weight : Value → Nat
  | .list items => weights items + 1
  | .map entries => entriesWeight entries + 1
  | _ => 1
termination_by structural v => v

/-- The number of values in several values. -/
def weights : List Value → Nat
  | [] => 0
  | v :: rest => weight v + weights rest
termination_by structural items => items

/-- The number of values under the keys of a mapping. -/
def entriesWeight : List (Value × Value) → Nat
  | [] => 0
  | entry :: rest => entryWeight entry + entriesWeight rest
termination_by structural entries => entries

/-- The number of values in the value of an entry. -/
def entryWeight : Value × Value → Nat
  | (_, v) => weight v
termination_by structural entry => entry

end

/-- Reads the lists on the work list, the list on top first, and records the shells of each. There
are at most as many lists as there are values in them, so `fuel` does not run out. -/
def readLists : (fuel : Nat) → (pending : List (List Value)) → Result (List (List Shell))
  | 0, _ => .ok []
  | _, [] => .ok []
  | fuel + 1, items :: pending => do
    let read ← items.mapM readShell
    let below := (read.flatMap Prod.snd).reverse
    let rest ← readLists fuel (below ++ pending)
    return read.map Prod.fst :: rest

/-- Closes a shell with the lists on top of the stack. -/
def Shell.close : Shell → List (List RenderNode) → RenderNode × List (List RenderNode)
  | .element e, stack => (.element e stack.head?.toList.flatten, stack.drop 1)
  | .conditional c, stack =>
    (.conditional c (stack.drop 1).head?.toList.flatten stack.head?.toList.flatten, stack.drop 2)
  | .loop l, stack => (.loop l stack.head?.toList.flatten, stack.drop 1)

/-- Closes the shells of one list, the last one first. -/
def closeAll : List Shell → List (List RenderNode) → List RenderNode × List (List RenderNode)
  | [], stack => ([], stack)
  | shell :: rest, stack =>
    let (nodes, stack) := closeAll rest stack
    let (node, stack) := shell.close stack
    (node :: nodes, stack)

/-- Rebuilds the tree from the recorded lists, the last one first. -/
def rebuild : List (List Shell) → List (List RenderNode)
  | [] => []
  | shells :: rest =>
    let (nodes, stack) := closeAll shells (rebuild rest)
    nodes :: stack

/-- The rendered markup of a component. -/
def readOutput (items : List Value) : Result (List RenderNode) :=
  (readLists (weights items + 1) [items]).map fun lists => (rebuild lists).head?.getD []

end ComponentFlow.Reader

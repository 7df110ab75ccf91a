import ComponentFlow.Position

/-!
# Components

What is known about one component before its diagram is built: its props, the hooks it calls with
the variables they bind, its local processes, the atoms of its module, the types declared for its
names, and the tree of markup it renders.
-/

namespace ComponentFlow

/-- What a bound variable is used for. The classifier only gives the roles `data` and `function`. -/
structure Role where
  name : String
  deriving Repr, DecidableEq, Inhabited

/-- The role of a value that is read. -/
def Role.data : Role := ⟨"data"⟩

/-- The role of a value that is called. -/
def Role.function : Role := ⟨"function"⟩

/-- What kind of expression an argument is. -/
inductive ArgumentKind where
  | literal
  | identifier
  | other
  deriving Repr, DecidableEq, Inhabited

/-- The word for a kind of argument. -/
def ArgumentKind.name : ArgumentKind → String
  | literal => "literal"
  | identifier => "identifier"
  | other => "opaque"

/-- All kinds of arguments, in the order in which a description is searched for them. -/
def ArgumentKind.all : List ArgumentKind := [literal, identifier, other]

/-- One argument of a hook call. -/
structure Argument where
  kind : ArgumentKind
  text : Option String := none
  deriving Repr, DecidableEq, Inhabited

/-- The text of an argument of the given kind, unless it is empty. -/
def Argument.textOf (kind : ArgumentKind) (a : Argument) : Option String :=
  if a.kind = kind then a.text.filter (· != "") else none

/-- An input of the component. -/
structure InputProp where
  name : String
  isFunction : Bool := false
  type : Option String := none
  position : Option Position := none
  deriving Repr, DecidableEq, Inhabited

/-- How the result of a hook call is bound to variables. -/
inductive BindingShape where
  | unbound
  | identifier
  | array
  | object
  deriving Repr, DecidableEq, Inhabited

/-- The word for a shape. -/
def BindingShape.name : BindingShape → String
  | unbound => "none"
  | identifier => "identifier"
  | array => "array"
  | object => "object"

/-- All shapes. -/
def BindingShape.all : List BindingShape := [unbound, identifier, array, object]

/-- One call of a hook. `bound` are the variables that hold its result; `aliases` gives, for a
variable taken out of the returned object under another name, the property it holds. -/
structure Hook where
  name : String
  bound : List String := []
  arguments : List Argument := []
  dependencies : List String := []
  position : Option Position := none
  library : Option String := none
  binding : BindingShape := .unbound
  aliases : List (String × String) := []
  deriving Repr, DecidableEq, Inhabited

namespace Hook

/-- The property that a variable holds: its alias, or the property of its own name. -/
def propertyOf (h : Hook) (name : String) : String :=
  (h.aliases.lookup name).getD name

/-- The first literal argument that is not empty. -/
def firstLiteral (h : Hook) : Option String :=
  h.arguments.findSome? (·.textOf .literal)

/-- The identifier given as first argument. -/
def firstIdentifier (h : Hook) : Option String :=
  h.arguments.head?.bind (·.textOf .identifier)

/-- The identifiers among the arguments. -/
def identifierArguments (h : Hook) : List String :=
  h.arguments.filterMap (·.textOf .identifier)

end Hook

/-- A local function, handler or effect. A process may have another one that cleans up after it. -/
structure Routine where
  name : String
  kind : String := "function"
  references : List String := []
  calls : List String := []
  assigns : List String := []
  externalCalls : List String := []
  dependencies : List String := []
  cleanup : Option Routine := none
  position : Option Position := none
  deriving Repr, Inhabited

/-- The two forms of code an attribute can hold. -/
inductive CodeForm where
  | arrow
  | expression
  deriving Repr, DecidableEq, Inhabited

/-- The word for a form of code. -/
def CodeForm.name : CodeForm → String
  | arrow => "arrow"
  | expression => "expression"

/-- What an attribute holds: a reference to a variable, or code with the names that it calls, reads
and assigns. -/
inductive AttributeContent where
  | reference (target : Option String)
  | code (form : CodeForm) (calls references assigns : List String)
  deriving Repr, DecidableEq, Inhabited

/-- An attribute of an element whose value depends on the component. -/
structure Attribute where
  name : String
  content : AttributeContent
  source : Option String := none
  deriving Repr, DecidableEq, Inhabited

/-- A call whose result is displayed. -/
structure DisplayCall where
  callee : String
  arguments : List String := []
  deriving Repr, DecidableEq, Inhabited

/-- A markup element, apart from its children. -/
structure Element where
  tag : String
  display : List String := []
  calls : List DisplayCall := []
  attributes : List Attribute := []
  position : Option Position := none
  deriving Repr, DecidableEq, Inhabited

/-- Whether the element shows or uses a variable. -/
def Element.hasBindings (e : Element) : Bool :=
  !e.display.isEmpty || !e.calls.isEmpty || !e.attributes.isEmpty

/-- The condition of a conditional block. -/
structure Condition where
  expression : String
  references : List String := []
  position : Option Position := none
  deriving Repr, DecidableEq, Inhabited

/-- The head of a loop. -/
structure LoopHead where
  collection : String
  references : List String := []
  item : Option String := none
  position : Option Position := none
  deriving Repr, DecidableEq, Inhabited

/-- A node of the rendered markup. -/
inductive RenderNode where
  | element (e : Element) (children : List RenderNode)
  | conditional (c : Condition) (whenTrue whenFalse : List RenderNode)
  | loop (l : LoopHead) (body : List RenderNode)
  deriving Repr, Inhabited

/-- An atom declared in the component's module. -/
structure Atom where
  name : String
  derived : Bool := false
  dependencies : List String := []
  position : Option Position := none
  deriving Repr, DecidableEq, Inhabited

/-- The frameworks a component can be written for. -/
def frameworks : List String := ["react", "vue", "svelte"]

/-- The kind of a process that is exposed to the parent component. -/
def exportedHandlerKind : String := "exported-handler"

/-- All facts about one component. -/
structure Component where
  name : String
  framework : Option String := none
  file : Option String := none
  props : List InputProp := []
  hooks : List Hook := []
  processes : List Routine := []
  atoms : List Atom := []
  output : List RenderNode := []
  types : List (String × String) := []
  exportedHandlers : List Routine := []
  deriving Repr, Inhabited

end ComponentFlow

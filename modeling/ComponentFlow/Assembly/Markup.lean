import ComponentFlow.Assembly.Layout
import ComponentFlow.Assembly.Routines

/-!
# Edges of the rendered markup

Elements are linked to what they show, to what their attributes hold, and to what their event
handlers do. A handler that only names or calls a process of the component leads straight to it.
Any other handler that does something gets a process of its own, which carries its updates and
calls; what it reads stays with the element.
-/

namespace ComponentFlow

/-- The references in what an attribute holds. -/
def AttributeContent.shown : AttributeContent → List String
  | .reference target => (target.filter (· != "")).toList
  | .code _ calls references _ => references ++ calls

/-- The references that a two-way attribute binds. -/
def AttributeContent.bound : AttributeContent → List String
  | .reference target => (target.filter (· != "")).toList
  | .code _ _ references _ => references

namespace Assembly

/-- The edges to a group from what controls it. -/
def controlEdges (x : NameIndex) (c : ControlFlow) : List Edge :=
  c.references.filterMap fun name =>
    (x.resolve name).map fun b => ⟨b.node.id, c.group, b.label c.label⟩

/-- Links a group that is in the diagram to what controls it. -/
def linkControl (x : NameIndex) (b : Build) (c : ControlFlow) : Build :=
  if b.diagram.contains c.group then b.linkAll (controlEdges x c) else b

/-- A reference inside a scope, resolved. -/
def resolveIn (x : NameIndex) (scope : Scope) (reference : String) : Option Binding :=
  x.resolve (resolveScope scope reference)

/-- The edges from what references stand for to an element. -/
def shownEdges (x : NameIndex) (scope : Scope) (element base : String) (references : List String) :
    List Edge :=
  references.filterMap fun reference =>
    (resolveIn x scope reference).map fun b => ⟨b.node.id, element, b.label base⟩

/-- The edges for a call whose result is shown. A function takes its arguments before the result
reaches the element; a method of a value, and its arguments, are shown as they are. -/
def displayCallEdges (x : NameIndex) (scope : Scope) (element : String) (call : DisplayCall) :
    List Edge :=
  let arguments := call.arguments.filterMap (resolveIn x scope)
  let shown := arguments.map fun a => (⟨a.node.id, element, a.label "display"⟩ : Edge)
  match resolveIn x scope call.callee with
  | none => shown
  | some b =>
    if b.isProcess || b.isFunction then
      (arguments.filter (!·.isFunction)).map
          (fun a => (⟨a.node.id, b.node.id, a.label "input"⟩ : Edge)) ++
        [⟨b.node.id, element, "display"⟩]
    else ⟨b.node.id, element, (b.ofCallee call.callee).label "display"⟩ :: shown

/-- The edges in both directions for a two-way attribute. -/
def twoWayEdges (x : NameIndex) (scope : Scope) (element : String) (references : List String) :
    List Edge :=
  references.flatMap fun reference =>
    match resolveIn x scope reference with
    | some b => [⟨b.node.id, element, b.label "value"⟩, ⟨element, b.node.id, b.label "updates"⟩]
    | none => []

/-! ## Event handlers -/

/-- What an event handler leads to. -/
inductive HandlerPlan where
  /-- Nothing of the component. -/
  | nothing
  /-- A value, which cannot be called. -/
  | value (reference : String)
  /-- A process of the component. -/
  | process (id : String)
  /-- A process of its own with the names it calls and assigns. -/
  | inline (calls assigns : List String)
  /-- What is recorded about the variable cannot be read. -/
  | unreadable (cause : RecordError)
  deriving Repr, DecidableEq, Inhabited

/-- What a handler that names a value leads to. -/
def planData (b : Binding) (reference : String) : HandlerPlan :=
  match b.writerFault? with
  | some e => .unreadable e
  | none => if b.isWriter then .inline [reference] [] else .value reference

/-- What a handler that names a variable leads to. -/
def planReference (x : NameIndex) (reference : String) : HandlerPlan :=
  match x.resolve reference with
  | none => .nothing
  | some b =>
    if b.isProcess then .process b.node.id
    else if b.role = .data then planData b reference
    else .inline [reference] []

/-- The process that code calls if it does nothing else. -/
def soleProcess (x : NameIndex) (calls assigns : List String) : Option String :=
  match calls, assigns with
  | [call], [] => ((x.resolve call).filter (·.isProcess)).map (·.node.id)
  | _, _ => none

/-- What code leads to. -/
def planCode (x : NameIndex) (calls assigns : List String) : HandlerPlan :=
  match soleProcess x calls assigns with
  | some id => .process id
  | none =>
    if (calls ++ assigns).any fun name => (x.resolve name).isSome then .inline calls assigns
    else .nothing

/-- What an event attribute leads to. -/
def planHandler (x : NameIndex) (scope : Scope) (content : AttributeContent) : HandlerPlan :=
  match content with
  | .reference none => .nothing
  | .reference (some target) =>
    if target == "" then .nothing else planReference x (resolveScope scope target)
  | .code _ calls _ assigns =>
    planCode x (calls.map (resolveScope scope)) (assigns.map (resolveScope scope))

/-- Whether a handler carries a call: only calls that do something, no reads. -/
def carriesCall (x : NameIndex) (call : String) : Bool :=
  (x.resolve call).any fun b => b.isFunction || b.isProcess || b.isWriter

/-- The fault of asking whether a handler carries a call. -/
def carryFault? (x : NameIndex) (call : String) : Option RecordError :=
  ((x.resolve call).filter fun b => !(b.isFunction || b.isProcess)).bind (·.writerFault?)

/-- The links for the calls that a handler carries. -/
def carriedLinks (x : NameIndex) (handler : String) (calls : List String) : List Link :=
  match calls.findSome? (carryFault? x) with
  | some e => [.unreadable e]
  | none => callLinks x handler (calls.filter (carriesCall x))

/-! ## Requests

What an element asks for follows from the names alone. So it is written down first, as requests, and
they are met one after the other. -/

/-- One thing that an element asks for. -/
inductive Request where
  | follow (l : Link)
  /-- A record about an attribute that leads to nothing. -/
  | note (message : String)
  /-- A process for what a handler of an element calls and assigns. -/
  | handle (element : String) (a : Attribute) (calls assigns : List String)
  deriving Repr, DecidableEq, Inhabited

/-- The requests for several edges. -/
def Request.edges (es : List Edge) : List Request :=
  es.map fun e => .follow (.edge e)

/-- The request for what an event attribute leads to. -/
def HandlerPlan.requests (element : String) (a : Attribute) : HandlerPlan → List Request
  | nothing => []
  | value reference =>
    [.note ("Event attribute " ++ a.name ++ " references data value " ++ reference ++ "; skipping")]
  | process id => [.follow (.edge ⟨element, id, a.name⟩)]
  | inline calls assigns => [.handle element a calls assigns]
  | unreadable cause => [.follow (.unreadable cause)]

/-- The requests for what an attribute holds. -/
def attributeRequests (x : NameIndex) (scope : Scope) (element : String) (a : Attribute) :
    List Request :=
  if isTwoWayAttribute a.name then Request.edges (twoWayEdges x scope element (a.content.bound))
  else if isEventAttribute a.name then (planHandler x scope a.content).requests element a
  else Request.edges (shownEdges x scope element "binds" (a.content.shown))

/-- The requests of an element: for what it shows, and for what its attributes hold. -/
def elementRequests (x : NameIndex) (p : PlacedElement) : List Request :=
  Request.edges (shownEdges x p.scope p.id "display" p.element.display) ++
    Request.edges (p.element.calls.flatMap (displayCallEdges x p.scope p.id)) ++
    p.element.attributes.flatMap (attributeRequests x p.scope p.id)

/-- The node of the process that handles an event of an element. -/
def handlerSketch (element : String) (a : Attribute) : Sketch :=
  { stem := "handler", label := a.name ++ " handler", type := .process
    type_ne_group := NodeType.process_ne_group
    metadata :=
      [("kind", .str "inline-handler"), ("inline", .bool true), ("element", .str element)] ++
        ((a.source.filter (· != "")).map fun s => ("source", Value.str s)).toList }

/-- Adds the process of a handler, with its edges. -/
def addHandler (x : NameIndex) (b : Build) (element : String) (a : Attribute)
    (calls assigns : List String) : Build :=
  let (handler, b) := b.addNode (handlerSketch element a)
  let b := b.link ⟨element, handler, a.name⟩
  let b := b.followAll (carriedLinks x handler calls)
  b.linkAll (assignEdges x handler assigns)

/-- Meets a request. -/
def meet (x : NameIndex) (b : Build) : Request → Build
  | .follow l => b.follow l
  | .note message => b.record .debug "assembler" message
  | .handle element a calls assigns => addHandler x b element a calls assigns

/-- Links an element to what it shows and to what its attributes hold. -/
def linkElement (x : NameIndex) (b : Build) (p : PlacedElement) : Build :=
  (elementRequests x p).foldl (meet x) b

end Assembly

end ComponentFlow

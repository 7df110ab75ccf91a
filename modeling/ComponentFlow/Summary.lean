import ComponentFlow.Assembly.BoundContent
import ComponentFlow.Assembly.Routines
import ComponentFlow.Diagram.Written
import ComponentFlow.Processor.Registry

/-!
# Summaries

What has been read of a component, and what became of its hooks, as values: the facts themselves,
and beside them what is derived from them.
-/

namespace ComponentFlow

/-- A mapping with texts as keys. -/
def Value.ofFields (fields : List (String × Value)) : Value :=
  .map (fields.map fun f => (.str f.1, f.2))

/-- A position as a value, if there is one. -/
def Position.summary (p : Option Position) : Value :=
  (p.map Position.toValue).getD .null

/-! ## Hooks, atoms and props -/

/-- An argument of a hook: its kind and its text. -/
def Argument.summary (a : Argument) : Value :=
  .list [.str a.kind.name, Diagram.optionalText a.text]

/-- A call of a hook. -/
def Hook.summary (h : Hook) : Value :=
  .ofFields [("name", .str h.name), ("variables", .ofNames h.bound),
    ("arguments", .list (h.arguments.map Argument.summary)),
    ("dependencies", .ofNames h.dependencies), ("position", Position.summary h.position),
    ("library", Diagram.optionalText h.library), ("binding", .str h.binding.name),
    ("aliases", .ofTexts h.aliases)]

/-- An atom. -/
def Atom.summary (a : Atom) : Value :=
  .ofFields [("name", .str a.name), ("derived", .bool a.derived),
    ("dependencies", .ofNames a.dependencies), ("position", Position.summary a.position)]

/-- A prop, and whether it is a function after all that is known about it. -/
def InputProp.summary (p : InputProp) : Value :=
  .ofFields [("name", .str p.name), ("is_function", .bool p.isFunction),
    ("type", Diagram.optionalText p.type), ("position", Position.summary p.position),
    ("function_prop", .bool p.isFunctionProp)]

mutual

/-- A process, with the one that cleans up after it. -/
def Routine.summary : Routine → Value
  | ⟨name, kind, references, calls, assigns, externalCalls, dependencies, cleanup, position⟩ =>
    .ofFields [("name", .str name), ("kind", .str kind), ("references", .ofNames references),
      ("calls", .ofNames calls), ("assigns", .ofNames assigns),
      ("external_calls", .ofNames externalCalls), ("dependencies", .ofNames dependencies),
      ("cleanup", cleanupSummary cleanup), ("position", Position.summary position)]
termination_by structural r => r

/-- What cleans up after a process, if there is something. -/
def cleanupSummary : Option Routine → Value
  | none => .null
  | some r => r.summary
termination_by structural r => r

end

/-! ## Markup -/

/-- The fields of an attribute that depend on what it holds. -/
def AttributeContent.summary : AttributeContent → List (String × Value)
  | .reference target =>
    [("kind", .str "reference"), ("reference", Diagram.optionalText target), ("calls", .list []),
     ("references", .list []), ("assigns", .list [])]
  | .code form calls references assigns =>
    [("kind", .str form.name), ("reference", .null), ("calls", .ofNames calls),
     ("references", .ofNames references), ("assigns", .ofNames assigns)]

/-- An attribute. -/
def Attribute.summary (a : Attribute) : Value :=
  .ofFields ([("name", .str a.name)] ++ a.content.summary ++
    [("source", Diagram.optionalText a.source)])

mutual

/-- A node of the markup. -/
def RenderNode.summary : RenderNode → Value
  | .element e children =>
    .ofFields [("element", .str e.tag), ("display", .ofNames e.display),
      ("calls", .list (e.calls.map fun c => .list [.str c.callee, .ofNames c.arguments])),
      ("attributes", .list (e.attributes.map Attribute.summary)),
      ("children", .list (renderSummaries children)), ("has_bindings", .bool e.hasBindings),
      ("position", Position.summary e.position)]
  | .conditional c whenTrue whenFalse =>
    .ofFields [("conditional", .str c.expression), ("variables", .ofNames c.references),
      ("then", .list (renderSummaries whenTrue)), ("else", .list (renderSummaries whenFalse)),
      ("position", Position.summary c.position)]
  | .loop l body =>
    .ofFields [("loop", .str l.collection), ("variables", .ofNames l.references),
      ("item", Diagram.optionalText l.item), ("body", .list (renderSummaries body)),
      ("position", Position.summary l.position)]
termination_by structural n => n

/-- Several nodes of the markup. -/
def renderSummaries : List RenderNode → List Value
  | [] => []
  | n :: rest => n.summary :: renderSummaries rest
termination_by structural nodes => nodes

end

/-! ## Components -/

/-- A component, and whether its markup shows anything of it. -/
def Component.summary (c : Component) : Value :=
  .ofFields [("name", .str c.name), ("framework", Diagram.optionalText c.framework),
    ("file", Diagram.optionalText c.file), ("types", .ofTexts c.types),
    ("props", .list (c.props.map InputProp.summary)), ("hooks", .list (c.hooks.map Hook.summary)),
    ("processes", .list (c.processes.map Routine.summary)),
    ("exported_handlers", .list (c.exportedHandlers.map Routine.summary)),
    ("atoms", .list (c.atoms.map Atom.summary)), ("output", .list (renderSummaries c.output)),
    ("bound_content", .bool (hasBoundContent c.output))]

/-! ## Processors -/

/-- A processor fault. -/
def ProcessorFault.summary (f : ProcessorFault) : Value :=
  .ofFields [("processor", .str f.processor), ("hook", .str f.hook), ("message", .str f.message)]

/-- What became of a hook. -/
def Outcome.summary (o : Outcome) : Value :=
  .ofFields [("hook", .str o.hook), ("processor", .str o.processor), ("handled", .bool o.handled),
    ("nodes", .ofNames o.nodes), ("error", Diagram.optionalText o.error)]

end ComponentFlow

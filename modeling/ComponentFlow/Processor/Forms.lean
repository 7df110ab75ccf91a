import ComponentFlow.Processor.LibraryResults
import ComponentFlow.Text.Quoted

/-!
# Forms

The hooks of React Hook Form. All that a call returns stands on one store; the returned functions
write it.
-/

namespace ComponentFlow.Forms

/-- Who the processor is. -/
def info : ProcessorInfo :=
  { id := "react-hook-form", library := "react-hook-form", packages := ["react-hook-form"]
    hooks := NamePattern.names (ResultShape.forms.map (·.hook))
    description := "React Hook Form state and handlers", frameworks := ["react"] }

/-- What a call with a result of a known shape contributes. -/
def processShaped (shape : ResultShape) (s : Session) (i : Invocation) : Session × Contribution :=
  let bound := shape.bind i.hook
  let writers := (bound.filter (·.role = .function)).map (·.name)
  let summary := ResultShape.summary (some shape) i.hook.binding bound
  let (n, s) := buildNode s "library_hook" i.hook.name .store (some i)
    ([("category", some (.str "form")), ("is_library_hook", some (.bool true)),
      ("processor", some (.str info.id))] ++
     (summary.map fun e => (e.1, some e.2)) ++ [("writers", some (.ofNames writers))])
  (s, .ofNode (some n))

/-- What a call contributes. A call of a hook that the library does not know is a fault. -/
def process (s : Session) (i : Invocation) : Session × Except String Contribution :=
  match ResultShape.find? ResultShape.forms i.hook.name with
  | some shape =>
    let (s, c) := processShaped shape s i
    (s, .ok c)
  | none => (s, .error (Text.quoted i.hook.name))

/-- The processor. -/
def processor : Processor := { info, process }

end ComponentFlow.Forms

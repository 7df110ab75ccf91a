import ComponentFlow.Processor.Nodes

/-!
# Other hooks

Hooks that no library processor knows. Such a call becomes one store that holds the role of each
variable and how the role was found.
-/

namespace ComponentFlow.Custom

/-- Who the processor is. It comes last. -/
def info : ProcessorInfo :=
  { id := "custom-hook", library := "", priority := 0
    description := "Fallback for custom hooks and composables" }

/-- The variables that hold a property of another name, with these properties. -/
def renamed (h : Hook) : List (String × String) :=
  Assoc.ofList <| (h.bound.map fun name => (name, h.propertyOf name)).filter fun e => e.1 != e.2

/-- What a call contributes. -/
def process (s : Session) (i : Invocation) : Session × Contribution :=
  let roles := i.boundRoles
  let values := (roles.filter (·.2 ≠ .function)).map Prod.fst
  let (n, s) := buildNode s "custom_hook" i.hook.name .store (some i)
    [("category", some (.str "custom-hook")), ("processor", some (.str info.id)),
     ("variables", some (.ofRoles roles)), ("data_values", some (.ofNames values)),
     ("function_values", some (.ofNames (namesWith .function roles))),
     ("verdicts", i.metadata.lookup "verdicts"), ("aliases", some (.ofTexts (renamed i.hook)))]
  (s, .ofNode (some n))

/-- The processor. It accepts every call. -/
def processor : Processor :=
  { info, accepts := fun _ _ => true
    process := fun s i => ((process s i).1, .ok (process s i).2) }

end ComponentFlow.Custom

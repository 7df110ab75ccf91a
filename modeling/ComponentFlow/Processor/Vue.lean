import ComponentFlow.Processor.Nodes

/-!
# The composition functions of Vue

Reactive values are changed by assignment and so count as their own writers. Injected values come
from outside, and provided values go there. Watchers and lifecycle functions contribute nothing.
-/

namespace ComponentFlow.Vue

/-- Functions that make a reactive value. -/
def reactiveHooks : List String :=
  ["ref", "shallowRef", "reactive", "shallowReactive", "toRef", "customRef"]

/-- Functions that compute a value. -/
def derivedHooks : List String := ["computed", "readonly"]

/-- Functions that contribute nothing. -/
def silentHooks : List String :=
  ["watch", "watchEffect", "watchPostEffect", "onMounted", "onUnmounted", "onBeforeMount",
   "onBeforeUnmount", "onUpdated", "onBeforeUpdate", "onActivated", "onDeactivated", "nextTick"]

/-- Who the processor is. -/
def info : ProcessorInfo :=
  { id := "vue", library := "vue", packages := ["vue", "@vue/*"]
    hooks := NamePattern.names
      (reactiveHooks ++ derivedHooks ++ silentHooks ++ ["provide", "inject"])
    priority := 100, description := "Vue reactivity, dependency injection and lifecycle"
    frameworks := ["vue"] }

/-- The node of one injected value. -/
def injectedNode (i : Invocation) (state : Session × Contribution) (name : String) :
    Session × Contribution :=
  let key := i.hook.firstLiteral.or i.hook.firstIdentifier
  let (n, s) := buildNode state.1 "context" name .input (some i)
    [("category", some (.str "inject")), ("processor", some (.str info.id)),
     ("injection_key", Draft.text key), ("variables", some (.ofRoles [(name, .data)]))]
  (s, state.2.addNode n)

/-- The node of provided values: the identifiers after the one that names the key. -/
def providedNode (s : Session) (i : Invocation) : Node × Session :=
  let key := (i.hook.firstLiteral.or i.hook.firstIdentifier).getD "provide"
  let given := i.hook.identifierArguments
  let values := if i.hook.firstIdentifier.isSome then given.drop 1 else given
  buildNode s "provide" ("provide: " ++ key) .output (some i)
    [("category", some (.str "provide")), ("processor", some (.str info.id)),
     ("injection_key", some (.str key)), ("dependencies", some (.ofNames values)),
     ("dependency_label", some (.str "provides"))]

/-- What a call contributes. -/
def process (s : Session) (i : Invocation) : Session × Contribution :=
  let name := i.hook.name
  if reactiveHooks.contains name then
    let (n, s) := stateNode s i "ref" info.id true
    (s, .ofNode n)
  else if derivedHooks.contains name then
    let (n, s) := derivedNode s i "computed" info.id i.hook.inferredDependencies
    (s, .ofNode n)
  else if name == "inject" then i.hook.bound.foldl (injectedNode i) (s, {})
  else if name == "provide" then
    let (n, s) := providedNode s i
    (s, .ofNode (some n))
  else (s, {})

/-- The processor. -/
def processor : Processor :=
  { info, process := fun s i => ((process s i).1, .ok (process s i).2) }

end ComponentFlow.Vue

import ComponentFlow.Processor.Nodes

/-!
# The builtin hooks of React

State, reducers, contexts and memoised values become nodes. Effects, refs and callbacks contribute
no nodes, since they are among the processes of the component.
-/

namespace ComponentFlow.React

/-- Hooks that hold a state. -/
def stateHooks : List String := ["useState", "useTransition", "useOptimistic", "useActionState"]

/-- Hooks that read a context. -/
def contextHooks : List String := ["useContext", "use"]

/-- Hooks that compute a value. -/
def derivedHooks : List String := ["useMemo", "useDeferredValue", "useSyncExternalStore"]

/-- Hooks that contribute nothing. -/
def silentHooks : List String :=
  ["useEffect", "useLayoutEffect", "useInsertionEffect", "useImperativeHandle", "useDebugValue",
   "useCallback", "useRef", "useId"]

/-- Who the processor is. -/
def info : ProcessorInfo :=
  { id := "react", library := "react", packages := ["react", "preact/hooks", "preact/compat"]
    hooks := NamePattern.names
      (stateHooks ++ contextHooks ++ derivedHooks ++ silentHooks ++ ["useReducer"])
    priority := 100, description := "React builtin hooks", frameworks := ["react"] }

/-- The store of a reducer. The dispatchers are its writers. -/
def reducerNode (s : Session) (i : Invocation) : Option Node × Session :=
  let roles := i.boundRoles
  match i.hook.bound with
  | [] => (none, s)
  | state :: _ =>
    let dispatchers := namesWith .function roles
    let (n, s) := buildNode s "reducer" state .store (some i)
      [("category", some (.str "reducer")), ("processor", some (.str info.id)),
       ("reducer_name", i.metadata.lookup "reducer_name"), ("read_variable", some (.str state)),
       ("write_variable", Draft.text dispatchers.head?), ("variables", some (.ofRoles roles)),
       ("writers", some (.ofNames dispatchers)), ("dispatchers", some (.ofNames dispatchers)),
       ("state_properties", some ((i.metadata.lookup "state_properties").getD (.list [])))]
    (some { n with linked := [("writers", "dispatchers")] }, s)

/-- The roles of the values of a context; a context bound as a whole is data. -/
def contextRoles (i : Invocation) : List (String × Role) :=
  if i.hook.binding = .identifier then i.boundRoles.map fun r => (r.1, .data) else i.boundRoles

/-- The node of one value of a context. -/
def contextNode (i : Invocation) (state : Session × Contribution) (bound : String × Role) :
    Session × Contribution :=
  let type : NodeType := if bound.2 = .function then .output else .input
  let (n, s) := buildNode state.1 "context" bound.1 type (some i)
    [("category", some (.str "context")), ("processor", some (.str info.id)),
     ("context", Draft.text i.hook.firstIdentifier),
     ("property", some (.str (i.hook.propertyOf bound.1))),
     ("variables", some (.ofRoles [bound]))]
  (s, state.2.addNode n)

/-- What a call contributes. -/
def process (s : Session) (i : Invocation) : Session × Contribution :=
  let name := i.hook.name
  if silentHooks.contains name then (s, {})
  else if stateHooks.contains name then
    let (n, s) := stateNode s i "state" info.id false
    (s, .ofNode n)
  else if name == "useReducer" then
    let (n, s) := reducerNode s i
    (s, .ofNode n)
  else if contextHooks.contains name then (contextRoles i).foldl (contextNode i) (s, {})
  else
    let (n, s) := derivedNode s i "memo" info.id i.hook.inferredDependencies
    (s, .ofNode n)

/-- The processor. -/
def processor : Processor :=
  { info, process := fun s i => ((process s i).1, .ok (process s i).2) }

end ComponentFlow.React

import ComponentFlow.Processor.Nodes

/-!
# The runes and stores of Svelte

Runes hold or compute values; props are known from the component itself. Stores of the store library
are created by functions, and a writable store is changed through its own variable.
-/

namespace ComponentFlow.Svelte

/-- Runes that hold a state. -/
def stateRunes : List String := ["$state", "$state.raw", "$bindable"]

/-- Runes that compute a value. -/
def derivedRunes : List String := ["$derived", "$derived.by"]

/-- Runes that contribute nothing. -/
def silentRunes : List String := ["$effect", "$effect.pre", "$inspect", "$props"]

/-- Who the processor of runes is. -/
def info : ProcessorInfo :=
  { id := "svelte", library := "svelte"
    hooks := NamePattern.names (stateRunes ++ derivedRunes ++ silentRunes)
    priority := 100, description := "Svelte 5 runes", frameworks := ["svelte"] }

/-- What a rune contributes. -/
def process (s : Session) (i : Invocation) : Session × Contribution :=
  if stateRunes.contains i.hook.name then
    let (n, s) := stateNode s i "rune-state" info.id true
    (s, .ofNode n)
  else if derivedRunes.contains i.hook.name then
    let (n, s) := derivedNode s i "rune-derived" info.id i.hook.dependencies
    (s, .ofNode n)
  else (s, {})

/-- The processor of runes. -/
def processor : Processor :=
  { info, process := fun s i => ((process s i).1, .ok (process s i).2) }

/-- Who the processor of stores is. -/
def storeInfo : ProcessorInfo :=
  { id := "svelte-store", library := "svelte/store", packages := ["svelte/store"]
    hooks := NamePattern.names ["writable", "readable", "derived", "get"]
    description := "Svelte writable, readable and derived stores", frameworks := ["svelte"] }

/-- What a store function contributes. -/
def processStore (s : Session) (i : Invocation) : Session × Contribution :=
  if i.hook.name == "writable" then
    let (n, s) := stateNode s i "writable-store" storeInfo.id true
    (s, .ofNode n)
  else if i.hook.name == "readable" then
    let (n, s) := stateNode s i "readable-store" storeInfo.id false
    (s, .ofNode n)
  else if i.hook.name == "derived" then
    let (n, s) := derivedNode s i "derived-store" storeInfo.id i.hook.inferredDependencies
    (s, .ofNode n)
  else (s, {})

/-- The processor of stores. -/
def storeProcessor : Processor :=
  { info := storeInfo, process := fun s i => ((processStore s i).1, .ok (processStore s i).2) }

end ComponentFlow.Svelte

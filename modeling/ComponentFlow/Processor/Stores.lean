import ComponentFlow.Processor.Nodes

/-!
# Global stores

Hooks of store libraries. All calls for one store share a node. A variable that holds the store as a
whole is remembered, so that references can be taken from it later.
-/

namespace ComponentFlow.Stores

/-- What a library adds to the handling of store hooks: how nodes are called, and whether a variable
for the result holds the store as a whole. -/
structure Dialect where
  id : String
  stem : String
  category : String
  holdsStore : Hook → Bool

/-- The roles of the variables of a call. A variable for the whole result is data; a variable
without a role is a function if it is named like an action. -/
def roles (i : Invocation) : List (String × Role) :=
  if i.hook.binding = .identifier then allData i.hook.bound
  else
    Assoc.ofList <| i.hook.bound.map fun name =>
      (name, (i.roles.lookup name).getD
        (if looksLikeAction (i.hook.propertyOf name) then .function else .data))

/-- The resource key of a store. -/
def storeKey (hook : String) : String := "store:" ++ hook

/-- The resource key of a variable that holds a store. -/
def variableKey (name : String) : String := "store-variable:" ++ name

/-- One more than a value. Only numbers have one; a sequence can only be lengthened by its like. -/
def succOf (v : Value) : Except String Value :=
  match v with
  | .int n => .ok (.int (n + 1))
  | .float x => .ok (.float (x + 1))
  | .bool b => .ok (.int (if b then 2 else 1))
  | .str _ | .list _ | .tuple _ =>
    .error ("can only concatenate " ++ v.kindName ++ " (not \"int\") to " ++ v.kindName)
  | _ => .error ("unsupported operand type(s) for +: '" ++ v.kindName ++ "' and 'int'")

/-- The number of calls after one more. A node without a number has had one. -/
def countAfter (current : Metadata) : Except String Value :=
  succOf ((current.lookup "invocation_count").getD (.int 1))

/-- The names by which a call writes its store. Actions of a store that is held as a whole are
called through its variable. -/
def writers (dialect : Dialect) (i : Invocation) : List String :=
  namesWith .function (roles i) ++
    (if i.hook.binding = .identifier && dialect.holdsStore i.hook then i.hook.bound else [])

/-- The node of a store that is met for the first time. -/
def storeNode (dialect : Dialect) (s : Session) (i : Invocation) : Node × Session :=
  let roles := roles i
  buildNode s dialect.stem i.hook.name .store (some i)
    [("category", some (.str dialect.category)), ("processor", some (.str dialect.id)),
     ("store_name", some (.str i.hook.name)), ("variables", some (.ofRoles roles)),
     ("writers", some (.ofNames (writers dialect i))),
     ("actions", some (.ofNames (namesWith .function roles))),
     ("state_properties", some (.ofNames ((namesWith .data roles).map i.hook.propertyOf))),
     ("invocation_count", some (.int 1))]

/-- What a further call adds to the node of its store, with the number of calls so far. -/
def augment (dialect : Dialect) (i : Invocation) (count : Value) : Metadata :=
  let roles := roles i
  [("variables", .ofRoles roles), ("writers", .ofNames (writers dialect i)),
   ("actions", .ofNames (namesWith .function roles)),
   ("invocation_count", count)]

/-- Remembers the variables that hold the store. -/
def bindVariables (h : Hook) (id : String) (c : Contribution) : Contribution :=
  if h.binding = .identifier then
    h.bound.foldl (fun c name => c.bind (variableKey name) id) c
  else c

/-- What a call contributes. -/
def process (dialect : Dialect) (s : Session) (i : Invocation) :
    Session × Except String Contribution :=
  match s.resource? (storeKey i.hook.name) with
  | some existing =>
    (s, (countAfter existing.metadata).map fun count =>
      bindVariables i.hook existing.id <|
        ({} : Contribution).update existing.id (augment dialect i count))
  | none =>
    let (n, s) := storeNode dialect s i
    (s, .ok (bindVariables i.hook n.id (({} : Contribution).addShared (storeKey i.hook.name) n)))

/-- How Zustand stores are handled. A hook without a selector returns the whole store. -/
def zustandDialect : Dialect :=
  { id := "zustand", stem := "zustand_store", category := "zustand-store"
    holdsStore := fun h => h.arguments.isEmpty }

/-- Zustand. -/
def zustand : Processor :=
  { info :=
      { id := "zustand", library := "zustand", packages := ["zustand", "zustand/*"]
        hooks := [.between ["use"] Text.isWord 0 "Store"], priority := 80
        description := "Zustand store hooks", frameworks := ["react"] }
    process := process zustandDialect }

/-- How Pinia stores are handled. A hook always returns the whole store. -/
def piniaDialect : Dialect :=
  { id := "pinia", stem := "pinia_store", category := "pinia-store", holdsStore := fun _ => true }

/-- Who the processor of Pinia is. -/
def piniaInfo : ProcessorInfo :=
  { id := "pinia", library := "pinia", packages := ["pinia"]
    hooks := [.between ["use"] Text.isWord 1 "Store", .exactly "storeToRefs"], priority := 95
    description := "Pinia stores and storeToRefs", frameworks := ["vue"] }

/-- References taken from a store that a variable holds. -/
def storeToRefs (s : Session) (h : Hook) : Session × Contribution :=
  match h.firstIdentifier.bind fun name => s.resource? (variableKey name) with
  | some store =>
    let refs := allData h.bound
    (s, ({} : Contribution).update store.id
      [("variables", .ofRoles refs), ("refs", .ofNames (refs.map Prod.fst))])
  | none =>
    (s.record .warning "processors.stores"
      "storeToRefs argument does not name a known store; skipping", { handled := false })

/-- What a Pinia call contributes. -/
def processPinia (s : Session) (i : Invocation) : Session × Except String Contribution :=
  if i.hook.name == "storeToRefs" then
    let (s, c) := storeToRefs s i.hook
    (s, .ok c)
  else process piniaDialect s i

/-- Pinia. Without a framework and a package a store hook is not taken for one of Pinia. -/
def pinia : Processor :=
  { info := piniaInfo
    accepts := fun i framework =>
      (framework.isSome || isPackageName i.hook.library) && piniaInfo.accepts i.hook framework
    process := processPinia }

/-- Who the processor of MobX is. -/
def mobxInfo : ProcessorInfo :=
  { id := "mobx", library := "mobx-react-lite"
    packages := ["mobx-react-lite", "mobx-react", "mobx"]
    hooks := NamePattern.names ["useLocalObservable", "useObserver"]
    description := "MobX local observables", frameworks := ["react"] }

/-- What a MobX call contributes. -/
def processMobx (s : Session) (i : Invocation) : Session × Contribution :=
  if i.hook.name == "useLocalObservable" then
    let (n, s) := stateNode s i "mobx-observable" mobxInfo.id true
    (s, .ofNode n)
  else (s, {})

/-- MobX. -/
def mobx : Processor :=
  { info := mobxInfo, process := fun s i => ((processMobx s i).1, .ok (processMobx s i).2) }

end ComponentFlow.Stores

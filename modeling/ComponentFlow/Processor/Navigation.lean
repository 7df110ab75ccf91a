import ComponentFlow.Processor.Basic

/-!
# Navigation

Routing hooks read the address or change it. Each call has a node of its own, linked to the one
address that the analysis reads from and the one that it navigates to.
-/

namespace ComponentFlow.Navigation

/-- What a routing hook does with the address. -/
inductive Kind where
  | reads
  | navigates
  | both
  | guard
  deriving Repr, DecidableEq, Inhabited

/-- The word for a kind. -/
def Kind.name : Kind → String
  | reads => "reads"
  | navigates => "navigates"
  | both => "both"
  | guard => "guard"

/-- A routing library: its hooks with what they do, and the roles in the tuples they return. -/
structure Router where
  info : ProcessorInfo
  kinds : List (String × Kind)
  positional : List (String × List Role) := []

/-- What a hook of a router does. -/
def Router.kindOf (r : Router) (name : String) : Kind :=
  (r.kinds.lookup name).getD .reads

/-- The resource key of the address that is read. -/
def inputKey : String := "url:input"

/-- The resource key of the address that is navigated to. -/
def outputKey : String := "url:output"

/-- The address that is read. -/
def inputNode (s : Session) : Node × Session :=
  buildNode s "url_input" "URL: Input" .input none [("category", some (.str "url"))]

/-- The address that is navigated to. -/
def outputNode (s : Session) : Node × Session :=
  buildNode s "url_output" "URL: Output" .output none [("category", some (.str "url"))]

/-- The variables of a call. Stores and functions that are imported as they are bind nothing and
are used by their own name. -/
def variablesOf (h : Hook) : List String :=
  if h.bound.isEmpty && !Text.startsWith h.name "use" && !Text.startsWith h.name "on" then
    [h.name]
  else h.bound

/-- The role of the variable at a place of the binding. -/
def Router.roleAt (r : Router) (h : Hook) (kind : Kind) (index : Nat) : Role :=
  let positional := if h.binding = .array then
      ((r.positional.lookup h.name).getD [])[index]?
    else none
  positional.getD (if kind = .navigates then .function else .data)

/-- The roles of the variables of a call. -/
def Router.roles (r : Router) (h : Hook) (kind : Kind) : List (String × Role) :=
  Assoc.ofList ((variablesOf h).mapIdx fun index name => (name, r.roleAt h kind index))

/-- The node of a call. -/
def Router.callNode (r : Router) (s : Session) (i : Invocation) (kind : Kind) : Node × Session :=
  buildNode s "library_hook" i.hook.name .process (some i)
    [("category", some (.str "navigation")), ("is_library_hook", some (.bool true)),
     ("processor", some (.str r.info.id)), ("navigation", some (.str kind.name)),
     ("variables", some (.ofRoles (r.roles i.hook kind)))]

/-- Links a call to the address that is read. -/
def linkInput (call : Node) (s : Session) (c : Contribution) : Session × Contribution :=
  let (address, c, s) := s.sharedNode c inputKey inputNode
  (s, c.addEdge ⟨address.id, call.id, "provides"⟩)

/-- Links a call to the address that is navigated to. -/
def linkOutput (call : Node) (s : Session) (c : Contribution) : Session × Contribution :=
  let (address, c, s) := s.sharedNode c outputKey outputNode
  (s, c.addEdge ⟨call.id, address.id, "navigates"⟩)

/-- What a call contributes. -/
def Router.process (r : Router) (s : Session) (i : Invocation) : Session × Contribution :=
  let kind := r.kindOf i.hook.name
  let (call, s) := r.callNode s i kind
  let c := Contribution.ofNode (some call)
  match kind with
  | .reads => linkInput call s c
  | .guard => linkInput call s c
  | .navigates => linkOutput call s c
  | .both =>
    let (s, c) := linkInput call s c
    linkOutput call s c

/-- The processor of a router. -/
def Router.processor (r : Router) : Processor :=
  { info := { r.info with hooks := NamePattern.names (r.kinds.map Prod.fst) }
    process := fun s i => ((r.process s i).1, .ok (r.process s i).2) }

/-- Next.js. -/
def next : Router :=
  { info := { id := "next", library := "next", packages := ["next/navigation", "next/router"]
              description := "Next.js navigation hooks", frameworks := ["react"] }
    kinds := [("useRouter", .navigates), ("usePathname", .reads), ("useSearchParams", .reads),
              ("useParams", .reads)] }

/-- React Router. -/
def reactRouter : Router :=
  { info := { id := "react-router", library := "react-router"
              packages := ["react-router", "react-router-dom"]
              description := "React Router hooks", frameworks := ["react"] }
    kinds := [("useNavigate", .navigates), ("useParams", .reads), ("useLocation", .reads),
              ("useSearchParams", .both)]
    positional := [("useSearchParams", [.data, .function])] }

/-- TanStack Router. -/
def tanstackRouter : Router :=
  { info := { id := "tanstack-router", library := "@tanstack/react-router"
              packages := ["@tanstack/*-router"]
              description := "TanStack Router hooks", frameworks := ["react"] }
    kinds := [("useRouter", .navigates), ("useNavigate", .navigates), ("useRouterState", .reads),
              ("useSearch", .reads), ("useParams", .reads), ("useLocation", .reads)] }

/-- Vue Router. -/
def vueRouter : Router :=
  { info := { id := "vue-router", library := "vue-router", packages := ["vue-router"]
              description := "Vue Router composables and guards", frameworks := ["vue"] }
    kinds := [("useRoute", .reads), ("useRouter", .navigates), ("onBeforeRouteUpdate", .guard),
              ("onBeforeRouteLeave", .guard)] }

/-- SvelteKit. -/
def svelteKit : Router :=
  { info := { id := "sveltekit", library := "@sveltejs/kit", packages := ["$app/*"]
              description := "SvelteKit page stores and navigation", frameworks := ["svelte"] }
    kinds := [("page", .reads), ("navigating", .reads), ("updated", .reads), ("goto", .navigates),
              ("beforeNavigate", .guard), ("afterNavigate", .guard)] }

end ComponentFlow.Navigation

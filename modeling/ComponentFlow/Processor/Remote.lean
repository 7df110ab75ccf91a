import ComponentFlow.Processor.LibraryResults
import ComponentFlow.Text.Case
import ComponentFlow.Text.Quoted

/-!
# Remote data

Hooks that query or change remote data. Each call becomes one store, linked to the server behind its
endpoint. Calls with one endpoint share a server; configuration hooks share one without endpoint. A
call whose endpoint is not known statically has no server.
-/

namespace ComponentFlow.Remote

/-- What a library adds to the handling of remote calls: the shape of a result, if the library knows
the hook, the endpoint of a call, and the label of the edge by which data is fetched. -/
structure Dialect where
  shape : Hook → Option ResultShape
  endpoint : Hook → Option String := Hook.firstLiteral
  fetchLabel : String := "fetch"

/-- The resource key of a server. -/
def serverKey (endpoint : Option String) : String :=
  "server:" ++ endpoint.getD "*"

/-- A new server. -/
def serverNode (endpoint : Option String) (s : Session) : Node × Session :=
  let label := match endpoint with
    | some e => "Server: " ++ e
    | none => "Server"
  buildNode s "server" label .input none
    [("category", some (.str "server")), ("endpoint", Draft.text endpoint)]

/-- Where a call stands. -/
def place (h : Hook) : String :=
  match h.position with
  | some p => "line " ++ Decimal.intText p.line
  | none => "unknown position"

/-- The store of a call. -/
def callNode (id : String) (shape : ResultShape) (i : Invocation) (s : Session) : Node × Session :=
  let summary := ResultShape.summary (some shape) i.hook.binding (shape.bind i.hook)
  buildNode s "library_hook" i.hook.name .store (some i)
    ([("category", some (.str "library-hook")), ("is_library_hook", some (.bool true)),
      ("processor", some (.str id)), ("operation", some (.str shape.operation.name))] ++
     summary.map fun e => (e.1, some e.2))

/-- Notes on the node of a call which server is behind it. -/
def noteServer (endpoint : Option String) (server : String) (n : Node) : Node :=
  let linked := n.metadata.set "server_node_id" (.str server)
  { n with metadata := match endpoint with
      | some e => linked.set "endpoint" (.str e)
      | none => linked }

/-- Links the store of a call to the server behind an endpoint. -/
def linkServer (dialect : Dialect) (shape : ResultShape) (endpoint : Option String) (call : Node)
    (s : Session) : Session × Contribution :=
  let (server, c, s) :=
    s.sharedNode (.ofNode (some call)) (serverKey endpoint) (serverNode endpoint)
  let c := c.modifyNode call.id (noteServer endpoint server.id)
  match shape.operation with
  | .mutation => (s, c.addEdge ⟨call.id, server.id, "mutate"⟩)
  | .config => (s, c.addEdge ⟨call.id, server.id, "mutate"⟩)
  | _ => (s, c.addEdge ⟨server.id, call.id, dialect.fetchLabel⟩)

/-- What a call with a result of a known shape contributes. -/
def processShaped (id : String) (dialect : Dialect) (shape : ResultShape) (s : Session)
    (i : Invocation) : Session × Contribution :=
  let (call, s) := callNode id shape i s
  if shape.operation = .config then linkServer dialect shape none call s
  else
    match dialect.endpoint i.hook with
    | some endpoint => linkServer dialect shape (some endpoint) call s
    | none =>
      (s.record .warning "processors.data_fetching"
        ("No static endpoint for " ++ i.hook.name ++ " at " ++ place i.hook ++
          "; omitting its Server node"),
       .ofNode (some call))

/-- What a call contributes. A call of a hook that the library does not know is a fault. -/
def process (id : String) (dialect : Dialect) (s : Session) (i : Invocation) :
    Session × Except String Contribution :=
  match dialect.shape i.hook with
  | some shape => let (s, c) := processShaped id dialect shape s i
    (s, .ok c)
  | none => (s, .error (Text.quoted i.hook.name))

/-- The processor of a library. -/
def processor (info : ProcessorInfo) (dialect : Dialect) : Processor :=
  { info, process := process info.id dialect }

/-- The processor of a library whose hooks have fixed names. -/
def listed (info : ProcessorInfo) (shapes : List ResultShape)
    (endpoint : Hook → Option String) : Processor :=
  processor { info with hooks := NamePattern.names (shapes.map (·.hook)) }
    { shape := fun h => ResultShape.find? shapes h.name, endpoint }

/-- SWR. -/
def swr : Processor :=
  listed { id := "swr", library := "swr", packages := ["swr", "swr/*"]
           description := "SWR data fetching hooks" }
    ResultShape.swr Hook.firstLiteral

/-- TanStack Query. -/
def tanstackQuery : Processor :=
  listed { id := "tanstack-query", library := "@tanstack/react-query"
           packages := ["@tanstack/*-query", "react-query"], description := "TanStack Query hooks" }
    ResultShape.tanstackQuery Hook.firstLiteral

/-- Apollo Client. The constant that holds the query document names the operation. -/
def apollo : Processor :=
  listed { id := "apollo", library := "@apollo/client"
           packages := ["@apollo/client", "@apollo/client/*"]
           description := "Apollo Client GraphQL hooks" }
    ResultShape.apollo fun h => h.firstIdentifier.or h.firstLiteral

/-- The part of a generated hook name between `use` and a suffix, if it is a word. -/
def generatedName? (tail : String) (name : List Char) : Option (List Char) :=
  match (Text.afterStart? "use".toList name).bind (Text.beforeEnd? tail.toList) with
  | some middle => if someAll Text.isWord middle then some middle else none
  | none => none

/-- The endpoint that a generated hook is named for. The word that marks lazy hooks is no part of it
unless nothing else is left. -/
def rtkEndpoint (h : Hook) : Option String :=
  let name := h.name.toList
  let word := match generatedName? "Mutation" name with
    | some word => some word
    | none => (generatedName? "Query" name).map fun word =>
        match Text.afterStart? "Lazy".toList word with
        | some [] => word
        | some rest => rest
        | none => word
  word.map fun word => Text.uncapitalize (String.ofList word)

/-- RTK Query. -/
def rtkQuery : Processor :=
  processor { id := "rtk-query", library := "@reduxjs/toolkit"
              packages := ["@reduxjs/toolkit", "@reduxjs/toolkit/*"]
              hooks := [.between ["use"] Text.isWord 1 "Query",
                        .between ["use"] Text.isWord 1 "Mutation"]
              description := "RTK Query generated endpoint hooks" }
    { shape := fun h =>
        some (if (generatedName? "Mutation" h.name.toList).isSome then ResultShape.rtkMutation
          else ResultShape.rtkQuery)
      endpoint := rtkEndpoint }

/-- The path of a procedure: what stands between the first and the last dot of a call. -/
def trpcEndpoint (h : Hook) : Option String :=
  let parts := Text.pieces '.' h.name.toList
  let path := ".".intercalate ((parts.drop 1).dropLast.map String.ofList)
  if path == "" then none else some path

/-- tRPC. -/
def trpc : Processor :=
  let inLine : Char → Bool := (· != '\n')
  processor { id := "trpc", library := "@trpc/react-query", packages := ["@trpc/*"]
              hooks := [.between ["trpc.", "api."] inLine 1 ".useQuery",
                        .between ["trpc.", "api."] inLine 1 ".useMutation"]
              description := "tRPC procedure hooks" }
    { shape := fun h =>
        some (if Text.endsWith h.name ".useMutation" then ResultShape.trpcMutation
          else ResultShape.trpcQuery)
      endpoint := trpcEndpoint
      fetchLabel := "query" }

end ComponentFlow.Remote

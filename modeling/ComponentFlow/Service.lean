import ComponentFlow.Run
import ComponentFlow.Summary
import ComponentFlow.Value.Json.Reader

/-!
# The service

Analyses over HTTP: the routes of the service, what they accept and what they answer. A request that
asks for something impossible is answered with the reason; other failures are not explained.
-/

namespace ComponentFlow.Service

/-- A request. -/
structure Request where
  method : String
  path : String
  body : String := ""
  deriving Repr, DecidableEq, Inhabited

/-- An answer; without a body if its status says everything. -/
structure Response where
  status : Nat
  body : Option Value := none
  deriving Inhabited

/-- What can be asked for. -/
inductive Route where
  | health
  | processors
  | analyze
  deriving Repr, DecidableEq, Inhabited

namespace Route

/-- All routes. -/
def all : List Route := [health, processors, analyze]

/-- The path of a route. -/
def path : Route → String
  | health => "/health"
  | processors => "/processors"
  | analyze => "/analyze"

/-- The method of a route. -/
def method : Route → String
  | analyze => "POST"
  | _ => "GET"

/-- The route of a path. A query and a final slash do not matter. -/
def ofPath? (path : String) : Option Route :=
  let path := Text.before '?' path.toList
  all.find? fun r => r.path.toList == path || r.path.toList ++ ['/'] == path

end Route

/-- The answer to a request that asks for something impossible. -/
def refusal (message : String) : Response :=
  ⟨400, some (.ofFields [("detail", .str message)])⟩

/-- The answer to a failure that is not explained. -/
def failure : Response := ⟨500, none⟩

/-- The answer if no processors can be collected. -/
def ofDiscoveryError (e : DiscoveryError) : Response :=
  match e with
  | .unknownNames _ | .alreadyRegistered _ => refusal e.message
  | .notLoaded .. | .notAProcessor => failure

/-- The answer if an analysis is not finished. -/
def ofAnalysisError : AnalysisError → Response
  | .failed (.discovery e) => ofDiscoveryError e
  | .failed (.refused (.unreadable _)) => failure
  | .failed (.refused e) => refusal e.message
  | .failed (.unaccepted _) => failure
  | .unreadable _ => failure

/-- What is said about a processor. -/
def describe (p : Processor) : Value :=
  .ofFields [("id", .str p.id), ("library", .str p.info.library), ("priority", .int p.priority),
    ("description", .str p.info.description), ("frameworks", .ofNames p.info.frameworks)]

/-- The answer to a question for the processors. -/
def listProcessors (a : Analyzer) : Response :=
  match a.registry with
  | .ok r => ⟨200, some (.ofFields [("processors", .list (r.ordered.map describe))])⟩
  | .error e => ofDiscoveryError e

/-- What an analysis is asked for with: a document that is a mapping, and perhaps a source text. -/
def readBody? (body : String) : Option (Value × Option String) := do
  let fields ← (← Json.read? body).entries?
  let document ← (Value.lookup "document" fields)
  let _ ← document.entries?
  match Value.field "source" fields with
  | .null => return (document, none)
  | .str source => return (document, some source)
  | _ => none

/-- The answer with the result of an analysis. -/
def ofAnalysis (result : Analysis) : Response :=
  let (graph, reason) : Value × Value := match result with
    | .diagram _ => (result.toValue, .null)
    | .notAnalyzable reason _ _ => (.null, .str reason)
  ⟨200, some (.ofFields
    [("analyzable", .bool result.isAnalyzable), ("graph", graph), ("reason", reason)])⟩

/-- The answer to a question for an analysis. -/
def analyze (a : Analyzer) (body : String) : Response :=
  match readBody? body with
  | none => ⟨422, none⟩
  | some (document, source) =>
    match (a.analyzeDocument document source).2 with
    | .ok result => ofAnalysis result
    | .error e => ofAnalysisError e

/-- The answer to a request. -/
def respond (a : Analyzer) (r : Request) : Response :=
  match Route.ofPath? r.path with
  | none => ⟨404, none⟩
  | some route =>
    if Text.upper r.method != route.method then ⟨405, none⟩
    else
      match route with
      | .health => ⟨200, some (.ofFields [("status", .str "ok")])⟩
      | .processors => listProcessors a
      | .analyze => analyze a r.body

end ComponentFlow.Service

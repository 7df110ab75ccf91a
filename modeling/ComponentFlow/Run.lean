import ComponentFlow.Assembly.Assemble
import ComponentFlow.AtomScan.Scan
import ComponentFlow.Component.Document
import ComponentFlow.Diagram.Written
import ComponentFlow.Processor.Discovery

/-!
# Runs

One analysis from end to end: hooks are classified, each one is given to its processor, and the
diagram is assembled. Every run has a registry and a session of its own, so runs do not influence
each other.
-/

namespace ComponentFlow

/-- How an analysis is to be done. -/
structure Options where
  oracleTimeout : Float := 2.0
  naming : Naming := {}
  selection : Selection := {}

/-- What analyses are done with. The types that a component declares are asked if there is no
oracle. -/
structure Analyzer where
  options : Options := {}
  oracle : Option TypeOracle := none
  registry : Except DiscoveryError Registry := createRegistry options.selection []
  parser : Option SourceParser := none

/-- A finished analysis. -/
structure Run where
  session : Session
  hooks : List Invocation
  outcomes : List Outcome

/-- The diagram of a run. -/
def Run.diagram (r : Run) : Diagram := r.session.diagram

/-- Why an analysis is not finished. -/
inductive RunError where
  | discovery (cause : DiscoveryError)
  | unaccepted (hook : String)
  | refused (cause : DiagramError)
  deriving Repr, DecidableEq, Inhabited

/-- The message for a run error. -/
def RunError.message : RunError → String
  | discovery cause => cause.message
  | unaccepted hook => Registry.unaccepted hook
  | refused cause => cause.message

namespace Analyzer

/-- The origin of the records of a run. -/
def origin : String := "pipeline"

/-- What the hooks of a component are classified by. -/
def classifier (a : Analyzer) (c : Component) : Classifier :=
  let oracle := match a.oracle with
    | some oracle => some oracle
    | none => if c.types.isEmpty then none else some (TypeOracle.ofTable c.types)
  { oracle := oracle.map (⟨·, a.options.oracleTimeout⟩), naming := a.options.naming }

/-- Classifies a hook of a component after others. -/
def classifyHook (a : Analyzer) (c : Component) (state : List Invocation × Journal) (h : Hook) :
    List Invocation × Journal :=
  match ({ hook := h } : Invocation).classifyBy (a.classifier c) c.file with
  | (.ok i, records) => (state.1 ++ [i], state.2 ++ records)
  | (.error _, records) => (state.1 ++ [{ hook := h }], state.2 ++ records)

/-- Classifies the hooks of a component. -/
def classifyHooks (a : Analyzer) (c : Component) : List Invocation × Journal :=
  c.hooks.foldl (a.classifyHook c) ([], [])

/-- Gives every hook to its processor; the hook that none accepts ends this. -/
def dispatchAll (r : Registry) :
    Session → List Invocation → Session × Except RunError (List Outcome)
  | s, [] => (s, .ok [])
  | s, i :: rest =>
    match r.dispatch? s i with
    | none => (s, .error (.unaccepted i.hook.name))
    | some (s, o) =>
      let (s, outcomes) := dispatchAll r s rest
      (s, outcomes.map (o :: ·))

/-- Records the hooks that their processors left alone. -/
def recordUnhandled (s : Session) (outcomes : List Outcome) : Session :=
  outcomes.foldl (fun s o =>
    if !o.handled && o.error.isNone then
      s.record .debug origin ("Processor " ++ o.processor ++ " left " ++ o.hook ++ " unhandled")
    else s) s

/-- Records the number of faults, if there are any. -/
def recordFaults (s : Session) : Session :=
  if s.faults.isEmpty then s
  else s.record .info origin
    ("Analysis of " ++ s.component.name ++ " finished with " ++
      Decimal.intText s.faults.length ++ " processor fault(s)")

/-- Dispatches classified hooks and assembles the diagram. -/
def build (r : Registry) (s : Session) (hooks : List Invocation) :
    Journal × Except RunError Run :=
  match dispatchAll r s hooks with
  | (s, .error e) => (s.journal, .error e)
  | (s, .ok outcomes) =>
    let b := Assembly.assemble (recordUnhandled s outcomes)
    match b.refusal with
    | some e => (b.session.journal, .error (.refused e))
    | none =>
      let session := recordFaults b.session
      (session.journal, .ok { session, hooks, outcomes })

/-- The atoms of a component and of its source text. -/
def atomsOf (a : Analyzer) (c : Component) (source : Option String) : List Atom × Journal :=
  let (scanned, journal) := match source.filter (· != "") with
    | some text => AtomScan.scan a.parser text
    | none => ([], [])
  (AtomScan.mergeAtoms c.atoms scanned, journal)

/-- Analyses a component, with the records of the analysis. -/
def execute (a : Analyzer) (c : Component) (source : Option String) :
    Journal × Except RunError Run :=
  let (atoms, scanned) := a.atomsOf c source
  let c := { c with atoms }
  let (hooks, classified) := a.classifyHooks c
  let journal := [⟨.info, origin, "Analyzing component " ++ c.name⟩] ++ scanned ++ classified
  match a.registry with
  | .error e => (journal, .error (.discovery e))
  | .ok r => build r { Session.start c atoms with journal } hooks

end Analyzer

/-- The result of analysing a document. -/
inductive Analysis where
  | diagram (d : Diagram)
  | notAnalyzable (reason : String) (component file : Option String)
  deriving Inhabited

/-- Whether the document was analysed. -/
def Analysis.isAnalyzable : Analysis → Bool
  | diagram _ => true
  | notAnalyzable .. => false

/-- A result as a value. -/
def Analysis.toValue : Analysis → Value
  | diagram d => d.toValue
  | notAnalyzable reason component file =>
    .map [(.str "component", Diagram.optionalText component),
      (.str "file", Diagram.optionalText file), (.str "analyzable", .bool false),
      (.str "reason", .str reason)]

/-- Why a document gives no result. -/
inductive AnalysisError where
  /-- A value was used as a key that cannot be one. -/
  | unreadable (failure : ReadFailure)
  | failed (cause : RunError)

/-- Analyses a document. A document at fault is a result of its own. -/
def Analyzer.analyzeDocument (a : Analyzer) (document : Value) (source : Option String) :
    Journal × Except AnalysisError Analysis :=
  match Component.ofValue document with
  | .error (.fault cause component file) =>
    ([⟨.warning, Analyzer.origin, "Component is not analyzable: " ++ cause.message⟩],
     .ok (.notAnalyzable cause.message component file))
  | .error failure => ([], .error (.unreadable failure))
  | .ok c =>
    let (journal, result) := a.execute c source
    (journal, match result with
      | .ok run => .ok (.diagram run.diagram)
      | .error e => .error (.failed e))

end ComponentFlow

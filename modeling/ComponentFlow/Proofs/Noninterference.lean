import ComponentFlow.Proofs.AgreeingBuilds
import ComponentFlow.Proofs.Runs

/-!
# What types can tell a run

An analysis may be told about types: by an oracle, or by the types that its component declares. Only
the answers for variables that hooks bind matter, and of these only those that are answers. An
oracle that fails, takes too long or talks nonsense about a variable is one that does not know it.

So two analyses of a component that get the same answers for the bound variables cannot be told
apart, except by their journals (`execute_noninterference`). The answers enter in one place, the
classification of hooks; from there on the sessions of the two analyses agree step by step.
-/

namespace ComponentFlow

/-- What an analysis is told about types: an oracle, the time it may take, and the types that the
component declares. -/
structure Advice where
  oracle : Option TypeOracle := none
  timeout : Float := 2.0
  types : List (String × String) := []

namespace Advice

/-- Who is asked about types, if anybody. The declared types are asked if there is no oracle. -/
def asked (w : Advice) : Option TypeOracle :=
  w.oracle.or (if w.types.isEmpty then none else some (TypeOracle.ofTable w.types))

/-- The answer to a query, if there is one in time. -/
def answer (w : Advice) (query : TypeQuery) : Option TypeResolution :=
  w.asked.bind fun oracle => if w.timeout ≤ 0 then none else (oracle query).resolution?

/-- Without an oracle the answers are the declared types, in time. -/
lemma answer_types (timeout : Float) (types : List (String × String)) (query : TypeQuery) :
    ({ timeout, types } : Advice).answer query =
      if timeout ≤ 0 then none
      else (types.lookup query.name).map fun type => ⟨type, TypeText.isFunctionType type⟩ := by
  cases types with
  | nil =>
    split <;> rfl
  | cons entry rest =>
    simp only [answer, asked, Option.none_or, List.isEmpty_cons, Bool.false_eq_true, if_false,
      Option.bind_some, TypeOracle.ofTable]
    cases List.lookup query.name (entry :: rest) <;> rfl

/-- The two give the same answers, or both none, for every variable that a hook binds. -/
def AgreesOn (w w' : Advice) (c : Component) : Prop :=
  ∀ h ∈ c.hooks, ∀ name ∈ h.bound,
    w'.answer (h.typeQuery c.file name) = w.answer (h.typeQuery c.file name)

end Advice

/-- What a run shows: the classified hooks, the outcomes, the resources and the diagram. -/
structure Run.View where
  hooks : List Invocation
  outcomes : List Outcome
  resources : List (String × String)
  diagram : Diagram

/-- What is seen of a run. -/
def Run.view (r : Run) : Run.View :=
  { hooks := r.hooks, outcomes := r.outcomes, resources := r.session.resources
    diagram := r.diagram }

/-- A component with the types that it declares. -/
def Component.advised (c : Component) (w : Advice) : Component := { c with types := w.types }

namespace Analyzer

/-- An analyzer with the oracle that it asks. -/
def advised (a : Analyzer) (w : Advice) : Analyzer :=
  { a with oracle := w.oracle, options := { a.options with oracleTimeout := w.timeout } }

/-- What is seen of the analysis of a component with advice. -/
def observe (a : Analyzer) (w : Advice) (c : Component) (source : Option String) :
    Except RunError Run.View :=
  ((a.advised w).execute (c.advised w) source).2.map Run.view

end Analyzer

/-! ## Classification -/

namespace Classifier

variable {c c' : Classifier} {file : Option String} {h : Hook}

/-- Two classifiers that judge names alike and get the same answers for the variables of a hook. -/
structure Alike (c c' : Classifier) (file : Option String) (h : Hook) : Prop where
  naming : c'.naming = c.naming
  answer : ∀ name ∈ h.bound, (c'.resolution file h name).1 = (c.resolution file h name).1

/-- The variables of a hook are judged alike one by one, and so all of them are. -/
lemma Alike.assignRoles (halike : Alike c c' file h) (builtin : Option BuiltinHook) :
    (c'.assignRoles file builtin h).roles = (c.assignRoles file builtin h).roles ∧
      (c'.assignRoles file builtin h).verdicts = (c.assignRoles file builtin h).verdicts := by
  simp only [Classifier.assignRoles]
  cases soleRole? builtin h with
  | some given => exact ⟨rfl, rfl⟩
  | none =>
    refine List.foldl_rel (r := fun j j' : Judgement =>
      j'.roles = j.roles ∧ j'.verdicts = j.verdicts) ⟨rfl, rfl⟩ ?_
    intro name hname j j' hj
    have hverdict : c'.verdict (c'.resolution file h name).1 name =
        c.verdict (c.resolution file h name).1 name := by
      rw [halike.answer name (List.mem_of_mem_filter hname), verdict, verdict, halike.naming]
    simp only [judge, hverdict, hj.1, hj.2, and_self]

lemma Alike.judgement (halike : Alike c c' file h) :
    (c'.judgement file h).roles = (c.judgement file h).roles ∧
      (c'.judgement file h).verdicts = (c.judgement file h).verdicts := by
  simp only [Classifier.judgement]
  split
  · split
    · exact ⟨rfl, rfl⟩
    · exact halike.assignRoles _
  · exact halike.assignRoles none

lemma Alike.reducerPart (halike : Alike c c' file h) :
    (c'.reducerPart file h).1 = (c.reducerPart file h).1 := by
  simp only [Classifier.reducerPart, reducerFacts]
  split
  · cases hbound : h.bound with
    | nil => rfl
    | cons state rest =>
      have hanswer := halike.answer state (by simp [hbound])
      simp only [hanswer]
      split
      · split <;> rfl
      · rfl
  · rfl

/-- Alike classifiers come to the same classification. -/
lemma Alike.classify (halike : Alike c c' file h) :
    (c'.classify file h).1 = (c.classify file h).1 := by
  obtain ⟨hroles, hverdicts⟩ := halike.judgement
  simp only [Classifier.classify, Judgement.metadata, hroles, hverdicts, halike.reducerPart]

end Classifier

namespace Analyzer

variable {a : Analyzer} {w w' : Advice} {c : Component}

lemma resolution_advised (a : Analyzer) (w : Advice) (c : Component) (h : Hook) (name : String) :
    (((a.advised w).classifier (c.advised w)).resolution c.file h name).1 =
      w.answer (h.typeQuery c.file name) := by
  obtain ⟨oracle, timeout, types⟩ := w
  have hreply (oracle : TypeOracle) (query : TypeQuery) :
      ((⟨oracle, timeout⟩ : TimedOracle).reply query).resolution? =
        if timeout ≤ 0 then none else (oracle query).resolution? := by
    rw [TimedOracle.reply]
    split <;> rfl
  cases oracle with
  | some oracle => exact hreply oracle _
  | none =>
    cases types with
    | nil => rfl
    | cons entry rest => exact hreply (TypeOracle.ofTable (entry :: rest)) _

/-- Advice that agrees on the bound variables leads to the same classified hooks. -/
lemma hooks_advised (a : Analyzer) (h : w.AgreesOn w' c) :
    ((a.advised w').classifyHooks (c.advised w')).1 =
      ((a.advised w).classifyHooks (c.advised w)).1 := by
  refine List.foldl_rel (r := fun x x' : List Invocation × Journal => x.1 = x'.1) rfl ?_
  intro hook hhook x x' hx
  have halike : ((a.advised w).classifier (c.advised w)).Alike
      ((a.advised w').classifier (c.advised w')) c.file hook := by
    refine ⟨rfl, fun name hname => ?_⟩
    rw [resolution_advised, resolution_advised]
    exact h hook hhook name hname
  show x.1 ++ [_] = x'.1 ++ [_]
  rw [hx]
  exact congrArg (fun k => x'.1 ++ [{ hook, classification := some k }]) halike.classify

end Analyzer

/-! ## Dispatch -/

open Session

namespace Registry

lemma agreesWith_fail {s s' : Session} (h : s.Agrees s') (p : Processor) (hook : Hook)
    (message : String) : AgreesWith (fail s p hook message) (fail s' p hook message) :=
  ⟨(h.record _ _ _).noteFault _, rfl⟩

/-- One call has the same outcome in sessions that agree. -/
lemma agreesWith_handOver {s s' : Session} (h : s.Agrees s') {p : Processor} (hp : p.Unaware)
    (i : Invocation) : AgreesWith (handOver s p i) (handOver s' p i) := by
  have hprocess : AgreesWith (p.process (announced s p i) i) (p.process (announced s' p i) i) :=
    hp _ _ i (h.record _ _ _)
  obtain ⟨t', hagrees, hprocess⟩ := hprocess.exists_eq
  rw [handOver, handOver, ← announced, ← announced, hprocess]
  generalize p.process (announced s p i) i = x at hagrees
  obtain ⟨t, message | c⟩ := x
  · exact agreesWith_fail hagrees p i.hook message
  · obtain ⟨u', hcommitted, hcommit⟩ := (Agrees.commit hagrees c).exists_eq
    simp only [hcommit]
    generalize t.commit c = y at hcommitted
    obtain ⟨u, error | error⟩ := y
    · exact ⟨hcommitted, rfl⟩
    · exact agreesWith_fail hcommitted p i.hook error.message

end Registry

namespace Analyzer

variable {r : Registry} {s s' : Session}

/-- The calls of a run have the same outcomes in sessions that agree. -/
lemma agreesWith_dispatchAll (hr : ∀ p ∈ r.entries, p.Unaware) (h : s.Agrees s')
    (is : List Invocation) : AgreesWith (dispatchAll r s is) (dispatchAll r s' is) := by
  induction is generalizing s s' with
  | nil => exact ⟨h, rfl⟩
  | cons i rest ih =>
    have hframework : s'.component.framework = s.component.framework := by
      obtain ⟨types, journal, rfl⟩ := h
      rfl
    simp only [dispatchAll, Registry.dispatch?, hframework]
    cases hp : r.select? i s.component.framework with
    | none => exact ⟨h, rfl⟩
    | some p =>
      have hunaware := hr p (Registry.select?_eq_some hp).1
      obtain ⟨hagrees, houtcome⟩ := Registry.agreesWith_handOver h hunaware i
      simp only [Option.map_some, houtcome]
      exact (ih hagrees).map _

lemma agrees_recordUnhandled (h : s.Agrees s') (outcomes : List Outcome) :
    (recordUnhandled s outcomes).Agrees (recordUnhandled s' outcomes) := by
  refine List.foldl_rel h fun o _ s s' hs => ?_
  split
  · exact hs.record _ _ _
  · exact hs

/-- What is seen of a run depends only on what agreeing sessions have in common. -/
lemma view_build (hr : ∀ p ∈ r.entries, p.Unaware) (h : s.Agrees s') (is : List Invocation) :
    (build r s' is).2.map Run.view = (build r s is).2.map Run.view := by
  obtain ⟨t', hagrees, hall⟩ := (agreesWith_dispatchAll hr h is).exists_eq
  rw [build, build, hall]
  generalize dispatchAll r s is = x at hagrees
  obtain ⟨t, e | outcomes⟩ := x
  · rfl
  · obtain ⟨types, journal, hassembled⟩ :=
      Assembly.agrees_assemble (agrees_recordUnhandled hagrees outcomes)
    have hview (s : Session) : (recordFaults s).resources = s.resources ∧
        (recordFaults s).diagram = s.diagram := by
      rw [recordFaults]
      split <;> exact ⟨rfl, rfl⟩
    simp only [hassembled]
    generalize Assembly.assemble (recordUnhandled t outcomes) = b
    obtain ⟨session, refusal | refusal, unlabelled⟩ := b
    · simp only [Build.retold, Except.map, Run.view, Run.diagram, hview]
      rfl
    · rfl

lemma observe_of_agreesOn {a : Analyzer} {c : Component} {w w' : Advice}
    (hbuiltin : ∀ r, a.registry = .ok r → ∀ p ∈ r.entries, p ∈ builtinProcessors)
    (h : w.AgreesOn w' c) (source : Option String) :
    a.observe w' c source = a.observe w c source := by
  have hhooks := hooks_advised a (c := { c with atoms := (a.atomsOf c source).1 }) h
  cases hregistry : a.registry with
  | error e =>
    have hfailed (w : Advice) : a.observe w c source = .error (.discovery e) := by
      simp only [observe, execute, show (a.advised w).registry = a.registry from rfl, hregistry]
      rfl
    rw [hfailed, hfailed]
  | ok r =>
    have hr (p : Processor) (hp : p ∈ r.entries) : p.Unaware :=
      unaware_of_mem_builtin p (hbuiltin r hregistry p hp)
    have hregistered (w : Advice) : (a.advised w).registry = .ok r := hregistry
    have hbegun : ((a.advised w).begun (c.advised w) source).Agrees
        ((a.advised w').begun (c.advised w') source) := ⟨w'.types, _, rfl⟩
    have hclassified : (a.advised w').classified (c.advised w') source =
        (a.advised w).classified (c.advised w) source := hhooks
    rw [observe, observe, execute_eq (hregistered w), execute_eq (hregistered w'), hclassified]
    exact view_build hr hbegun _

/-- **Noninterference of types.** What is seen of a run depends on what it is told about types only
through the answers for bound variables. So declared types of other names have no effect, and
neither has an oracle that never answers. -/
theorem execute_noninterference (a : Analyzer) (c : Component) (source : Option String)
    (hbuiltin : ∀ r, a.registry = .ok r → ∀ p ∈ r.entries, p ∈ builtinProcessors) :
    (∀ w w' : Advice, w.AgreesOn w' c → a.observe w' c source = a.observe w c source) ∧
      (∀ timeout types types', (∀ h ∈ c.hooks, ∀ name ∈ h.bound,
          types'.lookup name = types.lookup name) →
        a.observe { timeout, types := types' } c source =
          a.observe { timeout, types } c source) ∧
      ∀ oracle timeout timeout' types, (∀ query, (oracle query).resolution? = none) →
        a.observe { oracle := some oracle, timeout, types } c source =
          a.observe { timeout := timeout' } c source := by
  refine ⟨fun w w' h => observe_of_agreesOn hbuiltin h source, ?_, ?_⟩
  · intro timeout types types' h
    refine observe_of_agreesOn hbuiltin (fun hook hhook name hname => ?_) source
    rw [Advice.answer_types, Advice.answer_types]
    simp only [Hook.typeQuery, h hook hhook name hname]
  · intro oracle timeout timeout' types h
    refine observe_of_agreesOn hbuiltin (fun hook _ name _ => ?_) source
    show (if timeout ≤ 0 then none else (oracle (hook.typeQuery c.file name)).resolution?) = none
    rw [h, ite_self]

/-- An oracle that knows the type of one variable of a component and fails for all others. -/
def themeOracle : TypeOracle := fun query =>
  if query.name == "theme" then .resolved ⟨"Theme", false⟩ else .failed "unknown"

theorem execute_noninterference_counter :
    (∀ r, reactAnalyzer.registry = .ok r → ∀ p ∈ r.entries, p ∈ builtinProcessors) ∧
      ({ oracle := some themeOracle } : Advice).AgreesOn
        { types := [("ghost", "string"), ("theme", "Theme")] } counter ∧
      reactAnalyzer.observe { types := [("ghost", "string"), ("theme", "Theme")] } counter none =
        reactAnalyzer.observe { oracle := some themeOracle } counter none := by
  have hbuiltin : ∀ r, reactAnalyzer.registry = .ok r →
      ∀ p ∈ r.entries, p ∈ builtinProcessors := by
    intro r hr
    obtain ⟨hregistry, hsub, -⟩ := createRegistry_builtin discover_reactOnly
    obtain rfl := Except.ok.inj (hregistry.symm.trans hr)
    exact hsub
  have hagrees : ({ oracle := some themeOracle } : Advice).AgreesOn
      { types := [("ghost", "string"), ("theme", "Theme")] } counter := by
    have hanswers : ∀ name ∈ counter.hooks.flatMap (·.bound),
        ([("ghost", "string"), ("theme", "Theme")].lookup name).map
            (fun type => (⟨type, TypeText.isFunctionType type⟩ : TypeResolution)) =
          (themeOracle ⟨none, none, name⟩).resolution? := by decide +kernel
    intro h hh name hname
    rw [Advice.answer_types]
    exact if_congr Iff.rfl rfl (hanswers name (List.mem_flatMap.mpr ⟨h, hh, hname⟩))
  exact ⟨hbuiltin, hagrees, (execute_noninterference _ _ none hbuiltin).1 _ _ hagrees⟩

end Analyzer

end ComponentFlow

import ComponentFlow.Proofs.Builtins
import ComponentFlow.Proofs.Discovery
import ComponentFlow.Proofs.Legibility
import ComponentFlow.Run

/-!
# Runs

What holds of a whole analysis. Every hook is given to one processor, in order, and what one step
keeps the run keeps (`dispatchAll_preserve`). A diagram is returned exactly if no hook was left over
and the session can be assembled (`build_eq_ok_iff`).

With built-in processors every session on the way is sound (`sound_dispatchAll`). So the diagrams
they lead to are well formed, and an analysis with a registry that discovery gives is always
finished, without a fault. This holds for all lists of invocations (`wellFormed_build`,
`exists_run_build`), so it does not matter how the hooks are classified, nor whether an oracle
answers the same question twice in the same way.

Processors of others are only confined to their contributions, and so the diagram is at least
coherent when the hooks are done (`coherent_dispatched`). They cannot keep a hook from being
processed, but they can keep the diagram from being assembled, and they can leave a group without
its parent. The last theorem says exactly when.
-/

namespace ComponentFlow

/-- A processor that changes the diagram only through its contributions, which may be anything. -/
def Processor.Confined (p : Processor) : Prop :=
  ∀ s i, (p.process s i).1.diagram = s.diagram

lemma confined_of_mem_builtin (p : Processor) (h : p ∈ builtinProcessors) : p.Confined :=
  fun s i => (unobtrusive_of_mem_builtin p h s i).diagram

namespace Registry

lemma mem_ordered {r : Registry} {p : Processor} : p ∈ r.ordered ↔ p ∈ r.entries :=
  (List.mergeSort_perm _ _).mem_iff

lemma select?_eq_some {r : Registry} {i : Invocation} {framework : Option String} {p : Processor}
    (h : r.select? i framework = some p) : p ∈ r.entries ∧ p.accepts i framework = true :=
  ⟨mem_ordered.mp (List.mem_of_find?_eq_some h),
    List.find?_some (p := fun q : Processor => q.accepts i framework) h⟩

/-- Processors that stand in the order of their priorities are asked in that order. -/
lemma select?_of_pairwise {ps : List Processor}
    (h : ps.Pairwise fun p q => decide (q.priority ≤ p.priority) = true) (i : Invocation)
    (framework : Option String) :
    select? ⟨ps⟩ i framework = ps.find? (·.accepts i framework) := by
  rw [select?, ordered, List.mergeSort_of_pairwise h]

lemma select?_head {p : Processor} {ps : List Processor}
    (h : (p :: ps).Pairwise fun p q => decide (q.priority ≤ p.priority) = true) {i : Invocation}
    {framework : Option String} (hp : p.accepts i framework = true) :
    select? ⟨p :: ps⟩ i framework = some p := by
  rw [select?_of_pairwise h, List.find?_cons, hp]

/-- With the processor for all other hooks every call has a processor. -/
lemma isSome_select? {r : Registry} (h : Custom.processor ∈ r.entries) (i : Invocation)
    (framework : Option String) : (r.select? i framework).isSome = true :=
  List.find?_isSome.mpr ⟨Custom.processor, mem_ordered.mpr h, rfl⟩

/-! ## One call -/

lemma hook_handOver (s : Session) (p : Processor) (i : Invocation) :
    (handOver s p i).2.hook = i.hook.name := by
  simp only [handOver]
  split
  · rfl
  · split <;> rfl

/-- The session in which a processor gets a call. -/
def announced (s : Session) (p : Processor) (i : Invocation) : Session :=
  s.record .debug "processors.registry" ("Dispatching " ++ i.hook.name ++ " to " ++ p.id)

/-- The processor fails, or the session commits what the processor contributes, or it refuses to. -/
lemma handOver_cases (s : Session) (p : Processor) (i : Invocation) :
    (∃ message, (p.process (announced s p i) i).2 = .error message ∧
      handOver s p i = fail (p.process (announced s p i) i).1 p i.hook message) ∨
    ∃ c, (p.process (announced s p i) i).2 = .ok c ∧
      ((∃ e, ((p.process (announced s p i) i).1.commit c).2 = some e ∧
          handOver s p i = fail ((p.process (announced s p i) i).1.commit c).1 p i.hook e.message) ∨
        ((p.process (announced s p i) i).1.commit c).2 = none ∧
          handOver s p i = (((p.process (announced s p i) i).1.commit c).1,
            { hook := i.hook.name, processor := p.id, handled := c.handled
              nodes := c.nodes.map (·.id) })) := by
  rw [handOver, ← announced]
  generalize p.process (announced s p i) i = processed
  obtain ⟨s₁, message | c⟩ := processed
  · exact .inl ⟨message, rfl, rfl⟩
  · refine .inr ⟨c, rfl, ?_⟩
    cases hcommit : s₁.commit c with
    | mk s₂ error =>
      cases error with
      | some e => exact .inl ⟨e, rfl, by simp only [hcommit]⟩
      | none => exact .inr ⟨rfl, by simp only [hcommit]⟩

/-- A processor that serves a call offers something, and it is applied. -/
lemma handOver_serves {s : Session} {p : Processor} {i : Invocation} (hs : s.Sound)
    (hp : p.Serves) (haccepts : p.accepts i s.component.framework = true) :
    ∃ s' c, p.process (announced s p i) i = (s', .ok c) ∧ s.Offers s' c ∧
      handOver s p i = (s'.applied c, { hook := i.hook.name, processor := p.id
                                        handled := c.handled, nodes := c.nodes.map (·.id) }) := by
  have hannounced : (announced s p i).Sound := hs.record _ _ _
  obtain ⟨c, hok, hoffers⟩ := hp (announced s p i) i hannounced haccepts
  have hprocess : p.process (announced s p i) i = ((p.process (announced s p i) i).1, .ok c) :=
    Prod.ext rfl hok
  refine ⟨_, c, hprocess, hoffers.of_record, ?_⟩
  rw [handOver, ← announced, hprocess]
  simp only [hoffers.commit hannounced]

/-- A processor that serves a call leaves a sound session for the same component, and no fault. -/
lemma sound_handOver {s : Session} {p : Processor} {i : Invocation} (hs : s.Sound)
    (hp : p.Serves) (haccepts : p.accepts i s.component.framework = true) :
    (handOver s p i).1.Sound ∧ (handOver s p i).1.component = s.component ∧
      (handOver s p i).1.faults = s.faults ∧ (handOver s p i).2.error = none := by
  obtain ⟨s', c, -, hoffers, heq⟩ := handOver_serves hs hp haccepts
  rw [heq]
  exact ⟨hoffers.sound hs, hoffers.component, hoffers.faults, rfl⟩

/-- Whatever a confined processor contributes, the diagram stays coherent. -/
lemma handOver_confined {s : Session} {p : Processor} (i : Invocation) (hp : p.Confined)
    (hcoherent : s.diagram.Coherent) (hnested : Diagram.Nested s.diagram.groups) :
    (handOver s p i).1.diagram.Coherent ∧ Diagram.Nested (handOver s p i).1.diagram.groups := by
  have hdiagram : (p.process (announced s p i) i).1.diagram = s.diagram := hp (announced s p i) i
  have hcommit : ∀ c, ((p.process (announced s p i) i).1.commit c).1.diagram.Coherent ∧
      Diagram.Nested ((p.process (announced s p i) i).1.commit c).1.diagram.groups := fun c =>
    ⟨Session.commit_coherent c (hdiagram ▸ hcoherent), Session.commit_nested c (hdiagram ▸ hnested)⟩
  obtain ⟨message, -, heq⟩ | ⟨c, -, ⟨e, -, heq⟩ | ⟨-, heq⟩⟩ := handOver_cases s p i
  · rw [heq]
    show (p.process (announced s p i) i).1.diagram.Coherent ∧ _
    rw [hdiagram]
    exact ⟨hcoherent, hdiagram ▸ hnested⟩
  · rw [heq]
    exact hcommit c
  · rw [heq]
    exact hcommit c

end Registry

namespace Analyzer

/-! ## All calls -/

variable {r : Registry} {s s' : Session} {i : Invocation} {is : List Invocation}
  {outcomes : List Outcome}

/-- The first call is given to a processor that accepts it, and the other ones follow. -/
lemma dispatchAll_cons_eq_ok_iff : dispatchAll r s (i :: is) = (s', .ok outcomes) ↔
    ∃ p others, r.select? i s.component.framework = some p ∧
      dispatchAll r (Registry.handOver s p i).1 is = (s', .ok others) ∧
      outcomes = (Registry.handOver s p i).2 :: others := by
  rw [dispatchAll, Registry.dispatch?]
  cases hselect : r.select? i s.component.framework with
  | none => simp
  | some p =>
    simp only [Option.map_some, Option.some.injEq, exists_eq_left', exists_and_left]
    cases hrest : dispatchAll r (Registry.handOver s p i).1 is with
    | mk s'' others =>
      cases others with
      | error e => simp [Except.map]
      | ok others =>
        simp only [Except.map, Prod.mk.injEq, Except.ok.injEq]
        constructor
        · rintro ⟨rfl, rfl⟩
          exact ⟨others, ⟨rfl, rfl⟩, rfl⟩
        · rintro ⟨others', ⟨rfl, rfl⟩, rfl⟩
          exact ⟨rfl, rfl⟩

/-- What the step from one call to the next keeps, all calls keep. -/
lemma dispatchAll_preserve {P : Session → Prop} {Q : Outcome → Prop}
    (hstep : ∀ s i p, P s → p ∈ r.entries → p.accepts i s.component.framework = true →
      P (Registry.handOver s p i).1 ∧ Q (Registry.handOver s p i).2)
    (hs : P s) (h : dispatchAll r s is = (s', .ok outcomes)) : P s' ∧ ∀ o ∈ outcomes, Q o := by
  induction is generalizing s outcomes with
  | nil =>
    obtain ⟨rfl, hnil⟩ := Prod.mk.inj h
    obtain rfl := Except.ok.inj hnil
    exact ⟨hs, by simp⟩
  | cons i rest ih =>
    obtain ⟨p, others, hselect, hrest, rfl⟩ := dispatchAll_cons_eq_ok_iff.mp h
    obtain ⟨hmem, haccepts⟩ := Registry.select?_eq_some hselect
    obtain ⟨hnext, hfirst⟩ := hstep s i p hs hmem haccepts
    obtain ⟨hlast, hothers⟩ := ih hnext hrest
    exact ⟨hlast, List.forall_mem_cons.mpr ⟨hfirst, hothers⟩⟩

/-- Every call has an outcome, in order. -/
lemma hooks_dispatchAll (h : dispatchAll r s is = (s', .ok outcomes)) :
    outcomes.map (·.hook) = is.map (·.hook.name) := by
  induction is generalizing s outcomes with
  | nil =>
    obtain rfl := Except.ok.inj (Prod.mk.inj h).2
    rfl
  | cons i rest ih =>
    obtain ⟨p, others, -, hrest, rfl⟩ := dispatchAll_cons_eq_ok_iff.mp h
    rw [List.map_cons, List.map_cons, Registry.hook_handOver, ih hrest]

/-- No call is left over if there is a processor for all other hooks. -/
lemma exists_dispatchAll (h : Custom.processor ∈ r.entries) (s : Session) (is : List Invocation) :
    ∃ s' outcomes, dispatchAll r s is = (s', .ok outcomes) := by
  induction is generalizing s with
  | nil => exact ⟨s, [], rfl⟩
  | cons i rest ih =>
    obtain ⟨p, hselect⟩ :=
      Option.isSome_iff_exists.mp (Registry.isSome_select? h i s.component.framework)
    obtain ⟨s', others, hrest⟩ := ih (Registry.handOver s p i).1
    exact ⟨s', _, dispatchAll_cons_eq_ok_iff.mpr ⟨p, others, hselect, hrest, rfl⟩⟩

lemma recordUnhandled_kept (s : Session) (outcomes : List Outcome) :
    (recordUnhandled s outcomes).diagram = s.diagram ∧
      (recordUnhandled s outcomes).counters = s.counters ∧
      (recordUnhandled s outcomes).component = s.component ∧
      (recordUnhandled s outcomes).faults = s.faults := by
  refine List.foldlRecOn outcomes _ (motive := fun s' : Session => s'.diagram = s.diagram ∧
    s'.counters = s.counters ∧ s'.component = s.component ∧ s'.faults = s.faults)
    ⟨rfl, rfl, rfl, rfl⟩ fun s' hs' o _ => ?_
  split
  · exact hs'
  · exact hs'

lemma recordFaults_kept (s : Session) :
    (recordFaults s).diagram = s.diagram ∧ (recordFaults s).faults = s.faults := by
  rw [recordFaults]
  split <;> exact ⟨rfl, rfl⟩

/-! ## Runs -/

/-- A diagram is returned if all calls have been given to processors and the session that is left
can be assembled. -/
lemma build_eq_ok_iff {run : Run} : (build r s is).2 = .ok run ↔
    ∃ s' outcomes, dispatchAll r s is = (s', .ok outcomes) ∧
      (Assembly.assemble (recordUnhandled s' outcomes)).Live ∧
      run = { session := recordFaults (Assembly.assemble (recordUnhandled s' outcomes)).session
              hooks := is, outcomes } := by
  rw [build]
  cases hall : dispatchAll r s is with
  | mk s' result =>
    cases result with
    | error e => simp
    | ok outcomes =>
      simp only [Build.Live, Prod.mk.injEq, Except.ok.injEq]
      cases hrefusal : (Assembly.assemble (recordUnhandled s' outcomes)).refusal with
      | some e =>
        constructor
        · intro h
          cases h
        · rintro ⟨_, _, ⟨rfl, rfl⟩, hlive, -⟩
          rw [hrefusal] at hlive
          cases hlive
      | none =>
        constructor
        · intro h
          obtain rfl := Except.ok.inj h
          exact ⟨s', outcomes, ⟨rfl, rfl⟩, hrefusal, rfl⟩
        · rintro ⟨_, _, ⟨rfl, rfl⟩, -, rfl⟩
          rfl

/-! ## Runs with built-in processors -/

/-- With built-in processors the session that is left by any calls is sound and for the same
component, and there are no faults but the old ones. -/
lemma sound_dispatchAll (hr : ∀ p ∈ r.entries, p ∈ builtinProcessors) (hs : s.Sound)
    (h : dispatchAll r s is = (s', .ok outcomes)) :
    s'.Sound ∧ s'.component = s.component ∧ s'.faults = s.faults ∧
      ∀ o ∈ outcomes, o.error = none := by
  have hstep : ∀ s₁ i p, s₁.Sound ∧ s₁.component = s.component ∧ s₁.faults = s.faults →
      p ∈ r.entries → p.accepts i s₁.component.framework = true →
      ((Registry.handOver s₁ p i).1.Sound ∧
        (Registry.handOver s₁ p i).1.component = s.component ∧
        (Registry.handOver s₁ p i).1.faults = s.faults) ∧
      (Registry.handOver s₁ p i).2.error = none := by
    rintro s₁ i p ⟨hs₁, hcomponent, hfaults⟩ hp haccepts
    obtain ⟨hsound, hcomponent', hfaults', herror⟩ :=
      Registry.sound_handOver hs₁ (serves_of_mem_builtin p (hr p hp)) haccepts
    exact ⟨⟨hsound, hcomponent'.trans hcomponent, hfaults'.trans hfaults⟩, herror⟩
  obtain ⟨⟨hsound, hcomponent, hfaults⟩, herrors⟩ := dispatchAll_preserve
    (P := fun s₁ => s₁.Sound ∧ s₁.component = s.component ∧ s₁.faults = s.faults)
    (Q := fun o => o.error = none) hstep ⟨hs, rfl, rfl⟩ h
  exact ⟨hsound, hcomponent, hfaults, herrors⟩

lemma sound_recordUnhandled (hs : s.Sound) (outcomes : List Outcome) :
    (recordUnhandled s outcomes).Sound := by
  obtain ⟨hdiagram, hcounters, -⟩ := recordUnhandled_kept s outcomes
  exact hs.congr hdiagram (Session.countsLe_of_counters_eq hcounters)

/-- With built-in processors a run is returned once all calls have been given to them. -/
lemma build_of_dispatchAll (hr : ∀ p ∈ r.entries, p ∈ builtinProcessors) (hs : s.Sound)
    (h : dispatchAll r s is = (s', .ok outcomes)) :
    (build r s is).2 = .ok
      { session := recordFaults (Assembly.assemble (recordUnhandled s' outcomes)).session
        hooks := is, outcomes } := by
  have hsound := sound_recordUnhandled (sound_dispatchAll hr hs h).1 outcomes
  exact build_eq_ok_iff.mpr ⟨s', outcomes, h, Assembly.live_of_sound hsound, rfl⟩

/-- The diagrams that come of built-in processors are well formed, whatever the calls are and
whatever their variables are taken for. -/
theorem wellFormed_build (hr : ∀ p ∈ r.entries, p ∈ builtinProcessors) (hs : s.Sound)
    (is : List Invocation) (run : Run) (hrun : (build r s is).2 = .ok run) :
    run.diagram.WellFormed := by
  obtain ⟨s', outcomes, hall, hlive, rfl⟩ := build_eq_ok_iff.mp hrun
  have hsound := sound_recordUnhandled (sound_dispatchAll hr hs hall).1 outcomes
  rw [Run.diagram, (recordFaults_kept _).1]
  exact Assembly.wellFormed_assemble hsound.coherent hsound.nested hlive hsound.tidy

/-- With the processor for all other hooks among built-in ones, any calls lead to a run without new
faults, with one outcome without error for each of them, in order. -/
theorem exists_run_build (hr : ∀ p ∈ r.entries, p ∈ builtinProcessors)
    (hfallback : Custom.processor ∈ r.entries) (hs : s.Sound) (is : List Invocation) :
    ∃ run, (build r s is).2 = .ok run ∧ run.session.faults = s.faults ∧
      run.outcomes.map (·.hook) = is.map (·.hook.name) ∧ ∀ o ∈ run.outcomes, o.error = none := by
  obtain ⟨s', outcomes, hall⟩ := exists_dispatchAll hfallback s is
  obtain ⟨hsound, -, hfaults, herrors⟩ := sound_dispatchAll hr hs hall
  have hlast := sound_recordUnhandled hsound outcomes
  refine ⟨_, build_of_dispatchAll hr hs hall, ?_, hooks_dispatchAll hall, herrors⟩
  obtain ⟨-, -, -, hkept⟩ := recordUnhandled_kept s' outcomes
  rw [(recordFaults_kept _).2]
  calc (Assembly.assemble (recordUnhandled s' outcomes)).session.faults
      = (recordUnhandled s' outcomes).faults :=
        congrArg (·.2.2.2) (Assembly.rest_assemble hlast.coherent hlast.nested)
    _ = s.faults := hkept.trans hfaults

/-! ## Analyses -/

/-- The session of an analysis before its first hook. -/
def begun (a : Analyzer) (c : Component) (source : Option String) : Session :=
  { Session.start { c with atoms := (a.atomsOf c source).1 } (a.atomsOf c source).1 with
    journal := [⟨.info, origin, "Analyzing component " ++ c.name⟩] ++ (a.atomsOf c source).2 ++
      (a.classifyHooks { c with atoms := (a.atomsOf c source).1 }).2 }

/-- The hooks of an analysis, classified. -/
def classified (a : Analyzer) (c : Component) (source : Option String) : List Invocation :=
  (a.classifyHooks { c with atoms := (a.atomsOf c source).1 }).1

variable {a : Analyzer} {c : Component} {source : Option String}

lemma execute_eq (hr : a.registry = .ok r) :
    a.execute c source = build r (a.begun c source) (a.classified c source) := by
  simp only [execute, hr, begun, classified]

/-- A hook that is not classified yet can be classified. -/
lemma hooks_classifyHook (a : Analyzer) (c : Component) (state : List Invocation × Journal)
    (h : Hook) : (a.classifyHook c state h).1.map (·.hook) = state.1.map (·.hook) ++ [h] := by
  have hclassify : ∃ k records, ({ hook := h } : Invocation).classifyBy (a.classifier c) c.file =
      (.ok { hook := h, classification := some k }, records) := ⟨_, _, rfl⟩
  obtain ⟨k, records, hk⟩ := hclassify
  simp [classifyHook, hk]

/-- Classification keeps the hooks and their order. -/
lemma hooks_classifyHooks (a : Analyzer) (c : Component) :
    (a.classifyHooks c).1.map (·.hook) = c.hooks := by
  have hfold : ∀ (hooks : List Hook) (state : List Invocation × Journal),
      (hooks.foldl (a.classifyHook c) state).1.map (·.hook) =
        state.1.map (·.hook) ++ hooks := by
    intro hooks
    induction hooks with
    | nil => simp
    | cons h rest ih =>
      intro state
      rw [List.foldl_cons, ih, hooks_classifyHook, List.append_assoc, List.singleton_append]
  exact hfold c.hooks ([], [])

lemma names_classified :
    (a.classified c source).map (·.hook.name) = c.hooks.map (·.name) := by
  have hhooks : (a.classified c source).map (·.hook) = c.hooks := hooks_classifyHooks a _
  rw [← hhooks, List.map_map]
  rfl

lemma sound_begun : (a.begun c source).Sound :=
  Session.sound_start _ _ _

/-- With processors that discovery gives, every call gets to one of them and a run is returned. -/
lemma execute_of_discover (c : Component) (source : Option String) {sel : Selection}
    {ps : List Processor} (hsel : discover sel [] = .ok ps)
    (hr : a.registry = createRegistry sel []) :
    (∀ p ∈ ps, p ∈ builtinProcessors) ∧ ∃ s' outcomes,
      dispatchAll { entries := ps } (a.begun c source) (a.classified c source) =
        (s', .ok outcomes) ∧
      (a.execute c source).2 = .ok
        { session := recordFaults (Assembly.assemble (recordUnhandled s' outcomes)).session
          hooks := a.classified c source, outcomes } := by
  obtain ⟨hregistry, hbuiltin, hfallback⟩ := createRegistry_builtin hsel
  rw [hregistry] at hr
  obtain ⟨s', outcomes, hall⟩ :=
    exists_dispatchAll (r := { entries := ps }) hfallback (a.begun c source) (a.classified c source)
  refine ⟨hbuiltin, s', outcomes, hall, ?_⟩
  rw [execute_eq hr]
  exact build_of_dispatchAll hbuiltin sound_begun hall

/-- The session that the hooks leave for the assembly. -/
def dispatched (a : Analyzer) (r : Registry) (c : Component) (source : Option String) : Session :=
  match dispatchAll r (a.begun c source) (a.classified c source) with
  | (s, .ok outcomes) => recordUnhandled s outcomes
  | (s, .error _) => s

lemma dispatched_eq (h : dispatchAll r (a.begun c source) (a.classified c source) =
    (s', .ok outcomes)) : a.dispatched r c source = recordUnhandled s' outcomes := by
  rw [dispatched, h]

/-- What a single hook leaves. -/
lemma dispatched_single {i : Invocation} {p : Processor} (hi : a.classified c source = [i])
    (hp : r.select? i (a.begun c source).component.framework = some p) :
    a.dispatched r c source =
      recordUnhandled (Registry.handOver (a.begun c source) p i).1
        [(Registry.handOver (a.begun c source) p i).2] := by
  refine dispatched_eq ?_
  rw [hi]
  exact dispatchAll_cons_eq_ok_iff.mpr ⟨p, [], hp, rfl, rfl⟩

/-- With processors that discovery gives, the hooks leave a sound session for the same component,
and the diagram that is assembled from it is returned. -/
lemma execute_discovered (c : Component) (source : Option String) {sel : Selection}
    {ps : List Processor} (hsel : discover sel [] = .ok ps)
    (hr : a.registry = createRegistry sel []) :
    (a.dispatched { entries := ps } c source).Sound ∧
      (a.dispatched { entries := ps } c source).component =
        { c with atoms := (a.atomsOf c source).1 } ∧
      ∃ run, (a.execute c source).2 = .ok run ∧
        run.diagram = (Assembly.assemble (a.dispatched { entries := ps } c source)).diagram := by
  obtain ⟨hbuiltin, s', outcomes, hall, hrun⟩ := execute_of_discover c source hsel hr
  rw [dispatched_eq hall]
  obtain ⟨hsound, hcomponent, -⟩ := sound_dispatchAll hbuiltin sound_begun hall
  obtain ⟨-, -, hkept, -⟩ := recordUnhandled_kept s' outcomes
  exact ⟨sound_recordUnhandled hsound outcomes, hkept.trans hcomponent, _, hrun,
    (recordFaults_kept _).1⟩

/-! ## A list of items -/

/-- A selection that enables one library and disables the processor for all other hooks. -/
def reactOnly : Selection := { enabled := ["React"], disabled := ["Custom-Hook"] }

/-- An analyzer with the processor for one library and the one for all other hooks. -/
def reactAnalyzer : Analyzer := ⟨{}, none, createRegistry reactOnly [], none⟩

lemma discover_reactOnly : discover reactOnly [] = .ok [React.processor, Custom.processor] := by
  refine discover_builtin_iff.mpr ⟨rfl, ?_⟩
  decide +kernel

lemma select?_react {i : Invocation} {framework : Option String}
    (h : React.processor.accepts i framework = true) :
    Registry.select? ⟨[React.processor, Custom.processor]⟩ i framework =
      some React.processor :=
  Registry.select?_head (by decide) h

/-- A list of items that are checked off in place or by an action, with a button to save it. -/
def checklist : Component :=
  { name := "Checklist", framework := some "react"
    hooks := [{ name := "useReducer", bound := ["items", "send"], binding := .array }]
    processes := [{ name := "save", references := ["items"] }]
    output :=
      [.loop { collection := "items", item := some "item" }
        [.element
          { tag := "li", display := ["item"]
            attributes := [⟨"onClick", .code .arrow ["send"] [] ["item.done"], none⟩] } []],
       .element
        { tag := "button", attributes := [⟨"onClick", .reference (some "save"), none⟩] } []] }

/-- The edges of the list of items, and its groups with their parents and members. -/
lemma exists_run_checklist : ∃ run, (reactAnalyzer.execute checklist none).2 = .ok run ∧
    run.diagram.edges.map (fun e => (e.source, e.target, e.base)) =
      [("reducer_0", "process_0", "reads"), ("reducer_0", "subgraph_1", "iterates over"),
       ("reducer_0", "jsx_0", "display"), ("jsx_0", "handler_0", "onClick"),
       ("handler_0", "reducer_0", "dispatch"), ("handler_0", "reducer_0", "updates"),
       ("jsx_1", "process_0", "onClick")] ∧
    run.diagram.groups.map (fun g => (g.id, g.parent, g.members)) =
      [("subgraph_0", none, ["subgraph_1", "jsx_1"]),
       ("subgraph_1", some "subgraph_0", ["jsx_0"])] := by
  obtain ⟨-, -, run, hrun, hdiagram⟩ := execute_discovered checklist none discover_reactOnly
    (show reactAnalyzer.registry = _ from rfl)
  refine ⟨run, hrun, ?_⟩
  rw [hdiagram, dispatched_single (a := reactAnalyzer) (c := checklist) rfl
    (select?_react (by decide +kernel))]
  decide +kernel

/-! ## Complete analyses -/

/-- **Well-formed diagrams.** Whatever component is analysed, with whatever oracle, source and
options, a diagram that comes of built-in processors is well formed. A diagram does come of them if
the processor for all other hooks is there. -/
theorem execute_wellFormed (a : Analyzer) (c : Component) (source : Option String) (r : Registry)
    (hr : a.registry = .ok r) (hbuiltin : ∀ p ∈ r.entries, p ∈ builtinProcessors) :
    (∀ run, (a.execute c source).2 = .ok run → run.diagram.WellFormed) ∧
      (Custom.processor ∈ r.entries → ∃ run, (a.execute c source).2 = .ok run) := by
  rw [execute_eq hr]
  refine ⟨wellFormed_build hbuiltin sound_begun _, fun hfallback => ?_⟩
  obtain ⟨run, hrun, -⟩ := exists_run_build hbuiltin hfallback sound_begun (a.classified c source)
  exact ⟨run, hrun⟩

theorem execute_wellFormed_checklist :
    ∃ run, (reactAnalyzer.execute checklist none).2 = .ok run ∧ run.diagram.WellFormed ∧
      run.diagram.edges.map (fun e => (e.source, e.target, e.base)) =
        [("reducer_0", "process_0", "reads"), ("reducer_0", "subgraph_1", "iterates over"),
         ("reducer_0", "jsx_0", "display"), ("jsx_0", "handler_0", "onClick"),
         ("handler_0", "reducer_0", "dispatch"), ("handler_0", "reducer_0", "updates"),
         ("jsx_1", "process_0", "onClick")] ∧
      run.diagram.groups.map (fun g => (g.id, g.parent, g.members)) =
        [("subgraph_0", none, ["subgraph_1", "jsx_1"]),
         ("subgraph_1", some "subgraph_0", ["jsx_0"])] := by
  obtain ⟨hregistry, hbuiltin, hfallback⟩ := createRegistry_builtin discover_reactOnly
  obtain ⟨hwellFormed, hexists⟩ :=
    execute_wellFormed reactAnalyzer checklist none _ hregistry hbuiltin
  obtain ⟨run, hrun⟩ := hexists hfallback
  obtain ⟨run', hrun', hshape⟩ := exists_run_checklist
  obtain rfl : run' = run := Except.ok.inj (hrun'.symm.trans hrun)
  exact ⟨run', hrun, hwellFormed run' hrun, hshape⟩

/-- **Complete analyses.** With any selection of built-in processors that discovery accepts, an
analysis is finished, no processor is at fault, and there is one outcome without error for each
hook, in order. -/
theorem execute_builtin (a : Analyzer) (c : Component) (source : Option String) (sel : Selection)
    (ps : List Processor) (hsel : discover sel [] = .ok ps)
    (hr : a.registry = createRegistry sel []) :
    ∃ run, (a.execute c source).2 = .ok run ∧ run.session.faults = [] ∧
      run.outcomes.map (·.hook) = c.hooks.map (·.name) ∧ ∀ o ∈ run.outcomes, o.error = none := by
  obtain ⟨hregistry, hbuiltin, hfallback⟩ := createRegistry_builtin hsel
  rw [hregistry] at hr
  obtain ⟨run, hrun, hfaults, hhooks, herrors⟩ :=
    exists_run_build (r := { entries := ps }) hbuiltin hfallback sound_begun (a.classified c source)
  refine ⟨run, ?_, hfaults, ?_, herrors⟩
  · rw [execute_eq hr, hrun]
  · rw [hhooks, names_classified]

/-- A component with a prop and two hooks, one of which belongs to no library. -/
def counter : Component :=
  { name := "Counter", framework := some "react", props := [{ name := "start" }]
    hooks := [{ name := "useState", bound := ["count", "setCount"], binding := .array },
              { name := "useTheme", bound := ["theme"], binding := .identifier }] }

/-- The processor for all other hooks takes part even if it is disabled. -/
theorem execute_builtin_counter :
    ∃ run, ((⟨{}, none, createRegistry reactOnly [], none⟩ : Analyzer).execute counter none).2 =
        .ok run ∧ run.session.faults = [] ∧
      run.outcomes.map (·.hook) = ["useState", "useTheme"] ∧
      ∀ o ∈ run.outcomes, o.error = none := by
  have hknown : ∀ name ∈ reactOnly.allowed.getD [], name ∈
      (builtinProcessors.filter (reactOnly.admits ·.key)).map Processor.key := by
    decide +kernel
  exact execute_builtin ⟨{}, none, createRegistry reactOnly [], none⟩ counter none reactOnly _
    (discover_builtin_iff.mpr ⟨rfl, hknown⟩) rfl

/-- Whatever confined processors contribute, the diagram is coherent when the hooks are done. -/
lemma coherent_dispatched (hconfined : ∀ p ∈ r.entries, p.Confined)
    (h : dispatchAll r (a.begun c source) (a.classified c source) = (s', .ok outcomes)) :
    (a.dispatched r c source).diagram.Coherent ∧
      Diagram.Nested (a.dispatched r c source).diagram.groups := by
  have hstep : ∀ s i p, s.diagram.Coherent ∧ Diagram.Nested s.diagram.groups → p ∈ r.entries →
      p.accepts i s.component.framework = true →
      ((Registry.handOver s p i).1.diagram.Coherent ∧
        Diagram.Nested (Registry.handOver s p i).1.diagram.groups) ∧ True := by
    rintro s i p ⟨hcoherent, hnested⟩ hp -
    exact ⟨Registry.handOver_confined i (hconfined p hp) hcoherent hnested, trivial⟩
  have hkept := dispatchAll_preserve (Q := fun _ => True)
    (P := fun s => s.diagram.Coherent ∧ Diagram.Nested s.diagram.groups) hstep
    ⟨sound_begun.coherent, sound_begun.nested⟩ h
  rw [dispatched_eq h, (recordUnhandled_kept s' outcomes).1]
  exact hkept.1

/-- **Processors of others.** Confined processors may contribute anything or fail, and still every
hook has its outcome, in order, if the processor for all other hooks is there. The analysis is
finished exactly if the session that the hooks leave is harmless. In a diagram that is returned all
edges have both ends. Its groups have their parents exactly if no group with members is inside one
that is taken out for having none. -/
theorem execute_confined_iff (a : Analyzer) (c : Component) (source : Option String) (r : Registry)
    (hr : a.registry = .ok r) (hfallback : Custom.processor ∈ r.entries)
    (hconfined : ∀ p ∈ r.entries, p.Confined) :
    (∃ outcomes, (dispatchAll r (a.begun c source) (a.classified c source)).2 = .ok outcomes ∧
      outcomes.map (·.hook) = c.hooks.map (·.name)) ∧
    ((∃ run, (a.execute c source).2 = .ok run) ↔
      Assembly.Harmless (a.dispatched r c source)) ∧
    ∀ run, (a.execute c source).2 = .ok run →
      (∀ e ∈ run.diagram.edges, e.source ∈ run.diagram.ids ∧ e.target ∈ run.diagram.ids) ∧
      (run.diagram.Parented ↔ ∀ g ∈ (a.dispatched r c source).diagram.groups,
        g.id ∉ hollowIds (a.dispatched r c source).diagram.groups → ∀ p, g.parent = some p →
          p ∉ hollowIds (a.dispatched r c source).diagram.groups) := by
  obtain ⟨s', outcomes, hall⟩ :=
    exists_dispatchAll hfallback (a.begun c source) (a.classified c source)
  obtain ⟨hcoherent, hnested⟩ := coherent_dispatched hconfined hall
  have hrun : ∀ run, (a.execute c source).2 = .ok run ↔
      (Assembly.assemble (a.dispatched r c source)).Live ∧
        run = { session := recordFaults (Assembly.assemble (a.dispatched r c source)).session
                hooks := a.classified c source, outcomes } := by
    intro run
    rw [execute_eq hr, build_eq_ok_iff, dispatched_eq hall]
    constructor
    · rintro ⟨_, _, hall', hlive, rfl⟩
      obtain ⟨rfl, heq⟩ := Prod.mk.inj (hall.symm.trans hall')
      obtain rfl := Except.ok.inj heq
      exact ⟨hlive, rfl⟩
    · rintro ⟨hlive, rfl⟩
      exact ⟨s', outcomes, hall, hlive, rfl⟩
  refine ⟨⟨outcomes, congrArg Prod.snd hall, ?_⟩, ?_, fun run h => ?_⟩
  · rw [hooks_dispatchAll hall, names_classified]
  · rw [← Assembly.live_assemble_iff hcoherent hnested]
    constructor
    · rintro ⟨run, h⟩
      exact ((hrun run).mp h).1
    · intro hlive
      exact ⟨_, (hrun _).mpr ⟨hlive, rfl⟩⟩
  · obtain ⟨hlive, rfl⟩ := (hrun run).mp h
    have hdiagram : Run.diagram
        { session := recordFaults (Assembly.assemble (a.dispatched r c source)).session
          hooks := a.classified c source, outcomes } =
        (Assembly.assemble (a.dispatched r c source)).diagram := (recordFaults_kept _).1
    rw [hdiagram]
    exact ⟨(Assembly.coherent_assemble hcoherent hnested hlive).ends,
      Assembly.parented_assemble_iff hcoherent hnested hlive⟩

/-- A processor of others that contributes a group and an empty one inside it, which the first does
not have as a member. -/
def unlisted : Processor :=
  { info := { id := "unlisted", library := "stub", hooks := [.exactly "useState"] }
    process := fun s _ => (s, .ok
      { nodes := [{ id := "a", label := "a", type := NodeType.store.name }]
        groups := [{ id := "outer", label := "outer", members := ["a"] },
                   { id := "inner", label := "inner", parent := some "outer" }] }) }

/-- A registry with a processor of others. -/
def guarded : Registry := ⟨[unlisted, Custom.processor]⟩

/-- A component with one hook. -/
def lone : Component := { name := "Lone", hooks := [{ name := "useState" }] }

lemma select?_unlisted {i : Invocation} {framework : Option String}
    (h : unlisted.accepts i framework = true) : guarded.select? i framework = some unlisted :=
  Registry.select?_head (by decide) h

/-- What the hook leaves: the inner group is not a member of its parent. -/
lemma groups_dispatched_unlisted :
    ((⟨{}, none, .ok guarded, none⟩ : Analyzer).dispatched guarded lone none).diagram.groups =
      [{ id := "outer", label := "outer", members := ["a"] },
       { id := "inner", label := "inner", parent := some "outer" }] := by
  rw [dispatched_eq (dispatchAll_cons_eq_ok_iff.mpr ⟨unlisted, [], select?_unlisted rfl, rfl, rfl⟩),
    (recordUnhandled_kept _ _).1]
  rfl

/-- A group that is not a member of its parent keeps the diagram from being assembled. -/
theorem execute_unlisted :
    (∀ p ∈ guarded.entries, p.Confined) ∧ Custom.processor ∈ guarded.entries ∧
      ¬ ∃ run, ((⟨{}, none, .ok guarded, none⟩ : Analyzer).execute lone none).2 = .ok run := by
  have hconfined : ∀ p ∈ guarded.entries, p.Confined := by
    simp only [guarded, List.forall_mem_cons]
    exact ⟨fun _ _ => rfl, confined_of_mem_builtin _ (by simp [builtinProcessors]), by simp⟩
  have hfallback : Custom.processor ∈ guarded.entries := by simp [guarded]
  refine ⟨hconfined, hfallback, ?_⟩
  rw [(execute_confined_iff ⟨{}, none, .ok guarded, none⟩ lone none guarded rfl hfallback
    hconfined).2.1]
  intro hharmless
  have hlisted := hharmless.listed
  rw [groups_dispatched_unlisted] at hlisted
  obtain ⟨q, hq, -, hmem⟩ := hlisted { id := "inner", label := "inner", parent := some "outer" }
    List.mem_cons_self "outer" rfl
  simp only [List.mem_cons, List.not_mem_nil, or_false] at hq
  obtain rfl | rfl := hq <;> simp at hmem

end Analyzer

end ComponentFlow

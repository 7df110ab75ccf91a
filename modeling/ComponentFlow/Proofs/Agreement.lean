import ComponentFlow.Run
import Mathlib.Tactic.Lemma

/-!
# Sessions that agree

Two analyses of one component may differ in the types that are declared for it and in what they
write into their journals, and in nothing else: `Session.Agrees` and `Build.Agrees` say this of two
sessions and of two builds. No step of an analysis makes the difference any larger. A built-in
processor contributes the same to both sessions, and the assembly makes the same of both builds.

Nothing reads the journal, so each step is looked at only to see that it does not. This is routine
for single steps, which can be computed, and for the rest it follows the structure of the
definitions.
-/

namespace ComponentFlow

namespace Session

/-- A session with other declared types and another journal. -/
def retold (s : Session) (types : List (String × String)) (journal : Journal) : Session :=
  { s with component := { s.component with types }, journal }

/-- Two sessions that differ at most in the declared types and in the journal. -/
def Agrees (s s' : Session) : Prop := ∃ types journal, s' = s.retold types journal

/-- Two sessions that agree, with the same result. -/
def AgreesWith {α : Type} (x x' : Session × α) : Prop := x.1.Agrees x'.1 ∧ x'.2 = x.2

variable {s s' : Session}

lemma Agrees.record (h : s.Agrees s') (level : Level) (origin message : String) :
    (s.record level origin message).Agrees (s'.record level origin message) := by
  obtain ⟨types, journal, rfl⟩ := h
  exact ⟨types, _, rfl⟩

lemma Agrees.noteFault (h : s.Agrees s') (fault : ProcessorFault) :
    (s.noteFault fault).Agrees (s'.noteFault fault) := by
  obtain ⟨types, journal, rfl⟩ := h
  exact ⟨types, journal, rfl⟩

lemma duplicate?_congr (h : s'.diagram = s.diagram) (seen : List String) (ns : List Node) :
    s'.duplicate? seen ns = s.duplicate? seen ns := by
  induction ns generalizing seen with
  | nil => rfl
  | cons n rest ih => rw [duplicate?, duplicate?, h, ih]

/-- The checks look at the diagram only. -/
lemma check_congr (h : s'.diagram = s.diagram) (c : Contribution) : s'.check c = s.check c := by
  have hknows : s'.knows c = s.knows c := by
    funext id
    rw [knows, knows, h]
  rw [check, check, duplicate?_congr h, hknows, h]

lemma Agrees.apply (h : s.Agrees s') (c : Contribution) :
    AgreesWith (s.apply c) (s'.apply c) := by
  obtain ⟨types, journal, rfl⟩ := h
  rw [Session.apply, Session.apply, show (s.retold types journal).diagram = s.diagram from rfl]
  split
  · exact ⟨⟨types, journal, rfl⟩, rfl⟩
  split
  · exact ⟨⟨types, journal, rfl⟩, rfl⟩
  split
  · exact ⟨⟨types, journal, rfl⟩, rfl⟩
  · exact ⟨⟨types, journal, rfl⟩, rfl⟩

lemma Agrees.commit (h : s.Agrees s') (c : Contribution) :
    AgreesWith (s.commit c) (s'.commit c) := by
  have hdiagram : s'.diagram = s.diagram := by
    obtain ⟨types, journal, rfl⟩ := h
    rfl
  obtain ⟨happly, hrefusal⟩ := h.apply c
  rw [Session.commit, Session.commit, check_congr hdiagram]
  split
  · exact ⟨h, rfl⟩
  · exact ⟨happly, congrArg (Option.map CommitError.refused) hrefusal⟩

lemma AgreesWith.map {α β : Type} {x y : Session × α} (h : AgreesWith x y) (f : α → β) :
    AgreesWith (x.1, f x.2) (y.1, f y.2) :=
  ⟨h.1, congrArg f h.2⟩

lemma AgreesWith.exists_eq {α : Type} {x x' : Session × α} (h : AgreesWith x x') :
    ∃ s', x.1.Agrees s' ∧ x' = (s', x.2) :=
  ⟨x'.1, h.1, Prod.ext rfl h.2⟩

lemma Agrees.resource? (h : s.Agrees s') (key : String) : s'.resource? key = s.resource? key := by
  obtain ⟨types, journal, rfl⟩ := h
  rfl

/-! ## Making nodes -/

/-- A way to make something of a session that neither looks at the declared types nor writes
records. -/
def Unaware {α : Type} (make : Session → α × Session) : Prop :=
  ∀ s types journal, make (s.retold types journal) =
    ((make s).1, (make s).2.retold types journal)

/-- What is made of sessions that agree, brought into a form. -/
lemma Unaware.agreesWith {α β : Type} {make : Session → α × Session} (hmake : Unaware make)
    (h : s.Agrees s') (f : α → β) :
    AgreesWith ((make s).2, f (make s).1) ((make s').2, f (make s').1) := by
  obtain ⟨types, journal, rfl⟩ := h
  rw [hmake]
  exact ⟨⟨types, journal, rfl⟩, rfl⟩

lemma Unaware.agrees {α : Type} {make : Session → α × Session} (hmake : Unaware make)
    (h : s.Agrees s') : (make s).2.Agrees (make s').2 :=
  (hmake.agreesWith h fun x => x).1

lemma Unaware.made {α : Type} {make : Session → α × Session} (hmake : Unaware make)
    (h : s.Agrees s') : (make s').1 = (make s).1 :=
  (hmake.agreesWith h fun x => x).2

lemma unaware_stateNode (i : Invocation) (category processor : String) (selfWritable : Bool) :
    Unaware (stateNode · i category processor selfWritable) := by
  intro s types journal
  simp only [stateNode]
  split <;> rfl

lemma unaware_derivedNode (i : Invocation) (category processor : String)
    (dependencies : List String) : Unaware (derivedNode · i category processor dependencies) := by
  intro s types journal
  simp only [derivedNode]
  split <;> rfl

/-- Sessions that agree share the same nodes. -/
lemma Unaware.sharedNode {make : Session → Node × Session} (hmake : Unaware make) (s : Session)
    (types : List (String × String)) (journal : Journal) (c : Contribution) (key : String) :
    (s.retold types journal).sharedNode c key make =
      ((s.sharedNode c key make).1, (s.sharedNode c key make).2.1,
        (s.sharedNode c key make).2.2.retold types journal) := by
  have hfound : (s.retold types journal).findShared? c key = s.findShared? c key := rfl
  rw [Session.sharedNode, Session.sharedNode, hfound]
  split
  · rfl
  · rw [hmake]

end Session

/-! ## Processors -/

open Session

/-- A processor that makes the same of a call in sessions that agree. -/
def Processor.Unaware (p : Processor) : Prop :=
  ∀ s s' i, s.Agrees s' → AgreesWith (p.process s i) (p.process s' i)

lemma Custom.unaware : Custom.processor.Unaware := by
  rintro s _ i ⟨types, journal, rfl⟩
  exact ⟨⟨types, journal, rfl⟩, rfl⟩

namespace React

lemma unaware_reducerNode (i : Invocation) : Session.Unaware (reducerNode · i) := by
  intro s types journal
  simp only [reducerNode]
  split <;> rfl

lemma agreesWith_contextNode (i : Invocation) (bound : String × Role)
    {x x' : Session × Contribution} (h : AgreesWith x x') :
    AgreesWith (contextNode i x bound) (contextNode i x' bound) := by
  obtain ⟨_, ⟨types, journal, rfl⟩, rfl⟩ := h.exists_eq
  exact ⟨⟨types, journal, rfl⟩, rfl⟩

lemma unaware : processor.Unaware := by
  intro s s' i h
  refine AgreesWith.map (x := process s i) (y := process s' i) ?_ Except.ok
  simp only [process]
  split
  · exact ⟨h, rfl⟩
  split
  · exact (unaware_stateNode i _ _ _).agreesWith h Contribution.ofNode
  split
  · exact (unaware_reducerNode i).agreesWith h Contribution.ofNode
  split
  · exact List.foldl_rel ⟨h, rfl⟩ fun bound _ x x' hx => agreesWith_contextNode i bound hx
  · exact (unaware_derivedNode i _ _ _).agreesWith h Contribution.ofNode

end React

namespace Vue

lemma agreesWith_injectedNode (i : Invocation) (name : String) {x x' : Session × Contribution}
    (h : AgreesWith x x') : AgreesWith (injectedNode i x name) (injectedNode i x' name) := by
  obtain ⟨_, ⟨types, journal, rfl⟩, rfl⟩ := h.exists_eq
  exact ⟨⟨types, journal, rfl⟩, rfl⟩

lemma unaware : processor.Unaware := by
  intro s s' i h
  refine AgreesWith.map (x := process s i) (y := process s' i) ?_ Except.ok
  simp only [process]
  split
  · exact (unaware_stateNode i _ _ _).agreesWith h Contribution.ofNode
  split
  · exact (unaware_derivedNode i _ _ _).agreesWith h Contribution.ofNode
  split
  · exact List.foldl_rel ⟨h, rfl⟩ fun name _ x x' hx => agreesWith_injectedNode i name hx
  split
  · have hmake : Session.Unaware (providedNode · i) := fun _ _ _ => rfl
    exact hmake.agreesWith h fun n => Contribution.ofNode (some n)
  · exact ⟨h, rfl⟩

end Vue

namespace Svelte

lemma unaware : processor.Unaware := by
  intro s s' i h
  refine AgreesWith.map (x := process s i) (y := process s' i) ?_ Except.ok
  simp only [process]
  split
  · exact (unaware_stateNode i _ _ _).agreesWith h Contribution.ofNode
  split
  · exact (unaware_derivedNode i _ _ _).agreesWith h Contribution.ofNode
  · exact ⟨h, rfl⟩

lemma unaware_store : storeProcessor.Unaware := by
  intro s s' i h
  refine AgreesWith.map (x := processStore s i) (y := processStore s' i) ?_ Except.ok
  simp only [processStore]
  split
  · exact (unaware_stateNode i _ _ _).agreesWith h Contribution.ofNode
  split
  · exact (unaware_stateNode i _ _ _).agreesWith h Contribution.ofNode
  split
  · exact (unaware_derivedNode i _ _ _).agreesWith h Contribution.ofNode
  · exact ⟨h, rfl⟩

end Svelte

lemma Forms.unaware : Forms.processor.Unaware := by
  rintro s _ i ⟨types, journal, rfl⟩
  change AgreesWith (Forms.process s i) (Forms.process _ i)
  simp only [Forms.process]
  split
  · exact ⟨⟨types, journal, rfl⟩, rfl⟩
  · exact ⟨⟨types, journal, rfl⟩, rfl⟩

lemma Jotai.unaware : Jotai.processor.Unaware := by
  intro s s' i h
  change AgreesWith (Jotai.process s i) (Jotai.process s' i)
  simp only [Jotai.process, h.resource?]
  split
  · exact ⟨h.record _ _ _, rfl⟩
  split
  · exact ⟨h, rfl⟩
  · obtain ⟨types, journal, rfl⟩ := h
    exact ⟨⟨types, journal, rfl⟩, rfl⟩

namespace Stores

lemma agreesWith_process {s s' : Session} (h : s.Agrees s') (dialect : Dialect) (i : Invocation) :
    AgreesWith (process dialect s i) (process dialect s' i) := by
  simp only [process, h.resource?]
  split
  · exact ⟨h, rfl⟩
  · obtain ⟨types, journal, rfl⟩ := h
    exact ⟨⟨types, journal, rfl⟩, rfl⟩

lemma unaware_pinia : pinia.Unaware := by
  intro s s' i h
  change AgreesWith (processPinia s i) (processPinia s' i)
  simp only [processPinia]
  split
  · simp only [storeToRefs, h.resource?]
    split
    · exact ⟨h, rfl⟩
    · exact ⟨h.record _ _ _, rfl⟩
  · exact agreesWith_process h piniaDialect i

lemma unaware_mobx : mobx.Unaware := by
  intro s s' i h
  refine AgreesWith.map (x := processMobx s i) (y := processMobx s' i) ?_ Except.ok
  simp only [processMobx]
  split
  · exact (unaware_stateNode i _ _ _).agreesWith h Contribution.ofNode
  · exact ⟨h, rfl⟩

end Stores

namespace Navigation

lemma unaware_inputNode : Session.Unaware inputNode := fun _ _ _ => rfl

lemma unaware_outputNode : Session.Unaware outputNode := fun _ _ _ => rfl

lemma agreesWith_linkInput {s s' : Session} (h : s.Agrees s') (call : Node) (c : Contribution) :
    AgreesWith (linkInput call s c) (linkInput call s' c) := by
  obtain ⟨types, journal, rfl⟩ := h
  simp only [linkInput, unaware_inputNode.sharedNode]
  exact ⟨⟨types, journal, rfl⟩, rfl⟩

lemma agreesWith_linkOutput {s s' : Session} (h : s.Agrees s') (call : Node) (c : Contribution) :
    AgreesWith (linkOutput call s c) (linkOutput call s' c) := by
  obtain ⟨types, journal, rfl⟩ := h
  simp only [linkOutput, unaware_outputNode.sharedNode]
  exact ⟨⟨types, journal, rfl⟩, rfl⟩

lemma Router.unaware (r : Router) : r.processor.Unaware := by
  intro s s' i h
  refine AgreesWith.map (x := r.process s i) (y := r.process s' i) ?_ Except.ok
  simp only [Router.process]
  generalize r.kindOf i.hook.name = kind
  have hmake : Session.Unaware (r.callNode · i kind) := fun _ _ _ => rfl
  have hagrees := hmake.agrees h
  rw [hmake.made h]
  cases kind with
  | reads => exact agreesWith_linkInput hagrees _ _
  | guard => exact agreesWith_linkInput hagrees _ _
  | navigates => exact agreesWith_linkOutput hagrees _ _
  | both =>
    obtain ⟨hlinked, hc⟩ := agreesWith_linkInput hagrees (r.callNode s i .both).1
      (.ofNode (some (r.callNode s i .both).1))
    simp only [hc]
    exact agreesWith_linkOutput hlinked _ _

end Navigation

namespace Remote

lemma agreesWith_linkServer {s s' : Session} (h : s.Agrees s') (dialect : Dialect)
    (shape : ResultShape) (endpoint : Option String) (call : Node) :
    AgreesWith (linkServer dialect shape endpoint call s)
      (linkServer dialect shape endpoint call s') := by
  obtain ⟨types, journal, rfl⟩ := h
  have hmake : Session.Unaware (serverNode endpoint) := fun _ _ _ => rfl
  simp only [linkServer, hmake.sharedNode]
  cases shape.operation <;> exact ⟨⟨types, journal, rfl⟩, rfl⟩

lemma agreesWith_processShaped {s s' : Session} (h : s.Agrees s') (id : String) (dialect : Dialect)
    (shape : ResultShape) (i : Invocation) :
    AgreesWith (processShaped id dialect shape s i) (processShaped id dialect shape s' i) := by
  have hmake : Session.Unaware (callNode id shape i) := fun _ _ _ => rfl
  have hagrees := hmake.agrees h
  simp only [processShaped, hmake.made h]
  split
  · exact agreesWith_linkServer hagrees dialect shape none _
  split
  · exact agreesWith_linkServer hagrees dialect shape _ _
  · exact ⟨hagrees.record _ _ _, rfl⟩

lemma unaware (info : ProcessorInfo) (dialect : Dialect) : (processor info dialect).Unaware := by
  intro s s' i h
  change AgreesWith (process info.id dialect s i) (process info.id dialect s' i)
  simp only [process]
  split
  · exact (agreesWith_processShaped h info.id dialect _ i).map Except.ok
  · exact ⟨h, rfl⟩

end Remote

/-- Every built-in processor makes the same of a call in sessions that agree. -/
theorem unaware_of_mem_builtin : ∀ p ∈ builtinProcessors, p.Unaware := by
  simp only [builtinProcessors, List.forall_mem_cons]
  exact ⟨React.unaware, Vue.unaware, Svelte.unaware, Stores.unaware_pinia,
    fun _ _ i h => Stores.agreesWith_process h Stores.zustandDialect i, Remote.unaware _ _,
    Remote.unaware _ _, Remote.unaware _ _, Remote.unaware _ _, Remote.unaware _ _, Jotai.unaware,
    Navigation.Router.unaware _, Navigation.Router.unaware _, Navigation.Router.unaware _,
    Forms.unaware, Stores.unaware_mobx, Navigation.Router.unaware _, Svelte.unaware_store,
    Navigation.Router.unaware _, Custom.unaware, by simp⟩

end ComponentFlow

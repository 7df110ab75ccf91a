import ComponentFlow.Assembly.Assemble
import ComponentFlow.Proofs.Names

/-!
# Props and processes in a build

The passes that add and link props and processes, as stretches of growth. Adding nodes needs nothing
but free ids (`grows_addNodes`), and everything that is handed on to later passes is an id drawn on
the way. Linking processes needs on top of this that the records of what they call can be read
(`grows_linkRoutines`).
-/

namespace ComponentFlow

namespace Assembly

open Build

/-! ## Adding nodes -/

/-- A pass that collects what it adds: if each item collected comes with ids drawn at its step, it
comes with ids drawn in the pass. -/
lemma foldl_collect {k : Bool} {α β : Type} {f : Build × List β → α → Build × List β}
    (ids : β → List String)
    (hf : ∀ st a, Grows k True [] st.1 (f st a).1 ∧
      ∀ o ∈ (f st a).2, o ∈ st.2 ∨ ∀ id ∈ ids o, st.1.session.Draws (f st a).1.session id)
    (b : Build) (as : List α) :
    Grows k True [] b (as.foldl f (b, [])).1 ∧
      ∀ o ∈ (as.foldl f (b, [])).2, ∀ id ∈ ids o,
        b.session.Draws (as.foldl f (b, [])).1.session id := by
  refine List.foldlRecOn as f (motive := fun st : Build × List β => Grows k True [] b st.1 ∧
    ∀ o ∈ st.2, ∀ id ∈ ids o, b.session.Draws st.1.session id) ?_ ?_
  · exact ⟨Grows.refl k b, by simp⟩
  · rintro st ⟨hgrows, hdrawn⟩ a -
    obtain ⟨hstep, hnew⟩ := hf st a
    refine ⟨hgrows.append hstep, fun o ho id hid => ?_⟩
    obtain ho | ho := hnew o ho
    · exact (hdrawn o ho id hid).mono hstep.counts
    · exact (ho id hid).of_le hgrows.counts

lemma addProp_step (st : Build × List (String × String)) (p : InputProp) :
    Grows false True [] st.1 (addProp st p).1 ∧
      ∀ e ∈ (addProp st p).2, e ∈ st.2 ∨
        ∀ id ∈ [e.2], st.1.session.Draws (addProp st p).1.session id := by
  simp only [addProp]
  split
  · exact ⟨Grows.refl false st.1, fun e he => .inl he⟩
  · refine ⟨grows_addNode false st.1 p.sketch, fun e he => ?_⟩
    obtain he | he := List.mem_append.mp he
    · exact .inl he
    · rw [List.mem_singleton.mp he]
      exact .inr (by simpa using draws_addNode st.1 p.sketch)

/-- The node of a prop, which is given by its name and its id. -/
structure IsPropNode (e : String × String) (n : Node) : Prop where
  id : n.id = e.2
  label : n.label = e.1
  type : n.type ≠ NodeType.group.name
  prop : n.metadata.get "prop" = .bool true

lemma IsPropNode.continues {e : String × String} {n n' : Node} (hn : n'.Continues n)
    (h : IsPropNode e n) : IsPropNode e n' where
  id := hn.id.trans h.id
  label := hn.label.trans h.label
  type := hn.type ▸ h.type
  prop := (hn.records "prop" (by simp [noteKeys])).trans h.prop

/-- The props that are handed on are props of the component with nodes of their own. -/
lemma hasNodes_addProps (b : Build) (props : List InputProp) :
    (addProps b props).1.HasNodes (addProps b props).2 IsPropNode ∧
      ∀ e ∈ (addProps b props).2, ∃ p ∈ props, p.name = e.1 := by
  refine List.foldlRecOn props addProp (motive := fun st : Build × List (String × String) =>
    st.1.HasNodes st.2 IsPropNode ∧ ∀ e ∈ st.2, ∃ p ∈ props, p.name = e.1)
    ⟨fun _ => by simp, by simp⟩ ?_
  rintro ⟨b, done⟩ ⟨hnodes, hnames⟩ p hp
  have hgrows := (addProp_step (b, done) p).1
  have hkept := hgrows.hasNodes hnodes fun _ _ _ => IsPropNode.continues
  revert hkept
  simp only [addProp]
  split
  · exact fun _ => ⟨hnodes, hnames⟩
  · intro hkept
    refine ⟨hkept.append fun hlive => List.forall_mem_singleton.mpr ?_,
      List.forall_mem_append.mpr ⟨hnames, List.forall_mem_singleton.mpr ⟨p, hp, rfl⟩⟩⟩
    exact ⟨_, newNode_mem_addNode hlive, rfl, rfl,
      NodeType.name_ne_group p.sketch.type_ne_group, rfl⟩

/-- The ids that a placed process comes with. -/
def PlacedRoutine.ids (p : PlacedRoutine) : List String := p.id :: p.cleanup.toList

/-- The node of a process. -/
def PlacedRoutine.IsNode (p : PlacedRoutine) (n : Node) : Prop :=
  n.id = p.id ∧ n.type = NodeType.process.name

lemma PlacedRoutine.IsNode.continues {p : PlacedRoutine} {n n' : Node} (hn : n'.Continues n)
    (h : p.IsNode n) : p.IsNode n' :=
  ⟨hn.id.trans h.1, hn.type.trans h.2⟩

/-- Adding a process makes an entry for it, and one for the process that cleans up after it. -/
lemma exists_addRoutine (exported : Bool) (st : Build × List PlacedRoutine) (r : Routine) :
    Grows false True [] st.1 (addRoutine exported st r).1 ∧
      ∃ added, (addRoutine exported st r).2 = st.2 ++ added ∧ (added.map (·.id)).Nodup ∧
        (∀ p ∈ added, ∀ id ∈ p.ids, st.1.session.Draws (addRoutine exported st r).1.session id) ∧
        (addRoutine exported st r).1.HasNodes added PlacedRoutine.IsNode ∧
        (added.filter (·.exported)).map (·.routine) = if exported then [r] else [] := by
  simp only [addRoutine]
  have hnode := grows_addNode false st.1 (r.sketch exported)
  have hid := draws_addNode st.1 (r.sketch exported)
  have hadded : (st.1.addNode (r.sketch exported)).2.Live →
      ∃ n ∈ (st.1.addNode (r.sketch exported)).2.diagram.nodes,
        n.id = (st.1.addNode (r.sketch exported)).1 ∧ n.type = NodeType.process.name :=
    fun hlive => ⟨_, newNode_mem_addNode hlive, rfl, rfl⟩
  generalize st.1.addNode (r.sketch exported) = added at hnode hid hadded ⊢
  split
  · refine ⟨hnode, _, rfl, by simp, by simpa [PlacedRoutine.ids] using hid,
      fun hlive => List.forall_mem_singleton.mpr (hadded hlive), ?_⟩
    cases exported <;> rfl
  · rename_i c _
    have hnode' := grows_addNode false added.2 (r.cleanupSketch c)
    have hid' := draws_addNode added.2 (r.cleanupSketch c)
    have hadded' : (added.2.addNode (r.cleanupSketch c)).2.Live →
        ∃ n ∈ (added.2.addNode (r.cleanupSketch c)).2.diagram.nodes,
          n.id = (added.2.addNode (r.cleanupSketch c)).1 ∧ n.type = NodeType.process.name :=
      fun hlive => ⟨_, newNode_mem_addNode hlive, rfl, rfl⟩
    generalize added.2.addNode (r.cleanupSketch c) = cleanup at hnode' hid' hadded' ⊢
    have hmark := grows_annotate false cleanup.2 added.1 (.str cleanup.1)
      (by simp [noteKeys] : "cleanup" ∈ noteKeys)
    have hne : added.1 ≠ cleanup.1 := fun heq => hid'.not_draws (heq ▸ hid)
    have hfirst := (hid.mono hnode'.counts).mono hmark.counts
    have hsecond := (hid'.of_le hnode.counts).mono hmark.counts
    have hnodes : cleanup.2.HasNodes
        [⟨r, added.1, exported, some cleanup.1⟩, ⟨c, cleanup.1, false, none⟩]
        PlacedRoutine.IsNode := by
      intro hlive
      obtain ⟨n, hn, hid, htype⟩ := hadded (hnode'.live.mp hlive).1
      obtain ⟨n', hn', hcontinues⟩ := hnode'.edits.exists_node hn
      exact List.forall_mem_cons.mpr ⟨⟨n', hn', hcontinues.id.trans hid,
        hcontinues.type.trans htype⟩, List.forall_mem_singleton.mpr (hadded' hlive)⟩
    refine ⟨(hnode.append hnode').append hmark, _, rfl, by simpa using hne,
      by simpa [PlacedRoutine.ids] using ⟨hfirst, hsecond⟩,
      hmark.hasNodes hnodes fun _ _ _ => PlacedRoutine.IsNode.continues, ?_⟩
    cases exported <;> rfl

lemma addRoutine_step (exported : Bool) (st : Build × List PlacedRoutine) (r : Routine) :
    Grows false True [] st.1 (addRoutine exported st r).1 ∧
      ∀ p ∈ (addRoutine exported st r).2, p ∈ st.2 ∨
        ∀ id ∈ p.ids, st.1.session.Draws (addRoutine exported st r).1.session id := by
  obtain ⟨hgrows, added, heq, -, hdrawn, -⟩ := exists_addRoutine exported st r
  refine ⟨hgrows, fun p hp => ?_⟩
  rw [heq] at hp
  exact (List.mem_append.mp hp).imp_right (hdrawn p)

/-- **Props and processes.** Adding their nodes only needs free ids. The props and processes that
are handed on have ids drawn on the way. -/
lemma grows_addNodes (b : Build) (c : Component) :
    Grows false True [] b (addNodes b c).1 ∧
      (∀ e ∈ (addNodes b c).2.1, b.session.Draws (addNodes b c).1.session e.2) ∧
      ∀ p ∈ (addNodes b c).2.2, ∀ id ∈ p.ids, b.session.Draws (addNodes b c).1.session id := by
  obtain ⟨hprops, hprop⟩ :=
    foldl_collect (f := addProp) (fun e => [e.2]) addProp_step b c.props
  obtain ⟨hroutines, hroutine⟩ :=
    foldl_collect (f := addRoutine false) PlacedRoutine.ids (addRoutine_step false)
      (addProps b c.props).1 c.processes
  obtain ⟨hexported, hhandler⟩ :=
    foldl_collect (f := addRoutine true) PlacedRoutine.ids (addRoutine_step true)
      (addRoutines (addProps b c.props).1 false c.processes).1 c.exportedHandlers
  refine ⟨(hprops.append hroutines).append hexported, fun e he => ?_, fun p hp id hid => ?_⟩
  · exact ((hprop e he e.2 (by simp)).mono hroutines.counts).mono hexported.counts
  · obtain hp | hp := List.mem_append.mp hp
    · exact ((hroutine p hp id hid).of_le hprops.counts).mono hexported.counts
    · exact (hhandler p hp id hid).of_le (hprops.counts.trans hroutines.counts)

/-- The processes that are handed on have nodes. -/
lemma hasNodes_addRoutines (b : Build) (exported : Bool) (rs : List Routine) :
    (addRoutines b exported rs).1.HasNodes (addRoutines b exported rs).2 PlacedRoutine.IsNode := by
  refine List.foldlRecOn rs (addRoutine exported)
    (motive := fun st : Build × List PlacedRoutine => st.1.HasNodes st.2 PlacedRoutine.IsNode)
    (fun _ => by simp) ?_
  intro st hst r _
  obtain ⟨hgrows, added, heq, -, -, hnodes, -⟩ := exists_addRoutine exported st r
  rw [heq]
  exact (hgrows.hasNodes hst fun _ _ _ => PlacedRoutine.IsNode.continues).append hnodes

/-- The props and processes that are handed on have nodes. -/
lemma hasNodes_addNodes (b : Build) (c : Component) :
    (addNodes b c).1.HasNodes (addNodes b c).2.1 IsPropNode ∧
      (addNodes b c).1.HasNodes (addNodes b c).2.2 PlacedRoutine.IsNode := by
  have hprops := (hasNodes_addProps b c.props).1
  have hroutines := hasNodes_addRoutines (addProps b c.props).1 false c.processes
  have hexported := hasNodes_addRoutines (addRoutines (addProps b c.props).1 false c.processes).1
    true c.exportedHandlers
  have hgrows := (foldl_collect (f := addRoutine false) PlacedRoutine.ids (addRoutine_step false)
    (addProps b c.props).1 c.processes).1
  have hgrows' := (foldl_collect (f := addRoutine true) PlacedRoutine.ids (addRoutine_step true)
    (addRoutines (addProps b c.props).1 false c.processes).1 c.exportedHandlers).1
  exact ⟨(hgrows.append hgrows').hasNodes hprops fun _ _ _ => IsPropNode.continues,
    (hgrows'.hasNodes hroutines fun _ _ _ => PlacedRoutine.IsNode.continues).append hexported⟩

/-- The processes that are added have different ids. -/
lemma nodup_addRoutines (b : Build) (exported : Bool) (rs : List Routine) :
    ((addRoutines b exported rs).2.map (·.id)).Nodup := by
  -- what is added later has ids that are drawn later
  have hrun : ((addRoutines b exported rs).2.map (·.id)).Nodup ∧
      ∀ p ∈ (addRoutines b exported rs).2,
        b.session.Draws (addRoutines b exported rs).1.session p.id := by
    refine List.foldlRecOn rs (addRoutine exported) (motive := fun st =>
      (st.2.map (·.id)).Nodup ∧ b.session.CountsLe st.1.session ∧
        ∀ p ∈ st.2, b.session.Draws st.1.session p.id) ?_ ?_ |>.imp_right And.right
    · exact ⟨by simp, Session.CountsLe.refl _, by simp⟩
    · rintro st ⟨hnodup, hcounts, hdrawn⟩ r -
      obtain ⟨hgrows, added, heq, hadded, hnew, -⟩ := exists_addRoutine exported st r
      have hnew : ∀ p ∈ added,
          st.1.session.Draws (addRoutine exported st r).1.session p.id :=
        fun p hp => hnew p hp p.id List.mem_cons_self
      rw [heq]
      refine ⟨?_, hcounts.trans hgrows.counts, List.forall_mem_append.mpr
        ⟨fun p hp => (hdrawn p hp).mono hgrows.counts, fun p hp => (hnew p hp).of_le hcounts⟩⟩
      rw [List.map_append, List.nodup_append]
      refine ⟨hnodup, hadded, fun id hid id' hid' => ?_⟩
      obtain ⟨p, hp, rfl⟩ := List.mem_map.mp hid
      obtain ⟨p', hp', rfl⟩ := List.mem_map.mp hid'
      exact fun heq => (hnew p' hp').not_draws (heq ▸ hdrawn p hp)
  exact hrun.1

lemma routines_addRoutines (b : Build) (exported : Bool) (rs : List Routine) :
    ((addRoutines b exported rs).2.filter (·.exported)).map (·.routine) =
      if exported then rs else [] := by
  have hrun : ∀ st : Build × List PlacedRoutine,
      ((rs.foldl (addRoutine exported) st).2.filter (·.exported)).map (·.routine) =
        (st.2.filter (·.exported)).map (·.routine) ++ if exported then rs else [] := by
    induction rs with
    | nil => simp
    | cons r rest ih =>
      intro st
      obtain ⟨-, added, heq, -, -, -, hroutines⟩ := exists_addRoutine exported st r
      rw [List.foldl_cons, ih, heq, List.filter_append, List.map_append, hroutines,
        List.append_assoc]
      cases exported <;> simp
  exact hrun (b, [])

/-- The exported handlers of a component are added as they are listed, with different ids. -/
lemma exported_addNodes (b : Build) (c : Component) :
    (((addNodes b c).2.2.filter (·.exported)).map (·.id)).Nodup ∧
      ((addNodes b c).2.2.filter (·.exported)).map (·.routine) = c.exportedHandlers := by
  have hnone : (addRoutines (addProps b c.props).1 false c.processes).2.filter (·.exported) = [] :=
    List.map_eq_nil_iff.mp (routines_addRoutines _ false c.processes)
  have hsplit : (addNodes b c).2.2.filter (·.exported) =
      (addRoutines (addRoutines (addProps b c.props).1 false c.processes).1 true
        c.exportedHandlers).2.filter (·.exported) := by
    simp only [addNodes, List.filter_append, hnone, List.nil_append]
  rw [hsplit]
  exact ⟨(List.filter_sublist.map _).nodup (nodup_addRoutines _ true _),
    routines_addRoutines _ true c.exportedHandlers⟩

/-! ## Linking processes -/

variable {x : NameIndex}

/-- The ids of the nodes for functions from outside. -/
def IsExternal (externals : List (String × String)) (id : String) : Prop :=
  ∃ e ∈ externals, e.2 = id

lemma linkExternal_step (process : String) (st : Build × List (String × String)) (callee : String)
    (hp : st.1.Knows (· = process)) (hb : st.1.Knows (IsExternal st.2)) :
    Grows false True [] st.1 (linkExternal x process st callee).1 ∧
      (linkExternal x process st callee).1.Knows
        (IsExternal (linkExternal x process st callee).2) := by
  simp only [linkExternal]
  split
  · exact ⟨Grows.refl false st.1, hb⟩
  split
  · rename_i id hid
    have hlink := grows_link_among false (hp.or hb) ⟨process, id, "calls"⟩ (.inl rfl)
      (.inr ⟨_, Assoc.mem_of_lookup hid, rfl⟩)
    exact ⟨hlink, hlink.knows hb⟩
  · have hnode := grows_addNode false st.1 (externalSketch callee)
    have hid := draws_addNode st.1 (externalSketch callee)
    generalize st.1.addNode (externalSketch callee) = added at hnode hid ⊢
    have hadded : added.2.Knows (· = added.1) :=
      hnode.knows_drawn.mono fun id heq => heq ▸ hid
    have hlink := grows_link_among false ((hnode.knows hp).or hadded)
      ⟨process, added.1, "calls"⟩ (.inl rfl) (.inr rfl)
    refine ⟨hnode.append hlink, (hlink.knows ((hnode.knows hb).or hadded)).mono ?_⟩
    rintro id ⟨e, he, rfl⟩
    obtain he | he := List.mem_append.mp he
    · exact .inl ⟨e, he, rfl⟩
    · rw [List.mem_singleton.mp he]
      exact .inr rfl

lemma linkExternals_run (process : String) (st : Build × List (String × String))
    (callees : List String) (hp : st.1.Knows (· = process)) (hb : st.1.Knows (IsExternal st.2)) :
    Grows false True [] st.1 (callees.foldl (linkExternal x process) st).1 ∧
      (callees.foldl (linkExternal x process) st).1.Knows
        (IsExternal (callees.foldl (linkExternal x process) st).2) := by
  induction callees generalizing st with
  | nil => exact ⟨Grows.refl false st.1, hb⟩
  | cons callee rest ih =>
    obtain ⟨hstep, hknows⟩ := linkExternal_step (x := x) process st callee hp hb
    obtain ⟨hrest, hknows'⟩ := ih _ (hstep.knows hp) hknows
    rw [List.foldl_cons]
    exact ⟨hstep.append hrest, hknows'⟩

/-- A process can be linked if the records of what it calls can be read. -/
lemma linkRoutine_step (st : Build × List (String × String)) (p : PlacedRoutine)
    (hx : st.1.Knows x.Names) (hp : st.1.Knows (· ∈ p.ids)) (hb : st.1.Knows (IsExternal st.2)) :
    Grows false (∀ l ∈ callLinks x p.id p.routine.calls, l.Readable) [] st.1
        (linkRoutine x st p).1 ∧
      (linkRoutine x st p).1.Knows (IsExternal (linkRoutine x st p).2) := by
  simp only [linkRoutine]
  have hid : ∀ {id}, id = p.id → id ∈ p.ids := fun h => by simp [PlacedRoutine.ids, h]
  have hknown : ∀ id, x.Names id → x.Names id ∨ id ∈ p.ids := fun _ => .inl
  have hself : x.Names p.id ∨ p.id ∈ p.ids := .inr (hid rfl)
  have hreads := grows_linkAll_among false (hx.or hp)
    (readEdges_known p.routine.references hknown hself)
  have hcalls := grows_followAll_among false (hreads.knows (hx.or hp))
    (callLinks_among p.routine.calls hknown hself)
  rw [callLinks_leaves] at hcalls
  have hassigns := grows_linkAll_among false (hcalls.knows (hreads.knows (hx.or hp)))
    (assignEdges_known p.routine.assigns hknown hself)
  have hbefore := (hreads.trans hcalls fun _ => Iff.rfl).trans hassigns fun _ => Iff.rfl
  obtain ⟨hexternal, hknows⟩ := linkExternals_run (x := x) p.id
    ((((st.1.linkAll (readEdges x p.id p.routine.references)).followAll
      (callLinks x p.id p.routine.calls)).linkAll (assignEdges x p.id p.routine.assigns)), st.2)
    p.routine.externalCalls ((hbefore.knows hp).mono fun _ => hid) (hbefore.knows hb)
  have hso := hbefore.trans hexternal fun _ => Iff.rfl
  have htriggers := grows_linkAll_among false (hso.knows (hx.or hp))
    (triggerEdges_known p.routine.dependencies hknown hself)
  have hcleanups : ∀ e ∈ p.cleanup.toList.map fun id => (⟨p.id, id, "cleanup"⟩ : Edge),
      e.source ∈ p.ids ∧ e.target ∈ p.ids := by
    intro e he
    obtain ⟨id, hmem, rfl⟩ := List.mem_map.mp he
    exact ⟨hid rfl, List.mem_cons_of_mem _ hmem⟩
  have hcleanup := grows_linkAll_among false (htriggers.knows (hso.knows hp)) hcleanups
  have hall := (hso.trans htriggers fun _ => Iff.rfl).trans hcleanup fun _ => Iff.rfl
  exact ⟨hall.congr fun _ _ => by simp, hcleanup.knows (htriggers.knows hknows)⟩

/-- **Processes.** They can be linked exactly if the records of all that they call can be read. -/
lemma grows_linkRoutines {b : Build} (placed : List PlacedRoutine) (hx : b.Knows x.Names)
    (hp : b.Knows fun id => ∃ p ∈ placed, id ∈ p.ids) :
    Grows false (∀ p ∈ placed, ∀ l ∈ callLinks x p.id p.routine.calls, l.Readable) [] b
      (linkRoutines x b placed) := by
  have hrun : ∀ st : Build × List (String × String), st.1.Knows x.Names →
      (st.1.Knows fun id => ∃ p ∈ placed, id ∈ p.ids) → st.1.Knows (IsExternal st.2) →
      Grows false (∀ p ∈ placed, ∀ l ∈ callLinks x p.id p.routine.calls, l.Readable) [] st.1
        (placed.foldl (linkRoutine x) st).1 := by
    clear hx hp
    induction placed with
    | nil =>
      intro st _ _ _
      exact (Grows.refl false st.1).congr fun _ _ => by simp
    | cons p rest ih =>
      intro st hx hp hb
      obtain ⟨hstep, hknows⟩ := linkRoutine_step st p hx
        (hp.mono fun id hid => ⟨p, by simp, hid⟩) hb
      have hlater : ∀ id, (∃ q ∈ rest, id ∈ q.ids) → ∃ q ∈ p :: rest, id ∈ q.ids := by
        rintro id ⟨q, hq, hid⟩
        exact ⟨q, List.mem_cons_of_mem _ hq, hid⟩
      have hrest := ih (linkRoutine x st p) (hstep.knows hx) ((hstep.knows hp).mono hlater) hknows
      exact (hstep.trans hrest fun _ => Iff.rfl).congr fun _ _ => by simp
  exact hrun (b, []) hx hp fun _ id hid => by simp [IsExternal] at hid

end Assembly

end ComponentFlow

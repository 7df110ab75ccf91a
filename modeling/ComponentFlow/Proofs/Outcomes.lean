import ComponentFlow.Proofs.Runs

/-!
# The outcomes of a run

A run leaves three records of what became of the hooks: the outcomes, the faults of the session and
the diagram. They agree, whoever the processors are (`execute_accounts`): each fault belongs to an
outcome with an error, in order, and the nodes that the other outcomes name are there at the end,
each for one outcome only. All that is asked of a processor is that it leaves the diagram and the
faults to its contributions, as the built-in ones do (`discreet_of_mem_builtin`).

The nodes of an outcome are not those of groups. This is what keeps them in the diagram when empty
groups are taken out, since a group and a node of a contribution never share an id. A commit that
fails half-way leaves nodes, too, but no outcome names them.
-/

namespace ComponentFlow

/-- A processor that leaves the diagram and the faults of a session to its contributions, which may
be anything. -/
structure Processor.Discreet (p : Processor) : Prop where
  diagram : p.Confined
  faults : ∀ s i, (p.process s i).1.faults = s.faults

lemma discreet_of_mem_builtin (p : Processor) (h : p ∈ builtinProcessors) : p.Discreet :=
  ⟨confined_of_mem_builtin p h, fun s i => (unobtrusive_of_mem_builtin p h s i).faults⟩

/-- The fault that an outcome with an error comes from. -/
def Outcome.fault? (o : Outcome) : Option ProcessorFault :=
  o.error.map fun message => ⟨o.processor, o.hook, message⟩

/-! ## Nodes that are no groups -/

/-- Whether an id is that of a node that stands for no group. -/
def Diagram.Plain (d : Diagram) (id : String) : Prop := id ∈ d.ids ∧ id ∉ d.groupIds

namespace Session

variable {s : Session} {id : String}

/-- A commit neither takes out nodes nor makes groups of them, however far it gets. -/
lemma plain_commit (c : Contribution) (h : s.diagram.Plain id) :
    (s.commit c).1.diagram.Plain id := by
  refine commit_preserve (P := fun d => d.Plain id) ?_ ?_ ?_ ?_ c h
  · intro d d' n hok hd
    obtain ⟨-, -, rfl⟩ := Diagram.addNode_eq_ok_iff.mp hok
    exact ⟨by simpa [Diagram.ids] using .inl (List.mem_map.mp hd.1), hd.2⟩
  · intro d d' g hok hd
    obtain ⟨-, hfree, rfl⟩ := Diagram.addGroup_eq_ok_iff.mp hok
    refine ⟨by simpa [Diagram.ids] using .inl (List.mem_map.mp hd.1), fun hmem => ?_⟩
    rw [Diagram.groupIds, List.map_append] at hmem
    obtain hmem | hmem := List.mem_append.mp hmem
    · exact hd.2 hmem
    · rw [List.map_singleton, List.mem_singleton] at hmem
      exact hfree (hmem ▸ hd.1)
  · intro d d' e hok hd
    obtain ⟨-, -, rfl⟩ := Diagram.addEdge_eq_ok_iff.mp hok
    exact hd
  · intro d u hd
    refine ⟨?_, hd.2⟩
    rw [applyUpdate, Diagram.ids_modifyNode fun n => (n.patch_id_type u.2).1]
    exact hd.1

lemma faults_commit (s : Session) (c : Contribution) : (s.commit c).1.faults = s.faults := by
  obtain ⟨e, -, hcommit⟩ | ⟨-, hcommit⟩ | ⟨-, nodes, groups, e, -, -, hcommit, -⟩ :=
    s.commit_cases c
  · rw [hcommit]
  · rw [hcommit]
    rfl
  · rw [hcommit]

/-- The nodes of a contribution that is applied stand for no groups, not even for its own. -/
lemma plain_applied {c : Contribution} (hs : s.diagram.Coherent) (hc : s.Checked c)
    (hnodup : (s.applied c).diagram.ids.Nodup) {n : Node} (hn : n ∈ c.nodes) :
    (s.applied c).diagram.Plain n.id := by
  rw [ids_applied] at hnodup
  refine ⟨?_, fun hmem => ?_⟩
  · rw [ids_applied]
    exact List.mem_append_left _ (List.mem_append_right _ (List.mem_map_of_mem hn))
  · rw [Diagram.groupIds, groups_applied, List.map_append] at hmem
    obtain hmem | hmem := List.mem_append.mp hmem
    · exact hc.fresh n hn (hs.groups_sublist.subset hmem)
    · exact (List.nodup_append.mp hnodup).2.2 _
        (List.mem_append_right _ (List.mem_map_of_mem hn)) _ hmem rfl

end Session

/-! ## One call -/

/-- A session whose faults are those of the outcomes so far, and whose diagram has the nodes that
they name. -/
structure Accounted (s : Session) (outcomes : List Outcome) : Prop where
  faults : s.faults = outcomes.filterMap Outcome.fault?
  failed : ∀ o ∈ outcomes, o.error ≠ none → o.handled = false ∧ o.nodes = []
  nodup : (outcomes.flatMap (·.nodes)).Nodup
  plain : ∀ id ∈ outcomes.flatMap (·.nodes), s.diagram.Plain id

namespace Accounted

variable {s s' : Session} {outcomes : List Outcome}

/-- A call on which the processor fails names no nodes. -/
lemma fail (h : Accounted s outcomes) (hfaults : s'.faults = s.faults)
    (hplain : ∀ id, s.diagram.Plain id → s'.diagram.Plain id) (p : Processor) (hook : Hook)
    (message : String) :
    Accounted (Registry.fail s' p hook message).1
      (outcomes ++ [(Registry.fail s' p hook message).2]) where
  faults := by
    rw [List.filterMap_append, ← h.faults, ← hfaults]
    rfl
  failed := List.forall_mem_append.mpr
    ⟨h.failed, List.forall_mem_singleton.mpr fun _ => ⟨rfl, rfl⟩⟩
  nodup := by simpa [Registry.fail] using h.nodup
  plain := by
    intro id hid
    exact hplain id (h.plain id (by simpa [Registry.fail] using hid))

/-- A call whose contribution is applied names the nodes of the contribution. -/
lemma applied (h : Accounted s outcomes) (hs : s.diagram.Coherent) {c : Contribution}
    (hdiagram : s'.diagram = s.diagram) (hfaults : s'.faults = s.faults) (hc : s'.Checked c)
    (hcommit : s'.commit c = (s'.applied c, none)) {o : Outcome} (herror : o.error = none)
    (hnodes : o.nodes = c.nodes.map (·.id)) : Accounted (s'.applied c) (outcomes ++ [o]) := by
  have hcoherent : (s'.applied c).diagram.Coherent := by
    have hcommitted := Session.commit_coherent c (hdiagram ▸ hs)
    rwa [hcommit] at hcommitted
  have hkept : ∀ id ∈ outcomes.flatMap (·.nodes), (s'.applied c).diagram.Plain id := by
    intro id hid
    have hcommitted := Session.plain_commit c (hdiagram ▸ h.plain id hid)
    rwa [hcommit] at hcommitted
  have hnew : ∀ id ∈ o.nodes, (s'.applied c).diagram.Plain id ∧ id ∉ s.diagram.ids := by
    intro id hid
    rw [hnodes] at hid
    obtain ⟨n, hn, rfl⟩ := List.mem_map.mp hid
    exact ⟨Session.plain_applied (hdiagram ▸ hs) hc hcoherent.ids_nodup hn,
      hdiagram ▸ hc.fresh n hn⟩
  refine ⟨?_, ?_, ?_, ?_⟩
  · rw [List.filterMap_append, ← h.faults, ← hfaults]
    simp [Outcome.fault?, herror, Session.applied]
  · exact List.forall_mem_append.mpr
      ⟨h.failed, List.forall_mem_singleton.mpr fun hne => absurd herror hne⟩
  · -- the nodes before were in the diagram, and the new ones were not
    rw [List.flatMap_append, List.flatMap_singleton]
    refine List.nodup_append.mpr ⟨h.nodup, hnodes ▸ hc.nodup, fun id hid id' hid' heq => ?_⟩
    exact (hnew id' hid').2 (heq ▸ (h.plain id hid).1)
  · rw [List.flatMap_append, List.flatMap_singleton]
    exact List.forall_mem_append.mpr ⟨hkept, fun id hid => (hnew id hid).1⟩

/-- Whatever a discreet processor does with a call, its outcome is accounted for. -/
lemma handOver (h : Accounted s outcomes) (hs : s.diagram.Coherent) {p : Processor}
    (hp : p.Discreet) (i : Invocation) :
    Accounted (Registry.handOver s p i).1 (outcomes ++ [(Registry.handOver s p i).2]) := by
  have hdiagram : (p.process (Registry.announced s p i) i).1.diagram = s.diagram :=
    hp.diagram (Registry.announced s p i) i
  have hfaults : (p.process (Registry.announced s p i) i).1.faults = s.faults :=
    hp.faults (Registry.announced s p i) i
  obtain ⟨message, -, heq⟩ | ⟨c, -, hcommitted⟩ := Registry.handOver_cases s p i
  · rw [heq]
    exact h.fail hfaults (fun id hid => hdiagram ▸ hid) p i.hook message
  generalize (p.process (Registry.announced s p i) i).1 = s₁ at hdiagram hfaults hcommitted
  obtain ⟨e, -, heq⟩ | ⟨hnone, heq⟩ := hcommitted
  · rw [heq]
    exact h.fail ((s₁.faults_commit c).trans hfaults)
      (fun id hid => Session.plain_commit c (hdiagram ▸ hid)) p i.hook e.message
  · obtain ⟨e, -, hcommit⟩ | ⟨hc, hcommit⟩ | ⟨-, nodes, groups, e, -, -, hcommit, -⟩ :=
      s₁.commit_cases c
    · simp [hcommit] at hnone
    · rw [heq, hcommit]
      exact h.applied hs hdiagram hfaults hc hcommit rfl rfl
    · simp [hcommit] at hnone

end Accounted

/-! ## All calls -/

namespace Analyzer

variable {r : Registry} {a : Analyzer} {c : Component} {source : Option String}
  {s s' : Session} {is : List Invocation} {outcomes : List Outcome}

/-- What is accounted for before some calls is accounted for after them, and so are their own
outcomes. -/
lemma accounted_dispatchAll (hr : ∀ p ∈ r.entries, p.Discreet) {done : List Outcome}
    (hs : s.diagram.Coherent) (hnested : Diagram.Nested s.diagram.groups)
    (hdone : Accounted s done) (h : dispatchAll r s is = (s', .ok outcomes)) :
    Accounted s' (done ++ outcomes) ∧ s'.diagram.Coherent ∧ Diagram.Nested s'.diagram.groups := by
  induction is generalizing s done outcomes with
  | nil =>
    obtain ⟨rfl, hnil⟩ := Prod.mk.inj h
    obtain rfl := Except.ok.inj hnil
    rw [List.append_nil]
    exact ⟨hdone, hs, hnested⟩
  | cons i rest ih =>
    obtain ⟨p, others, hselect, hrest, rfl⟩ := dispatchAll_cons_eq_ok_iff.mp h
    have hp := hr p (Registry.select?_eq_some hselect).1
    obtain ⟨hcoherent, hnested'⟩ := Registry.handOver_confined i hp.diagram hs hnested
    have hnext := ih hcoherent hnested' (hdone.handOver hs hp i) hrest
    rwa [List.append_assoc, List.singleton_append] at hnext

end Analyzer

/-! ## The finished diagram -/

namespace Assembly

open Build

/-- Nodes that stand for no groups are still there at the end. -/
lemma mem_ids_assemble {s : Session} (hs : s.diagram.Coherent)
    (hnested : Diagram.Nested s.diagram.groups) (hlive : (assemble s).Live) {id : String}
    (hid : s.diagram.Plain id) : id ∈ (assemble s).diagram.ids := by
  have hafter := grows_connected hs hnested
  rw [assemble_eq] at hlive
  have hconnected := (live_finish.mp hlive).1
  have hlayout := (hafter.live.mp hconnected).1
  have hrouted : id ∈ (routed s).diagram.ids := (grows_before s).edits.mem_ids hid.1
  have hkept : id ∈ (layout s).build.diagram.ids := by
    refine ((settled_layout hs hnested).kept hlayout id hrouted).mpr fun hgone => ?_
    rw [groups_routed] at hgone
    exact hid.2 (hollowIds_subset _ hgone)
  rw [assemble_eq, diagram_finish hlive, Diagram.ids_replaceEdges]
  exact hafter.mem_ids hconnected hkept

end Assembly

namespace Analyzer

/-- **Outcomes.** Processors that change the diagram and the faults only through their contributions
may contribute anything or fail. In every run that is returned there is one outcome for each hook,
in order. The faults are those of the outcomes with an error, in order, and such an outcome is
unhandled and names no nodes. No node is named twice, by one outcome or by two, and all of them are
in the finished diagram. -/
theorem execute_accounts (a : Analyzer) (c : Component) (source : Option String) (r : Registry)
    (hr : a.registry = .ok r) (hdiscreet : ∀ p ∈ r.entries, p.Discreet) (run : Run)
    (hrun : (a.execute c source).2 = .ok run) :
    run.outcomes.map (·.hook) = c.hooks.map (·.name) ∧
      run.session.faults = run.outcomes.filterMap Outcome.fault? ∧
      (∀ o ∈ run.outcomes, o.error ≠ none → o.handled = false ∧ o.nodes = []) ∧
      (run.outcomes.flatMap (·.nodes)).Nodup ∧
      ∀ o ∈ run.outcomes, ∀ id ∈ o.nodes, id ∈ run.diagram.ids := by
  rw [execute_eq hr] at hrun
  obtain ⟨s', outcomes, hall, hlive, rfl⟩ := build_eq_ok_iff.mp hrun
  have hstart : Accounted (a.begun c source) [] := ⟨rfl, by simp, by simp, by simp⟩
  obtain ⟨haccounted, hcoherent, hnested⟩ :=
    accounted_dispatchAll hdiscreet sound_begun.coherent sound_begun.nested hstart hall
  obtain ⟨hdiagram, -, -, hfaults⟩ := recordUnhandled_kept s' outcomes
  rw [← hdiagram] at hcoherent hnested
  refine ⟨?_, ?_, haccounted.failed, haccounted.nodup, fun o ho id hid => ?_⟩
  · rw [hooks_dispatchAll hall, names_classified]
  · have hrest := Assembly.rest_assemble hcoherent hnested
    rw [(recordFaults_kept _).2]
    exact ((congrArg (·.2.2.2) hrest).trans hfaults).trans haccounted.faults
  · rw [Run.diagram, (recordFaults_kept _).1]
    refine Assembly.mem_ids_assemble hcoherent hnested hlive ?_
    rw [hdiagram]
    exact haccounted.plain id (List.mem_flatMap.mpr ⟨o, ho, hid⟩)

/-- A processor of others that fails on every call it gets. -/
def faulty : Processor :=
  { info := { id := "faulty", library := "stub", hooks := [.exactly "useState"] }
    process := fun s _ => (s, .error "no state") }

/-- An analyzer with a processor that fails and the one for all other hooks. -/
def mixed : Analyzer := ⟨{}, none, .ok ⟨[faulty, Custom.processor]⟩, none⟩

/-- One hook fails, and the other one is served all the same. -/
lemma exists_run_mixed : ∃ run, (mixed.execute counter none).2 = .ok run ∧
    run.outcomes = [⟨"useState", "faulty", false, [], some "no state"⟩,
      ⟨"useTheme", "custom-hook", true, ["custom_hook_0"], none⟩] := by
  have hselect : ∀ h framework, Registry.select? ⟨[faulty, Custom.processor]⟩ h framework =
      [faulty, Custom.processor].find? (·.accepts h framework) :=
    Registry.select?_of_pairwise (by decide)
  rw [execute_eq (r := ⟨[faulty, Custom.processor]⟩) rfl]
  refine ⟨_, build_eq_ok_iff.mpr ⟨_, _, dispatchAll_cons_eq_ok_iff.mpr ⟨faulty, _, hselect _ _,
    dispatchAll_cons_eq_ok_iff.mpr ⟨Custom.processor, [], hselect _ _, rfl, rfl⟩, rfl⟩, ?_, rfl⟩,
    ?_⟩
  · rw [Build.Live]
    decide +kernel
  · decide +kernel

theorem execute_accounts_mixed :
    ∃ run, (mixed.execute counter none).2 = .ok run ∧
      run.outcomes.map (·.error) = [some "no state", none] ∧
      run.session.faults = [⟨"faulty", "useState", "no state"⟩] ∧
      "custom_hook_0" ∈ run.diagram.ids := by
  have hdiscreet : ∀ p ∈ [faulty, Custom.processor], p.Discreet := by
    simp only [List.forall_mem_cons]
    exact ⟨⟨fun _ _ => rfl, fun _ _ => rfl⟩,
      discreet_of_mem_builtin _ (by simp [builtinProcessors]), by simp⟩
  obtain ⟨run, hrun, houtcomes⟩ := exists_run_mixed
  obtain ⟨-, hfaults, -, -, hids⟩ :=
    execute_accounts mixed counter none ⟨[faulty, Custom.processor]⟩ rfl hdiscreet run hrun
  rw [houtcomes] at hfaults hids
  refine ⟨run, hrun, by rw [houtcomes]; rfl, hfaults, ?_⟩
  exact hids _ (List.mem_cons_of_mem _ List.mem_cons_self) _ List.mem_cons_self

end Analyzer

end ComponentFlow

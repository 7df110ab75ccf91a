import ComponentFlow.Proofs.Contributions
import ComponentFlow.Proofs.Operations

/-!
# Sessions after any history

A session changes when an id is drawn and when a contribution is committed. Contributions come from
anyone, so nothing is asked of them here, and a commit may fail, even after a part of the
contribution has been applied. What is left is consistent all the same (`consistent_history`): the
diagram is one in which nodes, edges and groups refer to what is there, and so do the resource keys.

Each operation of the diagram keeps such a diagram by itself, which settles commits that are refused
half-way. The resource keys need an argument about whole commits: they are bound last, to nodes that
the checks have seen, and so a commit that binds anything has added all of its nodes.

The ids that a history returns are distinct (`idsAlong_distinct`): commits leave the counters alone,
so the ids are those drawn between its start and its end, each of them once.
-/

namespace ComponentFlow

namespace Diagram

/-- An intact diagram in which the parent of a group is there if the group has one at all. -/
structure Consistent (d : Diagram) : Prop extends d.Intact where
  parented : ∀ g ∈ d.groups, ∀ p, g.parent = some p → p ∈ d.groupIds

lemma consistent_empty (component : String) : ({ component } : Diagram).Consistent where
  toIntact := intact_empty component
  parented := by simp

variable {d d' : Diagram}

lemma Consistent.addNode {n : Node} (h : d.Consistent) (hd' : d.addNode n = .ok d') :
    d'.Consistent := by
  have hintact := h.toIntact.addNode hd'
  obtain ⟨-, -, rfl⟩ := addNode_eq_ok_iff.mp hd'
  exact ⟨hintact, h.parented⟩

lemma Consistent.addEdge {e : Edge} (h : d.Consistent) (hd' : d.addEdge e = .ok d') :
    d'.Consistent := by
  have hintact := h.toIntact.addEdge hd'
  obtain ⟨-, -, rfl⟩ := addEdge_eq_ok_iff.mp hd'
  exact ⟨hintact, h.parented⟩

lemma Consistent.addGroup {g : Group} (h : d.Consistent) (hd' : d.addGroup g = .ok d') :
    d'.Consistent := by
  have hintact := h.toIntact.addGroup hd'
  obtain ⟨hparent, -, rfl⟩ := addGroup_eq_ok_iff.mp hd'
  refine ⟨hintact, fun g' hg' p hp => ?_⟩
  have hmem : p ∈ d.groupIds := by
    obtain hg' | hg' := List.mem_append.mp hg'
    · exact h.parented g' hg' p hp
    · rw [List.mem_singleton.mp hg'] at hp
      exact hparent p hp
  rw [groupIds, List.map_append]
  exact List.mem_append_left _ hmem

lemma Consistent.modifyNode {id : String} {f : Node → Node} (h : d.Consistent)
    (hf : ∀ n, (f n).id = n.id ∧ (f n).type = n.type) : (d.modifyNode id f).Consistent :=
  ⟨h.toIntact.modifyNode hf, h.parented⟩

end Diagram

namespace Session

/-- A session with a consistent diagram whose resource keys are bound to nodes of it. -/
structure Consistent (s : Session) : Prop extends s.diagram.Consistent where
  bound : ∀ r ∈ s.resources, r.2 ∈ s.diagram.ids

/-- What changes a session: an id is drawn, or a contribution is committed. -/
inductive Action where
  | draw (stem : String)
  | commit (c : Contribution)

/-- The session after an action, whether it succeeds or not. -/
def act (s : Session) : Action → Session
  | .draw stem => (s.nextId stem).2
  | .commit c => (s.commit c).1

variable {s : Session}

/-- A diagram stays consistent under a commit, however far the commit gets. -/
lemma consistent_diagram_commit (c : Contribution) (h : s.diagram.Consistent) :
    (s.commit c).1.diagram.Consistent :=
  commit_preserve (fun hok hd => hd.addNode hok) (fun hok hd => hd.addGroup hok)
    (fun hok hd => hd.addEdge hok) (fun hd => hd.modifyNode fun n => n.patch_id_type _) c h

/-- A contribution that passes the checks binds keys to nodes that are there once it is applied. -/
lemma bound_applied {c : Contribution} (hc : s.Checked c)
    (h : ∀ r ∈ s.resources, r.2 ∈ s.diagram.ids) :
    ∀ r ∈ (s.applied c).resources, r.2 ∈ (s.applied c).diagram.ids := by
  rw [ids_applied]
  refine List.foldlRecOn c.resources _ (motive := fun resources : List (String × String) =>
    ∀ r ∈ resources, r.2 ∈ s.diagram.ids ++ c.nodes.map (·.id) ++ c.groups.map (·.id)) ?_ ?_
  · intro r hr
    exact List.mem_append_left _ (List.mem_append_left _ (h r hr))
  · intro resources hbound binding hbinding r hr
    obtain rfl | hr := Assoc.mem_insert hr
    · exact List.mem_append_left _
        (List.mem_append.mpr (knows_iff.mp (hc.resources binding hbinding)))
    · exact hbound r hr

/-- A commit keeps a session consistent, whether it succeeds, fails the checks or is refused
half-way. -/
lemma Consistent.commit (c : Contribution) (h : s.Consistent) : (s.commit c).1.Consistent := by
  refine ⟨consistent_diagram_commit c h.toConsistent, ?_⟩
  obtain ⟨e, -, hcommit⟩ | ⟨hc, hcommit⟩ | ⟨-, nodes, groups, e, -, -, hcommit, -⟩ :=
    s.commit_cases c
  · rw [hcommit]
    exact h.bound
  · rw [hcommit]
    exact bound_applied hc h.bound
  · rw [hcommit]
    intro r hr
    rw [Diagram.ids_extend, List.append_assoc]
    exact List.mem_append_left _ (h.bound r hr)

/-- Every action keeps a session consistent. -/
lemma Consistent.act (action : Action) (h : s.Consistent) : (s.act action).Consistent := by
  cases action with
  | draw stem => exact ⟨h.toConsistent, h.bound⟩
  | commit c => exact h.commit c

/-- **Consistent sessions.** Whatever ids are drawn and whatever contributions are committed, in any
order and with any success, the session is consistent. Its resource keys are bound to nodes of the
diagram, both ends of every edge are there, ids are distinct, the types of nodes are known, every
group is also a node of the type of groups, and the parents of groups are groups that are there. -/
theorem consistent_history (component : Component) (atoms : List Atom) (history : List Action) :
    (history.foldl act (start component atoms)).Consistent :=
  List.foldlRecOn history act ⟨Diagram.consistent_empty component.name, by simp [start]⟩
    fun _ h action _ => h.act action

/-! ## The ids of a history -/

/-- The ids that an action returns. -/
def drawn (s : Session) : Action → List String
  | .draw stem => [(s.nextId stem).1]
  | .commit _ => []

/-- The ids that the actions of a history return, in order. -/
def idsAlong (s : Session) : List Action → List String
  | [] => []
  | action :: rest => s.drawn action ++ (s.act action).idsAlong rest

/-- The stem for which an action draws an id. -/
def Action.stem? : Action → Option String
  | .draw stem => some stem
  | .commit _ => none

lemma counters_commit (s : Session) (c : Contribution) :
    (s.commit c).1.counters = s.counters := by
  obtain ⟨e, -, hcommit⟩ | ⟨-, hcommit⟩ | ⟨-, nodes, groups, e, -, -, hcommit, -⟩ :=
    s.commit_cases c
  · rw [hcommit]
  · rw [hcommit, applied]
  · rw [hcommit]

lemma countsLe_act (s : Session) (action : Action) : s.CountsLe (s.act action) := by
  cases action with
  | draw stem => exact s.countsLe_nextId stem
  | commit c => exact countsLe_of_counters_eq (s.counters_commit c)

lemma countsLe_foldl_act (s : Session) (history : List Action) :
    s.CountsLe (history.foldl act s) :=
  List.foldlRecOn history act (CountsLe.refl s) fun s' h action _ =>
    h.trans (s'.countsLe_act action)

lemma drawsAll_act (s : Session) (action : Action) :
    s.DrawsAll (s.act action) (s.drawn action) := by
  cases action with
  | draw stem => exact s.drawsAll_nextId stem
  | commit c => exact drawsAll_of_counters_eq (s.counters_commit c)

/-- A history returns the ids that are drawn from its start to its end, and no others. -/
lemma drawsAll_foldl_act (s : Session) (history : List Action) :
    s.DrawsAll (history.foldl act s) (s.idsAlong history) := by
  induction history generalizing s with
  | nil => exact drawsAll_of_counters_eq rfl
  | cons action rest ih =>
    exact (s.drawsAll_act action).append (ih (s.act action)) (s.countsLe_act action)
      ((s.act action).countsLe_foldl_act rest)

lemma map_stemOf_idsAlong (s : Session) (history : List Action) :
    (s.idsAlong history).map stemOf = history.filterMap Action.stem? := by
  induction history generalizing s with
  | nil => rfl
  | cons action rest ih =>
    cases action with
    | draw stem =>
      rw [idsAlong, List.map_append, ih]
      simp [drawn, nextId, Action.stem?]
    | commit c => exact ih _

/-- **Distinct ids.** Whatever stems ids are drawn for, and whatever is committed in between, every
draw returns an id with its stem, no two of these ids are equal, and none of them was drawn
before. A stem may be anything: it may end in digits, or be another id itself. -/
theorem idsAlong_distinct (s : Session) (history : List Action) :
    (s.idsAlong history).Nodup ∧
      (s.idsAlong history).map stemOf = history.filterMap Action.stem? ∧
      ∀ id ∈ s.idsAlong history, ¬ s.Issued id := by
  have hdraws := s.drawsAll_foldl_act history
  refine ⟨hdraws.nodup, s.map_stemOf_idsAlong history, fun id hid => ?_⟩
  exact (hdraws.mem_iff.mp hid).not_issued

end Session

end ComponentFlow

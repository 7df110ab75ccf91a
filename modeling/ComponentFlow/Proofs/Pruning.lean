import ComponentFlow.Proofs.Layouts
import Mathlib.Data.List.Nodup

/-!
# Taking out empty groups

Groups are taken out from the last to the first, so a group whose members are all taken out is empty
when its turn comes. Which groups these are follows from the list of groups alone (`hollow`), and so
does what is left of the diagram (`Diagram.without`).

A group that is taken out is also taken out of the members of its parent. This is refused if it is
not among them. The groups of a layout always are; those of others need not be, so this is the
condition under which pruning goes through (`settled_ofOutput`).
-/

namespace ComponentFlow

/-! ## Hollow groups -/

/-- The ids of those of the groups that are inside another one. -/
def childrenIn (groups : List Group) (parent : String) : List String :=
  (groups.filter (·.parent == some parent)).map (·.id)

/-- A group after others are taken out. -/
def Group.trim (gone : List Group) (g : Group) : Group :=
  { g with members := g.members.diff (childrenIn gone g.id) }

/-- The groups that end up without members, apart from outermost ones, in the order in which they
are taken out. -/
def hollow : List Group → List Group
  | [] => []
  | g :: later =>
    if g.parent.isSome && (g.trim (hollow later)).members.isEmpty then hollow later ++ [g]
    else hollow later

/-- The ids of the groups that end up without members. -/
def hollowIds (groups : List Group) : List String := (hollow groups).map (·.id)

/-- Whether a group is among the members of its parent. -/
def Group.Listed (groups : List Group) (g : Group) : Prop :=
  ∀ p, g.parent = some p → ∃ q ∈ groups, q.id = p ∧ g.id ∈ q.members

lemma mem_of_mem_hollow {groups : List Group} {g : Group} (h : g ∈ hollow groups) :
    g ∈ groups := by
  induction groups with
  | nil => exact h
  | cons g' later ih =>
    rw [hollow] at h
    split at h
    · obtain h | h := List.mem_append.mp h
      · exact List.mem_cons_of_mem _ (ih h)
      · rw [List.mem_singleton.mp h]
        exact List.mem_cons_self
    · exact List.mem_cons_of_mem _ (ih h)

lemma hollowIds_subset (groups : List Group) : hollowIds groups ⊆ groups.map (·.id) := by
  intro id hid
  obtain ⟨g, hg, rfl⟩ := List.mem_map.mp hid
  exact List.mem_map_of_mem (mem_of_mem_hollow hg)

/-- Where ids tell groups apart, they also tell which groups end up without members. -/
lemma mem_hollow_of_id_mem {groups : List Group} (hnodup : (groups.map (·.id)).Nodup) {g : Group}
    (hg : g ∈ groups) (h : g.id ∈ hollowIds groups) : g ∈ hollow groups := by
  obtain ⟨g', hg', hid⟩ := List.mem_map.mp h
  rwa [← List.inj_on_of_nodup_map hnodup (mem_of_mem_hollow hg') hg hid]

lemma childrenIn_append (groups groups' : List Group) (parent : String) :
    childrenIn (groups ++ groups') parent =
      childrenIn groups parent ++ childrenIn groups' parent := by
  simp [childrenIn]

lemma mem_childrenIn {groups : List Group} {parent id : String} :
    id ∈ childrenIn groups parent ↔ ∃ g ∈ groups, g.parent = some parent ∧ g.id = id := by
  simp [childrenIn, and_assoc]

/-- The parent is the only group with its id, so a group is listed exactly if the parent lists
it. -/
lemma Group.listed_iff {groups : List Group} (hnodup : (groups.map (·.id)).Nodup) {g q : Group}
    (hq : q ∈ groups) (hparent : g.parent = some q.id) : g.Listed groups ↔ g.id ∈ q.members := by
  constructor
  · intro h
    obtain ⟨q', hq', hid, hmem⟩ := h q.id hparent
    rwa [List.inj_on_of_nodup_map hnodup hq hq' hid.symm]
  · intro hmem p hp
    exact ⟨q, hq, Option.some.inj (hparent.symm.trans hp), hmem⟩

/-- What is in a group that ends up without members does so, too. -/
lemma mem_hollowIds_of_mem_members {groups : List Group} {g : Group} (h : g ∈ hollow groups)
    {id : String} (hid : id ∈ g.members) : id ∈ hollowIds groups := by
  induction groups with
  | nil => simp [hollow] at h
  | cons g' later ih =>
    rw [hollowIds, hollow]
    rw [hollow] at h
    split at h
    · rename_i hcond
      rw [if_pos hcond, List.map_append]
      refine List.mem_append_left _ ?_
      obtain h | h := List.mem_append.mp h
      · exact ih h
      · obtain rfl := List.mem_singleton.mp h
        have hempty : (g.trim (hollow later)).members = [] :=
          List.isEmpty_iff.mp (Bool.and_eq_true_iff.mp hcond).2
        have hchild : id ∈ childrenIn (hollow later) g.id := by
          by_contra hno
          have hmem : id ∈ (g.trim (hollow later)).members := List.mem_diff_of_mem hid hno
          simp [hempty] at hmem
        obtain ⟨child, hmem, -, rfl⟩ := mem_childrenIn.mp hchild
        exact List.mem_map_of_mem hmem
    · rename_i hcond
      rw [if_neg hcond]
      exact ih h

/-- Groups that are not inside those before them can be looked at on their own. -/
lemma hollow_append {old new : List Group}
    (h : ∀ g ∈ new, ∀ p, g.parent = some p → p ∉ old.map (·.id)) :
    hollow (old ++ new) = hollow new ++ hollow old := by
  induction old with
  | nil => simp [hollow]
  | cons g rest ih =>
    have hrest := ih fun g' hg' p hp hmem => h g' hg' p hp (List.mem_cons_of_mem _ hmem)
    have hnone : childrenIn (hollow new) g.id = [] := by
      refine List.eq_nil_iff_forall_not_mem.mpr fun id hid => ?_
      obtain ⟨child, hchild, hparent, -⟩ := mem_childrenIn.mp hid
      exact h child (mem_of_mem_hollow hchild) g.id hparent (by simp)
    have htrim : g.trim (hollow new ++ hollow rest) = g.trim (hollow rest) := by
      rw [Group.trim, Group.trim, childrenIn_append, hnone, List.nil_append]
    rw [List.cons_append, hollow, hrest, htrim, hollow]
    split
    · rw [List.append_assoc]
    · rfl

lemma not_contains_concat (gone : List Group) (g : Group) (id : String) :
    (!((gone ++ [g]).map (·.id)).contains id) = (!(gone.map (·.id)).contains id && id != g.id) := by
  simp [bne, beq_eq_decide]

/-- What has an end at one of the groups goes with them, one group after the other. -/
lemma filter_ends_concat {α : Type} (source target : α → String) (gone : List Group) (g : Group)
    (xs : List α) :
    ((xs.filter fun x => !(gone.map (·.id)).contains (source x) &&
        !(gone.map (·.id)).contains (target x)).filter
          fun x => source x != g.id && target x != g.id) =
      xs.filter fun x => !((gone ++ [g]).map (·.id)).contains (source x) &&
        !((gone ++ [g]).map (·.id)).contains (target x) := by
  rw [List.filter_filter]
  refine List.filter_congr fun x _ => ?_
  rw [not_contains_concat, not_contains_concat]
  generalize (gone.map (·.id)).contains (source x) = a
  generalize (gone.map (·.id)).contains (target x) = b
  cases a <;> cases b <;> simp

/-! ## What is left -/

/-- A diagram without some of its groups. -/
def Diagram.without (d : Diagram) (gone : List Group) : Diagram :=
  { d with
    nodes := d.nodes.filter fun n => !(gone.map (·.id)).contains n.id
    edges := d.edges.filter fun e =>
      !(gone.map (·.id)).contains e.source && !(gone.map (·.id)).contains e.target
    groups := (d.groups.filter fun g => !(gone.map (·.id)).contains g.id).map (Group.trim gone) }

namespace Diagram

variable {d : Diagram} {gone : List Group}

@[simp] lemma without_nil (d : Diagram) : d.without [] = d := by
  have htrim : Group.trim [] = id := by
    funext g
    simp [Group.trim, childrenIn]
  simp [without, htrim]

lemma ids_without : (d.without gone).ids = d.ids.filter (!(gone.map (·.id)).contains ·) := by
  simp [ids, without, List.filter_map, Function.comp_def]

lemma groupIds_without :
    (d.without gone).groupIds = d.groupIds.filter (!(gone.map (·.id)).contains ·) := by
  simp [groupIds, without, List.filter_map, Function.comp_def, Group.trim]

lemma mem_ids_without {id : String} :
    id ∈ (d.without gone).ids ↔ id ∈ d.ids ∧ id ∉ gone.map (·.id) := by
  rw [ids_without, List.mem_filter]
  simp

lemma mem_groupIds_without {id : String} :
    id ∈ (d.without gone).groupIds ↔ id ∈ d.groupIds ∧ id ∉ gone.map (·.id) := by
  rw [groupIds_without, List.mem_filter]
  simp

lemma Coherent.without (h : d.Coherent) (gone : List Group) : (d.without gone).Coherent where
  ids_nodup := by
    rw [ids_without]
    exact h.ids_nodup.filter _
  ends := by
    intro e he
    obtain ⟨he, hkept⟩ := List.mem_filter.mp he
    obtain ⟨hsource, htarget⟩ := h.ends e he
    simp only [Bool.and_eq_true, Bool.not_eq_true', List.contains_eq_mem, decide_eq_false_iff_not]
      at hkept
    exact ⟨mem_ids_without.mpr ⟨hsource, hkept.1⟩, mem_ids_without.mpr ⟨htarget, hkept.2⟩⟩
  groups_sublist := by
    rw [ids_without, groupIds_without]
    exact h.groups_sublist.filter _

lemma Tidy.without (h : d.Tidy) (gone : List Group) : (d.without gone).Tidy where
  loopless := fun e he => h.loopless e (List.mem_filter.mp he).1
  grouped := by
    rw [groupIds_without, h.grouped]
    simp [Diagram.without, List.filter_map, List.filter_filter, Function.comp_def, Bool.and_comm]

lemma node?_eq_some (hnodup : d.ids.Nodup) {n : Node} (hn : n ∈ d.nodes) :
    d.node? n.id = some n := by
  cases hfound : d.node? n.id with
  | none =>
    have hnone := List.find?_eq_none.mp hfound n hn
    simp at hnone
  | some m =>
    obtain ⟨hm, hid⟩ := mem_nodes_of_node? hfound
    rw [List.inj_on_of_nodup_map hnodup hm hn hid]

lemma group?_eq_some (hnodup : d.groupIds.Nodup) {g : Group} (hg : g ∈ d.groups) :
    d.group? g.id = some g := by
  cases hfound : d.group? g.id with
  | none => simpa using List.find?_eq_none.mp hfound g hg
  | some g' =>
    have hid : g'.id = g.id := by simpa using List.find?_some hfound
    rw [List.inj_on_of_nodup_map hnodup (List.mem_of_find?_eq_some hfound) hg hid]

/-- A group that is still there. -/
lemma group?_without (hnodup : d.groupIds.Nodup) {g : Group} (hg : g ∈ d.groups)
    (hkept : g.id ∉ gone.map (·.id)) : (d.without gone).group? g.id = some (g.trim gone) := by
  have hfound : g.trim gone ∈ (d.without gone).groups := by
    refine List.mem_map_of_mem (List.mem_filter.mpr ⟨hg, ?_⟩)
    simpa using hkept
  have hnodup' : (d.without gone).groupIds.Nodup := by
    rw [groupIds_without]
    exact hnodup.filter _
  exact group?_eq_some hnodup' hfound

/-- Taking out one more group. -/
lemma removeNode_without {g : Group} {p : String} (hp : g.parent = some p) :
    ((d.without gone).modifyGroup p fun q => { q with members := q.members.erase g.id }).removeNode
      g.id = d.without (gone ++ [g]) := by
  -- a group loses the member exactly if it is the parent
  have htrim : ((fun q : Group => if q.id == p then
      { q with members := q.members.erase g.id } else q) ∘ Group.trim gone) =
      Group.trim (gone ++ [g]) := by
    funext q
    by_cases hq : q.id = p
    · simp [Group.trim, childrenIn, hp, hq, List.diff_append]
    · have hq' : ¬ p = q.id := fun h => hq h.symm
      simp [Group.trim, childrenIn, hp, hq, hq']
  have hgroups : ∀ gs : List Group, (gs.filter fun q => !((gone ++ [g]).map (·.id)).contains q.id) =
      (gs.filter fun q => !(gone.map (·.id)).contains q.id).filter (·.id != g.id) := by
    intro gs
    rw [List.filter_filter]
    exact List.filter_congr fun q _ => by rw [not_contains_concat, Bool.and_comm]
  simp only [removeNode, modifyGroup, without, Diagram.mk.injEq, true_and]
  refine ⟨?_, ?_, ?_⟩
  · rw [List.filter_filter]
    exact List.filter_congr fun n _ => by rw [not_contains_concat, Bool.and_comm]
  · exact filter_ends_concat Edge.source Edge.target gone g d.edges
  · rw [hgroups, List.map_map, htrim, List.filter_map]
    rfl

/-- Whether the parents of all groups are groups of the diagram. -/
def Parented (d : Diagram) : Prop :=
  ∀ g ∈ d.groups, ∀ p, g.parent = some p → p ∈ d.groupIds

end Diagram

/-! ## Groups of a layout among others -/

namespace Laid

variable {d : Diagram} {new : List Group}

lemma parent_apart (h : Laid d new) : ∀ g ∈ new, ∀ p, g.parent = some p → p ∉ d.ids := by
  intro g hg p hp
  obtain ⟨q, hq, rfl, -⟩ := h.listed g hg p hp
  exact h.apart q hq

lemma hollow_append (h : Laid d new) (hd : d.Coherent) :
    hollow (d.groups ++ new) = hollow new ++ hollow d.groups :=
  ComponentFlow.hollow_append fun g hg p hp hmem =>
    h.parent_apart g hg p hp (hd.groups_sublist.subset hmem)

/-- No group of the layout has an id that was taken before. -/
lemma mem_hollowIds_iff (h : Laid d new) (hd : d.Coherent) {id : String} (hid : id ∈ d.ids) :
    id ∈ hollowIds (d.groups ++ new) ↔ id ∈ hollowIds d.groups := by
  rw [hollowIds, h.hollow_append hd, List.map_append, List.mem_append]
  refine ⟨fun hmem => hmem.resolve_left fun hnew => ?_, .inr⟩
  obtain ⟨g, hg, rfl⟩ := List.mem_map.mp hnew
  exact h.apart g (mem_of_mem_hollow hg) hid

/-- Only groups that were there before can be missing among the members of their parents. -/
lemma forall_listed_iff (h : Laid d new) (hd : d.Coherent) (hnested : Diagram.Nested d.groups) :
    (∀ g ∈ hollow (d.groups ++ new), g.Listed (d.groups ++ new)) ↔
      ∀ g ∈ hollow d.groups, g.Listed d.groups := by
  rw [h.hollow_append hd, List.forall_mem_append]
  constructor
  · rintro ⟨-, hold⟩ g hg p hp
    obtain ⟨q, hq, rfl, hmem⟩ := hold g hg p hp
    obtain hq | hq := List.mem_append.mp hq
    · exact ⟨q, hq, rfl, hmem⟩
    · have hparent : q.id ∈ d.groupIds := hnested.parent_mem (mem_of_mem_hollow hg) hp
      exact absurd (hd.groups_sublist.subset hparent) (h.apart q hq)
  · intro hold
    refine ⟨fun g hg p hp => ?_, fun g hg p hp => ?_⟩
    · obtain ⟨q, hq, hqp⟩ := h.listed g (mem_of_mem_hollow hg) p hp
      exact ⟨q, List.mem_append_right _ hq, hqp⟩
    · obtain ⟨q, hq, hqp⟩ := hold g hg p hp
      exact ⟨q, List.mem_append_left _ hq, hqp⟩

/-- Only groups that were there before can lose their parents. -/
lemma parented_without_iff (h : Laid d new) (hd : d.Coherent) (hnested : Diagram.Nested d.groups)
    {d' : Diagram} (hnodup : d'.groupIds.Nodup) (hd' : d'.groups = d.groups ++ new) :
    (d'.without (hollow d'.groups)).Parented ↔ ∀ g ∈ d.groups, g.id ∉ hollowIds d.groups →
      ∀ p, g.parent = some p → p ∉ hollowIds d.groups := by
  have hparented : (d'.without (hollow d'.groups)).Parented ↔ ∀ g ∈ d'.groups,
      g.id ∉ hollowIds d'.groups → ∀ p, g.parent = some p →
        p ∈ d'.groupIds ∧ p ∉ hollowIds d'.groups := by
    constructor
    · intro hall g hg hkept p hp
      have hmem : g.trim (hollow d'.groups) ∈ (d'.without (hollow d'.groups)).groups :=
        List.mem_map_of_mem (List.mem_filter.mpr ⟨hg, by simpa [hollowIds] using hkept⟩)
      exact Diagram.mem_groupIds_without.mp (hall _ hmem p hp)
    · intro hall g' hg' p hp
      obtain ⟨g, hg, rfl⟩ := List.mem_map.mp hg'
      obtain ⟨hg, hkept⟩ := List.mem_filter.mp hg
      exact Diagram.mem_groupIds_without.mpr (hall g hg (by simpa [hollowIds] using hkept) p hp)
  have hold : ∀ g ∈ d.groups, g.id ∈ d.ids := fun g hg =>
    hd.groups_sublist.subset (List.mem_map_of_mem hg)
  have hparent : ∀ g ∈ d.groups, ∀ p, g.parent = some p → p ∈ d.groupIds := fun g hg p hp =>
    hnested.parent_mem hg hp
  rw [hparented]
  constructor
  · intro hall g hg hkept p hp
    have hkept' : g.id ∉ hollowIds d'.groups := by
      rwa [hd', h.mem_hollowIds_iff hd (hold g hg)]
    obtain ⟨-, hp'⟩ := hall g (hd' ▸ List.mem_append_left _ hg) hkept' p hp
    rwa [hd', h.mem_hollowIds_iff hd (hd.groups_sublist.subset (hparent g hg p hp))] at hp'
  · intro hall g hg hkept p hp
    obtain hg' | hg' := List.mem_append.mp (hd' ▸ hg)
    · have hpold := hd.groups_sublist.subset (hparent g hg' p hp)
      rw [hd', h.mem_hollowIds_iff hd (hold g hg')] at hkept
      refine ⟨?_, ?_⟩
      · rw [Diagram.groupIds, hd', List.map_append]
        exact List.mem_append_left _ (hparent g hg' p hp)
      · rw [hd', h.mem_hollowIds_iff hd hpold]
        exact hall g hg' hkept p hp
    · -- a group of the layout keeps its parent, which has it as a member
      obtain ⟨q, hq, rfl, hmem⟩ := h.listed g hg' p hp
      have hq' : q ∈ d'.groups := hd' ▸ List.mem_append_right _ hq
      refine ⟨List.mem_map_of_mem hq', fun hgone => hkept ?_⟩
      exact mem_hollowIds_of_mem_members (mem_hollow_of_id_mem hnodup hq' hgone) hmem

end Laid

/-! ## Pruning -/

namespace Layout

open Build

/-- A diagram from which groups are taken out is the one without them. -/
structure Pruned (b : Build) (gone : List Group) (st : Build × List String) : Prop where
  counters : st.1.session.counters = b.session.counters
  rest : st.1.session.rest = b.session.rest
  live : st.1.Live ↔ b.Live ∧ ∀ g ∈ gone, g.Listed b.diagram.groups
  diagram : st.1.Live → st.1.diagram = b.diagram.without gone
  left : st.1.Live → st.1.unlabelled = b.unlabelled.filter fun u =>
    !(gone.map (·.id)).contains u.1 && !(gone.map (·.id)).contains u.2.1
  removed : st.1.Live → st.2 = gone.map (·.id)

/-- A build that has stopped was bound to if a group that is taken out is not listed. -/
lemma Pruned.of_stopped {b : Build} {gone : List Group} {st : Build × List String}
    (hcounters : st.1.session.counters = b.session.counters)
    (hrest : st.1.session.rest = b.session.rest) (hstopped : ¬ st.1.Live)
    (hrefused : ¬ (b.Live ∧ ∀ g ∈ gone, g.Listed b.diagram.groups)) : Pruned b gone st where
  counters := hcounters
  rest := hrest
  live := iff_of_false hstopped hrefused
  diagram := fun h => absurd h hstopped
  left := fun h => absurd h hstopped
  removed := fun h => absurd h hstopped

lemma Pruned.mem_ids_iff {b : Build} {gone : List Group} {st : Build × List String}
    (h : Pruned b gone st) (hlive : st.1.Live) {id : String} :
    id ∈ st.1.diagram.ids ↔ id ∈ b.diagram.ids ∧ id ∉ gone.map (·.id) := by
  rw [h.diagram hlive, Diagram.mem_ids_without]

lemma removeMember_without {d : Diagram} {gone : List Group} (hnodup : d.groupIds.Nodup)
    {g q : Group}
    (hq : q ∈ d.groups) (hkept : q.id ∉ gone.map (·.id)) (hg : g.id ∉ gone.map (·.id))
    (hparent : g.parent = some q.id) :
    (removeMember (d.without gone) q.id g.id).map (·.removeNode g.id) =
      if g.id ∈ q.members then .ok (d.without (gone ++ [g])) else .error .notAMember := by
  have hmem : g.id ∈ (q.trim gone).members ↔ g.id ∈ q.members := by
    refine ⟨fun h => List.diff_subset _ _ h, fun h => List.mem_diff_of_mem h ?_⟩
    rw [mem_childrenIn]
    rintro ⟨g', hg', -, hid⟩
    exact hg (hid ▸ List.mem_map_of_mem hg')
  rw [removeMember, Diagram.group?_without hnodup hq hkept]
  by_cases hlisted : g.id ∈ q.members
  · simp [hmem, hlisted, Except.map, Diagram.removeNode_without hparent]
  · simp [hmem, hlisted, Except.map]

lemma pruneGroup_of_empty {st : Build × List String} {id p : String} {g : Group}
    (hfound : st.1.diagram.group? id = some g) (hparent : g.parent = some p)
    (hempty : g.members = []) :
    pruneGroup st id = (((st.1.record .debug origin
        ("Pruning empty subgraph " ++ id ++ " (" ++ g.label ++ ")")).change fun d =>
          (removeMember d p id).map (·.removeNode id)).forget id, st.2 ++ [id]) := by
  obtain ⟨_, label, parent, kind, members, metadata⟩ := g
  simp only at hparent hempty
  subst hparent hempty
  rw [pruneGroup, hfound]

lemma pruneGroup_of_kept {st : Build × List String} {id : String} {g : Group}
    (hfound : st.1.diagram.group? id = some g)
    (hkept : (g.parent.isSome && g.members.isEmpty) = false) : pruneGroup st id = st := by
  obtain ⟨_, label, parent, kind, members, metadata⟩ := g
  rw [pruneGroup, hfound]
  cases parent with
  | none => rfl
  | some p =>
    cases members with
    | nil => simp at hkept
    | cons m rest => rfl

/-- A build that has stopped stays so. -/
lemma pruneGroup_kept (st : Build × List String) (id : String) :
    (pruneGroup st id).1.session.counters = st.1.session.counters ∧
      (pruneGroup st id).1.session.rest = st.1.session.rest ∧
      ((pruneGroup st id).1.Live → st.1.Live) := by
  simp only [pruneGroup]
  split
  · rename_i label parent _ _ _
    obtain ⟨hcounters, hrest, -, -, hlive⟩ := record_kept st.1 .debug origin
      ("Pruning empty subgraph " ++ id ++ " (" ++ label ++ ")")
    generalize st.1.record .debug origin
      ("Pruning empty subgraph " ++ id ++ " (" ++ label ++ ")") = b at hcounters hrest hlive ⊢
    obtain ⟨hstopped, heq⟩ | ⟨hlive', d', -, heq⟩ | ⟨hlive', e, -, heq⟩ :=
      b.change_cases fun d => (removeMember d parent id).map (·.removeNode id)
    · rw [heq]
      exact ⟨hcounters, hrest, fun h => absurd h hstopped⟩
    · rw [heq]
      exact ⟨hcounters, hrest, fun _ => hlive.mp hlive'⟩
    · rw [heq]
      exact ⟨hcounters, hrest, fun _ => hlive.mp hlive'⟩
  · exact ⟨rfl, rfl, fun h => h⟩

/-- The turn of a group inside another one in which nothing is left. -/
lemma Pruned.take {b : Build} {gone : List Group} {st : Build × List String}
    (h : Pruned b gone st) (hlive : st.1.Live) (hnodup : b.diagram.groupIds.Nodup) {g : Group}
    (hg : g ∈ b.diagram.groups) (hkept : g.id ∉ gone.map (·.id)) {p : String}
    (hp : g.parent = some p) (hparent : p ∈ b.diagram.groupIds ∧ p ∉ gone.map (·.id))
    (hempty : (g.trim gone).members = []) : Pruned b (gone ++ [g]) (pruneGroup st g.id) := by
  obtain ⟨hcounters, hrest, -⟩ := pruneGroup_kept st g.id
  obtain ⟨⟨q, hq, hqp⟩, hpkept⟩ : (∃ q ∈ b.diagram.groups, q.id = p) ∧ p ∉ gone.map (·.id) :=
    ⟨List.mem_map.mp hparent.1, hparent.2⟩
  subst hqp
  have hfound : st.1.diagram.group? g.id = some (g.trim gone) := by
    rw [h.diagram hlive]
    exact Diagram.group?_without hnodup hg hkept
  have heq := pruneGroup_of_empty hfound hp hempty
  have hlisted : g.Listed b.diagram.groups ↔ g.id ∈ q.members := Group.listed_iff hnodup hq hp
  have hremove := removeMember_without hnodup hq hpkept hkept hp
  obtain ⟨-, -, hdiagram, hleft, hlive'⟩ := record_kept st.1 .debug origin
    ("Pruning empty subgraph " ++ g.id ++ " (" ++ (g.trim gone).label ++ ")")
  rw [heq] at hcounters hrest ⊢
  generalize st.1.record .debug origin
    ("Pruning empty subgraph " ++ g.id ++ " (" ++ (g.trim gone).label ++ ")") = b₁
    at hcounters hrest hdiagram hleft hlive' ⊢
  rw [h.diagram hlive] at hdiagram
  rw [h.left hlive] at hleft
  obtain ⟨hstopped, -⟩ | ⟨-, d', hok, hchange⟩ | ⟨-, e, herror, hchange⟩ :=
    b₁.change_cases fun d => (removeMember d q.id g.id).map (·.removeNode g.id)
  · exact absurd (hlive'.mpr hlive) hstopped
  · rw [hdiagram, hremove] at hok
    have hmem : g.id ∈ q.members := by
      by_contra hno
      simp [hno] at hok
    obtain rfl : b.diagram.without (gone ++ [g]) = d' := by simpa [hmem] using hok
    rw [hchange] at hcounters hrest ⊢
    refine ⟨hcounters.trans h.counters, hrest.trans h.rest, ?_, fun _ => rfl, fun _ => ?_,
      fun _ => by simp [h.removed hlive]⟩
    · have hall : (∀ g' ∈ gone ++ [g], g'.Listed b.diagram.groups) ↔
          ∀ g' ∈ gone, g'.Listed b.diagram.groups := by
        simp [or_imp, forall_and, hlisted, hmem]
      rw [hall, ← h.live]
      exact hlive'
    · show List.filter _ b₁.unlabelled = _
      rw [hleft]
      exact filter_ends_concat (fun u => u.1) (fun u => u.2.1) gone g b.unlabelled
  · rw [hdiagram, hremove] at herror
    have hno : g.id ∉ q.members := by
      intro hmem
      simp [hmem] at herror
    rw [hchange] at hcounters hrest ⊢
    have hstopped : ¬ Live (Build.forget { b₁ with refusal := some e } g.id) := by
      simp [Live, Build.forget]
    refine .of_stopped (hcounters.trans h.counters) (hrest.trans h.rest) hstopped fun h' => hno ?_
    exact hlisted.mp (h'.2 g (List.mem_append_right _ (List.mem_singleton_self g)))

/-- The turn of one group: it is taken out if it is inside another one and nothing is left in it. -/
lemma Pruned.step {b : Build} {gone : List Group} {st : Build × List String}
    (h : Pruned b gone st) (hnodup : b.diagram.groupIds.Nodup) {g : Group}
    (hg : g ∈ b.diagram.groups) (hkept : g.id ∉ gone.map (·.id))
    (hparent : ∀ p, g.parent = some p → p ∈ b.diagram.groupIds ∧ p ∉ gone.map (·.id)) :
    Pruned b (if g.parent.isSome && (g.trim gone).members.isEmpty then gone ++ [g] else gone)
      (pruneGroup st g.id) := by
  obtain ⟨hcounters, hrest, hmono⟩ := pruneGroup_kept st g.id
  by_cases hlive : st.1.Live
  · have hfound : st.1.diagram.group? g.id = some (g.trim gone) := by
      rw [h.diagram hlive]
      exact Diagram.group?_without hnodup hg hkept
    cases hcond : (g.parent.isSome && (g.trim gone).members.isEmpty) with
    | false =>
      have hsame : pruneGroup st g.id = st := pruneGroup_of_kept hfound hcond
      simpa [hsame] using h
    | true =>
      obtain ⟨hsome, hempty⟩ := Bool.and_eq_true_iff.mp hcond
      obtain ⟨p, hp⟩ := Option.isSome_iff_exists.mp hsome
      simpa using h.take hlive hnodup hg hkept hp (hparent p hp) (List.isEmpty_iff.mp hempty)
  · -- nothing happens any more
    have hstopped : ¬ (pruneGroup st g.id).1.Live := fun h' => hlive (hmono h')
    refine .of_stopped (hcounters.trans h.counters) (hrest.trans h.rest) hstopped fun h' => ?_
    refine hlive (h.live.mpr ⟨h'.1, fun g' hg' => h'.2 g' ?_⟩)
    split
    · exact List.mem_append_left _ hg'
    · exact hg'

/-- From the last group to the first, each has its turn after those inside it. -/
lemma pruned_foldl {b : Build} (hnodup : b.diagram.groupIds.Nodup)
    (hnested : Diagram.Nested b.diagram.groups) (earlier later : List Group)
    (hgroups : b.diagram.groups = earlier ++ later) :
    Pruned b (hollow later) ((later.map (·.id)).reverse.foldl pruneGroup (b, [])) := by
  induction later generalizing earlier with
  | nil => exact ⟨rfl, rfl, by simp [hollow], by simp [hollow], by simp [hollow], by simp [hollow]⟩
  | cons g rest ih =>
    have hinner := ih (earlier ++ [g]) (by simp [hgroups])
    -- the groups taken out so far come after this one, so neither it nor its parent is among them
    have hsplit : ((earlier ++ [g]).map (·.id) ++ rest.map (·.id)).Nodup := by
      rw [Diagram.groupIds, hgroups] at hnodup
      simpa using hnodup
    have hapart : ∀ id ∈ (earlier ++ [g]).map (·.id), id ∉ (hollow rest).map (·.id) := by
      intro id hid hgone
      exact (List.nodup_append.mp hsplit).2.2 _ hid _ (hollowIds_subset rest hgone) rfl
    have hg : g ∈ b.diagram.groups := by simp [hgroups]
    have hstep := hinner.step hnodup hg (hapart g.id (by simp)) fun p hp => by
      have hp' := hnested earlier g rest hgroups p hp
      refine ⟨?_, hapart p ?_⟩
      · rw [Diagram.groupIds, hgroups, List.map_append]
        exact List.mem_append_left _ hp'
      · rw [List.map_append]
        exact List.mem_append_left _ hp'
    simpa [hollow] using hstep

/-! ## A layout without its empty groups -/

/-- What the layout of markup over a build comes to. Pruning does not tell the groups of the layout
from those that were there before, so some of the latter may be missing. -/
structure Settled (b : Build) (l : Layout) : Prop where
  counts : b.session.CountsLe l.build.session
  rest : l.build.session.rest = b.session.rest
  live : l.build.Live ↔
    b.Live ∧ b.Free l.build ∧ ∀ g ∈ hollow b.diagram.groups, g.Listed b.diagram.groups
  coherent : l.build.Live → l.build.diagram.Coherent
  tidy : l.build.Live → b.diagram.Tidy → l.build.diagram.Tidy
  ids : l.build.Live → ∀ id ∈ l.build.diagram.ids,
    id ∈ b.diagram.ids ∨ b.session.Draws l.build.session id
  kept : l.build.Live → ∀ id ∈ b.diagram.ids,
    (id ∈ l.build.diagram.ids ↔ id ∉ hollowIds b.diagram.groups)
  elements : l.build.Live → ∀ p ∈ l.elements,
    p.id ∈ l.build.diagram.ids ∧ p.id ∉ hollowIds b.diagram.groups
  controls : l.build.Live → ∀ c ∈ l.controls,
    c.group ∈ l.build.diagram.ids ∧ c.group ∉ b.diagram.ids
  left : l.build.Live → (∀ u ∈ b.unlabelled, u.1 ∈ b.diagram.ids ∧ u.2.1 ∈ b.diagram.ids) →
    (l.build.unlabelled = [] ↔ ∀ u ∈ b.unlabelled,
      u.1 ∈ hollowIds b.diagram.groups ∨ u.2.1 ∈ hollowIds b.diagram.groups)
  parented : l.build.Live → (l.build.diagram.Parented ↔ ∀ g ∈ b.diagram.groups,
    g.id ∉ hollowIds b.diagram.groups → ∀ p, g.parent = some p → p ∉ hollowIds b.diagram.groups)

/-- An element of a layout is not a group: their ids have different stems. -/
lemma Inv.element_not_mem_groupIds {b : Build} {l : Layout} {groups : List String}
    (h : Inv b l groups) (hlive : l.build.Live) {p : PlacedElement} (hp : p ∈ l.elements) :
    p.id ∉ l.build.diagram.groupIds := by
  obtain ⟨new, hgroups, hlaid⟩ := h.laying.laid
  obtain ⟨⟨k, hk⟩, hdrawn⟩ := h.elements p hp
  intro hmem
  obtain ⟨g, hg, hid⟩ := List.mem_map.mp hmem
  obtain hg | hg := List.mem_append.mp (hgroups ▸ hg)
  · have hold : p.id ∈ b.diagram.ids :=
      h.laying.coherent.groups_sublist.subset (hid ▸ List.mem_map_of_mem hg)
    exact (h.laying.grows.live.mp hlive).2.1 p.id hdrawn hold
  · obtain ⟨k', hk'⟩ := hlaid.stem g hg
    obtain ⟨hstem, -⟩ := Session.idOf_inj.mp (hk'.symm.trans (hid.trans hk))
    exact absurd hstem (by decide)

/-- A layout settles once its empty groups are taken out. -/
lemma Pruned.settled {b : Build} {l : Layout} {st : Build × List String} (hinv : Inv b l [])
    (hnested : Diagram.Nested b.diagram.groups)
    (h : Pruned l.build (hollow l.build.diagram.groups) st) :
    Settled b { l with
      build := st.1
      controls := l.controls.filter fun c => !st.2.contains c.group } := by
  have hb := hinv.laying.coherent
  have hgrows := hinv.laying.grows
  obtain ⟨new, hgroups, hlaid⟩ := hinv.laying.laid
  have hcoherent := hgrows.edits.coherent hb
  have hdraws : ∀ id, b.session.Draws st.1.session id ↔ b.session.Draws l.build.session id := by
    intro id
    simp only [Session.Draws, Session.count, h.counters]
  have hfree : b.Free st.1 ↔ b.Free l.build := by simp only [Free, hdraws]
  have hlive : st.1.Live → l.build.Live := fun hst => (h.live.mp hst).1
  have hhollow : ∀ id ∈ b.diagram.ids,
      (id ∈ hollowIds l.build.diagram.groups ↔ id ∈ hollowIds b.diagram.groups) := by
    intro id hid
    rw [hgroups, hlaid.mem_hollowIds_iff hb hid]
  refine ⟨?counts, ?rest, ?live, ?coherent, ?tidy, ?ids, ?kept, ?elements, ?controls, ?left,
    ?parented⟩
  case counts => exact hgrows.counts.trans (Session.countsLe_of_counters_eq h.counters)
  case rest => exact h.rest.trans hgrows.rest
  case live =>
    rw [h.live, hgrows.live, hfree, hgroups, hlaid.forall_listed_iff hb hnested]
    simp [and_assoc]
  case coherent =>
    intro hst
    show st.1.diagram.Coherent
    rw [h.diagram hst]
    exact hcoherent.without _
  case tidy =>
    intro hst htidy
    show st.1.diagram.Tidy
    rw [h.diagram hst]
    exact (hgrows.edits.tidy htidy).without _
  case ids =>
    intro hst id hid
    have hmem := ((h.mem_ids_iff hst).mp hid).1
    exact ((hgrows.ids (hlive hst) id).mp hmem).imp_right (hdraws id).mpr
  case kept =>
    intro hst id hid
    rw [← hhollow id hid]
    refine (h.mem_ids_iff hst).trans ⟨fun hmem => hmem.2, fun hmem => ⟨?_, hmem⟩⟩
    exact hgrows.mem_ids (hlive hst) hid
  case elements =>
    intro hst p hp
    have hdrawn := (hinv.elements p hp).2
    have hgroup := hinv.element_not_mem_groupIds (hlive hst) hp
    refine ⟨(h.mem_ids_iff hst).mpr ⟨(hgrows.ids (hlive hst) p.id).mpr (.inr hdrawn), ?_⟩, ?_⟩
    · exact fun hgone => hgroup (hollowIds_subset _ hgone)
    · exact fun hgone => hgroup (hgrows.edits.mem_groupIds (hollowIds_subset _ hgone))
  case controls =>
    intro hst c hc
    obtain ⟨hc, hkept⟩ := List.mem_filter.mp hc
    have hinside : Inside b l.build c.group := hinv.controls c hc
    rw [h.removed hst] at hkept
    refine ⟨(h.mem_ids_iff hst).mpr ⟨?_, by simpa using hkept⟩,
      hinside.not_mem_ids hinv.laying (hlive hst)⟩
    exact hcoherent.groups_sublist.subset (hinside (hlive hst)).1
  case left =>
    intro hst hends
    show st.1.unlabelled = [] ↔ _
    rw [h.left hst, hgrows.left, List.append_nil, List.filter_eq_nil_iff]
    refine forall₂_congr fun u hu => ?_
    rw [← hhollow u.1 (hends u hu).1, ← hhollow u.2.1 (hends u hu).2, hollowIds]
    simp only [List.contains_eq_mem, Bool.and_eq_true, Bool.not_eq_true', decide_eq_false_iff_not]
    exact ⟨fun hno => by_contra fun hor => hno (not_or.mp hor), fun hor hand =>
      hor.elim hand.1 hand.2⟩
  case parented =>
    intro hst
    show st.1.diagram.Parented ↔ _
    rw [h.diagram hst]
    exact hlaid.parented_without_iff hb hnested hcoherent.groupIds_nodup hgroups

lemma pruned_lay {b : Build} (hb : b.diagram.Coherent) (hnested : Diagram.Nested b.diagram.groups)
    (output : List RenderNode) (exported : List String) :
    let l := lay b output exported
    Pruned l.build (hollow l.build.diagram.groups)
      ((l.build.diagram.groups.map (·.id)).reverse.foldl pruneGroup (l.build, [])) := by
  have hedits := (inv_lay hb output exported).laying.grows.edits
  exact pruned_foldl (hedits.coherent hb).groupIds_nodup (hedits.nested hnested) [] _ rfl

/-- **Pruning.** The layout of markup goes through if the ids that it needs are free and if each
group that was there before and ends up empty is among the members of its parent. -/
lemma settled_ofOutput {b : Build} (hb : b.diagram.Coherent)
    (hnested : Diagram.Nested b.diagram.groups) (output : List RenderNode)
    (exported : List String) :
    Settled b (Layout.ofOutput b output exported) :=
  (pruned_lay hb hnested output exported).settled (inv_lay hb output exported) hnested

/-- The layout of markup draws no id for taking out groups, and they are what its diagram is
without. -/
lemma diagram_ofOutput {b : Build} (hb : b.diagram.Coherent)
    (hnested : Diagram.Nested b.diagram.groups) (output : List RenderNode) (exported : List String)
    (hlive : (ofOutput b output exported).build.Live) :
    (lay b output exported).build.Live ∧
      (ofOutput b output exported).build.session.counters =
        (lay b output exported).build.session.counters ∧
      (ofOutput b output exported).build.diagram =
        (lay b output exported).build.diagram.without
          (hollow (lay b output exported).build.diagram.groups) := by
  have hpruned := pruned_lay hb hnested output exported
  exact ⟨(hpruned.live.mp hlive).1, hpruned.counters, hpruned.diagram hlive⟩

end Layout

end ComponentFlow

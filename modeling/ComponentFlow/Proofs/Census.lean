import ComponentFlow.Proofs.Pruning
import Mathlib.Tactic.Tauto

/-!
# Members of groups

A layout notes the place of everything it lays out twice: as a member of a group, and as the parent
of a group or in a record of any other node. `Census` is what keeps the two in step. It lists which
group each thing was put into, in order, and says that the members of a group are exactly those that
were put into it.

Putting something into a group makes the census one entry longer. Taking out groups takes out their
entries, and a group that is kept has a member that is kept. So what is left is a tree
(`arranged_without`).
-/

namespace ComponentFlow

namespace Diagram

/-! ## The census of a diagram -/

/-- Puts something into a group. -/
def enroll (d : Diagram) (group id : String) : Diagram :=
  d.modifyGroup group fun g => { g with members := g.members ++ [id] }

/-- Whether a group is recorded as the place of something: as the parent of a group, or by the note
that any other node has. -/
def Records (d : Diagram) (id home : String) : Prop :=
  (∃ g ∈ d.groups, g.id = id ∧ g.parent = some home) ∨
    id ∉ d.groupIds ∧ ∃ n ∈ d.nodes, n.id = id ∧ n.metadata.get "subgraph" = .str home

/-- The groups that things were put into, in order. -/
structure Census (d : Diagram) (homes : List (String × String)) : Prop where
  once : (homes.map Prod.fst).Nodup
  known : ∀ e ∈ homes, e.1 ∈ d.ids ∧ e.2 ∈ d.groupIds
  members : ∀ g ∈ d.groups, g.members = (homes.filter (·.2 == g.id)).map Prod.fst
  recorded : ∀ e ∈ homes, d.Records e.1 e.2

variable {d : Diagram} {homes : List (String × String)}

lemma ids_enroll (group id : String) : (d.enroll group id).ids = d.ids := rfl

lemma groupIds_enroll (group id : String) : (d.enroll group id).groupIds = d.groupIds :=
  groupIds_modifyGroup fun _ => rfl

/-- A change of groups that keeps their ids and parents keeps what is recorded. -/
lemma Records.modifyGroup {id home group : String} {f : Group → Group} (h : d.Records id home)
    (hf : ∀ g, (f g).id = g.id ∧ (f g).parent = g.parent) :
    (d.modifyGroup group f).Records id home := by
  have hkept : ∀ g : Group, (if g.id == group then f g else g).id = g.id ∧
      (if g.id == group then f g else g).parent = g.parent := by
    intro g
    split
    · exact hf g
    · exact ⟨rfl, rfl⟩
  obtain ⟨g, hg, hid, hparent⟩ | ⟨hid, hnode⟩ := h
  · exact .inl ⟨_, List.mem_map_of_mem hg, (hkept g).1.trans hid, (hkept g).2.trans hparent⟩
  · refine .inr ⟨?_, hnode⟩
    rwa [groupIds_modifyGroup fun g => (hf g).1]

lemma Records.addNode {id home : String} (h : d.Records id home) (n : Node) :
    ({ d with nodes := d.nodes ++ [n] } : Diagram).Records id home := by
  obtain hgroup | ⟨hid, n', hn', hrecord⟩ := h
  · exact .inl hgroup
  · exact .inr ⟨hid, n', List.mem_append_left _ hn', hrecord⟩

lemma Records.addGroup {id home : String} (h : d.Records id home) {g : Group} (hid : id ≠ g.id) :
    ({ d with nodes := d.nodes ++ [groupNode g], groups := d.groups ++ [g] } : Diagram).Records
      id home := by
  obtain ⟨g', hg', hrecord⟩ | ⟨hid', n', hn', hrecord⟩ := h
  · exact .inl ⟨g', List.mem_append_left _ hg', hrecord⟩
  · refine .inr ⟨?_, n', List.mem_append_left _ hn', hrecord⟩
    simpa [groupIds, hid] using hid'

/-- A note about another node changes nothing. -/
lemma Records.modifyNode {id home other : String} {f : Node → Node} (h : d.Records id home)
    (hid : id ≠ other) : (d.modifyNode other f).Records id home := by
  obtain hgroup | ⟨hid', n, hn, rfl, hrecord⟩ := h
  · exact .inl hgroup
  · refine .inr ⟨hid', n, List.mem_map.mpr ⟨n, hn, ?_⟩, rfl, hrecord⟩
    simp [hid]

lemma Census.addNode (h : d.Census homes) (n : Node) :
    ({ d with nodes := d.nodes ++ [n] } : Diagram).Census homes where
  once := h.once
  known := by
    intro e he
    obtain ⟨hid, hgroup⟩ := h.known e he
    exact ⟨by simpa [ids] using .inl (List.mem_map.mp hid), hgroup⟩
  members := h.members
  recorded := fun e he => (h.recorded e he).addNode n

/-- A new group has no members, and nothing was put into it. -/
lemma Census.addGroup (h : d.Census homes) (hgroups : d.groupIds ⊆ d.ids) {g : Group}
    (hid : g.id ∉ d.ids) (hempty : g.members = []) :
    ({ d with nodes := d.nodes ++ [groupNode g], groups := d.groups ++ [g] } : Diagram).Census
      homes where
  once := h.once
  known := by
    intro e he
    obtain ⟨hmem, hgroup⟩ := h.known e he
    exact ⟨by simpa [ids] using .inl (List.mem_map.mp hmem),
      by simpa [groupIds] using .inl (List.mem_map.mp hgroup)⟩
  members := by
    refine List.forall_mem_append.mpr ⟨h.members, List.forall_mem_singleton.mpr ?_⟩
    have hnone : homes.filter (·.2 == g.id) = [] := by
      refine List.filter_eq_nil_iff.mpr fun e he heq => hid ?_
      rw [← beq_iff_eq.mp heq]
      exact hgroups (h.known e he).2
    rw [hempty, hnone, List.map_nil]
  recorded := by
    intro e he
    refine (h.recorded e he).addGroup fun heq => hid ?_
    rw [← heq]
    exact (h.known e he).1

/-- A change of a group that keeps its place and its members. -/
lemma Census.modifyGroup {group : String} {f : Group → Group} (h : d.Census homes)
    (hf : ∀ g, (f g).id = g.id ∧ (f g).parent = g.parent)
    (hmembers : ∀ g, (f g).members = g.members) : (d.modifyGroup group f).Census homes where
  once := h.once
  known := by
    intro e he
    rw [groupIds_modifyGroup fun g => (hf g).1]
    exact h.known e he
  members := by
    intro g' hg'
    obtain ⟨g, hg, rfl⟩ := List.mem_map.mp hg'
    split
    · rw [hmembers, (hf g).1]
      exact h.members g hg
    · exact h.members g hg
  recorded := fun e he => (h.recorded e he).modifyGroup hf

/-- A note about something that was put nowhere yet. -/
lemma Census.modifyNode {id : String} {f : Node → Node} (h : d.Census homes)
    (hf : ∀ n, (f n).id = n.id) (hid : id ∉ homes.map Prod.fst) :
    (d.modifyNode id f).Census homes where
  once := h.once
  known := by
    intro e he
    rw [ids_modifyNode hf]
    exact h.known e he
  members := h.members
  recorded := fun e he =>
    (h.recorded e he).modifyNode fun heq => hid (heq ▸ List.mem_map_of_mem he)

/-- Something is put into a group of which it is recorded already. -/
lemma Census.enroll {group id : String} (h : d.Census homes) (hnew : id ∉ homes.map Prod.fst)
    (hid : id ∈ d.ids) (hgroup : group ∈ d.groupIds) (hrecord : d.Records id group) :
    (d.enroll group id).Census (homes ++ [(id, group)]) where
  once := by
    rw [List.map_append, List.nodup_append]
    refine ⟨h.once, by simp, fun a ha b hb heq => hnew ?_⟩
    obtain rfl : b = id := by simpa using hb
    exact heq ▸ ha
  known := by
    rw [groupIds_enroll, ids_enroll]
    exact List.forall_mem_append.mpr ⟨h.known, List.forall_mem_singleton.mpr ⟨hid, hgroup⟩⟩
  members := by
    intro g' hg'
    obtain ⟨g, hg, rfl⟩ := List.mem_map.mp hg'
    by_cases heq : g.id = group
    · subst heq
      simp [h.members g hg]
    · have hne : ¬ group = g.id := fun h => heq h.symm
      simp [heq, hne, h.members g hg]
  recorded := by
    refine List.forall_mem_append.mpr ⟨fun e he => ?_, List.forall_mem_singleton.mpr ?_⟩
    · exact (h.recorded e he).modifyGroup fun _ => ⟨rfl, rfl⟩
    · exact hrecord.modifyGroup fun _ => ⟨rfl, rfl⟩

lemma Census.not_mem_of_fresh (h : d.Census homes) {id : String} (hid : id ∉ d.ids) :
    id ∉ homes.map Prod.fst := by
  intro hmem
  obtain ⟨e, he, heq⟩ := List.mem_map.mp hmem
  exact hid (heq ▸ (h.known e he).1)

/-- What is recorded of a group is its parent. -/
lemma Census.parent_of_mem (h : d.Census homes) (hnodup : d.groupIds.Nodup) {g : Group}
    (hg : g ∈ d.groups) {home : String} (he : (g.id, home) ∈ homes) : g.parent = some home := by
  obtain ⟨g', hg', hid, hparent⟩ | ⟨hno, -⟩ := h.recorded _ he
  · rw [← List.inj_on_of_nodup_map hnodup hg' hg hid]
    exact hparent
  · exact absurd (List.mem_map_of_mem hg) hno

lemma Census.mem_members_iff (h : d.Census homes) {g : Group} (hg : g ∈ d.groups) {id : String} :
    id ∈ g.members ↔ (id, g.id) ∈ homes := by
  rw [h.members g hg]
  constructor
  · intro hid
    obtain ⟨⟨id', home⟩, he, rfl⟩ := List.mem_map.mp hid
    obtain ⟨he, hhome⟩ := List.mem_filter.mp he
    rw [← beq_iff_eq.mp hhome]
    exact he
  · intro he
    exact List.mem_map.mpr ⟨_, List.mem_filter.mpr ⟨he, by simp⟩, rfl⟩

lemma Census.members_nodup (h : d.Census homes) {g : Group} (hg : g ∈ d.groups) :
    g.members.Nodup := by
  rw [h.members g hg]
  exact (List.filter_sublist.map Prod.fst).nodup h.once

/-- Whether something is a member of this group and of no other one, and there once. -/
def SoleMember (d : Diagram) (id home : String) : Prop :=
  ∃ g ∈ d.groups, g.id = home ∧ g.members.count id = 1 ∧
    ∀ g' ∈ d.groups, id ∈ g'.members → g' = g

lemma Census.soleMember (h : d.Census homes) (hnodup : d.groupIds.Nodup) {id home : String}
    (he : (id, home) ∈ homes) : d.SoleMember id home := by
  obtain ⟨g, hg, rfl⟩ := List.mem_map.mp (h.known _ he).2
  have hmem : id ∈ g.members := (h.mem_members_iff hg).mpr he
  refine ⟨g, hg, rfl, List.count_eq_one_of_mem (h.members_nodup hg) hmem, fun g' hg' hid => ?_⟩
  have he' : (id, g'.id) ∈ homes := (h.mem_members_iff hg').mp hid
  have hsame : (id, g'.id) = (id, g.id) := List.inj_on_of_nodup_map h.once he' he rfl
  exact List.inj_on_of_nodup_map hnodup hg' hg (Prod.mk.inj hsame).2

end Diagram

/-! ## The census without empty groups -/

/-- Groups before others are taken out after them. -/
lemma exists_hollow_append (earlier later : List Group) :
    ∃ more, hollow (earlier ++ later) = hollow later ++ more ∧ ∀ g ∈ more, g ∈ earlier := by
  induction earlier with
  | nil => exact ⟨[], by simp, by simp⟩
  | cons g rest ih =>
    obtain ⟨more, heq, hmore⟩ := ih
    rw [List.cons_append, hollow, heq]
    split
    · refine ⟨more ++ [g], by simp, List.forall_mem_append.mpr ⟨fun q hq => ?_, by simp⟩⟩
      exact List.mem_cons_of_mem _ (hmore q hq)
    · exact ⟨more, rfl, fun q hq => List.mem_cons_of_mem _ (hmore q hq)⟩

/-- A group inside another one that is kept has a member that is kept. -/
lemma trim_members_ne_nil {groups : List Group} (hnodup : (groups.map (·.id)).Nodup)
    (hnested : Diagram.Nested groups) {g : Group} (hg : g ∈ groups) (hparent : g.parent ≠ none)
    (hkept : g.id ∉ hollowIds groups) : (g.trim (hollow groups)).members ≠ [] := by
  obtain ⟨earlier, later, rfl⟩ := List.append_of_mem hg
  obtain ⟨more, heq, hmore⟩ := exists_hollow_append earlier (g :: later)
  -- at its turn the group was not empty
  have hturn : ¬ (g.parent.isSome && (g.trim (hollow later)).members.isEmpty) = true := by
    intro hcond
    refine hkept ?_
    rw [hollowIds, heq, hollow, if_pos hcond]
    simp
  rw [hollow, if_neg hturn] at heq
  -- and what was taken out later was not in it, for it comes earlier
  have hnone : childrenIn more g.id = [] := by
    refine List.eq_nil_iff_forall_not_mem.mpr fun id hid => ?_
    obtain ⟨q, hq, hqparent, -⟩ := mem_childrenIn.mp hid
    obtain ⟨before, after, rfl⟩ := List.append_of_mem (hmore q hq)
    have hbefore : g.id ∈ before.map (·.id) :=
      hnested before q (after ++ g :: later) (by simp) g.id hqparent
    rw [List.map_append] at hnodup
    exact (List.nodup_append.mp hnodup).2.2 g.id (by simp [List.mem_map.mp hbefore]) g.id
      (by simp) rfl
  have htrim : g.trim (hollow (earlier ++ g :: later)) = g.trim (hollow later) := by
    rw [heq, Group.trim, Group.trim, childrenIn_append, hnone, List.append_nil]
  rw [htrim]
  intro hempty
  exact hturn (by simp [Option.isSome_iff_ne_none.mpr hparent, hempty])

namespace Diagram

variable {d : Diagram} {homes : List (String × String)}

lemma Census.home_kept (h : d.Census homes) {e : String × String} (he : e ∈ homes)
    (hkept : e.1 ∉ hollowIds d.groups) : e.2 ∉ hollowIds d.groups := by
  intro hgone
  obtain ⟨q, hq, hid⟩ := List.mem_map.mp hgone
  refine hkept (mem_hollowIds_of_mem_members hq ?_)
  rw [h.mem_members_iff (mem_of_mem_hollow hq), hid]
  exact he

/-- The census goes on without what is taken out. -/
lemma Census.without (h : d.Census homes) (hd : d.Coherent) :
    (d.without (hollow d.groups)).Census
      (homes.filter fun e => !(hollowIds d.groups).contains e.1) where
  once := (List.filter_sublist.map Prod.fst).nodup h.once
  known := by
    intro e he
    obtain ⟨he, hkept⟩ := List.mem_filter.mp he
    have hkept : e.1 ∉ hollowIds d.groups := by simpa using hkept
    obtain ⟨hid, hgroup⟩ := h.known e he
    exact ⟨mem_ids_without.mpr ⟨hid, hkept⟩,
      mem_groupIds_without.mpr ⟨hgroup, h.home_kept he hkept⟩⟩
  members := by
    intro g' hg'
    obtain ⟨g, hg, rfl⟩ := List.mem_map.mp hg'
    have hg := (List.mem_filter.mp hg).1
    -- of the things put into the group, those taken out are the groups inside it
    have hchild : ∀ e ∈ homes, e.2 = g.id →
        (e.1 ∈ childrenIn (hollow d.groups) g.id ↔ e.1 ∈ hollowIds d.groups) := by
      intro e he hhome
      constructor
      · intro hmem
        obtain ⟨q, hq, -, hid⟩ := mem_childrenIn.mp hmem
        exact hid ▸ List.mem_map_of_mem hq
      · intro hmem
        obtain ⟨q, hq, hid⟩ := List.mem_map.mp hmem
        have he' : (q.id, g.id) ∈ homes := by
          rw [hid, ← hhome]
          exact he
        exact mem_childrenIn.mpr
          ⟨q, hq, h.parent_of_mem hd.groupIds_nodup (mem_of_mem_hollow hq) he', hid⟩
    show g.members.diff (childrenIn (hollow d.groups) g.id) = _
    rw [(h.members_nodup hg).sdiff_eq_filter, h.members g hg, List.filter_map, List.filter_filter,
      List.filter_filter]
    refine congrArg (List.map Prod.fst) (List.filter_congr fun e he => ?_)
    by_cases hhome : e.2 = g.id
    · simp [Group.trim, hhome, hchild e he hhome]
    · have hother : (e.2 == g.id) = false := by simpa using hhome
      simp [Group.trim, hother]
  recorded := by
    intro e he
    obtain ⟨he, hkept⟩ := List.mem_filter.mp he
    have hkept : e.1 ∉ hollowIds d.groups := by simpa using hkept
    obtain ⟨g, hg, hid, hparent⟩ | ⟨hno, n, hn, hid, hrecord⟩ := h.recorded e he
    · refine .inl ⟨g.trim (hollow d.groups), List.mem_map_of_mem (List.mem_filter.mpr ⟨hg, ?_⟩),
        hid, hparent⟩
      simpa [hid, hollowIds] using hkept
    · refine .inr ⟨fun hmem => hno (mem_groupIds_without.mp hmem).1, n,
        List.mem_filter.mpr ⟨hn, ?_⟩, hid, hrecord⟩
      simpa [hid, hollowIds] using hkept

end Diagram

/-! ## The outline of a layout -/

namespace Diagram

/-- The groups with their parents and kinds, whatever their members are. -/
def outline (d : Diagram) : List (String × Option String × String) :=
  d.groups.map fun g => (g.id, g.parent, g.kind)

variable {d : Diagram}

lemma groupIds_eq_outline : d.groupIds = d.outline.map Prod.fst := by
  rw [groupIds, outline, List.map_map]
  rfl

/-- Whether there is a group of this kind. -/
def HasGroup (d : Diagram) (id kind : String) : Prop :=
  ∃ parent, (id, parent, kind) ∈ d.outline

lemma HasGroup.mem_groupIds {id kind : String} (h : d.HasGroup id kind) : id ∈ d.groupIds := by
  obtain ⟨parent, h⟩ := h
  rw [groupIds_eq_outline]
  exact List.mem_map.mpr ⟨_, h, rfl⟩

/-- Where the outline has one outermost group, the first one, so have the groups. -/
lemma exists_root_of_outline {root kind : String} {rest : List (String × Option String × String)}
    (h : d.outline = (root, none, kind) :: rest) (hrest : ∀ e ∈ rest, e.2.1 ≠ none) :
    ∃ g gs, d.groups = g :: gs ∧ g.parent = none ∧ g.kind = kind ∧ ∀ g' ∈ gs, g'.parent ≠ none := by
  obtain ⟨g, gs, hgroups, hg, rfl⟩ := List.map_eq_cons_iff.mp h
  obtain ⟨hparent, hkind⟩ := Prod.mk.inj (Prod.mk.inj hg).2
  exact ⟨g, gs, hgroups, hparent, hkind, fun g' hg' => hrest _ (List.mem_map_of_mem hg')⟩

lemma outline_modifyGroup {group : String} {f : Group → Group}
    (hf : ∀ g, (f g).id = g.id ∧ (f g).parent = g.parent ∧ (f g).kind = g.kind) :
    (d.modifyGroup group f).outline = d.outline := by
  rw [outline, modifyGroup, List.map_map, outline]
  refine List.map_congr_left fun g _ => ?_
  simp only [Function.comp_apply]
  split
  · rw [(hf g).1, (hf g).2.1, (hf g).2.2]
  · rfl

lemma outline_enroll (group id : String) : (d.enroll group id).outline = d.outline :=
  outline_modifyGroup fun _ => ⟨rfl, rfl, rfl⟩

/-- The ids of the groups that are inside another one. -/
def innerIds (d : Diagram) : List String :=
  (d.outline.filter (·.2.1.isSome)).map Prod.fst

lemma mem_innerIds {g : Group} (hg : g ∈ d.groups) {p : String} (hp : g.parent = some p) :
    g.id ∈ d.innerIds := by
  refine List.mem_map.mpr ⟨(g.id, g.parent, g.kind), List.mem_filter.mpr ⟨?_, ?_⟩, rfl⟩
  · exact List.mem_map_of_mem hg
  · simp [hp]

end Diagram

lemma Diagram.outline_without {d : Diagram} {gone : List Group} :
    (d.without gone).outline = d.outline.filter fun e => !(gone.map (·.id)).contains e.1 := by
  simp [outline, without, List.filter_map, Function.comp_def, Group.trim]

/-- The node of an element. -/
structure Node.Shows (n : Node) (p : PlacedElement) : Prop where
  id : n.id = p.id
  stem : ∃ k, n.id = Session.idOf "jsx" k
  type : n.type = NodeType.output.name
  label : n.label = "<" ++ p.element.tag ++ ">"
  tag : n.metadata.get "tag" = .str p.element.tag

lemma Node.Shows.continues {n n' : Node} {p : PlacedElement} (hn : n'.Continues n)
    (h : n.Shows p) : n'.Shows p where
  id := hn.id.trans h.id
  stem := hn.id ▸ h.stem
  type := hn.type.trans h.type
  label := hn.label.trans h.label
  tag := (hn.records "tag" (by simp [noteKeys])).trans h.tag

/-- The labels of control flows, with the kinds of the groups that they lead to. -/
def controlKinds : List (String × String) :=
  [("controls visibility", GroupKind.conditional.name), ("iterates over", GroupKind.loop.name)]

/-- What a layout adds to a diagram, apart from the members of groups. -/
structure Outline (old d : Diagram) (elements : List PlacedElement)
    (controls : List ControlFlow) : Prop where
  root : ∃ root rest, d.outline = (root, none, GroupKind.output.name) :: rest ∧
    ∀ e ∈ rest, e.2.1 ≠ none
  grouped : d.groupIds ⊆ d.ids
  kept : ∀ id ∈ old.ids, id ∈ d.ids ∧ id ∉ d.groupIds
  fresh : ∀ p ∈ elements, p.id ∉ old.ids ∧ p.id ∉ d.groupIds
  added : ∀ id ∈ d.ids, id ∈ old.ids ∨ id ∈ d.groupIds ∨ ∃ p ∈ elements, p.id = id
  once : (elements.map (·.id)).Nodup
  shown : ∀ p ∈ elements, ∃ n ∈ d.nodes, n.Shows p
  controlled : ∀ c ∈ controls, ∃ kind, (c.label, kind) ∈ controlKinds ∧ d.HasGroup c.group kind

namespace Outline

variable {old d d' : Diagram} {elements : List PlacedElement} {controls : List ControlFlow}

/-- Groups may change in what the outline leaves out, and so may nodes. -/
lemma congr (h : Outline old d elements controls) (houtline : d'.outline = d.outline)
    (hids : d'.ids = d.ids) (hshown : ∀ p ∈ elements, ∃ n ∈ d'.nodes, n.Shows p) :
    Outline old d' elements controls := by
  have hgroups : d'.groupIds = d.groupIds := by
    rw [Diagram.groupIds_eq_outline, houtline, Diagram.groupIds_eq_outline]
  refine ⟨?_, ?_, ?_, ?_, ?_, h.once, hshown, ?_⟩
  · rw [houtline]
    exact h.root
  · rw [hgroups, hids]
    exact h.grouped
  · rw [hgroups, hids]
    exact h.kept
  · rw [hgroups]
    exact h.fresh
  · rw [hgroups, hids]
    exact h.added
  · intro c hc
    simp only [Diagram.HasGroup, houtline]
    exact h.controlled c hc

/-- The node of an element is added. -/
lemma place (h : Outline old d elements controls) {n : Node} {p : PlacedElement}
    (hid : n.id ∉ d.ids) (hn : n.Shows p) :
    Outline old { d with nodes := d.nodes ++ [n] } (elements ++ [p]) controls where
  root := h.root
  grouped := fun id hid => by simpa [Diagram.ids] using .inl (List.mem_map.mp (h.grouped hid))
  kept := by
    intro id hmem
    obtain ⟨hids, hgroup⟩ := h.kept id hmem
    exact ⟨by simpa [Diagram.ids] using .inl (List.mem_map.mp hids), hgroup⟩
  fresh := by
    refine List.forall_mem_append.mpr ⟨h.fresh, List.forall_mem_singleton.mpr ?_⟩
    rw [← hn.1]
    exact ⟨fun hmem => hid (h.kept _ hmem).1, fun hmem => hid (h.grouped hmem)⟩
  added := by
    intro id hmem
    have hcases : id ∈ d.ids ∨ id = p.id := by
      simpa [Diagram.ids, hn.1] using hmem
    obtain hmem | rfl := hcases
    · obtain hold | hgroup | ⟨q, hq, heq⟩ := h.added id hmem
      · exact .inl hold
      · exact .inr (.inl hgroup)
      · exact .inr (.inr ⟨q, List.mem_append_left _ hq, heq⟩)
    · exact .inr (.inr ⟨p, by simp, rfl⟩)
  once := by
    rw [List.map_append, List.map_singleton, List.nodup_append']
    refine ⟨h.once, List.nodup_singleton _, fun id hmem heq => ?_⟩
    obtain ⟨q, hq, rfl⟩ := List.mem_map.mp hmem
    obtain ⟨m, hm, hshows⟩ := h.shown q hq
    have hsame : m.id = n.id := (hshows.id.trans (List.mem_singleton.mp heq)).trans hn.id.symm
    exact hid (hsame ▸ List.mem_map_of_mem hm)
  shown := by
    refine List.forall_mem_append.mpr ⟨fun q hq => ?_, List.forall_mem_singleton.mpr ?_⟩
    · obtain ⟨m, hm, hshows⟩ := h.shown q hq
      exact ⟨m, List.mem_append_left _ hm, hshows⟩
    · exact ⟨n, by simp, hn⟩
  controlled := h.controlled

/-- A group inside another one is added. -/
lemma addGroup (h : Outline old d elements controls) {g : Group} (hid : g.id ∉ d.ids)
    (hparent : g.parent ≠ none) :
    Outline old { d with nodes := d.nodes ++ [Diagram.groupNode g], groups := d.groups ++ [g] }
      elements controls where
  root := by
    obtain ⟨root, rest, heq, hrest⟩ := h.root
    refine ⟨root, rest ++ [(g.id, g.parent, g.kind)], ?_, ?_⟩
    · rw [Diagram.outline, List.map_append, ← Diagram.outline, heq]
      rfl
    · exact List.forall_mem_append.mpr ⟨hrest, List.forall_mem_singleton.mpr hparent⟩
  grouped := by
    rw [Diagram.groupIds, Diagram.ids, List.map_append, List.map_append]
    exact List.append_subset.mpr
      ⟨fun id hmem => List.mem_append_left _ (h.grouped hmem), fun id hmem => by
        simpa [Diagram.groupNode] using .inr (List.mem_singleton.mp hmem)⟩
  kept := by
    intro id hmem
    obtain ⟨hids, hgroup⟩ := h.kept id hmem
    have hne : id ≠ g.id := fun heq => hid (heq ▸ hids)
    refine ⟨by simpa [Diagram.ids] using .inl (List.mem_map.mp hids), ?_⟩
    simpa [Diagram.groupIds, hne] using hgroup
  fresh := by
    intro p hp
    obtain ⟨n, hn, hshows⟩ := h.shown p hp
    have hne : p.id ≠ g.id := fun heq => hid (heq ▸ hshows.1 ▸ List.mem_map_of_mem hn)
    exact ⟨(h.fresh p hp).1, by simpa [Diagram.groupIds, hne] using (h.fresh p hp).2⟩
  added := by
    intro id hmem
    have hcases : id ∈ d.ids ∨ id = g.id := by
      simpa [Diagram.ids, Diagram.groupNode] using hmem
    obtain hmem | rfl := hcases
    · obtain hold | hgroup | helement := h.added id hmem
      · exact .inl hold
      · exact .inr (.inl (by simpa [Diagram.groupIds] using .inl (List.mem_map.mp hgroup)))
      · exact .inr (.inr helement)
    · exact .inr (.inl (by simp [Diagram.groupIds]))
  once := h.once
  shown := by
    intro p hp
    obtain ⟨n, hn, hshows⟩ := h.shown p hp
    exact ⟨n, List.mem_append_left _ hn, hshows⟩
  controlled := by
    intro c hc
    obtain ⟨kind, hlabel, parent, hgroup⟩ := h.controlled c hc
    exact ⟨kind, hlabel, parent, by
      rw [Diagram.outline, List.map_append]
      exact List.mem_append_left _ hgroup⟩

lemma modifyGroup (h : Outline old d elements controls) {group : String} {f : Group → Group}
    (hf : ∀ g, (f g).id = g.id ∧ (f g).parent = g.parent ∧ (f g).kind = g.kind) :
    Outline old (d.modifyGroup group f) elements controls :=
  h.congr (Diagram.outline_modifyGroup hf) rfl h.shown

lemma control (h : Outline old d elements controls) {c : ControlFlow} {kind : String}
    (hlabel : (c.label, kind) ∈ controlKinds) (hgroup : d.HasGroup c.group kind) :
    Outline old d elements (controls ++ [c]) :=
  ⟨h.root, h.grouped, h.kept, h.fresh, h.added, h.once, h.shown,
    List.forall_mem_append.mpr ⟨h.controlled, List.forall_mem_singleton.mpr ⟨kind, hlabel, hgroup⟩⟩⟩

end Outline

/-- Everything that is laid out was put into a group: groups but for the outermost one, elements,
and handlers. -/
def Housed (d : Diagram) (elements : List PlacedElement) (handlers : List String) : Prop :=
  ∃ homes, d.Census homes ∧
    ∀ id, id ∈ homes.map Prod.fst ↔ id ∈ d.innerIds ∨ id ∈ elements.map (·.id) ∨ id ∈ handlers

namespace Housed

variable {d : Diagram} {elements : List PlacedElement} {handlers : List String}

lemma place (h : Housed d elements handlers) {n : Node} {p : PlacedElement} {group : String}
    (hid : n.id ∉ d.ids) (hgroups : d.groupIds ⊆ d.ids) (hp : p.id = n.id)
    (hgroup : group ∈ d.groupIds) (hrecord : n.metadata.get "subgraph" = .str group) :
    Housed (Diagram.enroll { d with nodes := d.nodes ++ [n] } group n.id) (elements ++ [p])
      handlers := by
  obtain ⟨homes, hcensus, hkeys⟩ := h
  refine ⟨homes ++ [(n.id, group)], (hcensus.addNode n).enroll (hcensus.not_mem_of_fresh hid)
    (by simp [Diagram.ids]) hgroup
    (.inr ⟨fun hmem => hid (hgroups hmem), n, by simp, rfl, hrecord⟩), fun id => ?_⟩
  have hinner : (Diagram.enroll { d with nodes := d.nodes ++ [n] } group n.id).innerIds =
      d.innerIds := by
    rw [Diagram.innerIds, Diagram.outline_enroll]
    rfl
  rw [hinner, List.map_append, List.mem_append, hkeys]
  simp only [List.map_cons, List.map_nil, List.mem_singleton, List.map_append, List.mem_append, hp]
  tauto

lemma addGroup (h : Housed d elements handlers) {g : Group} {p : String} (hid : g.id ∉ d.ids)
    (hgroups : d.groupIds ⊆ d.ids) (hempty : g.members = []) (hparent : g.parent = some p)
    (hp : p ∈ d.groupIds) :
    Housed (Diagram.enroll
        { d with nodes := d.nodes ++ [Diagram.groupNode g], groups := d.groups ++ [g] } p g.id)
      elements handlers := by
  obtain ⟨homes, hcensus, hkeys⟩ := h
  refine ⟨homes ++ [(g.id, p)], (hcensus.addGroup hgroups hid hempty).enroll
    (hcensus.not_mem_of_fresh hid) (by simp [Diagram.ids, Diagram.groupNode])
    (by simpa [Diagram.groupIds] using .inl (List.mem_map.mp hp))
    (.inl ⟨g, by simp, rfl, hparent⟩), fun id => ?_⟩
  have hinner : (Diagram.enroll { d with
      nodes := d.nodes ++ [Diagram.groupNode g], groups := d.groups ++ [g] } p g.id).innerIds =
      d.innerIds ++ [g.id] := by
    rw [Diagram.innerIds, Diagram.outline_enroll]
    simp [Diagram.outline, Diagram.innerIds, hparent]
  rw [hinner, List.map_append, List.mem_append, List.mem_append, hkeys]
  simp only [List.map_cons, List.map_nil, List.mem_singleton]
  tauto

lemma modifyGroup (h : Housed d elements handlers) {group : String} {f : Group → Group}
    (hf : ∀ g, (f g).id = g.id ∧ (f g).parent = g.parent ∧ (f g).kind = g.kind)
    (hmembers : ∀ g, (f g).members = g.members) :
    Housed (d.modifyGroup group f) elements handlers := by
  obtain ⟨homes, hcensus, hkeys⟩ := h
  refine ⟨homes, hcensus.modifyGroup (fun g => ⟨(hf g).1, (hf g).2.1⟩) hmembers, ?_⟩
  rw [Diagram.innerIds, Diagram.outline_modifyGroup hf]
  exact hkeys

/-- A node that was there before is put into a group, which it notes. -/
lemma handler (h : Housed d elements handlers) {id group : String} {f : Node → Node}
    (hid : id ∈ d.ids) (hgroupIds : id ∉ d.groupIds) (helement : id ∉ elements.map (·.id))
    (hnew : id ∉ handlers) (hgroup : group ∈ d.groupIds)
    (hf : ∀ n, (f n).id = n.id ∧ (f n).metadata.get "subgraph" = .str group) :
    Housed ((d.modifyNode id f).enroll group id) elements (handlers ++ [id]) := by
  obtain ⟨homes, hcensus, hkeys⟩ := h
  have hinner : id ∉ d.innerIds := by
    intro hmem
    refine hgroupIds ?_
    rw [Diagram.groupIds_eq_outline]
    exact (List.filter_sublist.map Prod.fst).subset hmem
  have hkey : id ∉ homes.map Prod.fst := by
    rw [hkeys]
    exact fun hmem => hmem.elim hinner fun hmem => hmem.elim helement hnew
  obtain ⟨n, hn, rfl⟩ := List.mem_map.mp hid
  have hrecord : (d.modifyNode n.id f).Records n.id group := by
    refine .inr ⟨hgroupIds, f n, List.mem_map.mpr ⟨n, hn, by simp⟩, (hf n).1, (hf n).2⟩
  refine ⟨homes ++ [(n.id, group)], (hcensus.modifyNode (fun n => (hf n).1) hkey).enroll hkey ?_
    hgroup hrecord, fun id => ?_⟩
  · rw [Diagram.ids_modifyNode fun n => (hf n).1]
    exact hid
  · have hsame : ((d.modifyNode n.id f).enroll group n.id).innerIds = d.innerIds := by
      rw [Diagram.innerIds, Diagram.outline_enroll]
      rfl
    rw [hsame, List.map_append, List.mem_append, hkeys]
    simp only [List.map_cons, List.map_nil, List.mem_singleton, List.mem_append, or_assoc]

end Housed

/-! ## The tree that is left -/

/-- A diagram whose groups form a tree in which some nodes have their places. -/
structure Diagram.Arranged (d : Diagram) (nodes : List String) : Prop where
  /-- One group is the outermost one, and it comes first. -/
  root : ∃ root rest, d.groups = root :: rest ∧ root.parent = none ∧
    root.kind = GroupKind.output.name ∧ ∀ g ∈ rest, g.parent ≠ none
  /-- Every other group comes after its parent. -/
  nested : Nested d.groups
  members_known : ∀ g ∈ d.groups, ∀ id ∈ g.members, id ∈ d.ids
  inner : ∀ g ∈ d.groups, ∀ p, g.parent = some p → d.SoleMember g.id p
  placed : ∀ id ∈ nodes, ∃ n ∈ d.nodes, n.id = id ∧
    ∃ home, n.metadata.get "subgraph" = .str home ∧ d.SoleMember id home
  occupied : ∀ g ∈ d.groups, g.parent ≠ none → g.members ≠ []

/-- Groups stay nested if none is kept without its parent. -/
lemma Diagram.Nested.filter {gs : List Group} {keep : Group → Bool} (h : Nested gs)
    (hkeep : ∀ g ∈ gs, keep g = true → ∀ q ∈ gs, g.parent = some q.id → keep q = true) :
    Nested (gs.filter keep) := by
  intro before g after heq p hp
  obtain ⟨first, second, rfl, rfl, hsecond⟩ := List.filter_eq_append_iff.mp heq
  obtain ⟨skipped, rest, rfl, hskipped, hg, -⟩ := List.filter_eq_cons_iff.mp hsecond
  have hmem : p ∈ (first ++ skipped).map (·.id) :=
    h (first ++ skipped) g rest (by simp) p hp
  obtain ⟨q, hq, rfl⟩ := List.mem_map.mp hmem
  have hqkeep : keep q = true :=
    hkeep g (by simp) hg q (by simpa using (List.mem_append.mp hq).imp_right .inl) hp
  obtain hq | hq := List.mem_append.mp hq
  · exact List.mem_map_of_mem (List.mem_filter.mpr ⟨hq, hqkeep⟩)
  · exact absurd hqkeep (hskipped q hq)

lemma parent_of_mem_hollow {groups : List Group} {g : Group} (h : g ∈ hollow groups) :
    g.parent ≠ none := by
  induction groups with
  | nil => cases h
  | cons g' later ih =>
    rw [hollow] at h
    split at h
    · rename_i hcond
      obtain h | h := List.mem_append.mp h
      · exact ih h
      · rw [List.mem_singleton.mp h]
        exact Option.isSome_iff_ne_none.mp (Bool.and_eq_true_iff.mp hcond).1
    · exact ih h

lemma not_mem_hollowIds_of_outermost {groups : List Group} (hnodup : (groups.map (·.id)).Nodup)
    {g : Group} (hg : g ∈ groups) (hparent : g.parent = none) : g.id ∉ hollowIds groups :=
  fun hgone => parent_of_mem_hollow (mem_hollow_of_id_mem hnodup hg hgone) hparent

/-- An outermost group that comes first still does so once empty groups are taken out. -/
lemma Diagram.groups_without_hollow {d : Diagram} (hnodup : d.groupIds.Nodup) {root : Group}
    {rest : List Group} (hgroups : d.groups = root :: rest) (hroot : root.parent = none) :
    (d.without (hollow d.groups)).groups = root.trim (hollow d.groups) ::
      (rest.filter fun g => !((hollow d.groups).map (·.id)).contains g.id).map
        (Group.trim (hollow d.groups)) := by
  have hkept : root.id ∉ (hollow d.groups).map (·.id) :=
    not_mem_hollowIds_of_outermost hnodup (by simp [hgroups]) hroot
  rw [Diagram.without]
  generalize hollow d.groups = gone at hkept ⊢
  rw [hgroups, List.filter_cons, if_pos (by simpa using hkept), List.map_cons]

/-- Where every group inside another one has a home, its home is its parent. -/
lemma Diagram.Census.mem_of_parent {d : Diagram} {homes : List (String × String)}
    (h : d.Census homes) (hnodup : d.groupIds.Nodup) (hkeys : d.innerIds ⊆ homes.map Prod.fst)
    {g : Group} (hg : g ∈ d.groups) {p : String} (hp : g.parent = some p) :
    (g.id, p) ∈ homes := by
  obtain ⟨⟨id, home⟩, he, hid⟩ := List.mem_map.mp (hkeys (mem_innerIds hg hp))
  obtain rfl : id = g.id := hid
  have hhome := h.parent_of_mem hnodup hg he
  rwa [← Option.some.inj (hhome.symm.trans hp)]

/-- **The tree of groups.** Once empty groups are taken out, what is left is a tree. -/
lemma arranged_without {old d : Diagram} {elements : List PlacedElement}
    {controls : List ControlFlow} {handlers : List String} (hd : d.Coherent)
    (hnested : Diagram.Nested d.groups) (houtline : Outline old d elements controls)
    (hhoused : Housed d elements handlers) (hhandlers : ∀ id ∈ handlers, id ∈ old.ids) :
    (d.without (hollow d.groups)).Arranged (elements.map (·.id) ++ handlers) := by
  obtain ⟨homes, hcensus, hkeys⟩ := hhoused
  have hpruned := hcensus.without hd
  have hnodup := (hd.without (hollow d.groups)).groupIds_nodup
  have hkept_iff : ∀ g : Group, (!((hollow d.groups).map (·.id)).contains g.id) = true ↔
      g.id ∉ hollowIds d.groups := by simp [hollowIds]
  have hparent : ∀ g ∈ d.groups, ∀ p, g.parent = some p → (g.id, p) ∈ homes := fun _ hg _ hp =>
    hcensus.mem_of_parent hd.groupIds_nodup (fun id hid => (hkeys id).mpr (.inl hid)) hg hp
  have hmem : ∀ e ∈ homes, e.1 ∉ hollowIds d.groups →
      e ∈ homes.filter fun e => !(hollowIds d.groups).contains e.1 := by
    intro e he hkept
    exact List.mem_filter.mpr ⟨he, by simpa using hkept⟩
  refine ⟨?root, ?nested, ?known, ?inner, ?placed, ?occupied⟩
  case root =>
    obtain ⟨_, _, heq, hrest⟩ := houtline.root
    obtain ⟨root, rest, hgroups, hroot, hkind, hinner⟩ :=
      Diagram.exists_root_of_outline heq hrest
    refine ⟨_, _, Diagram.groups_without_hollow hd.groupIds_nodup hgroups hroot, hroot, hkind, ?_⟩
    intro g' hg'
    obtain ⟨g, hg, rfl⟩ := List.mem_map.mp hg'
    exact hinner g (List.mem_filter.mp hg).1
  case nested =>
    refine Diagram.Nested.map (Diagram.Nested.filter hnested ?_) fun g => ⟨rfl, rfl⟩
    intro g hg hkept q hq hp
    rw [hkept_iff] at hkept ⊢
    exact hcensus.home_kept (hparent g hg q.id hp) hkept
  case known =>
    intro g hg id hid
    exact (hpruned.known _ ((hpruned.mem_members_iff hg).mp hid)).1
  case inner =>
    intro g' hg' p hp
    obtain ⟨g, hg, rfl⟩ := List.mem_map.mp hg'
    obtain ⟨hg, hkept⟩ := List.mem_filter.mp hg
    exact hpruned.soleMember hnodup (hmem _ (hparent g hg p hp) ((hkept_iff g).mp hkept))
  case placed =>
    intro id hid
    have hgroup : id ∉ d.groupIds := by
      obtain hid | hid := List.mem_append.mp hid
      · obtain ⟨p, hp, rfl⟩ := List.mem_map.mp hid
        exact (houtline.fresh p hp).2
      · exact (houtline.kept id (hhandlers id hid)).2
    have hkept : id ∉ hollowIds d.groups := fun hgone => hgroup (hollowIds_subset _ hgone)
    obtain ⟨⟨id', home⟩, he, heq⟩ :=
      List.mem_map.mp ((hkeys id).mpr (.inr (List.mem_append.mp hid)))
    obtain rfl : id' = id := heq
    have he' := hmem _ he hkept
    obtain ⟨q, hq, heq, -⟩ | ⟨-, n, hn, heq, hrecord⟩ := hpruned.recorded _ he'
    · obtain rfl : q.id = id' := heq
      exact absurd (Diagram.mem_groupIds_without.mp (List.mem_map_of_mem hq)).1 hgroup
    · exact ⟨n, hn, heq, home, hrecord, hpruned.soleMember hnodup he'⟩
  case occupied =>
    intro g' hg' hparent'
    obtain ⟨g, hg, rfl⟩ := List.mem_map.mp hg'
    obtain ⟨hg, hkept⟩ := List.mem_filter.mp hg
    exact trim_members_ne_nil hd.groupIds_nodup hnested hg hparent' ((hkept_iff g).mp hkept)

end ComponentFlow

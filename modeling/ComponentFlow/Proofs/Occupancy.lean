import ComponentFlow.Proofs.Arrangement
import Mathlib.Data.List.Count
import Mathlib.Logic.Relation

/-!
# Which groups are kept

Empty groups are taken out in one pass, from the last group to the first. This pass is enough: of
the groups inside another one it keeps exactly those in which an element or an exported handler is
found, however deep (`ofOutput_keeps_occupied`).

A group with something in it is kept, for what is in a group that is taken out is taken out itself,
and elements and handlers never are. The other half needs the order of the groups. A group that is
kept has a member that is kept. If this is a group, it comes later, and the search goes on from
there, so it ends at an element or a handler.
-/

namespace ComponentFlow

namespace Diagram

/-- Whether something is a member of a group. -/
def HasMember (d : Diagram) (group id : String) : Prop :=
  ∃ g ∈ d.groups, g.id = group ∧ id ∈ g.members

/-- Whether one of the leaves is a member of a group, directly or through groups inside it. -/
def Occupied (d : Diagram) (leaves : List String) (group : String) : Prop :=
  ∃ leaf ∈ leaves, Relation.TransGen d.HasMember group leaf

/-- A diagram whose groups have leaves as members, and groups that are inside them. The first group
is outermost, and all others are inside another one. -/
structure Furnished (d : Diagram) (leaves : List String) : Prop where
  root : ∃ root kind rest, d.outline = (root, none, kind) :: rest ∧ ∀ e ∈ rest, e.2.1 ≠ none
  apart : ∀ id ∈ leaves, id ∉ d.groupIds
  members : ∀ g ∈ d.groups, ∀ id ∈ g.members, id ∈ leaves ∨
    g.members.count id = 1 ∧ ∃ inner ∈ d.groups, inner.id = id ∧ inner.parent = some g.id

variable {d : Diagram} {leaves : List String}

/-! ## Kept groups are occupied -/

/-- What is in a group that is taken out, however deep, is taken out. -/
lemma mem_hollowIds_of_transGen {group id : String} (hnodup : d.groupIds.Nodup)
    (hgroup : group ∈ hollowIds d.groups) (h : Relation.TransGen d.HasMember group id) :
    id ∈ hollowIds d.groups := by
  have hstep : ∀ {a b}, d.HasMember a b → a ∈ hollowIds d.groups → b ∈ hollowIds d.groups := by
    rintro a b ⟨g, hg, rfl, hmem⟩ hgone
    exact mem_hollowIds_of_mem_members (mem_hollow_of_id_mem hnodup hg hgone) hmem
  induction h with
  | single h => exact hstep h hgroup
  | tail _ h ih => exact hstep h ih

/-- No group in which a leaf is found is taken out. -/
lemma Furnished.not_mem_hollowIds (h : d.Furnished leaves) (hnodup : d.groupIds.Nodup)
    {group : String} (hoccupied : d.Occupied leaves group) : group ∉ hollowIds d.groups := by
  intro hgone
  obtain ⟨leaf, hleaf, hpath⟩ := hoccupied
  exact h.apart leaf hleaf (hollowIds_subset _ (mem_hollowIds_of_transGen hnodup hgone hpath))

/-- A group inside another one that is kept has a leaf as a member, or a group that is kept. -/
lemma Furnished.exists_kept (h : d.Furnished leaves) (hnodup : d.groupIds.Nodup)
    (hnested : Nested d.groups) {g : Group} (hg : g ∈ d.groups) (hparent : g.parent ≠ none)
    (hkept : g.id ∉ hollowIds d.groups) : ∃ id ∈ g.members, id ∈ leaves ∨
      ∃ inner ∈ d.groups, inner.id = id ∧ inner.parent = some g.id ∧
        inner.id ∉ hollowIds d.groups := by
  obtain ⟨id, hleft⟩ :=
    List.exists_mem_of_ne_nil _ (trim_members_ne_nil hnodup hnested hg hparent hkept)
  have hid : id ∈ g.members := List.diff_subset _ _ hleft
  refine ⟨id, hid, (h.members g hg id hid).imp_right ?_⟩
  rintro ⟨hcount, inner, hinner, rfl, hp⟩
  refine ⟨inner, hinner, rfl, hp, fun hgone => ?_⟩
  -- the group is listed once, so it would not be a member any more
  have hinner' : inner ∈ hollow d.groups := mem_hollow_of_id_mem hnodup hinner hgone
  have hchild : 0 < (childrenIn (hollow d.groups) g.id).count inner.id :=
    List.count_pos_iff.mpr (mem_childrenIn.mpr ⟨inner, hinner', hp, rfl⟩)
  have hpos : 0 < (g.members.diff (childrenIn (hollow d.groups) g.id)).count inner.id :=
    List.count_pos_iff.mpr hleft
  rw [List.count_diff, hcount] at hpos
  omega

/-- In a nested list, a group comes after its parent. -/
lemma Nested.mem_later {earlier later : List Group} {g inner : Group}
    (h : Nested (earlier ++ g :: later)) (hnodup : ((earlier ++ g :: later).map (·.id)).Nodup)
    (hinner : inner ∈ earlier ++ g :: later) (hparent : inner.parent = some g.id) :
    inner ∈ later := by
  rw [List.map_append, List.map_cons] at hnodup
  have hg : g.id ∉ earlier.map (·.id) := fun hmem =>
    (List.nodup_append.mp hnodup).2.2 _ hmem _ List.mem_cons_self rfl
  obtain hinner | hinner := List.mem_append.mp hinner
  · obtain ⟨before, after, rfl⟩ := List.append_of_mem hinner
    have hbefore := h before inner (after ++ g :: later) (by simp) g.id hparent
    exact absurd (by simp [List.mem_map.mp hbefore]) hg
  · obtain rfl | hinner := List.mem_cons.mp hinner
    · exact absurd (h earlier inner later rfl inner.id hparent) hg
    · exact hinner

/-- What holds of each group if it holds of those inside of it holds of all groups. -/
lemma Nested.group_induction {groups : List Group} (h : Nested groups)
    (hnodup : (groups.map (·.id)).Nodup) {P : Group → Prop}
    (hP : ∀ g ∈ groups, (∀ inner ∈ groups, inner.parent = some g.id → P inner) → P g) :
    ∀ g ∈ groups, P g := by
  -- from the last group on
  have hlater : ∀ later earlier, groups = earlier ++ later → ∀ g ∈ later, P g := by
    intro later
    induction later with
    | nil =>
      intro _ _ g hg
      cases hg
    | cons first rest ih =>
      intro earlier hgroups
      have hrest := ih (earlier ++ [first]) (by simp [hgroups])
      refine List.forall_mem_cons.mpr ⟨hP first (by simp [hgroups]) ?_, hrest⟩
      intro inner hinner hparent
      rw [hgroups] at h hnodup hinner
      exact hrest inner (h.mem_later hnodup hinner hparent)
  exact hlater groups [] rfl

/-- A leaf is found in every group inside another one that is kept. -/
lemma Furnished.occupied (h : d.Furnished leaves) (hnodup : d.groupIds.Nodup)
    (hnested : Nested d.groups) {g : Group} (hg : g ∈ d.groups) (hparent : g.parent ≠ none)
    (hkept : g.id ∉ hollowIds d.groups) : d.Occupied leaves g.id := by
  revert hparent hkept
  refine hnested.group_induction hnodup (P := fun g => g.parent ≠ none →
    g.id ∉ hollowIds d.groups → d.Occupied leaves g.id) (fun g hg ih hparent hkept => ?_) g hg
  obtain ⟨id, hid, hleaf | ⟨inner, hinner, rfl, hp, hinner'⟩⟩ :=
    h.exists_kept hnodup hnested hg hparent hkept
  · exact ⟨id, hleaf, .single ⟨g, hg, rfl, hid⟩⟩
  · obtain ⟨leaf, hleaf, hpath⟩ := ih inner hinner hp (by simp [hp]) hinner'
    exact ⟨leaf, hleaf, .head ⟨g, hg, rfl, hid⟩ hpath⟩

/-- **Kept groups.** The outermost group is kept, and of the others those in which a leaf is found.
-/
lemma Furnished.mem_groupIds_without_iff (h : d.Furnished leaves) (hnodup : d.groupIds.Nodup)
    (hnested : Nested d.groups) {root : Group} {rest : List Group}
    (hgroups : d.groups = root :: rest) (hroot : root.parent = none)
    (hrest : ∀ g ∈ rest, g.parent ≠ none) {id : String} :
    id ∈ (d.without (hollow d.groups)).groupIds ↔
      id ∈ d.groupIds ∧ (id = root.id ∨ d.Occupied leaves id) := by
  rw [mem_groupIds_without, ← hollowIds]
  refine and_congr_right fun hid => ⟨fun hkept => ?_, ?_⟩
  · obtain ⟨g, hg, rfl⟩ := List.mem_map.mp hid
    obtain rfl | hinner := List.mem_cons.mp (hgroups ▸ hg)
    · exact .inl rfl
    · exact .inr (h.occupied hnodup hnested hg (hrest g hinner) hkept)
  · rintro (rfl | hoccupied) hgone
    · exact not_mem_hollowIds_of_outermost hnodup (by simp [hgroups]) hroot hgone
    · exact h.not_mem_hollowIds hnodup hoccupied hgone

/-! ## Groups of a layout -/

lemma Furnished.exists_root (h : d.Furnished leaves) : ∃ root rest, d.groups = root :: rest ∧
    root.parent = none ∧ ∀ g ∈ rest, g.parent ≠ none := by
  obtain ⟨_, _, _, heq, hrest⟩ := h.root
  obtain ⟨root, rest, hgroups, hroot, -, hinner⟩ := exists_root_of_outline heq hrest
  exact ⟨root, rest, hgroups, hroot, hinner⟩

/-- What is put into groups while markup is walked over are elements and groups inside them. -/
lemma furnished_of_housed {old : Diagram} {elements : List PlacedElement}
    {controls : List ControlFlow} (houtline : Outline old d elements controls)
    (h : Housed d elements []) : d.Furnished (elements.map (·.id)) where
  root := by
    obtain ⟨root, rest, heq, hrest⟩ := houtline.root
    exact ⟨root, _, rest, heq, hrest⟩
  apart := by
    intro id hid
    obtain ⟨p, hp, rfl⟩ := List.mem_map.mp hid
    exact (houtline.fresh p hp).2
  members := by
    obtain ⟨homes, hcensus, hkeys⟩ := h
    intro g hg id hid
    have hhome := (hcensus.mem_members_iff hg).mp hid
    obtain ⟨inner, hinner, heq, hp⟩ | ⟨hno, -⟩ := hcensus.recorded _ hhome
    · exact .inr ⟨List.count_eq_one_of_mem (hcensus.members_nodup hg) hid, inner, hinner, heq, hp⟩
    · obtain hmem | hmem | hmem := (hkeys id).mp (List.mem_map_of_mem hhome)
      · rw [groupIds_eq_outline] at hno
        exact absurd ((List.filter_sublist.map Prod.fst).subset hmem) hno
      · exact .inl hmem
      · cases hmem

lemma Furnished.of_groups_eq {d' : Diagram} (h : d.Furnished leaves)
    (hgroups : d'.groups = d.groups) : d'.Furnished leaves := by
  refine ⟨?_, ?_, ?_⟩
  · rw [outline, hgroups]
    exact h.root
  · rw [groupIds, hgroups]
    exact h.apart
  · rw [hgroups]
    exact h.members

/-- A leaf may be put into a group any number of times. -/
lemma Furnished.enroll {id : String} (h : d.Furnished leaves) (hid : id ∉ d.groupIds)
    (group : String) : (d.enroll group id).Furnished (leaves ++ [id]) where
  root := by
    rw [outline_enroll]
    exact h.root
  apart := by
    rw [groupIds_enroll]
    exact List.forall_mem_append.mpr ⟨h.apart, List.forall_mem_singleton.mpr hid⟩
  members := by
    intro g' hg' other hother
    obtain ⟨g, hg, rfl⟩ := List.mem_map.mp hg'
    by_cases hsame : other = id
    · exact .inl (by simp [hsame])
    have hold : other ∈ g.members := by
      split at hother
      · simpa [hsame] using hother
      · exact hother
    refine (h.members g hg other hold).imp (List.mem_append_left _) ?_
    rintro ⟨hcount, inner, hinner, heq, hp⟩
    refine ⟨?_, _, List.mem_map_of_mem hinner, ?_, ?_⟩
    · split
      · simpa [List.count_append, Ne.symm hsame] using hcount
      · exact hcount
    · split <;> exact heq
    · split <;> split <;> exact hp

end Diagram

namespace Layout

open Build

/-- Handlers are put into a group. -/
lemma furnished_addHandlers {b : Build} {group : String} {leaves handlers : List String}
    (h : b.Live → b.diagram.Furnished leaves ∧ ∀ id ∈ handlers, id ∉ b.diagram.groupIds)
    (hlive : (handlers.foldl (addHandlerTo group) b).Live) :
    (handlers.foldl (addHandlerTo group) b).diagram.Furnished (leaves ++ handlers) := by
  induction handlers generalizing b leaves with
  | nil =>
    rw [List.append_nil]
    exact (h hlive).1
  | cons id rest ih =>
    have hstep : (addHandlerTo group b id).Live →
        (addHandlerTo group b id).diagram.Furnished (leaves ++ [id]) ∧
          ∀ id' ∈ rest, id' ∉ (addHandlerTo group b id).diagram.groupIds := by
      intro hadded
      obtain ⟨hb, heq⟩ := addHandlerTo_of_live hadded
      obtain ⟨hfurnished, hids⟩ := h hb
      obtain ⟨hid, hrest⟩ := List.forall_mem_cons.mp hids
      rw [heq]
      have hnoted : (b.diagram.modifyNode id fun n =>
          { n with metadata := n.metadata.set "subgraph" (.str group) }).Furnished leaves :=
        hfurnished.of_groups_eq rfl
      refine ⟨hnoted.enroll hid group, ?_⟩
      rw [Diagram.groupIds_enroll]
      exact hrest
    have hall := ih hstep hlive
    rwa [List.append_assoc] at hall

/-- The groups of a layout, before empty ones are taken out. -/
lemma furnished_lay {b : Build} (hgroups : b.diagram.groups = []) (output : List RenderNode)
    {exported : List String} (hold : ∀ id ∈ exported, id ∈ b.diagram.ids)
    (hlive : (lay b output exported).build.Live) :
    (lay b output exported).build.diagram.Furnished
      ((lay b output exported).elements.map (·.id) ++ exported) := by
  have hwalk := orderly_walk hgroups output
  simp only [lay, addExported] at hlive hwalk ⊢
  generalize walk { build := (b.openGroup "JSX Output" none GroupKind.output.name []).2 }
    (frames (b.openGroup "JSX Output" none GroupKind.output.name []).1 .output false [] output) = l
    at hlive hwalk ⊢
  have hfurnished : ∀ l' : Layout, Orderly b.diagram l' [] → l'.build.Live →
      l'.build.diagram.Furnished (l'.elements.map (·.id)) ∧
        ∀ id ∈ exported, id ∉ l'.build.diagram.groupIds := by
    intro l' horderly hlive'
    obtain ⟨houtline, hhoused⟩ := horderly hlive'
    exact ⟨Diagram.furnished_of_housed houtline hhoused,
      fun id hid => (houtline.kept id (hold id hid)).2⟩
  split at hlive
  · rename_i hempty
    rw [if_pos hempty, List.isEmpty_iff.mp hempty, List.append_nil]
    exact (hfurnished l hwalk hlive).1
  · rename_i hsome
    rw [if_neg hsome]
    obtain ⟨hopen, -⟩ := hwalk.openGroup "exported handlers"
      (b.openGroup "JSX Output" none GroupKind.output.name []).1 .exported []
    exact furnished_addHandlers (fun hlive' => hfurnished _ hopen hlive') hlive

/-- **Pruning is exact.** Over a diagram without groups, the layout of any markup and any exported
handlers goes through if the ids that it draws are free. One group is outermost and comes first. It
is kept, and of the other groups exactly those are kept in which an element or an exported handler
is found, directly or through groups inside them. Nothing is left of the others. The groups keep
their order, all elements stay, and the control flows that stay are those of the groups that are
kept. -/
theorem ofOutput_keeps_occupied {b : Build} (hb : b.diagram.Coherent)
    (hgroups : b.diagram.groups = []) (output : List RenderNode) {exported : List String}
    (hexported : ∀ id ∈ exported, id ∈ b.diagram.ids) :
    let all := lay b output exported
    let kept := ofOutput b output exported
    (kept.build.Live ↔ b.Live ∧ b.Free kept.build) ∧
    (kept.build.Live →
      (∃ root rest, all.build.diagram.groups = root :: rest ∧ root.parent = none ∧
        (∀ g ∈ rest, g.parent ≠ none) ∧
        ∀ id, id ∈ kept.build.diagram.groupIds ↔ id ∈ all.build.diagram.groupIds ∧
          (id = root.id ∨
            all.build.diagram.Occupied (all.elements.map (·.id) ++ exported) id)) ∧
      kept.build.diagram.groupIds.Sublist all.build.diagram.groupIds ∧
      (∀ id ∈ all.build.diagram.groupIds, id ∉ kept.build.diagram.groupIds →
        id ∉ kept.build.diagram.ids) ∧
      kept.elements = all.elements ∧
      kept.controls = all.controls.filter fun c =>
        kept.build.diagram.groupIds.contains c.group) := by
  intro all kept
  have hnone : Diagram.Nested b.diagram.groups := hgroups ▸ Diagram.nested_nil
  have hsettled := settled_ofOutput hb hnone output exported
  refine ⟨?_, fun hlive => ?_⟩
  · have hall := hsettled.live
    rw [hgroups] at hall
    simpa [hollow] using hall
  have hpruned := pruned_lay hb hnone output exported
  have hedits := (inv_lay hb output exported).laying.grows.edits
  have hcoherent := hedits.coherent hb
  have hfurnished := furnished_lay hgroups output hexported (hpruned.live.mp hlive).1
  have hdiagram : kept.build.diagram =
      all.build.diagram.without (hollow all.build.diagram.groups) := hpruned.diagram hlive
  have hgone : ∀ id ∈ all.build.diagram.groupIds, (id ∉ kept.build.diagram.groupIds ↔
      id ∈ hollowIds all.build.diagram.groups) := by
    intro id hid
    rw [hdiagram, Diagram.mem_groupIds_without, hollowIds]
    tauto
  refine ⟨?kept, ?order, ?gone, rfl, ?controls⟩
  case kept =>
    obtain ⟨root, rest, heq, hroot, hrest⟩ := hfurnished.exists_root
    refine ⟨root, rest, heq, hroot, hrest, fun id => ?_⟩
    rw [hdiagram]
    exact hfurnished.mem_groupIds_without_iff hcoherent.groupIds_nodup (hedits.nested hnone) heq
      hroot hrest
  case order =>
    rw [hdiagram, Diagram.groupIds_without]
    exact List.filter_sublist
  case gone =>
    intro id hid hremoved hmem
    rw [hdiagram] at hmem
    exact (Diagram.mem_ids_without.mp hmem).2 ((hgone id hid).mp hremoved)
  case controls =>
    show all.controls.filter _ = _
    rw [hpruned.removed hlive]
    refine List.filter_congr fun c hc => ?_
    have hgroup := ((inv_lay hb output exported).controls c hc (hpruned.live.mp hlive).1).1
    have := hgone c.group hgroup
    grind [hollowIds]

/-- A build with one process. -/
def oneProcess : Build :=
  { session :=
      { Session.start { name := "Table" } [] with
        diagram :=
          { component := "Table"
            nodes := [{ id := "process_0", label := "reset", type := "process" }] } } }

/-- Markup with an empty loop in a conditional, and a loop over rows, of which only those that are
wide show something. -/
def wideRows : List RenderNode :=
  [.conditional { expression := "open" } [.loop { collection := "pages" } []] [],
   .loop { collection := "rows" }
     [.conditional { expression := "wide" } [.element { tag := "td" } []]
       [.loop { collection := "cells" } []]]]

theorem ofOutput_keeps_occupied_wideRows :
    let all := lay oneProcess wideRows ["process_0"]
    let kept := ofOutput oneProcess wideRows ["process_0"]
    let leaves := all.elements.map (·.id) ++ ["process_0"]
    kept.build.Live ∧
      all.build.diagram.groupIds = (List.range 8).map (Session.idOf "subgraph") ∧
      kept.build.diagram.groupIds = [0, 3, 4, 7].map (Session.idOf "subgraph") ∧
      all.build.diagram.Occupied leaves "subgraph_3" ∧
      ¬ all.build.diagram.Occupied leaves "subgraph_1" := by
  intro all kept leaves
  have hcoherent : oneProcess.diagram.Coherent := ⟨by decide, by decide, by decide⟩
  obtain ⟨-, hkept⟩ := ofOutput_keeps_occupied hcoherent rfl wideRows
    (by decide : ∀ id ∈ ["process_0"], id ∈ oneProcess.diagram.ids)
  have hlive : kept.build.Live := Option.isNone_iff_eq_none.mp (by decide +kernel)
  have hall : all.build.diagram.groupIds = (List.range 8).map (Session.idOf "subgraph") := by
    decide +kernel
  have hids : kept.build.diagram.groupIds = [0, 3, 4, 7].map (Session.idOf "subgraph") := by
    decide +kernel
  obtain ⟨⟨root, rest, hgroups, -, -, hmem⟩, -⟩ := hkept hlive
  have hroot : root.id = "subgraph_0" := by
    have hfirst := congrArg List.head? hall
    rw [Diagram.groupIds, hgroups] at hfirst
    exact Option.some.inj hfirst
  refine ⟨hlive, hall, hids, ?_, fun hoccupied => ?_⟩
  · have hthird : "subgraph_3" ∈ kept.build.diagram.groupIds := by
      rw [hids]
      decide
    exact ((hmem _).mp hthird).2.resolve_left (by simp [hroot])
  · have hfirst := (hmem "subgraph_1").mpr ⟨by rw [hall]; decide, .inr hoccupied⟩
    rw [hids] at hfirst
    exact absurd hfirst (by decide)

end Layout

end ComponentFlow

import ComponentFlow.Proofs.Rooms

/-!
# Branches that are shown

The group of a place is kept exactly if an element with a node is inside of the place
(`mem_groupIds_ofOutput_iff`). For elements and groups hang together as their places do: from the
group of a place there is a chain of members to everything inside of it, and what is in the group is
inside of the place.

An element with bindings always has a node, and so do those at the top of a branch in which there is
nothing but elements without bindings. Such branches, and all branches around them, are kept with
the flow that controls them. Elements without bindings in a loop have no node, however, so a branch
that has no others is taken out (`ofOutput_keeps_shown_branches`).
-/

namespace ComponentFlow

/-! ## Groups that hold nothing but groups -/

/-- Groups that have no members but one another are taken out. -/
lemma mem_hollowIds_of_closed {d : Diagram} (hnodup : d.groupIds.Nodup)
    (hnested : Diagram.Nested d.groups) {S : Group → Prop}
    (hS : ∀ g ∈ d.groups, S g → g.parent ≠ none ∧ g.members.Nodup ∧ ∀ id ∈ g.members,
      ∃ inner ∈ d.groups, inner.id = id ∧ inner.parent = some g.id ∧ S inner)
    {g : Group} (hg : g ∈ d.groups) (hSg : S g) : g.id ∈ hollowIds d.groups := by
  revert hSg
  refine hnested.group_induction hnodup (P := fun g => S g → g.id ∈ hollowIds d.groups)
    (fun g hg ih hSg => ?_) g hg
  obtain ⟨hparent, hmembers, hinner⟩ := hS g hg hSg
  by_contra hkept
  obtain ⟨id, hleft⟩ := List.exists_mem_of_ne_nil _
    (trim_members_ne_nil hnodup hnested hg hparent hkept)
  obtain ⟨hid, hstays⟩ := hmembers.mem_sdiff_iff.mp hleft
  -- the member is a group that is taken out, so it does not stay
  obtain ⟨inner, hmem, rfl, hp, hSinner⟩ := hinner id hid
  have hgone := mem_hollow_of_id_mem hnodup hmem (ih inner hmem hp hSinner)
  exact hstays (mem_childrenIn.mpr ⟨inner, hgone, hp, rfl⟩)

/-! ## Places inside of one another -/

namespace Site

/-- Whether a place is inside of another one, however deep. -/
def Inside (t s : Site) : Prop := s.toSpot ∈ t.around

end Site

section Markup

variable {output : List RenderNode} {s t u : Site}

lemma Site.Inside.trans (ht : t ∈ sitesIn [] 0 output) (hu : u ∈ sitesIn [] 0 output)
    (htu : t.Inside u) (hus : u.Inside s) : t.Inside s := by
  obtain ⟨inner, outer, heq⟩ := List.append_of_mem htu
  have hmem := heq ▸ under_of_mem ht
  have hsame : u.around = outer := congrArg Site.around (site_ext_of_mem hu hmem.mem rfl)
  rw [Site.Inside, heq]
  exact List.mem_append_right _ (List.mem_cons_of_mem _ (hsame ▸ hus))

/-- What is in the group of a place is inside of the place. -/
lemma inside_of_home (ht : t ∈ sitesIn [] 0 output) (hs : s ∈ sitesIn [] 0 output)
    (hhome : t.home = some s.number) : t.Inside s := by
  obtain ⟨hnone, -⟩ | ⟨u, hu, -, heq, -, hin⟩ := exists_home (under_of_mem ht)
  · rw [Site.home, hnone] at hhome
    cases hhome
  · obtain rfl := site_ext_of_mem hu hs (Option.some.inj (heq.symm.trans hhome))
    exact hin

/-- What is in a branch is inside of it. -/
lemma inside_of_mem_branch {m : Nat} {nodes : List RenderNode}
    (ht : t ∈ sitesIn (s.toSpot :: s.around) m nodes) : t.Inside s := by
  have hunder := under_of_mem ht
  rw [Site.Inside]
  generalize t.around = around at hunder
  induction hunder with
  | base => exact List.mem_cons_self
  | inner _ _ _ ih => exact List.mem_cons_of_mem _ ih

/-- Markup that is not empty has a place at its top. -/
lemma exists_top {around : List Spot} {m : Nat} {nodes : List RenderNode} (h : nodes ≠ []) :
    ∃ t ∈ sitesIn around m nodes, t.around = around := by
  cases nodes with
  | nil => exact absurd rfl h
  | cons node rest => cases node <;> exact ⟨_, List.mem_cons_self, rfl⟩

end Markup

namespace Layout

open Build

variable {b : Build} {output : List RenderNode} {exported : List String}

/-! ## Members by place -/

/-- If no element of a group has a node, it has no members but groups. -/
lemma membersAt_of_no_placed (γ : Option Nat → String) (ε : Nat → String) {sites : List Site}
    {home : Option Nat} (h : ∀ t ∈ sites, t.home = home → t.placed = false) :
    membersAt γ ε sites home =
      ((sites.filter Site.opens).filter (·.home = home)).map fun t => γ (some t.number) := by
  induction sites with
  | nil => rfl
  | cons t rest ih =>
    obtain ⟨hfirst, hrest⟩ := List.forall_mem_cons.mp h
    have ih := ih hrest
    rw [membersAt] at ih ⊢
    by_cases hhome : t.home = home
    · cases hopens : t.opens <;> simp [hhome, hopens, Site.memberId?, hfirst hhome, ih]
    · cases hopens : t.opens <;> simp [hhome, hopens, ih]

section Members

variable (hb : b.diagram.Coherent) (hlive : (lay b output exported).build.Live)

include hb hlive

/-- From the group of a place there is a chain of members to each group inside of the place. -/
lemma reflTransGen_of_inside {s : Site} (hs : s ∈ sitesIn [] 0 output) (hopens : s.opens = true)
    {around : List Spot} (haround : Under (sitesIn [] 0 output) [] around)
    (hin : s.toSpot ∈ around) :
    Relation.ReflTransGen (lay b output exported).build.diagram.HasMember
      (groupId b output (some s.number)) (groupId b output (homeOf around)) := by
  induction haround with
  | base => cases hin
  | @inner spot outer _ hmem hholds ih =>
    obtain heq | hin := List.mem_cons.mp hin
    · -- the place itself
      obtain rfl := site_ext_of_mem hs hmem (congrArg Spot.number heq)
      rw [show homeOf (spot :: outer) = some spot.number from Site.own_of_opens hopens]
    cases hown : Site.opens ⟨spot, outer⟩ with
    | true =>
      rw [show homeOf (spot :: outer) = some spot.number from Site.own_of_opens hown]
      exact (ih hin).tail (hasMember_home hb hlive hmem (by rw [Site.memberId?, if_pos hown]))
    | false =>
      rw [show homeOf (spot :: outer) = homeOf outer from Site.own_of_not_opens hown hholds]
      exact ih hin

/-- The group of a place is taken out if no element with a node is inside of it. -/
lemma mem_hollowIds_of_no_placed (hnested : Diagram.Nested b.diagram.groups) {s : Site}
    (hs : s ∈ sitesIn [] 0 output) (hopens : s.opens = true)
    (hnone : ∀ t ∈ sitesIn [] 0 output, t.Inside s → t.placed = false) :
    groupId b output (some s.number) ∈
      hollowIds (lay b output exported).build.diagram.groups := by
  have hedits := (inv_lay hb output exported).laying.grows.edits
  -- the groups of the place and of all places inside of it
  refine mem_hollowIds_of_closed (hedits.coherent hb).groupIds_nodup (hedits.nested hnested)
    (S := fun g => ∃ u ∈ sitesIn [] 0 output, (u = s ∨ u.Inside s) ∧
      g = furnish (groupId b output) (elementId b output) (sitesIn [] 0 output)
        (some u.number, u.room (groupId b output)))
    ?_ (mem_groups_lay hb hlive hs hopens) ⟨s, hs, .inl rfl, rfl⟩
  rintro _ - ⟨u, hu, hus, rfl⟩
  have hinside : ∀ t ∈ sitesIn [] 0 output, t.home = some u.number → t.Inside s := by
    intro t ht hhome
    have htu := inside_of_home ht hu hhome
    obtain rfl | hus := hus
    · exact htu
    · exact htu.trans ht hu hus
  have hmembers := membersAt_of_no_placed (groupId b output) (elementId b output)
    fun t ht hhome => hnone t ht (hinside t ht hhome)
  refine ⟨by simp [furnish, Site.room], ?_, fun id hid => ?_⟩
  · show (membersAt _ _ _ _).Nodup
    rw [hmembers]
    exact (drawn_groupId b output).nodup.sublist (List.filter_sublist.map _)
  · have hid : id ∈ membersAt (groupId b output) (elementId b output) (sitesIn [] 0 output)
        (some u.number) := hid
    rw [hmembers] at hid
    obtain ⟨t, ht, rfl⟩ := List.mem_map.mp hid
    obtain ⟨ht, hhome⟩ := List.mem_filter.mp ht
    obtain ⟨ht, hopens⟩ := List.mem_filter.mp ht
    have hhome : t.home = some u.number := by simpa using hhome
    refine ⟨_, mem_groups_lay hb hlive ht hopens, rfl, ?_, t, ht, .inr (hinside t ht hhome), rfl⟩
    simp [furnish, Site.room, hhome]

end Members

/-! ## Groups that are kept -/

section Kept

variable (hb : b.diagram.Coherent) (hnested : Diagram.Nested b.diagram.groups)
  (hlive : (ofOutput b output exported).build.Live)

include hb hnested hlive

/-- An element with a node is not taken out. -/
lemma elementId_not_mem_hollowIds {t : Site} (ht : t ∈ sitesIn [] 0 output)
    (hplaced : t.placed = true) : elementId b output t.number ∉
      hollowIds (lay b output exported).build.diagram.groups := by
  obtain ⟨e, he⟩ := Site.exists_element hplaced
  have hids := ((settled_ofOutput hb hnested output exported).elements hlive _
    (mem_elements_lay b exported ht hplaced he)).1
  rw [(diagram_ofOutput hb hnested output exported hlive).2.2] at hids
  exact (Diagram.mem_ids_without.mp hids).2

/-- The flows that are kept are those of groups that are kept. -/
lemma mem_controls_ofOutput_iff {flow : ControlFlow} :
    flow ∈ (ofOutput b output exported).controls ↔ flow ∈ (lay b output exported).controls ∧
      flow.group ∉ hollowIds (lay b output exported).build.diagram.groups := by
  have hremoved := (pruned_lay hb hnested output exported).removed hlive
  refine List.mem_filter.trans (and_congr_right fun _ => ?_)
  rw [hremoved, ← hollowIds]
  simp

/-- **Kept groups by place.** The group of a place is kept exactly if an element with a node is
inside of the place. -/
lemma mem_groupIds_ofOutput_iff {s : Site} (hs : s ∈ sitesIn [] 0 output)
    (hopens : s.opens = true) :
    groupId b output (some s.number) ∈ (ofOutput b output exported).build.diagram.groupIds ↔
      ∃ t ∈ sitesIn [] 0 output, t.placed = true ∧ t.Inside s := by
  obtain ⟨hall, -, hdiagram⟩ := diagram_ofOutput hb hnested output exported hlive
  have hedits := (inv_lay hb output exported).laying.grows.edits
  rw [hdiagram, Diagram.mem_groupIds_without, ← hollowIds]
  constructor
  · rintro ⟨-, hkept⟩
    by_contra hnone
    refine hkept (mem_hollowIds_of_no_placed hb hall hnested hs hopens fun t ht hin => ?_)
    exact Bool.of_not_eq_true fun hplaced => hnone ⟨t, ht, hplaced, hin⟩
  · rintro ⟨t, ht, hplaced, hin⟩
    refine ⟨List.mem_map_of_mem (mem_groups_lay hb hall hs hopens), fun hgone => ?_⟩
    have hchain := Relation.TransGen.tail'
      (reflTransGen_of_inside hb hall hs hopens (under_of_mem ht) hin)
      (hasMember_home hb hall ht (Site.memberId?_of_placed _ _ hplaced))
    exact elementId_not_mem_hollowIds hb hnested hlive ht hplaced
      (Diagram.mem_hollowIds_of_transGen (hedits.coherent hb).groupIds_nodup hgone hchain)

end Kept

/-! ## Branches -/

/-- What the condition of a branch refers to, with loop items resolved. -/
def conditionOf (s : Site) : List String :=
  match s.content with
  | .branch c _ _ => c.references.map (resolveScope s.scope)
  | _ => []

/-- The flow that controls a branch, given its group. -/
def visibility (s : Site) (group : String) : ControlFlow :=
  ⟨group, conditionOf s, "controls visibility"⟩

/-- The branches of markup that are not empty, by place. -/
def branches (output : List RenderNode) : List Site :=
  (sitesIn [] 0 output).filter fun s => s.opens && s.content.isBranch

lemma mem_branches_iff {output : List RenderNode} {s : Site} : s ∈ branches output ↔
    s ∈ sitesIn [] 0 output ∧ s.opens = true ∧ s.content.isBranch = true := by
  rw [branches, List.mem_filter, Bool.and_eq_true]

/-- Whether something of a branch is sure to be shown: an element with bindings inside of it, or a
branch, the same one or one inside of it, that has elements without bindings and nothing else. -/
inductive Shown (sites : List Site) (s : Site) : Prop
  | bound {t : Site} {e : Element} (ht : t ∈ sites) (hin : t.Inside s)
      (hcontent : t.content = .element e) (hbound : e.hasBindings = true)
  | bare {t : Site} {c : Condition} {negated : Bool} {nodes : List RenderNode} (ht : t ∈ sites)
      (hin : t = s ∨ t.Inside s) (hcontent : t.content = .branch c negated nodes)
      (hfull : nodes ≠ [])
      (hplain : ∀ u ∈ sites, u.Inside t → ∃ e, u.content = .element e ∧ e.hasBindings = false)

/-- Whether all elements of a branch are without bindings, and directly in a loop. -/
def OnlyLooped (sites : List Site) (s : Site) : Prop :=
  ∀ t ∈ sites, t.Inside s → ∀ e, t.content = .element e →
    e.hasBindings = false ∧ kindOf t.around = .loop

/-- Something of such a branch has a node. -/
lemma Shown.exists_placed {output : List RenderNode} {s : Site}
    (h : Shown (sitesIn [] 0 output) s) :
    ∃ t ∈ sitesIn [] 0 output, t.placed = true ∧ t.Inside s := by
  cases h with
  | @bound t e ht hin hcontent hbound =>
    exact ⟨t, ht, by simp [Site.placed, hcontent, hbound], hin⟩
  | @bare t c negated nodes ht hin hcontent hfull hplain =>
    obtain ⟨m, hsub⟩ := subset_of_branch ht hcontent
    have hbare : isBare nodes = true := all_reachedIn fun u hu =>
      hplain u (hsub hu) (inside_of_mem_branch hu)
    -- an element at the top of the branch
    obtain ⟨u, hu, htop⟩ : ∃ u ∈ sitesIn (t.toSpot :: t.around) m nodes,
      u.around = t.toSpot :: t.around := exists_top hfull
    have hut := inside_of_mem_branch hu
    obtain ⟨e, he, -⟩ := hplain u (hsub hu) hut
    have hforced : forcedBy u.around = true := by
      obtain ⟨⟨n, content⟩, around⟩ := t
      cases hcontent
      rw [htop]
      exact hbare
    refine ⟨u, hsub hu, by simp [Site.placed, he, hforced], ?_⟩
    obtain rfl | hin := hin
    · exact hut
    · exact hut.trans (hsub hu) ht hin

/-- Nothing of such a branch has a node. -/
lemma OnlyLooped.not_placed {sites : List Site} {s : Site} (h : OnlyLooped sites s) {t : Site}
    (ht : t ∈ sites) (hin : t.Inside s) : t.placed = false := by
  rw [Site.placed]
  split
  · rename_i e he
    obtain ⟨hplain, hloop⟩ := h t ht hin e he
    have hforced : forcedBy t.around = false := by
      rw [forcedBy.eq_def]
      split
      · rename_i heq
        rw [heq] at hloop
        cases hloop
      · rfl
    rw [hplain, hforced, Bool.or_self]
  · rfl

/-- The flows that control branches, by place. -/
lemma filter_visibility (γ : Option Nat → String) (sites : List Site) :
    (sites.filterMap (Site.control? γ)).filter (·.label == "controls visibility") =
      (sites.filter fun s => s.opens && s.content.isBranch).map fun s =>
        visibility s (γ (some s.number)) := by
  refine Site.filter_control? (fun s => ?_) sites
  obtain ⟨⟨n, content⟩, around⟩ := s
  cases content with
  | element e => rfl
  | branch c negated nodes => cases nodes <;> rfl
  | loop head => simp [Site.control?, Content.isBranch, Option.filter]

/-- Different branches have different groups. -/
lemma nodup_branches (b : Build) (output : List RenderNode) :
    ((branches output).map fun s => groupId b output (some s.number)).Nodup := by
  refine (drawn_groupId b output).nodup.sublist ((List.monotone_filter_right _ ?_).map _)
  exact fun s hs => (Bool.and_eq_true_iff.mp hs).1

/-- The group of a branch that is kept, with the flow that controls it. -/
lemma exists_branch_of_mem_groupIds {b : Build} {output : List RenderNode} {exported : List String}
    (hb : b.diagram.Coherent) (hnested : Diagram.Nested b.diagram.groups)
    (hlive : (ofOutput b output exported).build.Live) {s : Site} (hs : s ∈ branches output)
    (hstays : groupId b output (some s.number) ∈
      (ofOutput b output exported).build.diagram.groupIds) :
    (∃ g ∈ (ofOutput b output exported).build.diagram.groups,
      g.id = groupId b output (some s.number) ∧ g.label = s.label ∧
        g.kind = GroupKind.conditional.name) ∧
      visibility s (groupId b output (some s.number)) ∈ (ofOutput b output exported).controls := by
  obtain ⟨hmem, hopens, hbranch⟩ := mem_branches_iff.mp hs
  obtain ⟨hall, -, hdiagram⟩ := diagram_ofOutput hb hnested output exported hlive
  rw [hdiagram, Diagram.mem_groupIds_without, ← hollowIds] at hstays
  refine ⟨⟨Group.trim (hollow (lay b output exported).build.diagram.groups) (furnish
    (groupId b output) (elementId b output) (sitesIn [] 0 output)
      (some s.number, s.room (groupId b output))),
    ?_, rfl, rfl, congrArg GroupKind.name (Content.kind_eq_conditional_iff.mpr hbranch)⟩, ?_⟩
  · rw [hdiagram]
    refine List.mem_map_of_mem (List.mem_filter.mpr ⟨mem_groups_lay hb hall hmem hopens, ?_⟩)
    simpa [hollowIds, furnish, Site.room] using hstays.2
  · refine (mem_controls_ofOutput_iff hb hnested hlive).mpr ⟨?_, hstays.2⟩
    have hflow := List.mem_map_of_mem (f := fun s : Site =>
      visibility s (groupId b output (some s.number))) hs
    rw [branches, ← filter_visibility, ← controls_lay b output exported] at hflow
    exact (List.mem_filter.mp hflow).1

/-- **Branches that are shown.** Over any diagram, each branch that is not empty has a group of its
own and one flow that controls it, in the order of the branches. If an element with bindings is
inside of a branch, or if the branch or one inside of it has elements without bindings and nothing
else, its group and its flow are kept. Elements without bindings that are directly in a loop are not
shown: if there are no other elements inside of a branch, neither its group nor its flow is kept. -/
theorem ofOutput_keeps_shown_branches {b : Build} (hb : b.diagram.Coherent)
    (hnested : Diagram.Nested b.diagram.groups) (output : List RenderNode)
    (exported : List String) :
    let sites := sitesIn [] 0 output
    let kept := ofOutput b output exported
    (kept.build.Live ↔ b.Live ∧ b.Free kept.build ∧
      ∀ g ∈ hollow b.diagram.groups, g.Listed b.diagram.groups) ∧
    ∃ groupOf : Site → String, ((branches output).map groupOf).Nodup ∧
      (lay b output exported).controls.filter (·.label == "controls visibility") =
        (branches output).map (fun s => visibility s (groupOf s)) ∧
      (kept.build.Live → ∀ s ∈ branches output,
        (Shown sites s →
          (∃ g ∈ kept.build.diagram.groups, g.id = groupOf s ∧ g.label = s.label ∧
            g.kind = GroupKind.conditional.name) ∧
          visibility s (groupOf s) ∈ kept.controls) ∧
        (OnlyLooped sites s → groupOf s ∉ kept.build.diagram.ids ∧
          ∀ flow ∈ kept.controls, flow.group ≠ groupOf s)) := by
  intro sites kept
  refine ⟨(settled_ofOutput hb hnested output exported).live,
    fun s => groupId b output (some s.number), nodup_branches b output, ?_,
    fun hlive s hs => ⟨fun hshown => ?_, fun hlooped => ?_⟩⟩
  · rw [controls_lay]
    exact filter_visibility _ _
  · obtain ⟨hmem, hopens, -⟩ := mem_branches_iff.mp hs
    refine exists_branch_of_mem_groupIds hb hnested hlive hs ?_
    rw [mem_groupIds_ofOutput_iff hb hnested hlive hmem hopens]
    exact hshown.exists_placed
  · obtain ⟨hmem, hopens, -⟩ := mem_branches_iff.mp hs
    obtain ⟨hall, -, hdiagram⟩ := diagram_ofOutput hb hnested output exported hlive
    have hgone := mem_hollowIds_of_no_placed hb hall hnested hmem hopens
      fun t ht hin => hlooped.not_placed ht hin
    refine ⟨fun hid => ?_, fun flow hflow heq => ?_⟩
    · rw [hdiagram, Diagram.mem_ids_without] at hid
      exact hid.2 hgone
    · exact ((mem_controls_ofOutput_iff hb hnested hlive).mp hflow).2 (heq ▸ hgone)

/-- A build of an empty diagram. -/
def menuBuild : Build := { session := Session.start { name := "Menu" } [] }

/-- Whether a menu is open. -/
def menuOpen : Condition := { expression := "open", references := ["open"] }

/-- The items of a menu, in a loop. -/
def menuItems : RenderNode := .loop { collection := "items" } [.element { tag := "li" } []]

/-- What is shown while a menu is shut. -/
def menuHint : RenderNode := .element { tag := "p" } []

/-- A menu, open or shut. -/
def menu : List RenderNode := [.conditional menuOpen [menuItems] [menuHint]]

/-- The branch of an open menu. -/
def openBranchSite : Site := ⟨⟨0, .branch menuOpen false [menuItems]⟩, []⟩

/-- The branch of a menu that is shut. -/
def shutBranchSite : Site := ⟨⟨1, .branch menuOpen true [menuHint]⟩, []⟩

lemma sitesIn_menu : sitesIn [] 0 menu = [openBranchSite, shutBranchSite,
    ⟨⟨2, .loop { collection := "items" }⟩, [openBranchSite.toSpot]⟩,
    ⟨⟨3, .element { tag := "li" }⟩,
      [⟨2, .loop { collection := "items" }⟩, openBranchSite.toSpot]⟩,
    ⟨⟨4, .element { tag := "p" }⟩, [shutBranchSite.toSpot]⟩] := rfl

theorem ofOutput_keeps_shown_branches_menu :
    let kept := ofOutput menuBuild menu []
    kept.build.Live ∧ branches menu = [openBranchSite, shutBranchSite] ∧
      ∃ groupOf : Site → String,
        groupOf openBranchSite = "subgraph_1" ∧ groupOf shutBranchSite = "subgraph_2" ∧
        groupOf openBranchSite ∉ kept.build.diagram.ids ∧
        (∃ g ∈ kept.build.diagram.groups, g.id = groupOf shutBranchSite) ∧
        ⟨groupOf shutBranchSite, ["open"], "controls visibility"⟩ ∈ kept.controls := by
  intro kept
  have hcoherent : menuBuild.diagram.Coherent := ⟨by decide, by decide, by decide⟩
  have hlive : kept.build.Live := Option.isNone_iff_eq_none.mp (by decide +kernel)
  obtain ⟨-, groupOf, -, hflows, hkept⟩ :=
    ofOutput_keeps_shown_branches hcoherent Diagram.nested_nil menu []
  have hgroups : [groupOf openBranchSite, groupOf shutBranchSite] =
      ["subgraph_1", "subgraph_2"] := by
    have hids := congrArg (List.map ControlFlow.group) hflows
    rw [List.map_map] at hids
    exact hids.symm.trans (by decide +kernel)
  obtain ⟨hopen, hshut⟩ := List.cons_eq_cons.mp hgroups
  have hlooped : OnlyLooped (sitesIn [] 0 menu) openBranchSite := by
    simp [OnlyLooped, sitesIn_menu, Site.Inside, openBranchSite, shutBranchSite,
      Element.hasBindings, kindOf]
  have hshown : Shown (sitesIn [] 0 menu) shutBranchSite := by
    refine .bare (List.mem_cons_of_mem _ List.mem_cons_self) (.inl rfl) rfl
      (List.cons_ne_nil _ _) ?_
    simp [sitesIn_menu, Site.Inside, openBranchSite, shutBranchSite, Element.hasBindings]
  obtain ⟨⟨g, hg, hid, -⟩, hflow⟩ :=
    (hkept hlive shutBranchSite (List.mem_cons_of_mem _ List.mem_cons_self)).1 hshown
  exact ⟨hlive, rfl, groupOf, hopen, (List.cons_eq_cons.mp hshut).1,
    ((hkept hlive openBranchSite List.mem_cons_self).2 hlooped).1, ⟨g, hg, hid⟩, hflow⟩

/-- The branch of an open menu has an element inside of it, but neither a group nor a flow. -/
theorem ofOutput_drops_looped_branch :
    let kept := ofOutput menuBuild menu []
    kept.build.Live ∧ openBranchSite ∈ branches menu ∧
      (∃ t ∈ sitesIn [] 0 menu, t.Inside openBranchSite ∧ ∃ e, t.content = .element e) ∧
      kept.build.diagram.groups.map (·.label) = ["JSX Output", shutBranchSite.label] ∧
      kept.controls.map (·.group) = ["subgraph_2"] ∧
      openBranchSite.label ≠ shutBranchSite.label := by
  refine ⟨Option.isNone_iff_eq_none.mp (by decide +kernel), List.mem_cons_self, ?_,
    by decide +kernel, by decide +kernel, by decide +kernel⟩
  refine ⟨⟨⟨3, .element { tag := "li" }⟩,
    [⟨2, .loop { collection := "items" }⟩, openBranchSite.toSpot]⟩, ?_, ?_, _, rfl⟩
  · simp [sitesIn_menu]
  · exact List.mem_cons_of_mem _ List.mem_cons_self

end Layout

end ComponentFlow

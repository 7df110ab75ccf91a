import ComponentFlow.Proofs.Rooms

/-!
# Nested loops

A loop in a loop, elements apart, has no group of its own. The walk finds this out from the kind of
group that it is in; as a property of the markup, the group of a loop is that of its cluster root,
the outermost loop that is reached from it by going up through elements and loops only
(`own_eq_clusterRoot`). So two loops share a group exactly if they have the same cluster root, the
notes of the group tell the collections of its loops in their order, and no group of a loop is in
another one (`lay_groups_by_cluster`).
-/

namespace ComponentFlow

/-! ## Cluster roots -/

/-- The outermost loop that is reached by going up through elements and loops only. -/
def outermostLoop (around : List Spot) : Option Nat :=
  ((around.takeWhile (!·.content.isBranch)).filter (·.content.isLoop)).getLast?.map (·.number)

/-- The group of a loop is that of a place. -/
lemma exists_homeOf {around : List Spot} (h : kindOf around = .loop) :
    ∃ n, homeOf around = some n := by
  induction around with
  | nil => cases h
  | cons spot outer ih =>
    obtain ⟨n, content⟩ := spot
    cases content with
    | element e => exact ih h
    | branch c negated nodes => cases h
    | loop head =>
      rw [homeOf]
      split
      · exact ih ‹_›
      · exact ⟨n, rfl⟩

/-- What is reached is the place whose group things are in, if this is the group of a loop. -/
lemma outermostLoop_eq (around : List Spot) :
    outermostLoop around = if kindOf around = .loop then homeOf around else none := by
  induction around with
  | nil => rfl
  | cons spot outer ih =>
    obtain ⟨n, content⟩ := spot
    cases content with
    | element e => exact ih
    | branch c negated nodes => rfl
    | loop head =>
      have hstep : outermostLoop (⟨n, .loop head⟩ :: outer) =
          some ((outermostLoop outer).getD n) := by
        rw [outermostLoop, List.takeWhile_cons_of_pos rfl, List.filter_cons_of_pos rfl,
          List.getLast?_cons, Option.map_some, outermostLoop]
        exact congrArg some (Option.getD_map _ _ _).symm
      have hkind : kindOf (⟨n, .loop head⟩ :: outer) = .loop := rfl
      rw [hstep, ih, if_pos hkind, homeOf]
      by_cases hloop : kindOf outer = .loop
      · obtain ⟨m, hm⟩ := exists_homeOf hloop
        rw [if_pos hloop, if_pos hloop, hm, Option.getD_some]
      · rw [if_neg hloop, if_neg hloop, Option.getD_none]

/-- Elements do not matter for the group that something is in. -/
lemma homeOf_dropWhile (around : List Spot) :
    homeOf (around.dropWhile (·.content.isElement)) = homeOf around := by
  induction around with
  | nil => rfl
  | cons spot outer ih =>
    obtain ⟨n, content⟩ := spot
    cases content with
    | element e => exact ih
    | branch c negated nodes => rfl
    | loop head => rfl

namespace Site

/-- The cluster root of a loop, by its number: the outermost loop that is reached from it by going
up through elements and loops only. -/
def clusterRoot (s : Site) : Option Nat := outermostLoop (s.toSpot :: s.around)

/-- Whether a place is directly in another one, with nothing but elements between them. -/
def DirectlyIn (t s : Site) : Prop :=
  t.around.dropWhile (·.content.isElement) = s.toSpot :: s.around

/-- The collection of a loop. -/
def collection (s : Site) : String :=
  match s.content with
  | .loop head => head.collection
  | _ => ""

/-- The flow that a loop iterates over, given its group. -/
def iteration (s : Site) (group : String) : ControlFlow :=
  match s.content with
  | .loop head => ⟨group, Layout.loopVariables head s.scope, "iterates over"⟩
  | _ => ⟨group, [], "iterates over"⟩

lemma joins?_eq (s : Site) :
    s.joins? = if s.content.isLoop && !s.opens then some s.collection else none := by
  obtain ⟨⟨n, content⟩, around⟩ := s
  cases content with
  | element e => rfl
  | branch c negated nodes => rfl
  | loop head => cases hopens : Site.opens ⟨⟨n, .loop head⟩, around⟩ <;>
      simp [joins?, hopens, Content.isLoop, collection]

lemma notes_of_isLoop {s : Site} (h : s.content.isLoop = true) :
    s.notes = [("collection", .str s.collection)] := by
  obtain ⟨⟨n, content⟩, around⟩ := s
  cases content with
  | element e => cases h
  | branch c negated nodes => cases h
  | loop head => rfl

lemma opens_of_isLoop {s : Site} (h : s.content.isLoop = true) :
    s.opens = (kindOf s.around != .loop) := by
  obtain ⟨⟨n, content⟩, around⟩ := s
  cases content with
  | element e => cases h
  | branch c negated nodes => cases h
  | loop head => rfl

lemma holds_of_isLoop {s : Site} (h : s.content.isLoop = true) : s.content.Holds := by
  revert h
  cases s.content <;> simp [Content.isLoop, Content.Holds]

lemma kindOf_cons_of_isLoop {s : Site} (h : s.content.isLoop = true) :
    kindOf (s.toSpot :: s.around) = .loop := by
  obtain ⟨⟨n, content⟩, around⟩ := s
  cases content with
  | element e => cases h
  | branch c negated nodes => cases h
  | loop head => rfl

/-- The group that a loop is laid out in is that of its cluster root. -/
lemma own_eq_clusterRoot {s : Site} (h : s.content.isLoop = true) : s.own = s.clusterRoot := by
  rw [clusterRoot, outermostLoop_eq, if_pos (kindOf_cons_of_isLoop h), own]

lemma home_of_directlyIn {t s : Site} (h : t.DirectlyIn s) : t.home = s.own := by
  rw [home, ← homeOf_dropWhile, h, own]

end Site

section Markup

variable {output : List RenderNode} {s : Site} (hs : s ∈ sitesIn [] 0 output)
  (hloop : s.content.isLoop = true)

include hs hloop

/-- The cluster root of a loop is a loop that opens a group. -/
lemma exists_clusterRoot : ∃ root ∈ sitesIn [] 0 output, root.opens = true ∧
    root.content.isLoop = true ∧ s.clusterRoot = some root.number := by
  have hkind := Site.kindOf_cons_of_isLoop hloop
  obtain ⟨-, hout⟩ | ⟨root, hroot, hopens, hhome, hkind', -⟩ :=
    exists_home (Under.inner (under_of_mem hs) hs (Site.holds_of_isLoop hloop))
  · rw [hkind] at hout
    cases hout
  · exact ⟨root, hroot, hopens, Content.kind_eq_loop_iff.mp (hkind'.symm.trans hkind),
      (Site.own_eq_clusterRoot hloop).symm.trans hhome⟩

/-- A loop that has no group of its own has the cluster root of what it is in, which comes before
it. -/
lemma clusterRoot_of_not_opens (hopens : s.opens = false) :
    s.home = s.clusterRoot ∧ s.clusterRoot ≠ some s.number := by
  have hhome := (Site.own_of_not_opens hopens (Site.holds_of_isLoop hloop)).symm.trans
    (Site.own_eq_clusterRoot hloop)
  refine ⟨hhome, fun hself => ?_⟩
  rw [← hhome] at hself
  obtain hnone | ⟨t, -, -, ht, hlt⟩ := (ordered_sitesIn output).home s hs
  · rw [hnone] at hself
    cases hself
  · exact absurd (Option.some.inj (ht.symm.trans hself)) (Nat.ne_of_lt hlt)

end Markup

/-- The loops of markup, by place. -/
def loops (output : List RenderNode) : List Site :=
  (sitesIn [] 0 output).filter (·.content.isLoop)

/-- The collections of the loops of a cluster, apart from its root. -/
def mergedCollections (output : List RenderNode) (root : Site) : List String :=
  ((loops output).filter fun t =>
    t.clusterRoot = some root.number ∧ t.number ≠ root.number).map Site.collection

lemma joinedAt_eq (output : List RenderNode) (root : Site) :
    joinedAt (sitesIn [] 0 output) (some root.number) = mergedCollections output root := by
  rw [joinedAt, mergedCollections, loops, List.filter_filter, ← List.filterMap_eq_map,
    List.filterMap_filter, List.filterMap_filter]
  refine List.filterMap_congr fun t ht => ?_
  rw [t.joins?_eq]
  cases hloop : t.content.isLoop with
  | false => simp
  | true =>
    cases hopens : t.opens with
    | true =>
      have hself := (Site.own_eq_clusterRoot hloop).symm.trans (Site.own_of_opens hopens)
      simp [hself]
    | false =>
      obtain ⟨hhome, hne⟩ := clusterRoot_of_not_opens ht hloop hopens
      rw [hhome]
      by_cases hroot : t.clusterRoot = some root.number
      · have hne' : t.number ≠ root.number := fun heq => hne (heq ▸ hroot)
        simp [hroot, hne']
      · simp [hroot]

/-! ## Groups of loops -/

lemma GroupKind.name_injective : Function.Injective GroupKind.name := by
  intro a b
  cases a <;> cases b <;> simp [GroupKind.name]

namespace Layout

/-- Whether no group of a loop is in a group of a loop, apart from groups that were there before. -/
def LoopsApart (old : List String) (d : Diagram) : Prop :=
  ∀ g ∈ d.groups, g.id ∉ old → g.kind = GroupKind.loop.name →
    ∀ p ∈ d.groups, g.parent = some p.id → p.kind ≠ GroupKind.loop.name

lemma LoopsApart.without {old : List String} {d : Diagram} (h : LoopsApart old d)
    (gone : List Group) : LoopsApart old (d.without gone) := by
  intro g hg hnew hkind p hp hparent
  obtain ⟨g', hg', rfl⟩ := List.mem_map.mp hg
  obtain ⟨p', hp', rfl⟩ := List.mem_map.mp hp
  exact h g' (List.mem_of_mem_filter hg') hnew hkind p' (List.mem_of_mem_filter hp') hparent

section Groups

variable {b : Build} {output : List RenderNode} {exported : List String}
  (hb : b.diagram.Coherent) (hlive : (lay b output exported).build.Live)

include hb hlive

/-- The kind of the group that a place is in. -/
lemma kind_of_home {s : Site} (hs : s ∈ sitesIn [] 0 output) {p : Group}
    (hp : p ∈ (lay b output exported).build.diagram.groups)
    (hid : p.id = groupId b output s.home) : p.kind = (kindOf s.around).name := by
  have hnodup := ((inv_lay hb output exported).laying.grows.edits.coherent hb).groupIds_nodup
  obtain ⟨hnone, hkind⟩ | ⟨t, ht, hopens, hhome, hkind, -⟩ := exists_home (under_of_mem hs)
  · obtain ⟨first, more, hgroups, hfirst, -, houtput, -⟩ := exists_groups_lay hb hlive
    rw [Site.home, hnone] at hid
    obtain rfl := List.inj_on_of_nodup_map hnodup hp (by simp [hgroups]) (hid.trans hfirst.symm)
    rw [houtput, hkind]
  · rw [Site.home, hhome] at hid
    rw [List.inj_on_of_nodup_map hnodup hp (mem_groups_lay hb hlive ht hopens) hid, hkind]
    rfl

/-- A loop opens a group only where it is not in the group of a loop. -/
lemma loopsApart_lay :
    LoopsApart b.diagram.groupIds (lay b output exported).build.diagram := by
  obtain ⟨first, more, hgroups, -, hfirst, -, -, hmore⟩ := exists_groups_lay hb hlive
  intro g hg hnew hkind p hp hparent
  rw [hgroups] at hg
  obtain hg | hg := List.mem_append.mp hg
  · exact absurd (List.mem_map_of_mem hg) hnew
  obtain rfl | hg := List.mem_cons.mp hg
  · rw [hfirst] at hparent
    cases hparent
  obtain hg | hg := List.mem_append.mp hg
  · obtain ⟨s, hs, rfl⟩ := List.mem_map.mp hg
    obtain ⟨hs, hopens⟩ := List.mem_filter.mp hs
    rw [kind_of_home hb hlive hs hp (Option.some.inj hparent).symm]
    intro hin
    have hloop := Content.kind_eq_loop_iff.mp (GroupKind.name_injective hkind)
    rw [Site.opens_of_isLoop hloop, GroupKind.name_injective hin] at hopens
    cases hopens
  · rw [(hmore g hg).2] at hkind
    exact absurd (GroupKind.name_injective hkind) (by decide)

/-- The group of a loop, with its notes: those of its cluster root, and the collections of the other
loops of the cluster. -/
lemma exists_cluster_group {s : Site} (hs : s ∈ loops output) :
    ∃ root ∈ loops output, s.clusterRoot = some root.number ∧
      ∃ g ∈ (lay b output exported).build.diagram.groups, g.id = groupId b output s.own ∧
        g.kind = GroupKind.loop.name ∧
        g.metadata = Metadata.joined [("collection", .str root.collection)]
          (mergedCollections output root) := by
  obtain ⟨hs, hloop⟩ := List.mem_filter.mp hs
  obtain ⟨root, hroot, hopens, hloop', hcluster⟩ := exists_clusterRoot hs hloop
  refine ⟨root, List.mem_filter.mpr ⟨hroot, hloop'⟩, hcluster, _,
    mem_groups_lay hb hlive hroot hopens, ?_, ?_, ?_⟩
  · rw [Site.own_eq_clusterRoot hloop, hcluster]
    rfl
  · exact congrArg GroupKind.name (Content.kind_eq_loop_iff.mpr hloop')
  · show root.notes.joined (joinedAt _ _) = _
    rw [joinedAt_eq, Site.notes_of_isLoop hloop']

end Groups

/-- The flows that loops iterate over, by place. -/
lemma filter_iteration (γ : Option Nat → String) (sites : List Site) :
    (sites.filterMap (Site.control? γ)).filter (·.label == "iterates over") =
      (sites.filter (·.content.isLoop)).map fun s => s.iteration (γ s.own) := by
  refine Site.filter_control? (fun s => ?_) sites
  obtain ⟨⟨n, content⟩, around⟩ := s
  cases content with
  | element e => rfl
  | branch c negated nodes => cases nodes <;> rfl
  | loop head => rfl

/-- Two loops have the same group exactly if they have the same cluster root. -/
lemma groupId_own_eq_iff (b : Build) {output : List RenderNode} {s t : Site}
    (hs : s ∈ loops output) (ht : t ∈ loops output) :
    groupId b output s.own = groupId b output t.own ↔ s.clusterRoot = t.clusterRoot := by
  have hroom : ∀ u ∈ loops output,
      ∃ room ∈ rooms (groupId b output) (sitesIn [] 0 output), u.clusterRoot = room.1 := by
    intro u hu
    obtain ⟨hu, hloop⟩ := List.mem_filter.mp hu
    obtain ⟨root, hroot, hopens, -, hcluster⟩ := exists_clusterRoot hu hloop
    exact ⟨_, List.mem_cons_of_mem _ (List.mem_map_of_mem
      (List.mem_filter.mpr ⟨hroot, hopens⟩)), hcluster⟩
  rw [Site.own_eq_clusterRoot (List.mem_filter.mp hs).2,
    Site.own_eq_clusterRoot (List.mem_filter.mp ht).2]
  obtain ⟨room, hmem, hkey⟩ := hroom s hs
  obtain ⟨other, hmem', hkey'⟩ := hroom t ht
  rw [hkey, hkey']
  exact ⟨apart_groupId b output room hmem other hmem', congrArg _⟩

/-- **Nested loops.** Over any diagram, each loop of the markup is laid out in a group of a loop:
the flow that it iterates over controls this group, and the elements directly in the loop are its
members. Two loops are in the same group exactly if they have the same cluster root. The notes of
the group, before empty groups are taken out, tell the collection of the cluster root, and those of
the other loops of the cluster in their order. No group of a loop is in a group of a loop, neither
before empty groups are taken out nor after. -/
theorem lay_groups_by_cluster {b : Build} (hb : b.diagram.Coherent)
    (hnested : Diagram.Nested b.diagram.groups) (output : List RenderNode)
    (exported : List String) :
    let all := lay b output exported
    let kept := ofOutput b output exported
    (all.build.Live ↔ b.Live ∧ b.Free all.build) ∧
    ∃ (groupOf : Site → String) (nodeOf : Nat → String),
      all.controls.filter (·.label == "iterates over") =
        (loops output).map (fun s => s.iteration (groupOf s)) ∧
      all.elements = (sitesIn [] 0 output).filterMap (Site.placed? nodeOf) ∧
      (∀ s ∈ loops output, ∀ t ∈ loops output,
        (groupOf s = groupOf t ↔ s.clusterRoot = t.clusterRoot)) ∧
      (all.build.Live →
        (∀ s ∈ loops output,
          (∀ t ∈ sitesIn [] 0 output, t.placed = true → t.DirectlyIn s →
            all.build.diagram.HasMember (groupOf s) (nodeOf t.number)) ∧
          ∃ root ∈ loops output, s.clusterRoot = some root.number ∧
            ∃ g ∈ all.build.diagram.groups, g.id = groupOf s ∧ g.kind = GroupKind.loop.name ∧
              g.metadata = Metadata.joined [("collection", .str root.collection)]
                (mergedCollections output root)) ∧
        LoopsApart b.diagram.groupIds all.build.diagram) ∧
      (kept.build.Live → LoopsApart b.diagram.groupIds kept.build.diagram) := by
  intro all kept
  have hgrows := (inv_lay hb output exported).laying.grows
  refine ⟨hgrows.live.trans (by rw [and_true]), fun s => groupId b output s.own,
    elementId b output, ?_, elements_lay b output exported,
    fun s hs t ht => groupId_own_eq_iff b hs ht,
    fun hlive => ⟨fun s hs => ⟨fun t ht hplaced hin => ?_, exists_cluster_group hb hlive hs⟩,
      loopsApart_lay hb hlive⟩, fun hlive => ?_⟩
  · rw [controls_lay]
    exact filter_iteration _ _
  · have hmember := hasMember_home hb hlive ht (Site.memberId?_of_placed _ _ hplaced)
    rwa [Site.home_of_directlyIn hin] at hmember
  · obtain ⟨hall, -, hdiagram⟩ := diagram_ofOutput hb hnested output exported hlive
    show LoopsApart _ (ofOutput b output exported).build.diagram
    rw [hdiagram]
    exact (loopsApart_lay hb hall).without _

/-- A build of an empty diagram. -/
def tableBuild : Build := { session := Session.start { name := "Table" } [] }

/-- Rows with a loop over cells and one over notes, and, in a conditional, one over extras. -/
def table : List RenderNode :=
  [.loop { collection := "rows" }
    [.element { tag := "tr" } [.loop { collection := "cells" }
      [.element { tag := "td", display := ["cell"] } []]],
     .loop { collection := "notes" } [],
     .conditional { expression := "wide" } [.loop { collection := "extras" } []] []]]

/-- The place of the loop over rows. -/
def rowsSite : Site := ⟨⟨0, .loop { collection := "rows" }⟩, []⟩

theorem lay_groups_by_cluster_table :
    let all := lay tableBuild table []
    all.build.Live ∧ (loops table).map Site.collection = ["rows", "cells", "notes", "extras"] ∧
      (loops table).map Site.clusterRoot = [some 0, some 0, some 0, some 7] ∧
      ∃ groupOf : Site → String,
        (loops table).map groupOf = ["subgraph_1", "subgraph_1", "subgraph_1", "subgraph_3"] ∧
        ∃ g ∈ all.build.diagram.groups, g.id = groupOf rowsSite ∧
          g.metadata =
            [("collection", .str "rows"), ("merged", .list [.str "cells", .str "notes"])] := by
  intro all
  have hcoherent : tableBuild.diagram.Coherent := ⟨by decide, by decide, by decide⟩
  have hlive : all.build.Live := Option.isNone_iff_eq_none.mp (by decide +kernel)
  obtain ⟨-, groupOf, nodeOf, hflows, -, -, hall, -⟩ :=
    lay_groups_by_cluster hcoherent Diagram.nested_nil table []
  obtain ⟨-, root, hroot, hnumber, g, hg, hid, -, hnotes⟩ :=
    (hall hlive).1 rowsSite List.mem_cons_self
  obtain rfl : root = rowsSite := site_ext_of_mem (List.mem_of_mem_filter hroot)
    List.mem_cons_self (Option.some.inj hnumber).symm
  refine ⟨hlive, rfl, rfl, groupOf, ?_, g, hg, hid, hnotes⟩
  have hids := congrArg (List.map ControlFlow.group) hflows
  rw [List.map_map] at hids
  exact hids.symm.trans (by decide +kernel)

end Layout

end ComponentFlow

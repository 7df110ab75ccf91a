import ComponentFlow.Proofs.Arrangement
import ComponentFlow.Proofs.Runs

/-!
# The numbers of ids

Ids are drawn when nodes are made, and nodes are added to the diagram later, at first as parts of
contributions. Still the ids of a finished diagram are numbered without gaps and in order, stem by
stem (`execute_numbered`): a processor contributes every node that it makes, in the order in which
it makes them, and makes none where it shares one. Only groups leave gaps, for those that stay empty
are taken out. The outermost group is never taken out, so the first of them is always there.

The argument runs on lists of drawn ids (`Session.DrawsAll`), which can be put together. While the
hooks are processed, the ids of the diagram are all that were drawn since the analysis began. Every
stretch of the assembly adds exactly the ids that it draws, up to the pruning of groups.
-/

namespace ComponentFlow

open Session

namespace Session

/-- The ids that are drawn on the way from one session to another, in the order of `DrawsAll`, apart
from ids of groups, of which some may be missing. -/
def DrawsMost (s s' : Session) (ids : List String) : Prop :=
  ∃ all, s.DrawsAll s' all ∧ ids.Sublist all ∧ ∀ stem, stem ≠ "subgraph" →
    ids.filter (stemOf · == stem) = all.filter (stemOf · == stem)

lemma DrawsMost.append {s s' s'' : Session} {ids ids' : List String} (h : s.DrawsMost s' ids)
    (h' : s'.DrawsAll s'' ids') (hle : s.CountsLe s') (hle' : s'.CountsLe s'') :
    s.DrawsMost s'' (ids ++ ids') := by
  obtain ⟨all, hall, hsublist, hfull⟩ := h
  refine ⟨all ++ ids', hall.append h' hle hle', hsublist.append (List.Sublist.refl _), ?_⟩
  intro stem hstem
  rw [List.filter_append, List.filter_append, hfull stem hstem]

end Session

namespace Diagram

/-- A diagram in which the ids of each stem are numbered from zero on, in order. Of those of groups
some may be missing, though not the first one. -/
structure Numbered (d : Diagram) : Prop where
  full : ∀ stem, stem ≠ "subgraph" →
    ∃ n, d.ids.filter (stemOf · == stem) = (List.range n).map (idOf stem)
  groups : ∃ ks, d.ids.filter (stemOf · == "subgraph") = (0 :: ks).map (idOf "subgraph") ∧
    (0 :: ks).Pairwise (· < ·)

/-- A diagram is numbered if at most ids of groups are missing of those that were drawn, and the
first one of them is there. -/
lemma numbered_of_drawsMost {d : Diagram} {s₀ s : Session} (hzero : s₀.counters = [])
    (hdrawn : s₀.DrawsMost s d.ids) (hfirst : idOf "subgraph" 0 ∈ d.ids) : d.Numbered := by
  obtain ⟨ids, hall, hsublist, hfull⟩ := hdrawn
  have hfilter : ∀ stem, ids.filter (stemOf · == stem) =
      (List.range (s.count stem)).map (idOf stem) := by
    intro stem
    have hcount : s₀.count stem = 0 := by simp [count, hzero]
    rw [hall stem, hcount, Nat.sub_zero, List.range_eq_range']
  refine ⟨fun stem hstem => ⟨s.count stem, (hfull stem hstem).trans (hfilter stem)⟩, ?_⟩
  have hgroups : (d.ids.filter (stemOf · == "subgraph")).Sublist
      ((List.range (s.count "subgraph")).map (idOf "subgraph")) :=
    hfilter "subgraph" ▸ hsublist.filter _
  obtain ⟨ks, hks, heq⟩ := List.sublist_map_iff.mp hgroups
  have hpairwise : ks.Pairwise (· < ·) := List.pairwise_lt_range.sublist hks
  have hzero_mem : 0 ∈ ks := by
    have hmem : idOf "subgraph" 0 ∈ ks.map (idOf "subgraph") :=
      heq ▸ List.mem_filter.mpr ⟨hfirst, by simp⟩
    obtain ⟨k, hk, hid⟩ := List.mem_map.mp hmem
    exact (idOf_inj.mp hid).2 ▸ hk
  -- no number comes before zero
  cases ks with
  | nil => cases hzero_mem
  | cons k rest =>
    obtain rfl | hrest := List.mem_cons.mp hzero_mem
    · exact ⟨rest, heq, hpairwise⟩
    · exact absurd ((List.pairwise_cons.mp hpairwise).1 0 hrest) (Nat.not_lt_zero k)

/-- Groups stay, and they keep their parents. -/
lemma Edits.exists_group {k : Bool} {d d' : Diagram} {g : Group} (h : Edits k d d')
    (hg : g ∈ d.groups) : ∃ g' ∈ d'.groups, g'.id = g.id ∧ g'.parent = g.parent := by
  refine h.preserve (P := fun d => ∃ g' ∈ d.groups, g'.id = g.id ∧ g'.parent = g.parent)
    (fun {d d'} hedit hd => ?_) ⟨g, hg, rfl, rfl⟩
  obtain ⟨g', hg', hkept⟩ := hd
  cases hedit with
  | node _ hok =>
    obtain ⟨-, -, rfl⟩ := addNode_eq_ok_iff.mp hok
    exact ⟨g', hg', hkept⟩
  | group hok =>
    obtain ⟨-, -, rfl⟩ := addGroup_eq_ok_iff.mp hok
    exact ⟨g', List.mem_append_left _ hg', hkept⟩
  | edge _ hok =>
    obtain ⟨-, -, rfl⟩ := addEdge_eq_ok_iff.mp hok
    exact ⟨g', hg', hkept⟩
  | modifyNode _ => exact ⟨g', hg', hkept⟩
  | modifyGroup hf =>
    refine ⟨_, List.mem_map_of_mem hg', ?_⟩
    split
    · exact ⟨(hf g').1.trans hkept.1, (hf g').2.trans hkept.2⟩
    · exact hkept

end Diagram

/-! ## While the hooks are processed -/

namespace Analyzer

variable {a : Analyzer} {r : Registry} {c : Component} {source : Option String} {s' : Session}
  {is : List Invocation} {outcomes : List Outcome}

/-- With built-in processors the ids of the diagram are those drawn since the analysis began. -/
lemma drawsAll_dispatchAll (hr : ∀ p ∈ r.entries, p ∈ builtinProcessors)
    (h : dispatchAll r (a.begun c source) is = (s', .ok outcomes)) :
    (a.begun c source).DrawsAll s' s'.diagram.ids := by
  have hstep : ∀ s i p, (s.Sound ∧ (a.begun c source).CountsLe s ∧
      (a.begun c source).DrawsAll s s.diagram.ids) → p ∈ r.entries →
      p.accepts i s.component.framework = true →
      ((Registry.handOver s p i).1.Sound ∧ (a.begun c source).CountsLe (Registry.handOver s p i).1 ∧
        (a.begun c source).DrawsAll (Registry.handOver s p i).1
          (Registry.handOver s p i).1.diagram.ids) ∧ True := by
    rintro s i p ⟨hs, hcounts, hdrawn⟩ hp haccepts
    obtain ⟨s₁, con, -, hoffers, heq⟩ :=
      Registry.handOver_serves hs (serves_of_mem_builtin p (hr p hp)) haccepts
    rw [heq]
    refine ⟨⟨hoffers.sound hs, hcounts.trans hoffers.counts, ?_⟩, trivial⟩
    -- the new nodes are those whose ids were drawn on the way, in this order
    have hall := hdrawn.append hoffers.drawn hcounts hoffers.counts
    have hids : (s₁.applied con).diagram.ids = s.diagram.ids ++ con.nodes.map (·.id) := by
      rw [ids_applied, hoffers.groupless, hoffers.diagram, List.map_nil, List.append_nil]
    rw [hids]
    exact hall
  exact (dispatchAll_preserve (Q := fun _ => True) hstep
    ⟨sound_begun, CountsLe.refl _, drawsAll_of_counters_eq rfl⟩ h).1.2.2

end Analyzer

/-! ## While the diagram is assembled -/

namespace Layout

open Build

/-- A build from which another one comes by edits, if nothing is refused. -/
def Precedes (b₀ b : Build) : Prop :=
  Diagram.Edits true b₀.diagram b.diagram ∧ (b.Live → b₀.Live)

lemma steady_precedes (b₀ : Build) : Steady (Precedes b₀) := by
  have hgrows : ∀ {c u b b'}, Precedes b₀ b → Grows true c u b b' → Precedes b₀ b' :=
    fun h hgrows => ⟨h.1.trans hgrows.edits, fun hlive => h.2 (hgrows.live.mp hlive).1⟩
  exact
    { addNode := fun b e group h => hgrows h (grows_addNode true b (e.sketch group))
      openGroup := fun b label parent kind metadata h =>
        hgrows h (grows_openGroup b label parent kind metadata)
      modifyGroup := fun b id _ hf h => hgrows h (grows_modifyGroup b id hf)
      annotate := fun b id value h => hgrows h (grows_annotate true b id value (by simp [noteKeys]))
      record := fun b level origin message h =>
        hgrows h (grows_record true b level origin message) }

/-- The outermost group has the first id that the layout draws for a group, and it is not taken
out. -/
lemma root_mem_ofOutput {b : Build} (hb : b.diagram.Coherent)
    (hnested : Diagram.Nested b.diagram.groups) (output : List RenderNode) (exported : List String)
    (hlive : (ofOutput b output exported).build.Live) :
    idOf "subgraph" (b.session.count "subgraph") ∈
      (ofOutput b output exported).build.diagram.ids := by
  obtain ⟨hlay, -, hdiagram⟩ := diagram_ofOutput hb hnested output exported hlive
  obtain ⟨hedits, hopened⟩ : Precedes (b.openGroup "JSX Output" none GroupKind.output.name []).2
      (lay b output exported).build :=
    (steady_precedes _).lay output exported ⟨Diagram.Edits.refl true _, id⟩
  have hroot : b.newGroup "JSX Output" none GroupKind.output.name [] ∈
      (b.openGroup "JSX Output" none GroupKind.output.name []).2.diagram.groups := by
    obtain ⟨hstopped, -⟩ | ⟨-, d', hok, heq⟩ :=
      b.openGroup_cases "JSX Output" none GroupKind.output.name []
    · exact absurd (hopened hlay) hstopped
    · obtain ⟨-, -, rfl⟩ := Diagram.addGroup_eq_ok_iff.mp hok
      rw [heq]
      simp
  obtain ⟨g, hg, hid, hparent⟩ := hedits.exists_group hroot
  have hcoherent := (inv_lay hb output exported).laying.grows.edits.coherent hb
  rw [hdiagram, Diagram.mem_ids_without, show idOf "subgraph" (b.session.count "subgraph") = g.id
    from hid.symm]
  exact ⟨hcoherent.groups_sublist.subset (List.mem_map_of_mem hg),
    not_mem_hollowIds_of_outermost hcoherent.groupIds_nodup hg hparent⟩

/-- Without groups before it, the layout of markup adds the ids that it draws, apart from those of
groups that are taken out. -/
lemma drawsMost_ofOutput {s₀ : Session} {b : Build} (hb : b.diagram.Coherent)
    (hgroups : b.diagram.groups = []) (output : List RenderNode) (exported : List String)
    (hlive : (ofOutput b output exported).build.Live) (hle : s₀.CountsLe b.session)
    (hdrawn : s₀.DrawsAll b.session b.diagram.ids) :
    s₀.DrawsMost (ofOutput b output exported).build.session
      (ofOutput b output exported).build.diagram.ids := by
  have hnested : Diagram.Nested b.diagram.groups := hgroups ▸ Diagram.nested_nil
  obtain ⟨hlay, hcounters, hdiagram⟩ := diagram_ofOutput hb hnested output exported hlive
  have hlaying := (inv_lay hb output exported).laying
  obtain ⟨new, hids, hnew⟩ := hlaying.grows.added hlay
  obtain ⟨laid, hlaid, hstem⟩ := hlaying.laid
  refine ⟨(lay b output exported).build.diagram.ids, ?_, ?_, ?_⟩
  · rw [hids]
    exact (hdrawn.append hnew hle hlaying.grows.counts).congr hcounters
  · rw [hdiagram, Diagram.ids_without]
    exact List.filter_sublist
  · intro stem hne
    rw [hdiagram, Diagram.ids_without, List.filter_filter]
    refine List.filter_congr fun id _ => ?_
    by_cases h : stemOf id = stem
    · have hkept : id ∉ (hollow (lay b output exported).build.diagram.groups).map (·.id) := by
        intro hgone
        obtain ⟨g, hg, rfl⟩ := List.mem_map.mp hgone
        have hg' : g ∈ laid := by simpa [hlaid, hgroups] using mem_of_mem_hollow hg
        obtain ⟨k, hk⟩ := hstem.stem g hg'
        rw [hk, stemOf_idOf] at h
        exact hne h.symm
      simpa [h] using hkept
    · simp [h]

end Layout

namespace Assembly

open Build

/-- The first group is there after the layout: it is the outermost one, unless another node was
given its id before. -/
lemma first_mem_layout {s₀ s : Session} (h : s.Sound) (hzero : s₀.counters = [])
    (hdrawn : s₀.DrawsAll (routed s).session (routed s).diagram.ids) :
    idOf "subgraph" 0 ∈ (layout s).build.diagram.ids := by
  obtain ⟨-, -, hlayout, -⟩ := live_stages_of_sound h
  have hcoherent : (routed s).diagram.Coherent := (grows_before s).edits.coherent h.coherent
  have hgroups : (routed s).diagram.groups = [] := (groups_routed s).trans h.groupless
  by_cases hnone : (routed s).session.count "subgraph" = 0
  · have hroot := Layout.root_mem_ofOutput hcoherent (hgroups ▸ Diagram.nested_nil) _ _ hlayout
    rwa [hnone] at hroot
  · have hfirst : idOf "subgraph" 0 ∈ (routed s).diagram.ids :=
      hdrawn.mem_iff.mpr ⟨"subgraph", 0, by simp [Session.count, hzero], by omega, rfl⟩
    refine ((settled_layout h.coherent h.nested).kept hlayout _ hfirst).mpr ?_
    rw [hgroups]
    exact List.not_mem_nil

/-- **The ids of an assembled diagram.** They are numbered if those of the session are. -/
lemma numbered_assemble {s₀ s : Session} (h : s.Sound) (hzero : s₀.counters = [])
    (hdrawn : s₀.DrawsAll s s.diagram.ids) : (assemble s).diagram.Numbered := by
  have hle : ∀ s' : Session, s₀.CountsLe s' := fun s' stem => by simp [Session.count, hzero]
  obtain ⟨-, hrouted, hlayout, hconnected⟩ := live_stages_of_sound h
  have hafter := grows_connected h.coherent h.nested
  have hrouted_drawn : s₀.DrawsAll (routed s).session (routed s).diagram.ids := by
    obtain ⟨new, hids, hnew⟩ := (grows_before s).added hrouted
    rw [hids]
    exact hdrawn.append hnew (hle s) (grows_before s).counts
  have hlayout_drawn : s₀.DrawsMost (layout s).build.session (layout s).build.diagram.ids :=
    Layout.drawsMost_ofOutput ((grows_before s).edits.coherent h.coherent)
      ((groups_routed s).trans h.groupless) _ _ hlayout (hle _) hrouted_drawn
  obtain ⟨new, hids, hnew⟩ := hafter.added hconnected
  have hkept : (assemble s).diagram.ids = (connected s).diagram.ids := by
    rw [diagram_of_sound h, Diagram.ids_replaceEdges]
  have hconnected_drawn : s₀.DrawsMost (connected s).session (assemble s).diagram.ids := by
    rw [hkept, hids]
    exact hlayout_drawn.append hnew (hle _) hafter.counts
  refine Diagram.numbered_of_drawsMost hzero hconnected_drawn ?_
  rw [hkept]
  exact hafter.mem_ids hconnected (first_mem_layout h hzero hrouted_drawn)

end Assembly

namespace Analyzer

/-- **Stable ids.** Whatever is analysed with any selection of built-in processors that discovery
accepts, the ids of the diagram are numbered: those of each stem but that of groups are the stem
with the numbers from zero to some number, and they stand in the diagram in this order. The ids of
groups are in order, too, and start with the number zero. -/
theorem execute_numbered (a : Analyzer) (c : Component) (source : Option String) (sel : Selection)
    (ps : List Processor) (hsel : discover sel [] = .ok ps)
    (hr : a.registry = createRegistry sel []) :
    ∃ run, (a.execute c source).2 = .ok run ∧ run.diagram.Numbered := by
  obtain ⟨hbuiltin, s', outcomes, hall, hrun⟩ := execute_of_discover c source hsel hr
  refine ⟨_, hrun, ?_⟩
  obtain ⟨hdiagram, hcounters, -⟩ := recordUnhandled_kept s' outcomes
  rw [Run.diagram, (recordFaults_kept _).1]
  have hzero : (a.begun c source).counters = [] := rfl
  have hsound := sound_recordUnhandled (sound_dispatchAll hbuiltin sound_begun hall).1 outcomes
  refine Assembly.numbered_assemble hsound hzero ?_
  rw [hdiagram]
  exact (drawsAll_dispatchAll hbuiltin hall).congr hcounters

/-- The loop over pages shows nothing, so the group with the number two is missing. -/
theorem execute_numbered_gallery :
    ∃ run, (reactAnalyzer.execute Assembly.gallery none).2 = .ok run ∧
      run.diagram.ids = ["process_0", "process_1", "subgraph_0", "subgraph_1", "jsx_0",
        "subgraph_3", "jsx_1", "subgraph_4"] ∧ run.diagram.Numbered := by
  obtain ⟨run, hrun, hnumbered⟩ :=
    execute_numbered reactAnalyzer Assembly.gallery none reactOnly _ discover_reactOnly rfl
  refine ⟨run, hrun, ?_, hnumbered⟩
  obtain ⟨-, -, run', hrun', hdiagram⟩ := execute_discovered Assembly.gallery none
    discover_reactOnly (show reactAnalyzer.registry = _ from rfl)
  obtain rfl : run' = run := Except.ok.inj (hrun'.symm.trans hrun)
  rw [hdiagram, dispatched_eq (a := reactAnalyzer) (c := Assembly.gallery) rfl]
  decide +kernel

end Analyzer

end ComponentFlow

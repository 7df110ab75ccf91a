import ComponentFlow.Proofs.Merging
import ComponentFlow.Proofs.Pruning
import ComponentFlow.Proofs.Requests
import ComponentFlow.Proofs.Routines

/-!
# When a diagram can be assembled

The assembly of a diagram, stage by stage: props and processes get nodes, names are gathered, the
links recorded about nodes are followed, processes are linked, markup is laid out, and the markup is
linked. Each stage goes through under a condition of its own. Together they say exactly when a
session can be assembled (`live_assemble_iff`): the session is `Harmless`.

A session to which only the library has contributed is harmless. Contributions of others are checked
less strictly than the assembly expects, and the fields of `Harmless` are the ways in which they can
stop it.
-/

namespace ComponentFlow

/-! ## Merged edges of a diagram -/

namespace Diagram

lemma Coherent.merge {d : Diagram} (h : d.Coherent) :
    (d.replaceEdges (mergeEdges d.edges)).Coherent := by
  refine ⟨h.ids_nodup, fun e he => ?_, h.groups_sublist⟩
  obtain ⟨e', he', hsource, htarget, -⟩ := exists_of_mem_mergeEdges he
  rw [hsource, htarget]
  exact h.ends e' he'

lemma Tidy.merge {d : Diagram} (h : d.Tidy) : (d.replaceEdges (mergeEdges d.edges)).Tidy := by
  refine ⟨fun e he => ?_, h.grouped⟩
  obtain ⟨e', he', hsource, htarget, -⟩ := exists_of_mem_mergeEdges he
  rw [hsource, htarget]
  exact h.loopless e' he'

lemma nodup_merge (d : Diagram) :
    ((d.replaceEdges (mergeEdges d.edges)).edges.map fun e => (e.source, e.target, e.base)).Nodup :=
  nodup_mergeEdges d.edges

@[simp] lemma ids_replaceEdges {d : Diagram} {es : List Edge} : (d.replaceEdges es).ids = d.ids :=
  rfl

@[simp] lemma node?_replaceEdges {d : Diagram} {es : List Edge} {id : String} :
    (d.replaceEdges es).node? id = d.node? id := rfl

lemma edges_replaceEdges (d : Diagram) (es : List Edge) : (d.replaceEdges es).edges = es := rfl

lemma groups_replaceEdges (d : Diagram) (es : List Edge) :
    (d.replaceEdges es).groups = d.groups := rfl

@[simp] lemma parented_replaceEdges {d : Diagram} {es : List Edge} :
    (d.replaceEdges es).Parented ↔ d.Parented := Iff.rfl

lemma parented_congr {d d' : Diagram} (h : d'.groups = d.groups) : d'.Parented ↔ d.Parented := by
  rw [Parented, Parented, groupIds, groupIds, h]

/-- A diagram as it should be: ids are distinct, edges lead between different nodes of the diagram,
no two of them say the same, and the groups are exactly the nodes that stand for one. -/
structure WellFormed (d : Diagram) : Prop where
  ids_nodup : d.ids.Nodup
  ends : ∀ e ∈ d.edges, e.source ∈ d.ids ∧ e.target ∈ d.ids
  loopless : ∀ e ∈ d.edges, e.source ≠ e.target
  merged : (d.edges.map fun e => (e.source, e.target, e.base)).Nodup
  grouped : d.groupIds = (d.nodes.filter (·.type == NodeType.group.name)).map (·.id)

end Diagram

namespace Assembly

open Build

/-! ## Stages -/

/-- The diagram with props and processes, the props by name, and the processes. -/
def placed (s : Session) : Build × List (String × String) × List PlacedRoutine :=
  addNodes { session := s } s.component

/-- The names in the diagram with props and processes. -/
def index (s : Session) : NameIndex :=
  NameIndex.ofNodes (placed s).1.diagram.nodes

/-- The links that follow from what is recorded about nodes. -/
def recordedLinks (s : Session) : List Link :=
  initializerLinks (placed s).2.1 (placed s).1.diagram.nodes ++
    dependencyLinks (index s) (placed s).1.diagram.nodes

/-- The diagram with props and processes, unless their names cannot be gathered. -/
def named (s : Session) : Build :=
  (index s).fault.elim (placed s).1 fun e => (placed s).1.stop (.unreadable e)

/-- The diagram with all links between variables. -/
def related (s : Session) : Build :=
  (named s).followAll (recordedLinks s)

/-- The diagram with all links of processes. -/
def routed (s : Session) : Build :=
  linkRoutines (index s) (related s) (placed s).2.2

/-- The layout of the markup. -/
def layout (s : Session) : Layout :=
  Layout.ofOutput (routed s) s.component.output (((placed s).2.2.filter (·.exported)).map (·.id))

/-- The number of the first handler. -/
def firstHandler (s : Session) : Nat :=
  (layout s).build.session.count "handler"

/-- The links of the elements, each with the number of the next handler at that time. -/
def markupLinks (s : Session) : List (Nat × Link) :=
  linksFrom (index s) (firstHandler s) (requests (index s) (layout s).elements)

/-- The diagram with all links. -/
def connected (s : Session) : Build :=
  (requests (index s) (layout s).elements).foldl (meet (index s))
    ((layout s).controls.foldl (linkControl (index s)) (layout s).build)

/-- Control flow has no handlers. -/
lemma count_controls (s : Session) :
    ((layout s).controls.foldl (linkControl (index s)) (layout s).build).session.count "handler" =
      firstHandler s := by
  rw [Session.count, (linkControls_kept (layout s).build (layout s).controls).1, firstHandler,
    Session.count]

lemma diagram_named (s : Session) : (named s).diagram = (placed s).1.diagram := by
  rw [named]
  cases (index s).fault <;> rfl

/-- The stages make up the assembly. -/
lemma assemble_eq (s : Session) : assemble s = finish (connected s) := by
  -- links are read off the nodes before them, and links do not change nodes
  have hrelated : related s = ((named s).followAll (initializerLinks (placed s).2.1
      (named s).diagram.nodes)).followAll (dependencyLinks (index s)
        ((named s).followAll
          (initializerLinks (placed s).2.1 (named s).diagram.nodes)).diagram.nodes) := by
    rw [(followAll_kept _ _).2, diagram_named, related, recordedLinks, followAll, List.foldl_append]
    rfl
  rw [connected, ← foldl_linkElement, layout, routed, hrelated]
  rfl

/-! ## Up to the layout -/

/-- The ids of the nodes before links are followed. -/
def IsPlaced (s : Session) (id : String) : Prop :=
  id ∈ (placed s).1.diagram.ids ∨ s.Draws (placed s).1.session id

lemma grows_placed (s : Session) : Grows false True [] { session := s } (placed s).1 :=
  (grows_addNodes { session := s } s.component).1

lemma knows_placed (s : Session) : (placed s).1.Knows (IsPlaced s) :=
  Knows.or (fun _ _ hid => hid) (grows_placed s).knows_drawn

lemma isPlaced_of_names {s : Session} {id : String} (h : (index s).Names id) : IsPlaced s id :=
  .inl (NameIndex.mem_ids_of_names h)

lemma grows_named (s : Session) :
    Grows false ((index s).fault = none) [] (placed s).1 (named s) := by
  rw [named]
  cases (index s).fault with
  | none => exact (Grows.refl false _).congr fun _ _ => by simp
  | some e => exact (grows_stop false _ _).congr fun _ _ => by simp

lemma recordedLinks_among (s : Session) : ∀ l ∈ recordedLinks s, l.Among (IsPlaced s) := by
  have hnodes : ∀ n ∈ (placed s).1.diagram.nodes, IsPlaced s n.id :=
    fun n hn => .inl (List.mem_map_of_mem hn)
  refine List.forall_mem_append.mpr ⟨initializerLinks_among (fun e he => .inr ?_) hnodes,
    dependencyLinks_among (fun id hid => isPlaced_of_names hid) hnodes⟩
  exact (grows_addNodes { session := s } s.component).2.1 e he

lemma grows_related (s : Session) :
    Grows false (∀ l ∈ recordedLinks s, l.Readable) ((recordedLinks s).flatMap Link.leaves)
      (named s) (related s) :=
  grows_followAll_among false ((grows_named s).knows (knows_placed s)) (recordedLinks_among s)

lemma grows_routed (s : Session) :
    Grows false
      (∀ p ∈ (placed s).2.2, ∀ l ∈ callLinks (index s) p.id p.routine.calls, l.Readable) []
      (related s) (routed s) := by
  have hknows := (grows_related s).knows ((grows_named s).knows (knows_placed s))
  refine grows_linkRoutines (placed s).2.2 (hknows.mono fun id hid => isPlaced_of_names hid)
    (hknows.mono ?_)
  rintro id ⟨p, hp, hid⟩
  exact .inr ((grows_addNodes { session := s } s.component).2.2 p hp id hid)

/-- Whether what is recorded about nodes can be read. -/
structure Legible (s : Session) : Prop where
  names : (index s).fault = none
  links : ∀ l ∈ recordedLinks s, l.Readable
  calls : ∀ p ∈ (placed s).2.2, ∀ l ∈ callLinks (index s) p.id p.routine.calls, l.Readable

/-- The stages before the layout. -/
lemma grows_before (s : Session) :
    Grows false (Legible s) ((recordedLinks s).flatMap Link.leaves) { session := s }
      (routed s) := by
  have hnamed := (grows_placed s).trans (grows_named s) fun _ => Iff.rfl
  have hrelated := hnamed.trans (grows_related s) fun _ => Iff.rfl
  have hrouted := hrelated.trans (grows_routed s) fun _ => Iff.rfl
  rw [List.append_nil] at hrouted
  refine hrouted.congr fun _ _ => ?_
  exact ⟨fun ⟨⟨⟨_, hnames⟩, hlinks⟩, hcalls⟩ => ⟨hnames, hlinks, hcalls⟩,
    fun h => ⟨⟨⟨trivial, h.names⟩, h.links⟩, h.calls⟩⟩

/-- What was placed is there when all links of the processes are followed. -/
lemma knows_routed (s : Session) : (routed s).Knows (IsPlaced s) :=
  (grows_routed s).knows ((grows_related s).knows ((grows_named s).knows (knows_placed s)))

/-! ## After the layout -/

lemma groups_routed (s : Session) : (routed s).diagram.groups = s.diagram.groups :=
  (grows_before s).edits.groups_eq

lemma settled_layout {s : Session} (hs : s.diagram.Coherent)
    (hnested : Diagram.Nested s.diagram.groups) : Layout.Settled (routed s) (layout s) := by
  refine Layout.settled_ofOutput ((grows_before s).edits.coherent hs) ?_ _ _
  rw [groups_routed]
  exact hnested

/-- Nodes with a name are still there after the layout, unless they stand for a group that is taken
out. -/
lemma mem_layout_iff {s : Session} (hs : s.diagram.Coherent)
    (hnested : Diagram.Nested s.diagram.groups) (hlive : (layout s).build.Live) {id : String}
    (hid : (index s).Names id) :
    id ∈ (layout s).build.diagram.ids ↔ id ∉ hollowIds s.diagram.groups := by
  have hsettled := settled_layout hs hnested
  rw [← groups_routed]
  exact hsettled.kept hlive id
    (knows_routed s (hsettled.live.mp hlive).1 id (isPlaced_of_names hid))

/-- Whether what the markup asks for is there. Handlers may have the ids of groups that are taken
out. -/
structure Connectable (s : Session) : Prop where
  controls : ∀ c ∈ (layout s).controls, ∀ e ∈ controlEdges (index s) c,
    e.source ∉ hollowIds s.diagram.groups
  markup : ∀ p ∈ markupLinks s, p.2.Fits fun id =>
    id ∉ hollowIds s.diagram.groups ∨ IsHandler (firstHandler s) p.1 id

/-- The stages after the layout. -/
lemma grows_connected {s : Session} (hs : s.diagram.Coherent)
    (hnested : Diagram.Nested s.diagram.groups) :
    Grows false (Connectable s) [] (layout s).build (connected s) := by
  have hsettled := settled_layout hs hnested
  have hcontrols := grows_linkControls (x := index s) (b := (layout s).build) (layout s).controls
    fun hlive id ⟨c, hc, hid⟩ => hid ▸ (hsettled.controls hlive c hc).1
  have hnodes := (linkControls_kept (x := index s) (layout s).build (layout s).controls).2
  have hmarkup := grows_meetAll (x := index s)
    ((layout s).controls.foldl (linkControl (index s)) (layout s).build)
    (requests (index s) (layout s).elements)
  have hids : ((layout s).controls.foldl (linkControl (index s)) (layout s).build).diagram.ids =
      (layout s).build.diagram.ids := by
    rw [Diagram.ids, hnodes, Diagram.ids]
  have hflow := linksFrom_requests_isFlow (x := index s) (firstHandler s) (layout s).elements
  have hleaves : (markupLinks s).flatMap (fun p => p.2.leaves) = [] :=
    List.flatMap_eq_nil_iff.mpr fun p hp => (hflow p hp).2
  rw [count_controls, hids, ← markupLinks, hleaves] at hmarkup
  refine (hcontrols.trans hmarkup fun _ => Iff.rfl).congr fun hlive _ => ?_
  have hcontrols_iff : (∀ c ∈ (layout s).controls, ∀ e ∈ controlEdges (index s) c,
      e.source ∈ (layout s).build.diagram.ids) ↔ ∀ c ∈ (layout s).controls,
        ∀ e ∈ controlEdges (index s) c, e.source ∉ hollowIds s.diagram.groups :=
    forall₂_congr fun c _ => forall₂_congr fun e he =>
      mem_layout_iff hs hnested hlive (controlEdges_known he).1
  have hmarkup_iff : (∀ p ∈ markupLinks s, p.2.Fits fun id =>
      id ∈ (layout s).build.diagram.ids ∨ IsHandler (firstHandler s) p.1 id) ↔
      ∀ p ∈ markupLinks s, p.2.Fits fun id =>
        id ∉ hollowIds s.diagram.groups ∨ IsHandler (firstHandler s) p.1 id := by
    refine forall₂_congr fun p hp => (hflow p hp).1.fits_congr fun id hid => ?_
    obtain (hid | ⟨q, hq, rfl⟩) | hid := hid
    · rw [mem_layout_iff hs hnested hlive hid]
    · obtain ⟨hmem, hkept⟩ := hsettled.elements hlive q hq
      rw [groups_routed] at hkept
      exact ⟨fun _ => .inl hkept, fun _ => .inl hmem⟩
    · exact ⟨fun _ => .inr hid, fun _ => .inr hid⟩
  rw [hcontrols_iff, hmarkup_iff]
  exact ⟨fun h => ⟨h.1, h.2⟩, fun h => ⟨h.controls, h.markup⟩⟩

/-! ## The whole assembly -/

/-- What finishing a diagram comes to. -/
lemma finish_cases (b : Build) :
    (b.unlabelled ≠ [] ∧ ∃ e, finish b = b.stop e) ∨
      (b.unlabelled = [] ∧ ∃ message, finish b = (b.record .debug "assembler" message).change
        fun d => .ok (d.replaceEdges (mergeEdges b.diagram.edges))) := by
  cases hleft : b.unlabelled with
  | nil =>
    refine .inr ⟨rfl, ?_⟩
    simp only [finish, hleft]
    exact ⟨_, rfl⟩
  | cons u rest =>
    refine .inl ⟨by simp, ?_⟩
    simp only [finish, hleft]
    exact ⟨_, rfl⟩

lemma finish_kept (b : Build) : (finish b).session.counters = b.session.counters ∧
    (finish b).session.rest = b.session.rest := by
  obtain ⟨-, e, heq⟩ | ⟨-, message, heq⟩ := finish_cases b
  · rw [heq]
    exact ⟨rfl, rfl⟩
  · rw [heq]
    obtain ⟨hcounters, hrest, -⟩ := b.record_kept .debug "assembler" message
    obtain ⟨-, heq⟩ | ⟨-, d', -, heq⟩ | ⟨-, e, -, heq⟩ :=
      (b.record .debug "assembler" message).change_cases fun d =>
        .ok (d.replaceEdges (mergeEdges b.diagram.edges))
    all_goals
      rw [heq]
      exact ⟨hcounters, hrest⟩

/-- A diagram can be finished if all its edges have labels. -/
lemma live_finish {b : Build} : (finish b).Live ↔ b.Live ∧ b.unlabelled = [] := by
  obtain ⟨hleft, e, heq⟩ | ⟨hleft, message, heq⟩ := finish_cases b
  · rw [heq]
    simp [Live, stop, hleft]
  · obtain ⟨-, -, -, -, hrecord⟩ := b.record_kept .debug "assembler" message
    rw [heq, and_iff_left hleft, ← hrecord]
    obtain ⟨-, heq⟩ | ⟨hlive, d', -, heq⟩ | ⟨-, e, herror, -⟩ :=
      (b.record .debug "assembler" message).change_cases fun d =>
        .ok (d.replaceEdges (mergeEdges b.diagram.edges))
    · rw [heq]
    · rw [heq]
      exact ⟨fun _ => hlive, fun _ => hlive⟩
    · cases herror

lemma diagram_finish {b : Build} (hlive : (finish b).Live) :
    (finish b).diagram = b.diagram.replaceEdges (mergeEdges b.diagram.edges) := by
  obtain ⟨hb, hleft⟩ := live_finish.mp hlive
  obtain ⟨hleft', -⟩ | ⟨-, message, heq⟩ := finish_cases b
  · exact absurd hleft hleft'
  · obtain ⟨-, -, hdiagram, -, hrecord⟩ := b.record_kept .debug "assembler" message
    obtain ⟨hstopped, -⟩ | ⟨-, d', hok, heq'⟩ | ⟨-, e, herror, -⟩ :=
      (b.record .debug "assembler" message).change_cases fun d =>
        .ok (d.replaceEdges (mergeEdges b.diagram.edges))
    · exact absurd (hrecord.mpr hb) hstopped
    · obtain rfl := Except.ok.inj hok
      rw [heq, heq', ← hdiagram]
      rfl
    · cases herror

/-- A session whose diagram can be assembled. -/
structure Harmless (s : Session) : Prop where
  /-- No contribution has an id that the assembly draws before groups are taken out. -/
  fresh : ∀ id, s.Draws (layout s).build.session id → id ∉ s.diagram.ids
  /-- An id of a handler is at most that of a group which has been taken out by then. -/
  handlers : ∀ id, (layout s).build.session.Draws (assemble s).session id →
    id ∈ s.diagram.ids → id ∈ hollowIds s.diagram.groups
  /-- What is recorded about nodes can be read. -/
  legible : Legible s
  /-- Labels of dependencies are texts, unless the edge goes with a group. -/
  labelled : ∀ u ∈ (recordedLinks s).flatMap Link.leaves,
    u.1 ∈ hollowIds s.diagram.groups ∨ u.2.1 ∈ hollowIds s.diagram.groups
  /-- Groups that end up empty are members of their parents. -/
  listed : ∀ g ∈ hollow s.diagram.groups, g.Listed s.diagram.groups
  /-- The markup does not refer to groups that are taken out. -/
  connectable : Connectable s

section Stages

variable {s : Session} (hs : s.diagram.Coherent) (hnested : Diagram.Nested s.diagram.groups)

include hs hnested

/-- The ids drawn after the layout are free if those of them that are taken are ids of groups that
are taken out. -/
lemma free_connected_iff (hlive : (layout s).build.Live) :
    (layout s).build.Free (connected s) ↔
      ∀ id, (layout s).build.session.Draws (connected s).session id → id ∈ s.diagram.ids →
        id ∈ hollowIds s.diagram.groups := by
  have hbefore := grows_before s
  have hsettled := settled_layout hs hnested
  have hrouted := (hsettled.live.mp hlive).1
  have hkept := hsettled.kept hlive
  rw [groups_routed] at hkept
  constructor
  · intro hfree id hid hmem
    by_contra hno
    exact hfree id hid ((hkept id (hbefore.mem_ids hrouted hmem)).mpr hno)
  · intro hhandlers id hid hmem
    obtain hmem' | hdrawn := hsettled.ids hlive id hmem
    · obtain hold | hdrawn := (hbefore.ids hrouted id).mp hmem'
      · exact (hkept id hmem').mp hmem (hhandlers id hid hold)
      · exact hid.not_draws (hdrawn.mono hsettled.counts)
    · exact hid.not_draws hdrawn

lemma unlabelled_layout_iff (hlive : (layout s).build.Live) :
    (layout s).build.unlabelled = [] ↔ ∀ u ∈ (recordedLinks s).flatMap Link.leaves,
      u.1 ∈ hollowIds s.diagram.groups ∨ u.2.1 ∈ hollowIds s.diagram.groups := by
  have hsettled := settled_layout hs hnested
  have hleft : (routed s).unlabelled = (recordedLinks s).flatMap Link.leaves :=
    (grows_before s).left
  have hends : ∀ u ∈ (routed s).unlabelled,
      u.1 ∈ (routed s).diagram.ids ∧ u.2.1 ∈ (routed s).diagram.ids := by
    intro u hu
    rw [hleft] at hu
    obtain ⟨l, hl, hu⟩ := List.mem_flatMap.mp hu
    obtain ⟨hsource, htarget⟩ := (recordedLinks_among s l hl).leaves u hu
    have hrouted := (hsettled.live.mp hlive).1
    exact ⟨knows_routed s hrouted _ hsource, knows_routed s hrouted _ htarget⟩
  have hleft_iff := hsettled.left hlive hends
  rwa [hleft, groups_routed] at hleft_iff

/-- **Assembly.** A diagram can be assembled exactly if the session is harmless. -/
lemma live_assemble_iff : (assemble s).Live ↔ Harmless s := by
  have hbefore := grows_before s
  have hsettled := settled_layout hs hnested
  have hafter := grows_connected hs hnested
  have hdraws : ∀ id, (layout s).build.session.Draws (assemble s).session id ↔
      (layout s).build.session.Draws (connected s).session id := by
    intro id
    rw [assemble_eq]
    simp only [Session.Draws, Session.count, (finish_kept _).1]
  have hleft : (connected s).unlabelled = (layout s).build.unlabelled := by
    rw [hafter.left, List.append_nil]
  have hlisted : (∀ g ∈ hollow (routed s).diagram.groups, g.Listed (routed s).diagram.groups) ↔
      ∀ g ∈ hollow s.diagram.groups, g.Listed s.diagram.groups := by
    rw [groups_routed]
  rw [assemble_eq, live_finish, hleft]
  constructor
  · rintro ⟨hconnected, hunlabelled⟩
    obtain ⟨hlayout, hfree, hconnectable⟩ := hafter.live.mp hconnected
    obtain ⟨hrouted, hfree', hlisted'⟩ := hsettled.live.mp hlayout
    obtain ⟨-, hfree'', hlegible⟩ := hbefore.live.mp hrouted
    refine ⟨(hbefore.free_trans hrouted hsettled.counts).mpr ⟨hfree'', hfree'⟩, ?_, hlegible,
      (unlabelled_layout_iff hs hnested hlayout).mp hunlabelled, hlisted.mp hlisted', hconnectable⟩
    intro id hid
    exact (free_connected_iff hs hnested hlayout).mp hfree id ((hdraws id).mp hid)
  · intro h
    have hfreeRouted : Free { session := s } (routed s) := fun id hid =>
      h.fresh id (hid.mono hsettled.counts)
    have hrouted : (routed s).Live := hbefore.live.mpr ⟨rfl, hfreeRouted, h.legible⟩
    have hlayout : (layout s).build.Live := hsettled.live.mpr
      ⟨hrouted, ((hbefore.free_trans hrouted hsettled.counts).mp h.fresh).2, hlisted.mpr h.listed⟩
    refine ⟨hafter.live.mpr ⟨hlayout, ?_, h.connectable⟩,
      (unlabelled_layout_iff hs hnested hlayout).mpr h.labelled⟩
    exact (free_connected_iff hs hnested hlayout).mpr fun id hid =>
      h.handlers id ((hdraws id).mpr hid)

/-! ## What is assembled -/

lemma rest_assemble : (assemble s).session.rest = s.rest := by
  rw [assemble_eq, (finish_kept _).2, (grows_connected hs hnested).rest,
    (settled_layout hs hnested).rest, (grows_before s).rest]

/-- The diagram of the markup with its links, and the one that is assembled from it. -/
lemma diagram_assemble (hlive : (assemble s).Live) :
    (connected s).diagram.Coherent ∧ (assemble s).diagram =
      (connected s).diagram.replaceEdges (mergeEdges (connected s).diagram.edges) := by
  rw [assemble_eq] at hlive ⊢
  have hafter := grows_connected hs hnested
  have hlayout := (hafter.live.mp (live_finish.mp hlive).1).1
  exact ⟨hafter.edits.coherent ((settled_layout hs hnested).coherent hlayout), diagram_finish hlive⟩

lemma coherent_assemble (hlive : (assemble s).Live) : (assemble s).diagram.Coherent := by
  obtain ⟨hcoherent, heq⟩ := diagram_assemble hs hnested hlive
  rw [heq]
  exact hcoherent.merge

lemma nodup_assemble (hlive : (assemble s).Live) :
    ((assemble s).diagram.edges.map fun e => (e.source, e.target, e.base)).Nodup := by
  rw [(diagram_assemble hs hnested hlive).2]
  exact Diagram.nodup_merge _

lemma tidy_assemble (hlive : (assemble s).Live) (htidy : s.diagram.Tidy) :
    (assemble s).diagram.Tidy := by
  have hafter := grows_connected hs hnested
  have hsettled := settled_layout hs hnested
  rw [(diagram_assemble hs hnested hlive).2]
  rw [assemble_eq] at hlive
  have hlayout := (hafter.live.mp (live_finish.mp hlive).1).1
  exact (hafter.edits.tidy (hsettled.tidy hlayout ((grows_before s).edits.tidy htidy))).merge

lemma wellFormed_assemble (hlive : (assemble s).Live) (htidy : s.diagram.Tidy) :
    (assemble s).diagram.WellFormed where
  ids_nodup := (coherent_assemble hs hnested hlive).ids_nodup
  ends := (coherent_assemble hs hnested hlive).ends
  loopless := (tidy_assemble hs hnested hlive htidy).loopless
  merged := nodup_assemble hs hnested hlive
  grouped := (tidy_assemble hs hnested hlive htidy).grouped

/-- Groups lose their parents if these are taken out without them. -/
lemma parented_assemble_iff (hlive : (assemble s).Live) :
    (assemble s).diagram.Parented ↔ ∀ g ∈ s.diagram.groups, g.id ∉ hollowIds s.diagram.groups →
      ∀ p, g.parent = some p → p ∉ hollowIds s.diagram.groups := by
  have hafter := grows_connected hs hnested
  rw [(diagram_assemble hs hnested hlive).2, Diagram.parented_replaceEdges,
    Diagram.parented_congr hafter.edits.groups_eq]
  rw [assemble_eq] at hlive
  have hlayout := (hafter.live.mp (live_finish.mp hlive).1).1
  have hparented := (settled_layout hs hnested).parented hlayout
  rwa [groups_routed] at hparented

end Stages

end Assembly

end ComponentFlow

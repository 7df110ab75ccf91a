import ComponentFlow.Proofs.Branches
import ComponentFlow.Proofs.EventLabels

/-!
# Items of nested loops

In the body of a loop, its item stands for the collection. If the collection of an inner loop starts
at the item of a loop around it, the inner item stands for the outermost collection, too: items are
resolved when a loop is entered, so there is one step from any item to this collection, however deep
the loops are and whichever items share a name (`Rooted.lookup_scope`).

Hence a reference to an item is one to what the outermost collection stands for. What an element
displays by it comes from there, and so does what a condition depends on (`execute_items_resolved`).
-/

namespace ComponentFlow

/-! ## Scopes -/

/-- The head of a loop. -/
def Content.head? : Content → Option LoopHead
  | .loop head => some head
  | _ => none

/-- The loops that a place is in, the innermost first. -/
def Site.loopHeads (s : Site) : List LoopHead := s.around.filterMap (·.content.head?)

/-- The items of loops. -/
def itemsOf (heads : List LoopHead) : List String := heads.filterMap (·.item)

/-- Loops with items, one inside of the other, the innermost first. The outermost one goes over the
given collection, and each other one starts at an item of a loop around it. -/
inductive Rooted (collection : String) : List LoopHead → Prop
  | outermost {head : LoopHead} {item : String} (hcollection : head.collection = collection)
      (hreferences : head.references = []) (hitem : head.item = some item) (hname : item ≠ "") :
      Rooted collection [head]
  | inner {head : LoopHead} {outer : List LoopHead} {item : String} (h : Rooted collection outer)
      (hcollection : (splitReference head.collection).1 ∈ itemsOf outer)
      (hreferences : head.references = []) (hitem : head.item = some item) (hname : item ≠ "") :
      Rooted collection (head :: outer)

/-- The scope of a place depends on the loops around it alone. -/
lemma scopeOf_eq_foldr (around : List Spot) :
    scopeOf around = (around.filterMap (·.content.head?)).foldr Layout.bodyScope [] := by
  induction around with
  | nil => rfl
  | cons spot outer ih =>
    obtain ⟨n, content⟩ := spot
    cases content with
    | element e => exact ih
    | branch c negated nodes => exact ih
    | loop head => exact congrArg (Layout.bodyScope head) ih

/-- A loop with an item and no references of its own puts its collection under the item. -/
lemma bodyScope_of_item {head : LoopHead} {item : String} (hreferences : head.references = [])
    (hitem : head.item = some item) (hname : item ≠ "") (scope : Scope) :
    Layout.bodyScope head scope =
      Assoc.insert item (resolveScope scope head.collection) scope := by
  simp [Layout.bodyScope, Layout.loopVariables, hreferences, hitem, hname]

/-- A reference to an item that is in scope. -/
lemma resolveScope_of_lookup {scope : Scope} {reference collection : String}
    (h : scope.lookup (splitReference reference).1 = some collection) :
    resolveScope scope reference = collection := by
  rw [resolveScope, h, Option.getD_some]

namespace Rooted

variable {collection : String} {heads : List LoopHead}

/-- **One step to the collection.** Every item of such loops stands for the collection of the
outermost one. -/
lemma lookup_scope (h : Rooted collection heads) :
    ∀ name ∈ itemsOf heads, (heads.foldr Layout.bodyScope []).lookup name = some collection := by
  induction h with
  | @outermost head item hcollection hreferences hitem hname =>
    intro name hmem
    have hsame : name = item := by simpa [itemsOf, hitem] using hmem
    rw [List.foldr_cons, List.foldr_nil, bodyScope_of_item hreferences hitem hname,
      Assoc.lookup_insert, hsame, if_pos (beq_self_eq_true item), hcollection]
    rfl
  | @inner head outer item _ hcollection hreferences hitem hname ih =>
    intro name hmem
    rw [List.foldr_cons, bodyScope_of_item hreferences hitem hname, Assoc.lookup_insert,
      resolveScope_of_lookup (ih _ hcollection)]
    -- an inner item may have the name of an outer one, and stands for the same collection
    split
    · rfl
    · rename_i hne
      refine ih name ?_
      simp only [itemsOf, List.filterMap_cons, hitem, List.mem_cons] at hmem
      exact hmem.resolve_left (by simpa using hne)

/-- A reference to an item of such loops is one to the collection of the outermost one. -/
lemma resolveScope_eq {s : Site} (h : Rooted collection s.loopHeads) {reference : String}
    (hhead : (splitReference reference).1 ∈ itemsOf s.loopHeads) :
    resolveScope s.scope reference = collection := by
  refine resolveScope_of_lookup ?_
  rw [Site.scope, scopeOf_eq_foldr]
  exact h.lookup_scope _ hhead

end Rooted

/-! ## Nodes of elements -/

namespace Layout

open Build

lemma grows_addHandlers (b : Build) (group : String) (handlers : List String) :
    Grows true True [] b (handlers.foldl (addHandlerTo group) b) := by
  induction handlers generalizing b with
  | nil => exact Grows.refl true b
  | cons id rest ih =>
    have hnote := grows_annotate false (b.addMember group id) id (.str group)
      (by simp [noteKeys] : "subgraph" ∈ noteKeys)
    exact ((grows_addMember b group id).append hnote.laying).append (ih _)

/-- Whether each element that is placed has its node. -/
def Embodied (l : Layout) : Prop := l.build.HasNodes l.elements fun p n => n.Shows p

namespace Embodied

variable {l : Layout}

/-- The build may go on while no element is placed. -/
lemma goOn {l' : Layout} {k : Bool} {c : Prop} {u : List (String × String × String)}
    (h : l.Embodied) (hgrows : Grows k c u l.build l'.build)
    (helements : l'.elements = l.elements) : l'.Embodied := by
  rw [Embodied, helements]
  exact hgrows.hasNodes h fun _ _ _ hcontinues hshows => hshows.continues hcontinues

lemma place (h : l.Embodied) (e : Element) (group : String) (scope : Scope) :
    (l.place e group scope).Embodied := by
  have hcontinues : ∀ (p : PlacedElement) (n n' : Node), n'.Continues n → n.Shows p → n'.Shows p :=
    fun _ _ _ hcontinues hshows => hshows.continues hcontinues
  have hnode := grows_addNode false l.build (e.sketch group)
  refine (grows_addMember _ group _).hasNodes
    (HasNodes.append (hnode.hasNodes h hcontinues) ?_) hcontinues
  intro hlive p hp
  rw [List.mem_singleton.mp hp]
  exact ⟨_, newNode_mem_addNode hlive, rfl, ⟨_, rfl⟩, rfl, rfl, rfl⟩

lemma perform (h : l.Embodied) (γ : Option Nat → String) (s : Site) :
    (l.perform γ s).Embodied := by
  obtain ⟨⟨n, content⟩, around⟩ := s
  cases content with
  | element e =>
    simp only [Layout.perform]
    split
    · exact h.place _ _ _
    · exact h
  | branch c negated nodes =>
    cases nodes with
    | nil => exact h
    | cons node rest =>
      simp only [Layout.perform, openNonempty, openBranch]
      exact h.goOn (grows_openGroup _ _ _ _ _) rfl
  | loop head =>
    by_cases hkind : kindOf around = .loop
    · simp only [Layout.perform, Site.homeKind, hkind]
      refine h.goOn (Grows.append (grows_modifyGroup l.build (γ (homeOf around)) ?_)
        (grows_record true _ _ _ _)) rfl
      exact fun _ => ⟨rfl, rfl⟩
    · simp only [Layout.perform, Site.homeKind, enterLoop_of_ne hkind]
      exact h.goOn (grows_openGroup _ _ _ _ _) rfl

lemma foldl_perform (h : l.Embodied) (γ : Option Nat → String) (sites : List Site) :
    (sites.foldl (Layout.perform γ) l).Embodied := by
  induction sites generalizing l with
  | nil => exact h
  | cons s rest ih => exact ih (h.perform γ s)

lemma addExported (h : l.Embodied) (group : String) (handlers : List String) :
    (l.addExported group handlers).Embodied := by
  rw [Layout.addExported]
  split
  · exact h
  · exact h.goOn ((grows_openGroup _ _ _ _ _).trans (grows_addHandlers _ _ _) fun _ => Iff.rfl) rfl

end Embodied

lemma embodied_lay (b : Build) (output : List RenderNode) (exported : List String) :
    (lay b output exported).Embodied := by
  have hroot : (root b).Embodied := fun _ p hp => absurd hp List.not_mem_nil
  have hwalk := hroot.foldl_perform (groupId b output) (sitesIn [] 0 output)
  rw [← walk_eq_foldl] at hwalk
  exact hwalk.addExported _ _

end Layout

/-! ## Edges of the markup -/

namespace Assembly

open Build

lemma edits_linkControls (x : NameIndex) (b : Build) (controls : List ControlFlow) :
    Diagram.Edits false b.diagram (controls.foldl (linkControl x) b).diagram ∧
      ((controls.foldl (linkControl x) b).Live → b.Live) := by
  induction controls generalizing b with
  | nil => exact ⟨(Grows.refl false b).edits, id⟩
  | cons c rest ih =>
    obtain ⟨hedits, hlive⟩ := ih (linkControl x b c)
    have hstep : Diagram.Edits false b.diagram (linkControl x b c).diagram ∧
        ((linkControl x b c).Live → b.Live) := by
      rw [linkControl]
      split
      · have hgrows := grows_linkAll false b (controlEdges x c)
        exact ⟨hgrows.edits, fun hlive => (hgrows.live.mp hlive).1⟩
      · exact ⟨(Grows.refl false b).edits, id⟩
    exact ⟨hstep.1.trans hedits, fun h => hstep.2 (hlive h)⟩

/-- If all groups can be linked, the edges to groups that are there are drawn, apart from loops. -/
lemma mem_edges_linkControls {x : NameIndex} {b : Build} {controls : List ControlFlow}
    (hlive : (controls.foldl (linkControl x) b).Live) {c : ControlFlow} (hc : c ∈ controls)
    (hgroup : c.group ∈ b.diagram.ids) {e : Edge} (he : e ∈ controlEdges x c)
    (hne : e.source ≠ e.target) : e ∈ (controls.foldl (linkControl x) b).diagram.edges := by
  induction controls generalizing b with
  | nil => cases hc
  | cons c' rest ih =>
    obtain ⟨hedits, hback⟩ := edits_linkControls x (linkControl x b c') rest
    obtain rfl | hc := List.mem_cons.mp hc
    · refine hedits.mem_edges ?_
      have hlinked := hback hlive
      rw [linkControl, if_pos (Diagram.contains_iff.mpr hgroup), linkAll_eq_followAll]
        at hlinked ⊢
      exact mem_edges_followAll hlinked (List.mem_map_of_mem he) hne
    · refine ih hlive hc ?_
      rw [Diagram.ids, (linkControl_kept b c').2]
      exact hgroup

section Assembled

variable {s : Session} (hs : s.diagram.Coherent) (hnested : Diagram.Nested s.diagram.groups)
  (hlive : (assemble s).Live)

include hs hnested hlive

lemma live_stages : (routed s).Live ∧ (layout s).build.Live ∧ (connected s).Live := by
  rw [assemble_eq] at hlive
  have hconnected := (live_finish.mp hlive).1
  have hlayout := ((grows_connected hs hnested).live.mp hconnected).1
  exact ⟨((settled_layout hs hnested).live.mp hlayout).1, hlayout, hconnected⟩

/-- What a reference stands for was there before the markup is laid out. -/
lemma mem_routed_of_resolve {reference : String} {b : Binding}
    (hb : (index s).resolve reference = some b) : b.node.id ∈ (routed s).diagram.ids :=
  knows_routed s (live_stages hs hnested hlive).1 _
    (isPlaced_of_names (NameIndex.names_of_resolve hb))

/-- Elements have new ids. -/
lemma element_not_mem_routed {p : PlacedElement} (hp : p ∈ (layout s).elements) :
    p.id ∉ (routed s).diagram.ids := by
  obtain ⟨-, hlayout, -⟩ := live_stages hs hnested hlive
  have hcoherent := (grows_before s).edits.coherent hs
  have hinv := Layout.inv_lay hcoherent s.component.output
    (((placed s).2.2.filter (·.exported)).map (·.id))
  have hlaid := ((Layout.pruned_lay hcoherent ((grows_before s).edits.nested hnested) _ _).live.mp
    hlayout).1
  exact (hinv.laying.grows.live.mp hlaid).2.1 _ (hinv.elements p hp).2

/-- Each element that is placed has its node in the diagram. -/
lemma exists_node?_of_placed {p : PlacedElement} (hp : p ∈ (layout s).elements) :
    ∃ n, (assemble s).diagram.node? p.id = some n ∧ n.Shows p := by
  obtain ⟨-, hlayout, -⟩ := live_stages hs hnested hlive
  obtain ⟨hcoherent, hdiagram⟩ := diagram_assemble hs hnested hlive
  obtain ⟨hlaid, -, heq⟩ := Layout.diagram_ofOutput ((grows_before s).edits.coherent hs)
    ((grows_before s).edits.nested hnested) _ _ hlayout
  obtain ⟨n, hn, hshows⟩ := Layout.embodied_lay _ _ _ hlaid p hp
  have hkept := ((settled_layout hs hnested).elements hlayout p hp).1
  have hn' : n ∈ (layout s).build.diagram.nodes := by
    rw [layout, heq] at hkept ⊢
    refine List.mem_filter.mpr ⟨hn, ?_⟩
    rw [hshows.id]
    simpa using (Diagram.mem_ids_without.mp hkept).2
  obtain ⟨n', hn', hcontinues⟩ := (grows_connected hs hnested).edits.exists_node hn'
  have hshows' := hshows.continues hcontinues
  refine ⟨n', ?_, hshows'⟩
  rw [hdiagram, Diagram.node?_replaceEdges, ← hshows'.id]
  exact Diagram.node?_eq_some hcoherent.ids_nodup hn'

/-- After the markup is laid out, no group changes. -/
lemma groups_assemble : (assemble s).diagram.groups = (layout s).build.diagram.groups := by
  rw [(diagram_assemble hs hnested hlive).2, Diagram.groups_replaceEdges,
    (grows_connected hs hnested).edits.groups_eq]

/-- Merging keeps the ends and the base of an edge. -/
lemma exists_mem_assemble (b : Binding) {target base : String} (hbase : IsBase base)
    (he : ⟨b.node.id, target, b.label base⟩ ∈ (connected s).diagram.edges) :
    ∃ e ∈ (assemble s).diagram.edges,
      e.source = b.node.id ∧ e.target = target ∧ e.base = base := by
  obtain ⟨e, he, hsource, htarget, heq⟩ := exists_mem_mergeEdges he
  rw [(diagram_assemble hs hnested hlive).2, Diagram.edges_replaceEdges]
  exact ⟨e, he, hsource, htarget, heq.trans (b.base_label hbase _ _)⟩

/-- What an element displays leads to it. -/
lemma exists_display {p : PlacedElement} (hp : p ∈ (layout s).elements) {reference : String}
    (hreference : reference ∈ p.element.display) {b : Binding}
    (hb : resolveIn (index s) p.scope reference = some b) :
    ∃ e ∈ (assemble s).diagram.edges,
      e.source = b.node.id ∧ e.target = p.id ∧ e.base = "display" := by
  refine exists_mem_assemble hs hnested hlive b (by decide) (mem_edges_meetAll
    (live_stages hs hnested hlive).2.2 ?_ fun heq => ?_)
  · refine List.mem_flatMap.mpr ⟨p, hp, List.mem_append_left _ (List.mem_append_left _ ?_)⟩
    refine List.mem_map_of_mem (List.mem_filterMap.mpr ⟨reference, hreference, ?_⟩)
    rw [hb]
    rfl
  · refine element_not_mem_routed hs hnested hlive hp ?_
    rw [show p.id = b.node.id from heq.symm]
    exact mem_routed_of_resolve hs hnested hlive hb

/-- What controls a group leads to it. -/
lemma exists_control {c : ControlFlow} (hc : c ∈ (layout s).controls) (hbase : IsBase c.label)
    {reference : String} (hreference : reference ∈ c.references) {b : Binding}
    (hb : (index s).resolve reference = some b) :
    ∃ e ∈ (assemble s).diagram.edges,
      e.source = b.node.id ∧ e.target = c.group ∧ e.base = c.label := by
  obtain ⟨-, hlayout, hconnected⟩ := live_stages hs hnested hlive
  obtain ⟨hgroup, hnew⟩ := (settled_layout hs hnested).controls hlayout c hc
  have hmarkup := grows_meetAll (x := index s)
    ((layout s).controls.foldl (linkControl (index s)) (layout s).build)
    (requests (index s) (layout s).elements)
  refine exists_mem_assemble hs hnested hlive b hbase (hmarkup.edits.mem_edges
    (mem_edges_linkControls (hmarkup.live.mp hconnected).1 hc hgroup ?_ fun heq => hnew ?_))
  · refine List.mem_filterMap.mpr ⟨reference, hreference, ?_⟩
    rw [hb]
    rfl
  · rw [show c.group = b.node.id from heq.symm]
    exact mem_routed_of_resolve hs hnested hlive hb

end Assembled

/-! ## Where items lead to -/

/-- Where references to the items of loops lead to in a diagram, given the nodes of elements and the
groups of branches by place. The first fields tell which nodes and groups these are: their ids are
drawn in the order of the places. -/
structure ItemsResolved (output : List RenderNode) (x : NameIndex) (d : Diagram)
    (nodeOf groupOf : Nat → String) : Prop where
  nodes_drawn : ∃ k, Drawn "jsx" Site.placed (fun s => nodeOf s.number) k (sitesIn [] 0 output)
  nodes : ∀ s ∈ sitesIn [] 0 output, s.placed = true → ∀ e, s.content = .element e →
    ∃ n, d.node? (nodeOf s.number) = some n ∧ n.Shows ⟨e, nodeOf s.number, s.scope⟩
  groups_drawn : ∃ k, Drawn "subgraph" Site.opens (fun s => groupOf s.number) k
    (sitesIn [] 0 output)
  groups : ∀ s ∈ Layout.branches output, (groupOf s.number ∈ d.groupIds ↔
    ∃ t ∈ sitesIn [] 0 output, t.placed = true ∧ t.Inside s) ∧
    (groupOf s.number ∈ d.groupIds → ∃ g ∈ d.groups, g.id = groupOf s.number ∧
      g.label = s.label ∧ g.kind = GroupKind.conditional.name)
  /-- What an element displays by an item. -/
  display : ∀ s ∈ sitesIn [] 0 output, ∀ e, s.content = .element e →
    ∀ collection, Rooted collection s.loopHeads → ∀ b, x.resolve collection = some b →
      ∀ reference ∈ e.display, (splitReference reference).1 ∈ itemsOf s.loopHeads →
        ∃ edge ∈ d.edges, edge.source = b.node.id ∧ edge.target = nodeOf s.number ∧
          edge.base = "display"
  /-- What the condition of a branch depends on by an item. -/
  visibility : ∀ s ∈ Layout.branches output, groupOf s.number ∈ d.groupIds →
    ∀ c negated nodes, s.content = .branch c negated nodes →
    ∀ collection, Rooted collection s.loopHeads → ∀ b, x.resolve collection = some b →
      ∀ reference ∈ c.references, (splitReference reference).1 ∈ itemsOf s.loopHeads →
        ∃ edge ∈ d.edges, edge.source = b.node.id ∧ edge.target = groupOf s.number ∧
          edge.base = "controls visibility"

/-- **Items of loops** in any diagram that can be assembled. -/
lemma itemsResolved_assemble {s : Session} (hs : s.diagram.Coherent)
    (hnested : Diagram.Nested s.diagram.groups) (hlive : (assemble s).Live) :
    ∃ nodeOf groupOf, ItemsResolved s.component.output (index s) (assemble s).diagram nodeOf
      groupOf := by
  obtain ⟨-, hlayout, -⟩ := live_stages hs hnested hlive
  have hrouted := (grows_before s).edits.coherent hs
  have hnested' := (grows_before s).edits.nested hnested
  have hgroups := groups_assemble hs hnested hlive
  have hgroupIds : (assemble s).diagram.groupIds = (layout s).build.diagram.groupIds := by
    rw [Diagram.groupIds, hgroups, Diagram.groupIds]
  refine ⟨Layout.elementId (routed s) s.component.output,
    fun n => Layout.groupId (routed s) s.component.output (some n),
    ⟨_, drawn_drawnId _ _ _ (number_sitesIn [] 0 _)⟩, ?nodes, ⟨_, Layout.drawn_groupId _ _⟩,
    ?groups, ?display, ?visibility⟩
  case nodes =>
    intro t ht hplaced e he
    exact exists_node?_of_placed hs hnested hlive (Layout.mem_elements_lay _ _ ht hplaced he)
  case groups =>
    intro t ht
    obtain ⟨hmem, hopens, -⟩ := Layout.mem_branches_iff.mp ht
    rw [hgroupIds, hgroups]
    exact ⟨Layout.mem_groupIds_ofOutput_iff hrouted hnested' hlayout hmem hopens, fun hstays =>
      (Layout.exists_branch_of_mem_groupIds hrouted hnested' hlayout ht hstays).1⟩
  case display =>
    intro t ht e he collection hrooted b hb reference hreference hhead
    -- what displays something has bindings, so it has a node
    have hplaced : t.placed = true := by
      simp [Site.placed, he, Element.hasBindings, List.ne_nil_of_mem hreference]
    refine exists_display hs hnested hlive (Layout.mem_elements_lay _ _ ht hplaced he) hreference ?_
    rw [resolveIn, hrooted.resolveScope_eq hhead]
    exact hb
  case visibility =>
    intro t ht hstays c negated nodes hcontent collection hrooted b hb reference hreference hhead
    rw [hgroupIds] at hstays
    obtain ⟨-, hflow⟩ := Layout.exists_branch_of_mem_groupIds hrouted hnested' hlayout ht hstays
    have hbase : IsBase "controls visibility" := by decide
    have hmem : collection ∈ Layout.conditionOf t := by
      rw [Layout.conditionOf, hcontent]
      exact List.mem_map.mpr ⟨reference, hreference, hrooted.resolveScope_eq hhead⟩
    exact exists_control hs hnested hlive hflow hbase hmem hb

end Assembly

namespace Analyzer

/-- **Items of nested loops.** Let an element or a branch be in loops with items and without
references of their own, and let each loop but the outermost start at the item of a loop around it.
If the collection of the outermost loop stands for a node, then each reference of the element that
starts at one of the items, and that is displayed, leads from this node to the node of the element,
and each such reference in the condition of the branch leads from this node to the group of the
branch, unless the group is taken out for having nothing to show. So it is in every diagram that is
returned, whatever confined processors contribute. With any selection of built-in processors that
discovery accepts, a diagram is returned, and it is that of the markup of the component. -/
theorem execute_items_resolved (a : Analyzer) (c : Component) (source : Option String) :
    (∀ r run, a.registry = .ok r → (∀ p ∈ r.entries, p.Confined) →
      (a.execute c source).2 = .ok run →
        ∃ nodeOf groupOf, Assembly.ItemsResolved (a.dispatched r c source).component.output
          (Assembly.index (a.dispatched r c source)) run.diagram nodeOf groupOf) ∧
    ∀ sel ps, discover sel [] = .ok ps → a.registry = createRegistry sel [] →
      ∃ run nodeOf groupOf, (a.execute c source).2 = .ok run ∧
        Assembly.ItemsResolved c.output (Assembly.index (a.dispatched { entries := ps } c source))
          run.diagram nodeOf groupOf := by
  refine ⟨fun r run hr hconfined hrun => ?_, fun sel ps hsel hr => ?_⟩
  · rw [execute_eq hr] at hrun
    obtain ⟨s', outcomes, hall, hlive, rfl⟩ := build_eq_ok_iff.mp hrun
    obtain ⟨hcoherent, hnested⟩ := coherent_dispatched hconfined hall
    have hdiagram : Run.diagram
        { session := recordFaults (Assembly.assemble (recordUnhandled s' outcomes)).session
          hooks := a.classified c source, outcomes } =
        (Assembly.assemble (a.dispatched r c source)).diagram := by
      rw [dispatched_eq hall]
      exact (recordFaults_kept _).1
    rw [hdiagram]
    rw [← dispatched_eq hall] at hlive
    exact Assembly.itemsResolved_assemble hcoherent hnested hlive
  · obtain ⟨hsound, hcomponent, run, hrun, hdiagram⟩ := execute_discovered c source hsel hr
    obtain ⟨nodeOf, groupOf, hresolved⟩ := Assembly.itemsResolved_assemble hsound.coherent
      hsound.nested (Assembly.live_of_sound hsound)
    rw [hcomponent, ← hdiagram] at hresolved
    exact ⟨run, nodeOf, groupOf, hrun, hresolved⟩

/-- The head of the loop over all cards of a board. -/
def cardsHead : LoopHead := { collection := "cards", item := some "card" }

/-- The head of the loop over the tags of a card. -/
def tagsHead : LoopHead := { collection := "card.tags", item := some "tag" }

/-- Whether a tag is shown. -/
def tagShown : Condition := { expression := "tag.shown", references := ["tag.shown"] }

/-- A tag of a card, with the name of both. -/
def tagElement : Element := { tag := "b", display := ["tag.name", "card.name"] }

/-- A board of cards with tags, where a tag is only displayed on a condition. -/
def board : Component :=
  { name := "Board", framework := some "react"
    hooks := [{ name := "useState", bound := ["cards", "setCards"], binding := .array }]
    output := [.loop cardsHead
      [.loop tagsHead [.conditional tagShown [.element tagElement []] []]]] }

/-- The place of the branch that displays a tag. -/
def tagBranch : Site :=
  ⟨⟨2, .branch tagShown false [.element tagElement []]⟩,
    [⟨1, .loop tagsHead⟩, ⟨0, .loop cardsHead⟩]⟩

/-- The place of a tag. -/
def tagSite : Site := ⟨⟨4, .element tagElement⟩, tagBranch.toSpot :: tagBranch.around⟩

lemma resolve_cards : ∃ b : Binding, b.node.id = "state_0" ∧
    (Assembly.index (reactAnalyzer.dispatched
      { entries := [React.processor, Custom.processor] } board none)).resolve "cards" = some b := by
  rw [dispatched_single (a := reactAnalyzer) (c := board) rfl (select?_react (by decide +kernel))]
  exact ⟨_, by decide +kernel, rfl⟩

/-- What is displayed of a tag, and on what condition, comes from the cards. -/
theorem execute_items_resolved_board :
    ∃ run n group, (reactAnalyzer.execute board none).2 = .ok run ∧
      n ∈ run.diagram.nodes ∧ n.label = "<b>" ∧ group ∈ run.diagram.groupIds ∧
      (∃ e ∈ run.diagram.edges, e.source = "state_0" ∧ e.target = n.id ∧ e.base = "display") ∧
      ∃ e ∈ run.diagram.edges,
        e.source = "state_0" ∧ e.target = group ∧ e.base = "controls visibility" := by
  obtain ⟨run, nodeOf, groupOf, hrun, h⟩ :=
    (execute_items_resolved reactAnalyzer board none).2 reactOnly _ discover_reactOnly rfl
  obtain ⟨b, hid, hb⟩ := resolve_cards
  have hrooted : Rooted "cards" [tagsHead, cardsHead] :=
    .inner (.outermost rfl rfl rfl (by decide)) (by decide +kernel) rfl rfl (by decide)
  have hsite : tagSite ∈ sitesIn [] 0 board.output := by
    simp [board, sitesIn, RenderNode.sites, tagSite, tagBranch]
  have hbranch : tagBranch ∈ Layout.branches board.output := List.mem_cons_self
  obtain ⟨n, hn, hshows⟩ := h.nodes tagSite hsite rfl tagElement rfl
  have hgroup := (h.groups tagBranch hbranch).1.mpr ⟨tagSite, hsite, rfl, List.mem_cons_self⟩
  have hdisplay := h.display tagSite hsite tagElement rfl "cards" hrooted b hb "tag.name"
    List.mem_cons_self (by decide +kernel)
  have hvisible := h.visibility tagBranch hbranch hgroup tagShown false _ rfl "cards" hrooted b hb
    "tag.shown" List.mem_cons_self (by decide +kernel)
  rw [hid] at hdisplay hvisible
  rw [← show n.id = nodeOf tagSite.number from hshows.id] at hdisplay
  exact ⟨run, n, groupOf tagBranch.number, hrun, (Diagram.mem_nodes_of_node? hn).1, hshows.label,
    hgroup, hdisplay, hvisible⟩

end Analyzer

end ComponentFlow

import ComponentFlow.Processor.Basic
import ComponentFlow.Proofs.Commit
import ComponentFlow.Proofs.Records

/-!
# Contributions that are never refused

What a processor has to do so that its contribution is committed as a whole. Its nodes carry new
ids, known types and records of the kinds expected; its edges, resources and updates refer to its
own nodes or to the diagram (`Offers`). The session it starts from has to be `Sound`: all ids of its
diagram were drawn from its counters, so new ids are not taken, and there are no groups yet.

`Offers` has a lemma for each way in which a contribution is put together. `Offers.commit` says that
such a contribution is committed, and `Offers.sound` that the session is sound afterwards.
-/

namespace ComponentFlow

/-! ## Nodes of known types -/

/-- A node that can be contributed: its type is that of no group, and it is recorded as the nodes of
hooks are. -/
structure Node.Proper (n : Node) : Prop extends n.Recorded where
  type : ∃ t : NodeType, t ≠ .group ∧ n.type = t.name

/-- Whether the entries of a draft that are there are of the kinds expected, and none is the name of
a process. -/
def Draft.Shaped (draft : Draft) : Prop :=
  ∀ e ∈ draft, e.1 ≠ "process" ∧ ∀ v ∈ e.2, (recordKind e.1).admits v = true

namespace Draft

@[simp] lemma shaped_nil : Draft.Shaped [] := by
  simp [Draft.Shaped]

@[simp] lemma shaped_cons {key : String} {value : Option Value} {draft : Draft} :
    Draft.Shaped ((key, value) :: draft) ↔
      (key ≠ "process" ∧ ∀ v ∈ value, (recordKind key).admits v = true) ∧ draft.Shaped := by
  simp [Draft.Shaped]

@[simp] lemma shaped_append {draft more : Draft} :
    Draft.Shaped (draft ++ more) ↔ draft.Shaped ∧ more.Shaped :=
  List.forall_mem_append

lemma shaped_ofMetadata {m : Metadata} (h : m.Shaped) (hprocess : ∀ e ∈ m, e.1 ≠ "process") :
    Draft.Shaped (m.map fun e => (e.1, some e.2)) := by
  intro e he
  obtain ⟨e, hmem, rfl⟩ := List.mem_map.mp he
  refine ⟨hprocess e hmem, fun v hv => ?_⟩
  obtain rfl := Option.some.inj hv
  exact h e hmem

end Draft

/-- Whether everything that sends actions is recorded as what writes. -/
def Draft.Dispatching (draft : Draft) : Prop :=
  ∀ v, ("dispatchers", some v) ∈ draft → draft.lookup "writers" = some (some v)

lemma Metadata.Shaped.setDefault {m : Metadata} (h : m.Shaped) {key : String} {value : Value}
    (hvalue : (recordKind key).admits value = true) : (m.setDefault key value).Shaped := by
  rw [Metadata.setDefault]
  split
  · exact h
  · intro e he
    obtain he | he := List.mem_append.mp he
    · exact h e he
    · rw [List.mem_singleton.mp he]
      exact hvalue

lemma Draft.Shaped.complete {draft : Draft} (h : draft.Shaped) (i : Option Invocation) :
    (draft.complete i).Shaped := by
  have hgiven : Metadata.Shaped (draft.filterMap fun e => e.2.map (e.1, ·)) := by
    intro e he
    obtain ⟨e, hmem, he⟩ := List.mem_filterMap.mp he
    obtain ⟨v, hv, rfl⟩ := Option.map_eq_some_iff.mp he
    exact (h e hmem).2 v hv
  cases i with
  | none => exact hgiven
  | some i =>
    have hnamed : Metadata.Shaped
        (Metadata.setDefault (draft.filterMap fun e => e.2.map (e.1, ·)) "hook"
          (.str i.hook.name)) :=
      hgiven.setDefault (by simp [show recordKind "hook" = .any by decide])
    simp only [Draft.complete]
    cases i.hook.library with
    | none => exact hnamed
    | some library =>
      dsimp only
      split
      · exact hnamed
      · exact hnamed.setDefault (by simp [show recordKind "library" = .any by decide])

lemma Metadata.lookup_setDefault (m : Metadata) {key k : String} (value : Value) (h : k ≠ key) :
    (m.setDefault key value).lookup k = m.lookup k := by
  rw [Metadata.setDefault]
  split
  · rfl
  · rw [List.lookup_append, List.lookup_cons, beq_false_of_ne h, List.lookup_nil, Option.or_none]

/-- Where an entry comes from is recorded under names of its own. -/
lemma Draft.lookup_complete (draft : Draft) (i : Option Invocation) {k : String}
    (hhook : k ≠ "hook") (hlibrary : k ≠ "library") :
    (draft.complete i).lookup k = List.lookup k (draft.filterMap fun e => e.2.map (e.1, ·)) := by
  cases i with
  | none => rfl
  | some i =>
    simp only [Draft.complete]
    cases i.hook.library with
    | none => exact Metadata.lookup_setDefault _ _ hhook
    | some library =>
      dsimp only
      split
      · exact Metadata.lookup_setDefault _ _ hhook
      · rw [Metadata.lookup_setDefault _ _ hlibrary, Metadata.lookup_setDefault _ _ hhook]

/-- The first entry under a name is the one that is recorded, if it is there. -/
lemma Draft.lookup_given {draft : Draft} {k : String} {v : Value}
    (h : draft.lookup k = some (some v)) :
    List.lookup k (draft.filterMap fun e => e.2.map (e.1, ·)) = some v := by
  induction draft with
  | nil => cases h
  | cons e rest ih =>
    obtain ⟨key, value⟩ := e
    rw [List.lookup_cons] at h
    cases hkey : k == key with
    | true =>
      rw [hkey] at h
      obtain rfl := Option.some.inj h
      rw [List.filterMap_cons, Option.map_some, List.lookup_cons, hkey]
    | false =>
      rw [hkey] at h
      cases value with
      | none => rw [List.filterMap_cons, Option.map_none, ih h]
      | some w => rw [List.filterMap_cons, Option.map_some, List.lookup_cons, hkey, ih h]

lemma Draft.Dispatching.complete {draft : Draft} (h : draft.Dispatching) (i : Option Invocation) :
    (draft.complete i).Dispatching := by
  intro name hname
  rw [Metadata.lists, Draft.lookup_complete draft i (by decide) (by decide)] at hname ⊢
  cases hlookup : List.lookup "dispatchers" (draft.filterMap fun e => e.2.map (e.1, ·)) with
  | none =>
    rw [hlookup] at hname
    cases hname
  | some v =>
    obtain ⟨e, he, hgiven⟩ := List.mem_filterMap.mp (Assoc.mem_of_lookup hlookup)
    obtain ⟨w, hw, heq⟩ := Option.map_eq_some_iff.mp hgiven
    obtain ⟨hkey, rfl⟩ := Prod.mk.inj heq
    have hmem : ("dispatchers", some w) ∈ draft := by
      rw [← hkey, ← hw]
      exact he
    rw [Draft.lookup_given (h w hmem)]
    rwa [hlookup] at hname

lemma Draft.Shaped.get_process {draft : Draft} (h : draft.Shaped) (i : Option Invocation) :
    (draft.complete i).get "process" = .null := by
  have hlookup : (draft.complete i).lookup "process" = none := by
    rw [Draft.lookup_complete draft i (by decide) (by decide), List.lookup_eq_none_iff]
    intro e he
    obtain ⟨e, hmem, hgiven⟩ := List.mem_filterMap.mp he
    obtain ⟨v, -, rfl⟩ := Option.map_eq_some_iff.mp hgiven
    exact bne_iff_ne.mpr (h e hmem).1.symm
  exact congrArg (·.getD .null) hlookup

lemma get_buildNode (s : Session) (stem label : String) (t : NodeType) (i : Option Invocation)
    {draft : Draft} {key : String} {v : Value} (hkey : key ≠ "hook" ∧ key ≠ "library")
    (hdraft : draft.lookup key = some (some v)) :
    (buildNode s stem label t i draft).1.metadata.get key = v := by
  have hlookup : (draft.complete i).lookup key = some v := by
    rw [Draft.lookup_complete draft i hkey.1 hkey.2, Draft.lookup_given hdraft]
  rw [Metadata.get]
  exact congrArg (·.getD .null) hlookup

lemma proper_buildNode (s : Session) (stem label : String) {t : NodeType} (ht : t ≠ .group)
    (i : Option Invocation) {draft : Draft} (hdraft : draft.Shaped)
    (hdispatching : draft.Dispatching) : (buildNode s stem label t i draft).1.Proper where
  metadata := hdraft.complete i
  linked := by simp [buildNode]
  dispatching := hdispatching.complete i
  links := Node.linksLists_of_unlinked rfl
  type := ⟨t, ht, rfl⟩
  process := hdraft.get_process i

/-! ## Parts of contributions -/

namespace Contribution

lemma nodes_addEdge (c : Contribution) (e : Edge) : (c.addEdge e).nodes = c.nodes := by
  rw [addEdge]
  split <;> rfl

lemma resources_addEdge (c : Contribution) (e : Edge) :
    (c.addEdge e).resources = c.resources := by
  rw [addEdge]
  split <;> rfl

lemma ids_modifyNode {c : Contribution} {id : String} {f : Node → Node}
    (hf : ∀ n, (f n).id = n.id) :
    (c.modifyNode id f).nodes.map (·.id) = c.nodes.map (·.id) := by
  rw [modifyNode, List.map_map]
  refine List.map_congr_left fun n _ => ?_
  simp only [Function.comp_apply]
  split
  · exact hf n
  · rfl

end Contribution

namespace Session

/-! ## Sound sessions -/

/-- The labels of edges that come with hooks: from and to the address of the page, and from and to
servers. -/
def hookLabels : List String := ["provides", "navigates", "mutate", "fetch", "query"]

/-- A session in which no id of the diagram can be drawn again, without groups or processes, whose
diagram is as it should be. -/
structure Sound (s : Session) : Prop where
  coherent : s.diagram.Coherent
  tidy : s.diagram.Tidy
  labels : ∀ e ∈ s.diagram.edges, e.label ∈ hookLabels
  groupless : s.diagram.groups = []
  issued : ∀ id ∈ s.diagram.ids, s.Issued id
  recorded : ∀ n ∈ s.diagram.nodes, n.Recorded

lemma sound_start (component : Component) (atoms : List Atom) (journal : Journal) :
    Sound { start component atoms with journal } where
  coherent := Diagram.coherent_empty component.name
  tidy := ⟨by simp [start], by simp [start, Diagram.groupIds]⟩
  labels := by simp [start]
  groupless := rfl
  issued := by simp [start, Diagram.ids]
  recorded := by simp [start]

lemma Sound.shaped {s : Session} (h : s.Sound) : ∀ n ∈ s.diagram.nodes, n.Shaped :=
  fun n hn => (h.recorded n hn).toShaped

lemma Sound.nested {s : Session} (h : s.Sound) : Diagram.Nested s.diagram.groups := by
  rw [h.groupless]
  exact Diagram.nested_nil

/-- Soundness is about the diagram and the counters. -/
lemma Sound.congr {s s' : Session} (h : s.Sound) (hdiagram : s'.diagram = s.diagram)
    (hcounts : s.CountsLe s') : s'.Sound where
  coherent := hdiagram ▸ h.coherent
  tidy := hdiagram ▸ h.tidy
  labels := hdiagram ▸ h.labels
  groupless := hdiagram ▸ h.groupless
  issued := fun id hid => (h.issued id (hdiagram ▸ hid)).mono hcounts
  recorded := hdiagram ▸ h.recorded

lemma Sound.record {s : Session} (h : s.Sound) (level : Level) (origin message : String) :
    (s.record level origin message).Sound :=
  h.congr rfl (countsLe_of_counters_eq rfl)

lemma Sound.shaped_of_resource? {s : Session} (h : s.Sound) {key : String} {n : Node}
    (hn : s.resource? key = some n) : n.Shaped ∧ n.id ∈ s.diagram.ids := by
  obtain ⟨id, -, hnode⟩ := Option.bind_eq_some_iff.mp hn
  have hmem := (Diagram.mem_nodes_of_node? hnode).1
  exact ⟨h.shaped n hmem, List.mem_map_of_mem hmem⟩

/-! ## Putting contributions together -/

/-- A session that comes from another one by drawing ids and writing records. -/
structure Advances (s s' : Session) : Prop where
  counts : s.CountsLe s'
  diagram : s'.diagram = s.diagram
  component : s'.component = s.component
  faults : s'.faults = s.faults

/-- A contribution that was put together on the way from one session to another and that can be
committed. -/
structure Offers (s s' : Session) (c : Contribution) : Prop extends Advances s s' where
  drawn : s.DrawsAll s' (c.nodes.map (·.id))
  proper : ∀ n ∈ c.nodes, n.Proper
  ends : ∀ e ∈ c.edges,
    e.source ≠ e.target ∧ s.knows c e.source = true ∧ s.knows c e.target = true
  labels : ∀ e ∈ c.edges, e.label ∈ hookLabels
  groupless : c.groups = []
  resources : ∀ r ∈ c.resources, s.knows c r.2 = true
  updates : ∀ u ∈ c.updates, u.1 ∈ s.diagram.ids ∧ u.2.Amending

variable {s s' : Session} {c : Contribution}

lemma Advances.refl (s : Session) : Advances s s :=
  ⟨CountsLe.refl s, rfl, rfl, rfl⟩

lemma Advances.trans {s'' : Session} (h : Advances s s') (h' : Advances s' s'') :
    Advances s s'' where
  counts := h.counts.trans h'.counts
  diagram := h'.diagram.trans h.diagram
  component := h'.component.trans h.component
  faults := h'.faults.trans h.faults

lemma advances_nextId (s : Session) (stem : String) : Advances s (s.nextId stem).2 :=
  ⟨countsLe_nextId s stem, rfl, rfl, rfl⟩

lemma advances_record (s : Session) (level : Level) (origin message : String) :
    Advances s (s.record level origin message) :=
  ⟨countsLe_of_counters_eq rfl, rfl, rfl, rfl⟩

lemma offers_empty (s : Session) (handled : Bool) : Offers s s { handled } where
  toAdvances := Advances.refl s
  drawn := drawsAll_of_counters_eq rfl
  proper := by simp
  ends := by simp
  labels := by simp
  groupless := rfl
  resources := by simp
  updates := by simp

lemma Offers.draws (h : Offers s s' c) {n : Node} (hn : n ∈ c.nodes) : s.Draws s' n.id :=
  h.drawn.mem_iff.mp (List.mem_map_of_mem hn)

lemma Offers.record (h : Offers s s' c) (level : Level) (origin message : String) :
    Offers s (s'.record level origin message) c :=
  { h with }

/-- A record that is written first changes nothing. -/
lemma Offers.of_record {level : Level} {origin message : String}
    (h : Offers (s.record level origin message) s' c) : Offers s s' c :=
  { h with }

/-- A way to make one node, whose id is drawn for it. -/
structure Makes (make : Session → Node × Session) : Prop where
  proper : ∀ s, (make s).1.Proper
  drawn : ∀ s, ∃ stem, (make s).1.id = idOf stem (s.count stem) ∧ (make s).2 = (s.nextId stem).2

lemma makes_buildNode (stem label : String) {t : NodeType} (ht : t ≠ .group)
    (i : Option Invocation) {draft : Draft} (hdraft : draft.Shaped)
    (hdispatching : draft.Dispatching) : Makes fun s => buildNode s stem label t i draft where
  proper := fun s => proper_buildNode s stem label ht i hdraft hdispatching
  drawn := fun _ => ⟨stem, rfl, rfl⟩

lemma Makes.advances {make : Session → Node × Session} (h : Makes make) (s : Session) :
    Advances s (make s).2 := by
  obtain ⟨stem, -, hsession⟩ := h.drawn s
  rw [hsession]
  exact advances_nextId s stem

lemma knows_of_subset {c' : Contribution} {id : String}
    (h : c.nodes.map (·.id) ⊆ c'.nodes.map (·.id)) (hid : s.knows c id = true) :
    s.knows c' id = true :=
  knows_iff.mpr ((knows_iff.mp hid).imp_right (h ·))

lemma knows_addNode {id : String} (n : Node) (hid : s.knows c id = true) :
    s.knows (c.addNode n) id = true :=
  knows_of_subset (by simp [Contribution.addNode]) hid

lemma Offers.addNode (h : Offers s s' c) {make : Session → Node × Session} (hmake : Makes make) :
    Offers s (make s').2 (c.addNode (make s').1) := by
  obtain ⟨stem, hid, hsession⟩ := hmake.drawn s'
  have hnew : s'.DrawsAll (make s').2 [(make s').1.id] := by
    rw [hsession, hid]
    exact drawsAll_nextId s' stem
  refine
    { toAdvances := h.toAdvances.trans (hmake.advances s')
      drawn := ?_
      proper := ?_
      ends := fun e he => ?_
      labels := h.labels
      groupless := h.groupless
      resources := fun r hr => knows_addNode _ (h.resources r hr)
      updates := h.updates }
  · rw [Contribution.addNode, List.map_append]
    exact h.drawn.append hnew h.counts (hmake.advances s').counts
  · intro n hn
    obtain hn | hn := List.mem_append.mp hn
    · exact h.proper n hn
    · rw [List.mem_singleton.mp hn]
      exact hmake.proper s'
  · obtain ⟨hne, hsource, htarget⟩ := h.ends e he
    exact ⟨hne, knows_addNode _ hsource, knows_addNode _ htarget⟩

lemma Offers.addEdge (h : Offers s s' c) {e : Edge} (hne : e.source ≠ e.target)
    (hsource : s.knows c e.source = true) (htarget : s.knows c e.target = true)
    (hlabel : e.label ∈ hookLabels) : Offers s s' (c.addEdge e) := by
  rw [Contribution.addEdge]
  split
  · exact h
  · exact
      { h with
        ends := List.forall_mem_append.mpr
          ⟨h.ends, List.forall_mem_singleton.mpr ⟨hne, hsource, htarget⟩⟩
        labels := List.forall_mem_append.mpr ⟨h.labels, List.forall_mem_singleton.mpr hlabel⟩ }

lemma Offers.bind (h : Offers s s' c) (key : String) {id : String}
    (hid : s.knows c id = true) : Offers s s' (c.bind key id) := by
  refine { h with resources := fun r hr => ?_ }
  obtain rfl | hr := Assoc.mem_insert hr
  · exact hid
  · exact h.resources r hr

lemma knows_addShared (s : Session) (c : Contribution) (key : String) (n : Node) :
    s.knows (c.addShared key n) n.id = true :=
  knows_iff.mpr (.inr (by simp [Contribution.addShared, Contribution.bind, Contribution.addNode]))

lemma Offers.addShared (h : Offers s s' c) (key : String) {make : Session → Node × Session}
    (hmake : Makes make) : Offers s (make s').2 (c.addShared key (make s').1) :=
  (h.addNode hmake).bind key (knows_addShared s c key (make s').1)

lemma Offers.update (h : Offers s s' c) {id : String} {entries : Metadata}
    (hid : id ∈ s.diagram.ids) (hentries : entries.Amending) :
    Offers s s' (c.update id entries) := by
  refine { h with updates := fun u hu => ?_ }
  obtain hu | hu := List.mem_append.mp hu
  · exact h.updates u hu
  · rw [List.mem_singleton.mp hu]
    exact ⟨hid, hentries⟩

lemma knows_modifyNode (id : String) {other : String} {f : Node → Node}
    (hf : ∀ n, (f n).id = n.id) :
    s.knows (c.modifyNode id f) other = s.knows c other := by
  rw [Bool.eq_iff_iff, knows_iff, knows_iff, Contribution.ids_modifyNode hf]

lemma Offers.modifyNode (h : Offers s s' c) (id : String) {f : Node → Node}
    (hf : ∀ n, (f n).id = n.id) (hproper : ∀ n, n.Proper → (f n).Proper) :
    Offers s s' (c.modifyNode id f) := by
  refine
    { h with
      drawn := (Contribution.ids_modifyNode hf).symm ▸ h.drawn
      proper := fun n hn => ?_
      ends := fun e he => ?_
      resources := fun r hr => ?_ }
  · obtain ⟨m, hm, rfl⟩ := List.mem_map.mp hn
    split
    · exact hproper m (h.proper m hm)
    · exact h.proper m hm
  · rw [knows_modifyNode id hf, knows_modifyNode id hf]
    exact h.ends e he
  · rw [knows_modifyNode id hf]
    exact h.resources r hr

/-! ## Shared nodes -/

/-- A contribution with the node of a resource: it offers what it did before, and the node, which is
none of those it had before. -/
structure Shares (s : Session) (c : Contribution) (key : String)
    (shared : Node × Contribution × Session) : Prop where
  offers : Offers s shared.2.2 shared.2.1
  known : s.knows shared.2.1 shared.1.id = true
  apart : ∀ n ∈ c.nodes, n.id ≠ shared.1.id
  nodes : c.nodes ⊆ shared.2.1.nodes
  lookup : ∀ other, other ≠ key → shared.2.1.resources.lookup other = c.resources.lookup other

lemma Shares.knows_node {key : String} {shared : Node × Contribution × Session}
    (h : Shares s c key shared) {n : Node} (hn : n ∈ c.nodes) :
    s.knows shared.2.1 n.id = true :=
  knows_iff.mpr (.inr (List.mem_map_of_mem (h.nodes hn)))

lemma Makes.advances_sharedNode {make : Session → Node × Session} (h : Makes make) (s : Session)
    (c : Contribution) (key : String) : Advances s (s.sharedNode c key make).2.2 := by
  rw [Session.sharedNode]
  split
  · exact Advances.refl s
  · exact h.advances s

lemma Offers.sharedNode (h : Offers s s' c) (hs : s.Sound) {key : String}
    (hkey : c.resources.lookup key = none) {make : Session → Node × Session}
    (hmake : Makes make) : Shares s c key (s'.sharedNode c key make) := by
  cases hfound : s'.findShared? c key with
  | some n =>
    -- the contribution binds no such key, so the node is one of the diagram
    have hresource : s'.resource? key = some n := by
      rw [findShared?] at hfound
      split at hfound
      · rename_i hresource
        rw [hresource, hfound]
      · simp [hkey] at hfound
    have hmem : n.id ∈ s.diagram.ids := by
      obtain ⟨id, -, hnode⟩ := Option.bind_eq_some_iff.mp hresource
      rw [h.diagram] at hnode
      exact List.mem_map_of_mem (Diagram.mem_nodes_of_node? hnode).1
    rw [Session.sharedNode, hfound]
    exact
      { offers := h
        known := knows_iff.mpr (.inl hmem)
        apart := fun m hm heq => (h.draws hm).not_issued (heq ▸ hs.issued _ hmem)
        nodes := List.Subset.refl _
        lookup := fun _ _ => rfl }
  | none =>
    have hshared := h.addShared key hmake
    rw [Session.sharedNode, hfound]
    refine
      { offers := hshared
        known := knows_addShared s c key (make s').1
        apart := fun m hm heq => ?_
        nodes := List.subset_append_left _ _
        lookup := fun other hother => ?_ }
    · have hnodup := hshared.drawn.nodup
      rw [Contribution.addShared, Contribution.bind, Contribution.addNode, List.map_append,
        List.nodup_append] at hnodup
      exact hnodup.2.2 _ (List.mem_map_of_mem hm) _ (by simp) heq
    · simp [Contribution.addShared, Contribution.bind, Contribution.addNode,
        Assoc.lookup_insert, hother]

/-! ## Commits -/

lemma Offers.checked (h : Offers s s' c) (hs : s.Sound) : s'.Checked c := by
  have hknows : ∀ id, s'.knows c id = s.knows c id := by
    intro id
    rw [knows, h.diagram, knows]
  refine ⟨h.drawn.nodup, ?_, ?_, ?_, ?_⟩
  · intro n hn hmem
    rw [h.diagram] at hmem
    exact (h.draws hn).not_issued (hs.issued _ hmem)
  · intro e he
    rw [hknows, hknows]
    exact (h.ends e he).2
  · intro r hr
    rw [hknows]
    exact h.resources r hr
  · intro u hu
    rw [h.diagram]
    exact (h.updates u hu).1

lemma Offers.types (h : Offers s s' c) :
    ∀ n ∈ c.nodes, isNodeType n.type = true ∧ n.type ≠ NodeType.group.name := by
  intro n hn
  obtain ⟨t, ht, htype⟩ := (h.proper n hn).type
  rw [htype]
  exact ⟨isNodeType_name t, NodeType.name_ne_group ht⟩

/-- What is offered is committed. -/
lemma Offers.commit (h : Offers s s' c) (hs : s.Sound) : s'.commit c = (s'.applied c, none) := by
  have hchecked := h.checked hs
  have happly := apply_eq_applied hchecked (fun n hn => (h.types n hn).1) h.groupless
  simp only [Session.commit, check_eq_none_iff.mpr hchecked, happly, Option.map_none]

/-- What is offered is no group and leads from no node to itself, and updates change neither. -/
lemma Offers.tidy_applied (h : Offers s s' c) (hs : s'.Sound) : (s'.applied c).diagram.Tidy := by
  refine List.foldlRecOn c.updates applyUpdate (motive := Diagram.Tidy) ⟨fun e he => ?_, ?_⟩
    fun d hd u _ => hd.modifyNode fun n => n.patch_id_type u.2
  · obtain he | he := List.mem_append.mp he
    · exact hs.tidy.loopless e he
    · exact (h.ends e he).1
  · have hnone : c.nodes.filter (·.type == NodeType.group.name) = [] := by
      simpa using fun n hn => (h.types n hn).2
    simpa [Diagram.groupIds, Diagram.extend, h.groupless, hnone] using hs.tidy.grouped

lemma Offers.recorded_applied (h : Offers s s' c) (hs : s'.Sound) :
    ∀ n ∈ (s'.applied c).diagram.nodes, n.Recorded := by
  refine List.foldlRecOn c.updates applyUpdate
    (motive := fun d : Diagram => ∀ n ∈ d.nodes, n.Recorded) (fun n hn => ?_)
    fun d hd u hu n hn => ?_
  · obtain hn | hn : n ∈ s'.diagram.nodes ∨ n ∈ c.nodes := by
      simpa [Diagram.extend, h.groupless] using hn
    · exact hs.recorded n hn
    · exact (h.proper n hn).toRecorded
  · obtain ⟨m, hm, rfl⟩ := List.mem_map.mp hn
    split
    · exact (hd m hm).patch (h.updates u hu).2
    · exact hd m hm

/-- A session stays sound when what is offered is committed. -/
lemma Offers.sound (h : Offers s s' c) (hs : s.Sound) : (s'.applied c).Sound := by
  have hbefore : s'.Sound := hs.congr h.diagram h.counts
  have hcoherent : (s'.applied c).diagram.Coherent := by
    have hcommitted := commit_coherent c hbefore.coherent
    rwa [h.commit hs] at hcommitted
  have hgroups : (s'.applied c).diagram.groups = [] := by
    rw [groups_applied, hbefore.groupless, h.groupless, List.append_nil]
  have hids : (s'.applied c).diagram.ids = s'.diagram.ids ++ c.nodes.map (·.id) := by
    rw [ids_applied, h.groupless, List.map_nil, List.append_nil]
  refine ⟨hcoherent, h.tidy_applied hbefore, ?_, hgroups, fun id hid => ?_,
    h.recorded_applied hbefore⟩
  · rw [edges_applied]
    exact List.forall_mem_append.mpr ⟨hbefore.labels, h.labels⟩
  rw [hids] at hid
  obtain hid | hid := List.mem_append.mp hid
  · exact hbefore.issued id hid
  · obtain ⟨n, hn, rfl⟩ := List.mem_map.mp hid
    exact (h.draws hn).issued

end Session

end ComponentFlow

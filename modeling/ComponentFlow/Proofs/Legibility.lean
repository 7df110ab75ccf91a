import ComponentFlow.Proofs.Assembling
import ComponentFlow.Proofs.Contributions

/-!
# Assembly from readable records

If the records about the nodes of a session are of the kinds expected, then so are those of the
props and processes that the assembly adds, and each link that is read off them is an edge. Together
with ids that cannot be drawn twice this makes a sound session harmless (`harmless_of_sound`).
-/

namespace ComponentFlow

/-- A link that is an edge. -/
def Link.IsEdge (l : Link) : Prop :=
  ∃ e, l = .edge e

lemma Link.isEdge_edge (e : Edge) : (Link.edge e).IsEdge := ⟨e, rfl⟩

lemma Link.IsEdge.readable {l : Link} (h : l.IsEdge) : l.Readable := by
  obtain ⟨e, rfl⟩ := h
  trivial

lemma Link.IsEdge.leaves {l : Link} (h : l.IsEdge) : l.leaves = [] := by
  obtain ⟨e, rfl⟩ := h
  rfl

lemma Link.IsEdge.fits {l : Link} (h : l.IsEdge) {known : String → Prop} (hknown : ∀ id, known id) :
    l.Fits known := by
  obtain ⟨e, rfl⟩ := h
  exact .inr ⟨hknown _, hknown _⟩

/-- Whether the records of the nodes of a build are of the kinds expected. -/
def Build.Shaped (b : Build) : Prop :=
  ∀ n ∈ b.diagram.nodes, n.Shaped

/-- Whether the records of the nodes with a name are of the kinds expected. -/
def NameIndex.Shaped (x : NameIndex) : Prop :=
  ∀ n, x.Holds n → n.Shaped

namespace Build

lemma Shaped.change {b : Build} (h : b.Shaped) {f : Diagram → Except DiagramError Diagram}
    (hf : ∀ d', f b.diagram = .ok d' → ∀ n ∈ d'.nodes, n.Shaped) : (b.change f).Shaped := by
  obtain ⟨-, heq⟩ | ⟨-, d', hok, heq⟩ | ⟨-, e, -, heq⟩ := b.change_cases f
  · rw [heq]
    exact h
  · rw [heq]
    exact hf d' hok
  · rw [heq]
    exact h

lemma Shaped.addNode {b : Build} (h : b.Shaped) {sketch : Sketch}
    (hmetadata : sketch.metadata.Passive) : (b.addNode sketch).2.Shaped := by
  refine Shaped.change (b := (b.nextId sketch.stem).2) h fun d' hok n hn => ?_
  obtain ⟨-, -, rfl⟩ := Diagram.addNode_eq_ok_iff.mp hok
  obtain hn | hn := List.mem_append.mp hn
  · exact h n hn
  · rw [List.mem_singleton.mp hn]
    exact ⟨hmetadata.shaped, List.nil_subset _, hmetadata.dispatching⟩

lemma Shaped.annotate {b : Build} (h : b.Shaped) (id : String) {key : String} {value : Value}
    (hdispatchers : "dispatchers" ≠ key) (hwriters : "writers" ≠ key)
    (hvalue : (recordKind key).admits value = true) : (b.annotate id key value).Shaped := by
  refine h.change fun d' hok n hn => ?_
  obtain rfl := Except.ok.inj hok
  obtain ⟨m, hm, rfl⟩ := List.mem_map.mp hn
  split
  · exact ⟨(h m hm).metadata.set hvalue, (h m hm).linked,
      (h m hm).dispatching.set _ hdispatchers hwriters⟩
  · exact h m hm

end Build

namespace Assembly

/-! ## Props and processes -/

lemma shaped_addProp {st : Build × List (String × String)} (h : st.1.Shaped) (p : InputProp) :
    (addProp st p).1.Shaped := by
  obtain ⟨b, props⟩ := st
  simp only [addProp]
  split
  · exact h
  · refine h.addNode ?_
    rw [InputProp.sketch]
    cases p.type.filter (· != "") <;> simp [Metadata.Passive, recordKind]

lemma shaped_addRoutine {exported : Bool} {st : Build × List PlacedRoutine} (h : st.1.Shaped)
    (r : Routine) : (addRoutine exported st r).1.Shaped := by
  obtain ⟨b, placed⟩ := st
  have hmetadata : (r.sketch exported).metadata.Passive := by
    rw [Routine.sketch]
    dsimp only
    split <;> split <;> simp [Metadata.Passive, recordKind]
  have hadded := h.addNode hmetadata
  simp only [addRoutine]
  cases r.cleanup with
  | none => exact hadded
  | some c =>
    have hcleanup : (r.cleanupSketch c).metadata.Passive := by
      simp [Routine.cleanupSketch, Metadata.Passive, recordKind]
    exact (hadded.addNode hcleanup).annotate _
      (by decide) (by decide) (by simp [recordKind])

/-- What the assembly records about props and processes can be read. -/
lemma shaped_placed {s : Session} (h : ∀ n ∈ s.diagram.nodes, n.Shaped) :
    (placed s).1.Shaped := by
  have hfold : ∀ {α β : Type} {f : Build × List β → α → Build × List β} {b : Build} (as : List α),
      b.Shaped → (∀ st a, st.1.Shaped → (f st a).1.Shaped) → (as.foldl f (b, [])).1.Shaped := by
    intro α β f b as hb hf
    exact List.foldlRecOn as f (motive := fun st : Build × List β => st.1.Shaped) hb
      fun st hst a _ => hf st a hst
  refine hfold _ (hfold _ (hfold _ h ?_) ?_) ?_
  · exact fun _ p hst => shaped_addProp hst p
  · exact fun _ r hst => shaped_addRoutine hst r
  · exact fun _ r hst => shaped_addRoutine hst r

/-! ## Links -/

lemma initializerLinks_isEdge (props : List (String × String)) {nodes : List Node}
    (hnodes : ∀ n ∈ nodes, n.Shaped) : ∀ l ∈ initializerLinks props nodes, l.IsEdge := by
  intro l hl
  obtain ⟨n, hn, hl⟩ := List.mem_filterMap.mp hl
  have hkind : recordKind "initial_reference" = .text := by decide
  rw [initializerLink] at hl
  obtain hnull | ⟨reference, htext⟩ := (hnodes n hn).metadata.get_text hkind
  · rw [hnull] at hl
    cases hl
  · rw [htext] at hl
    split at hl
    · cases hl
    · obtain ⟨prop, -, rfl⟩ := Option.map_eq_some_iff.mp hl
      exact Link.isEdge_edge _

lemma dependencyFlow_isEdge (source : Node) {n : Node} (hn : n.Shaped) :
    (dependencyFlow source n).IsEdge := by
  rw [dependencyFlow]
  cases hlookup : n.metadata.lookup "dependency_label" with
  | none => exact Link.isEdge_edge _
  | some v =>
    obtain ⟨label, -, rfl⟩ := hn.metadata.label hlookup
    exact Link.isEdge_edge _

variable {x : NameIndex}

lemma dependencyLinks_isEdge {nodes : List Node} (hnodes : ∀ n ∈ nodes, n.Shaped) :
    ∀ l ∈ dependencyLinks x nodes, l.IsEdge := by
  intro l hl
  obtain ⟨n, hn, hl⟩ := List.mem_flatMap.mp hl
  have hkind : recordKind "dependencies" = .names := by decide
  rw [dependencyLinksTo] at hl
  obtain hnull | ⟨items, hlist, hitems⟩ := (hnodes n hn).metadata.get_names hkind
  · rw [hnull] at hl
    cases hl
  · rw [hlist] at hl
    split at hl
    · cases hl
    · obtain ⟨item, hitem, hl⟩ := List.mem_filterMap.mp hl
      obtain ⟨name, rfl⟩ := hitems item hitem
      obtain ⟨source, -, rfl⟩ := Option.map_eq_some_iff.mp hl
      exact dependencyFlow_isEdge source (hnodes n hn)

lemma faults_of_resolve (hx : x.Shaped) {reference : String} {b : Binding}
    (h : x.resolve reference = some b) : b.dispatcherFault? = none ∧ b.writerFault? = none := by
  have hshaped := (hx _ (NameIndex.holds_of_resolve h)).metadata
  exact ⟨hshaped.listFault? (by decide), hshaped.listFault? (by decide)⟩

lemma callLinks_isEdge (hx : x.Shaped) (process : String) (calls : List String) :
    ∀ l ∈ callLinks x process calls, l.IsEdge := by
  intro l hl
  obtain ⟨call, -, hl⟩ := List.mem_filterMap.mp hl
  obtain ⟨b, hb, rfl⟩ := Option.map_eq_some_iff.mp hl
  obtain ⟨hdispatcher, hwriter⟩ := faults_of_resolve hx (Option.filter_eq_some_iff.mp hb).1
  simp only [callFlow, hdispatcher, hwriter]
  repeat' split
  all_goals exact Link.isEdge_edge _

/-- A handler carries all the calls that do something. -/
lemma carriedLinks_of_shaped (hx : x.Shaped) (handler : String) (calls : List String) :
    carriedLinks x handler calls = callLinks x handler (calls.filter (carriesCall x)) := by
  have hnone : calls.findSome? (carryFault? x) = none := by
    refine List.findSome?_eq_none_iff.mpr fun call _ => ?_
    rw [carryFault?, Option.bind_eq_none_iff]
    intro b hb
    exact (faults_of_resolve hx (Option.filter_eq_some_iff.mp hb).1).2
  rw [carriedLinks, hnone]

lemma carriedLinks_isEdge (hx : x.Shaped) (handler : String) (calls : List String) :
    ∀ l ∈ carriedLinks x handler calls, l.IsEdge := by
  rw [carriedLinks_of_shaped hx]
  exact callLinks_isEdge hx handler _

lemma planReference_ne_unreadable (hx : x.Shaped) (reference : String) (cause : RecordError) :
    planReference x reference ≠ .unreadable cause := by
  rw [planReference]
  cases hb : x.resolve reference with
  | none => exact nofun
  | some b =>
    simp only [planData, (faults_of_resolve hx hb).2]
    repeat' split
    all_goals exact nofun

lemma planHandler_ne_unreadable (hx : x.Shaped) (scope : Scope) (content : AttributeContent)
    (cause : RecordError) : planHandler x scope content ≠ .unreadable cause := by
  unfold planHandler
  split
  · exact nofun
  · split
    · exact nofun
    · exact planReference_ne_unreadable hx _ cause
  · rw [planCode]
    repeat' split
    all_goals exact nofun

lemma handlerRequests_isEdge (hx : x.Shaped) {element : String} {scope : Scope} (a : Attribute) :
    ∀ r ∈ (planHandler x scope a.content).requests element a, ∀ handler,
      ∀ l ∈ r.links x handler, l.IsEdge := by
  intro r hr handler l hl
  obtain ⟨id, -, rfl⟩ | ⟨cause, hplan, -⟩ | ⟨-, rfl | ⟨calls, hl⟩ | ⟨assigns, e, -, rfl⟩⟩ :=
    handlerRequests_cases hr hl
  · exact Link.isEdge_edge _
  · exact absurd hplan (planHandler_ne_unreadable hx scope a.content cause)
  · exact Link.isEdge_edge _
  · exact carriedLinks_isEdge hx handler calls l hl
  · exact Link.isEdge_edge e

/-- What elements ask for are edges. -/
lemma elementRequests_isEdge (hx : x.Shaped) (p : PlacedElement) :
    ∀ r ∈ elementRequests x p, ∀ handler, ∀ l ∈ r.links x handler, l.IsEdge := by
  intro r hr handler l hl
  obtain ⟨e, -, rfl⟩ | ⟨a, -, -, hr⟩ := elementRequests_cases hr
  · rw [List.mem_singleton.mp hl]
    exact Link.isEdge_edge e
  · exact handlerRequests_isEdge hx a r hr handler l hl

/-! ## Sound sessions -/

lemma shaped_index {s : Session} (h : ∀ n ∈ s.diagram.nodes, n.Shaped) : (index s).Shaped :=
  fun n hn => shaped_placed h n (NameIndex.mem_of_holds hn)

lemma recordedLinks_isEdge {s : Session} (h : ∀ n ∈ s.diagram.nodes, n.Shaped) :
    ∀ l ∈ recordedLinks s, l.IsEdge :=
  List.forall_mem_append.mpr ⟨initializerLinks_isEdge _ (shaped_placed h),
    dependencyLinks_isEdge (shaped_placed h)⟩

lemma legible_of_shaped {s : Session} (h : ∀ n ∈ s.diagram.nodes, n.Shaped) : Legible s where
  names := NameIndex.fault_ofNodes_eq_none_iff.mpr fun n hn =>
    ⟨NameIndex.aliasFault?_eq_none (shaped_placed h n hn),
      NameIndex.processFault?_eq_none (shaped_placed h n hn)⟩
  links := fun l hl => (recordedLinks_isEdge h l hl).readable
  calls := fun p _ l hl => (callLinks_isEdge (shaped_index h) p.id _ l hl).readable

/-- Without groups nothing is taken out that the markup could refer to. -/
lemma connectable_of_shaped {s : Session} (h : ∀ n ∈ s.diagram.nodes, n.Shaped)
    (hgroups : s.diagram.groups = []) : Connectable s := by
  have hnone : ∀ id, id ∉ hollowIds s.diagram.groups := by
    intro id
    rw [hgroups]
    simp [hollowIds, hollow]
  refine ⟨fun _ _ e _ => hnone e.source, fun p hp => ?_⟩
  obtain ⟨r, hr, m, -, -, hl⟩ := exists_of_mem_linksFrom hp
  obtain ⟨q, -, hr⟩ := List.mem_flatMap.mp hr
  exact (elementRequests_isEdge (shaped_index h) q r hr _ p.2 hl).fits fun id => .inl (hnone id)

/-- **Sound sessions.** A sound session can be assembled. -/
theorem harmless_of_sound {s : Session} (h : s.Sound) : Harmless s := by
  have hcounts : s.CountsLe (layout s).build.session :=
    (grows_before s).counts.trans (settled_layout h.coherent h.nested).counts
  have hleaves : (recordedLinks s).flatMap Link.leaves = [] :=
    List.flatMap_eq_nil_iff.mpr fun l hl => (recordedLinks_isEdge h.shaped l hl).leaves
  exact
    { fresh := fun id hid hmem => hid.not_issued (h.issued id hmem)
      handlers := fun id hid hmem => absurd (h.issued id hmem) (hid.of_le hcounts).not_issued
      legible := legible_of_shaped h.shaped
      labelled := by simp [hleaves]
      listed := by simp [h.groupless, hollow]
      connectable := connectable_of_shaped h.shaped h.groupless }

lemma live_of_sound {s : Session} (h : s.Sound) : (assemble s).Live :=
  (live_assemble_iff h.coherent h.nested).mpr (harmless_of_sound h)

/-- Each stage of the assembly of a sound session goes through. -/
lemma live_stages_of_sound {s : Session} (h : s.Sound) :
    (placed s).1.Live ∧ (routed s).Live ∧ (layout s).build.Live ∧ (connected s).Live := by
  have hassembled := live_of_sound h
  rw [assemble_eq] at hassembled
  have hconnected := (live_finish.mp hassembled).1
  have hlayout := ((grows_connected h.coherent h.nested).live.mp hconnected).1
  have hrouted := ((settled_layout h.coherent h.nested).live.mp hlayout).1
  have hrelated := ((grows_routed s).live.mp hrouted).1
  have hnamed := ((grows_related s).live.mp hrelated).1
  exact ⟨((grows_named s).live.mp hnamed).1, hrouted, hlayout, hconnected⟩

lemma coherent_connected {s : Session} (h : s.Sound) : (connected s).diagram.Coherent := by
  obtain ⟨-, -, hlive, -⟩ := live_stages_of_sound h
  exact (grows_connected h.coherent h.nested).edits.coherent
    ((settled_layout h.coherent h.nested).coherent hlive)

/-- The diagram of a sound session is the one with all links, its edges merged. -/
lemma diagram_of_sound {s : Session} (h : s.Sound) : (assemble s).diagram =
    (connected s).diagram.replaceEdges (mergeEdges (connected s).diagram.edges) := by
  have hassembled := live_of_sound h
  rw [assemble_eq] at hassembled ⊢
  exact diagram_finish hassembled

end Assembly

end ComponentFlow

import ComponentFlow.Proofs.Arrangement

/-!
# Where edges come from

Each pass of the assembly draws edges of its own, and the layout draws none. `Adds` says of a
stretch of the assembly which edges it may draw; stretches are put together by `Adds.trans`. At the
end every edge is one that came with a hook, one that was recorded, one of a process, one that
controls a group, or one that an element asks for (`mem_edges_connected`).

Handlers are the only nodes that are added after the layout. They are processes
(`exists_handlerNode`).
-/

namespace ComponentFlow

namespace Build

/-- All edges that the second build has and the first has not are of one kind. -/
def Adds (P : Edge → Prop) (b b' : Build) : Prop :=
  ∀ e ∈ b'.diagram.edges, e ∈ b.diagram.edges ∨ P e

variable {P Q : Edge → Prop} {b b' b'' : Build}

lemma adds_of_edges_eq (h : b'.diagram.edges = b.diagram.edges) : Adds P b b' :=
  fun _ he => .inl (h ▸ he)

lemma Adds.trans (h : Adds P b b') (h' : Adds P b' b'') : Adds P b b'' := by
  intro e he
  obtain he | he := h' e he
  · exact h e he
  · exact .inr he

lemma Adds.mono (h : Adds P b b') (hP : ∀ e, P e → Q e) : Adds Q b b' :=
  fun e he => (h e he).imp_right (hP e)

/-! ## Steps without edges -/

lemma edges_change {f : Diagram → Except DiagramError Diagram}
    (hf : ∀ d', f b.diagram = .ok d' → d'.edges = b.diagram.edges) :
    (b.change f).diagram.edges = b.diagram.edges := by
  obtain ⟨-, heq⟩ | ⟨-, d', hok, heq⟩ | ⟨-, e, -, heq⟩ := b.change_cases f
  · rw [heq]
  · rw [heq]
    exact hf d' hok
  · rw [heq]
    rfl

lemma edges_addNode (b : Build) (sketch : Sketch) :
    (b.addNode sketch).2.diagram.edges = b.diagram.edges := by
  refine edges_change (b := (b.nextId sketch.stem).2) fun d' hok => ?_
  obtain ⟨-, -, rfl⟩ := Diagram.addNode_eq_ok_iff.mp hok
  rfl

lemma edges_annotate (b : Build) (id key : String) (value : Value) :
    (b.annotate id key value).diagram.edges = b.diagram.edges := by
  refine edges_change fun d' hok => ?_
  obtain rfl := Except.ok.inj hok
  rfl

lemma edges_modifyGroup (b : Build) (id : String) (f : Group → Group) :
    (b.modifyGroup id f).diagram.edges = b.diagram.edges := by
  refine edges_change fun d' hok => ?_
  obtain rfl := Except.ok.inj hok
  rfl

lemma edges_openGroup (b : Build) (label : String) (parent : Option String) (kind : String)
    (metadata : Metadata) :
    (b.openGroup label parent kind metadata).2.diagram.edges = b.diagram.edges := by
  have hadded : ((b.nextId "subgraph").2.change (·.addGroup
      { id := (b.nextId "subgraph").1, label, parent, kind, metadata })).diagram.edges =
      b.diagram.edges := by
    refine edges_change (b := (b.nextId "subgraph").2) fun d' hok => ?_
    obtain ⟨-, -, rfl⟩ := Diagram.addGroup_eq_ok_iff.mp hok
    rfl
  cases parent with
  | none => exact hadded
  | some p => exact (edges_modifyGroup _ _ _).trans hadded

/-! ## Following links -/

lemma adds_follow (b : Build) (l : Link) : Adds (l = .edge ·) b (b.follow l) := by
  cases l with
  | edge e =>
    rw [follow, link]
    split
    · exact adds_of_edges_eq rfl
    · obtain ⟨-, heq⟩ | ⟨-, d', hok, heq⟩ | ⟨-, e', -, heq⟩ := b.change_cases (·.addEdge e)
      · exact adds_of_edges_eq (by rw [heq])
      · obtain ⟨-, -, rfl⟩ := Diagram.addEdge_eq_ok_iff.mp hok
        rw [heq]
        intro e' he'
        obtain he' | he' := List.mem_append.mp he'
        · exact .inl he'
        · exact .inr (by rw [List.mem_singleton.mp he'])
      · exact adds_of_edges_eq (by rw [heq]; rfl)
  | unlabelled source target kind =>
    rw [follow]
    split <;> exact adds_of_edges_eq rfl
  | unreadable cause => exact adds_of_edges_eq rfl

lemma adds_followAll (b : Build) (ls : List Link) : Adds (.edge · ∈ ls) b (b.followAll ls) := by
  induction ls generalizing b with
  | nil => exact adds_of_edges_eq rfl
  | cons l rest ih =>
    have hstep : Adds (.edge · ∈ l :: rest) b (b.follow l) :=
      (adds_follow b l).mono fun e he => he ▸ List.mem_cons_self
    exact hstep.trans ((ih (b.follow l)).mono fun e he => List.mem_cons_of_mem _ he)

lemma adds_linkAll (b : Build) (es : List Edge) : Adds (· ∈ es) b (b.linkAll es) := by
  rw [linkAll_eq_followAll]
  refine (adds_followAll b _).mono fun e he => ?_
  obtain ⟨e', he', heq⟩ := List.mem_map.mp he
  exact Link.edge.inj heq ▸ he'

lemma adds_link (b : Build) (e : Edge) : Adds (· = e) b (b.link e) :=
  (adds_linkAll b [e]).mono fun _ => List.mem_singleton.mp

end Build

namespace Layout

open Build

/-! ## The layout -/

lemma steady_edges (es : List Edge) : Steady (·.diagram.edges = es) where
  addNode := fun b _ _ h => (edges_addNode b _).trans h
  openGroup := fun b _ _ _ _ h => (edges_openGroup b _ _ _ _).trans h
  modifyGroup := fun b _ _ _ h => (edges_modifyGroup b _ _).trans h
  annotate := fun b _ _ h => (edges_annotate b _ _ _).trans h
  record := fun b level origin message h =>
    (congrArg Diagram.edges (b.record_kept level origin message).2.2.1).trans h

/-- The layout draws no edges. -/
lemma edges_lay (b : Build) (output : List RenderNode) (exported : List String) :
    (lay b output exported).build.diagram.edges = b.diagram.edges :=
  (steady_edges _).lay output exported (edges_openGroup b _ _ _ _)

/-- Edges go with the groups that are taken out, and none is drawn. -/
lemma adds_ofOutput {b : Build} (hb : b.diagram.Coherent)
    (hnested : Diagram.Nested b.diagram.groups) (output : List RenderNode) (exported : List String)
    (hlive : (ofOutput b output exported).build.Live) :
    Adds (fun _ => False) b (ofOutput b output exported).build := by
  intro e he
  obtain ⟨-, -, hdiagram⟩ := diagram_ofOutput hb hnested output exported hlive
  rw [hdiagram] at he
  rw [← edges_lay b output exported]
  exact .inl (List.mem_filter.mp he).1

/-- Nodes that were there before stay, unless they stand for groups that are taken out. -/
lemma exists_node_ofOutput {b : Build} (hb : b.diagram.Coherent)
    (hnested : Diagram.Nested b.diagram.groups) (output : List RenderNode) (exported : List String)
    (hlive : (ofOutput b output exported).build.Live) {n : Node} (hn : n ∈ b.diagram.nodes)
    (hkept : n.id ∉ hollowIds b.diagram.groups) :
    ∃ n' ∈ (ofOutput b output exported).build.diagram.nodes, n'.Continues n := by
  have hedits := (inv_lay hb output exported).laying.grows.edits
  obtain ⟨-, -, hdiagram⟩ := diagram_ofOutput hb hnested output exported hlive
  have hid := ((settled_ofOutput hb hnested output exported).kept hlive n.id
    (List.mem_map_of_mem hn)).mpr hkept
  obtain ⟨n', hn', hcontinues⟩ := hedits.exists_node hn
  rw [hdiagram] at hid ⊢
  rw [← hcontinues.id] at hid
  exact ⟨n', List.mem_filter.mpr ⟨hn', by simpa using (Diagram.mem_ids_without.mp hid).2⟩,
    hcontinues⟩

end Layout

namespace Assembly

open Build

variable {x : NameIndex}

/-! ## Props and processes -/

lemma edges_addProps (b : Build) (props : List InputProp) :
    (addProps b props).1.diagram.edges = b.diagram.edges := by
  refine List.foldlRecOn props addProp (motive := fun st : Build × List (String × String) =>
    st.1.diagram.edges = b.diagram.edges) rfl ?_
  rintro ⟨b', done⟩ hb' p -
  simp only [addProp]
  split
  · exact hb'
  · exact (edges_addNode _ _).trans hb'

lemma edges_addRoutines (b : Build) (exported : Bool) (rs : List Routine) :
    (addRoutines b exported rs).1.diagram.edges = b.diagram.edges := by
  refine List.foldlRecOn rs (addRoutine exported) (motive := fun st : Build × List PlacedRoutine =>
    st.1.diagram.edges = b.diagram.edges) rfl ?_
  rintro ⟨b', done⟩ hb' r -
  simp only [addRoutine]
  split
  · exact (edges_addNode _ _).trans hb'
  · exact ((edges_annotate _ _ _ _).trans (edges_addNode _ _)).trans
      ((edges_addNode _ _).trans hb')

/-- Adding props and processes draws no edges. -/
lemma edges_placed (s : Session) : (placed s).1.diagram.edges = s.diagram.edges :=
  ((edges_addRoutines _ true _).trans (edges_addRoutines _ false _)).trans (edges_addProps _ _)

/-- The edges of a process. -/
inductive IsRoutineEdge (x : NameIndex) (p : PlacedRoutine) : Edge → Prop
  | reads {e} : e ∈ readEdges x p.id p.routine.references → IsRoutineEdge x p e
  | calls {e} : .edge e ∈ callLinks x p.id p.routine.calls → IsRoutineEdge x p e
  | assigns {e} : e ∈ assignEdges x p.id p.routine.assigns → IsRoutineEdge x p e
  /-- A call of a function from outside the component. -/
  | external (target : String) : IsRoutineEdge x p ⟨p.id, target, "calls"⟩
  | triggers {e} : e ∈ triggerEdges x p.id p.routine.dependencies → IsRoutineEdge x p e
  | cleanup (target : String) : IsRoutineEdge x p ⟨p.id, target, "cleanup"⟩

lemma adds_linkExternal (p : PlacedRoutine) (st : Build × List (String × String))
    (callee : String) : Adds (IsRoutineEdge x p) st.1 (linkExternal x p.id st callee).1 := by
  have hlink : ∀ (b : Build) (id : String),
      Adds (IsRoutineEdge x p) b (b.link ⟨p.id, id, "calls"⟩) :=
    fun b id => (adds_link b _).mono fun _ he => he ▸ .external id
  simp only [linkExternal]
  split
  · exact adds_of_edges_eq rfl
  split
  · exact hlink _ _
  · exact (adds_of_edges_eq (edges_addNode _ _)).trans (hlink _ _)

lemma adds_linkRoutine (st : Build × List (String × String)) (p : PlacedRoutine) :
    Adds (IsRoutineEdge x p) st.1 (linkRoutine x st p).1 := by
  have hexternals : ∀ st' : Build × List (String × String), Adds (IsRoutineEdge x p) st'.1
      (p.routine.externalCalls.foldl (linkExternal x p.id) st').1 := fun st' =>
    List.foldlRecOn _ (linkExternal x p.id)
      (motive := fun st'' : Build × List (String × String) =>
        Adds (IsRoutineEdge x p) st'.1 st''.1)
      (adds_of_edges_eq rfl) fun st'' hst'' callee _ =>
        hst''.trans (adds_linkExternal p st'' callee)
  have hreads := (adds_linkAll st.1 (readEdges x p.id p.routine.references)).mono
    fun _ => IsRoutineEdge.reads (x := x) (p := p)
  have hcalls := hreads.trans ((adds_followAll _ (callLinks x p.id p.routine.calls)).mono
    fun _ => .calls)
  have hassigns := hcalls.trans ((adds_linkAll _ (assignEdges x p.id p.routine.assigns)).mono
    fun _ => .assigns)
  have htriggers := (hassigns.trans (hexternals (_, st.2))).trans
    ((adds_linkAll _ (triggerEdges x p.id p.routine.dependencies)).mono fun _ => .triggers)
  refine htriggers.trans ((adds_linkAll _ _).mono fun e he => ?_)
  obtain ⟨target, -, rfl⟩ := List.mem_map.mp he
  exact .cleanup target

lemma adds_linkRoutines (b : Build) (placed : List PlacedRoutine) :
    Adds (fun e => ∃ p ∈ placed, IsRoutineEdge x p e) b (linkRoutines x b placed) :=
  List.foldlRecOn placed (linkRoutine x)
    (motive := fun st : Build × List (String × String) =>
      Adds (fun e => ∃ p ∈ placed, IsRoutineEdge x p e) b st.1)
    (adds_of_edges_eq rfl) fun st hst p hp =>
      hst.trans ((adds_linkRoutine st p).mono fun _ he => ⟨p, hp, he⟩)

/-! ## The markup -/

lemma adds_linkControls (b : Build) (controls : List ControlFlow) :
    Adds (fun e => ∃ c ∈ controls, e ∈ controlEdges x c) b
      (controls.foldl (linkControl x) b) := by
  refine List.foldlRecOn controls (linkControl x)
    (motive := fun b' : Build => Adds (fun e => ∃ c ∈ controls, e ∈ controlEdges x c) b b')
    (adds_of_edges_eq rfl) fun b' hb' c hc => hb'.trans ?_
  rw [linkControl]
  split
  · exact (adds_linkAll b' _).mono fun _ he => ⟨c, hc, he⟩
  · exact adds_of_edges_eq rfl

lemma adds_meet (b : Build) (r : Request) :
    Adds (.edge · ∈ r.links x (Session.idOf "handler" (b.session.count "handler"))) b
      (meet x b r) := by
  cases r with
  | follow l => exact (adds_follow b l).mono fun _ he => he ▸ List.mem_cons_self
  | note message =>
    obtain ⟨-, -, hdiagram, -⟩ := b.record_kept .debug "assembler" message
    exact adds_of_edges_eq (congrArg Diagram.edges hdiagram)
  | handle element a calls assigns =>
    rw [meet, addHandler_eq]
    exact (adds_of_edges_eq (edges_addNode _ _)).trans (adds_followAll _ _)

lemma adds_meetAll (b : Build) (rs : List Request) :
    Adds (fun e => ∃ number, (number, .edge e) ∈ linksFrom x (b.session.count "handler") rs) b
      (rs.foldl (meet x) b) := by
  induction rs generalizing b with
  | nil => exact adds_of_edges_eq rfl
  | cons r rest ih =>
    have hrest := ih (meet x b r)
    rw [(count_meet b r).1] at hrest
    refine Adds.trans ((adds_meet b r).mono fun e he => ?_) (hrest.mono ?_)
    · exact ⟨_, List.mem_append_left _ (List.mem_map_of_mem he)⟩
    · rintro e ⟨number, he⟩
      exact ⟨number, List.mem_append_right _ he⟩

/-! ## Handlers -/

/-- The node of a handler is there once its request is met. -/
lemma exists_node_meet {b : Build} {r : Request} (hdraws : r.draws = 1)
    (hlive : (meet x b r).Live) : ∃ n ∈ (meet x b r).diagram.nodes,
      n.id = Session.idOf "handler" (b.session.count "handler") ∧
        n.type = NodeType.process.name := by
  cases r with
  | follow l => cases hdraws
  | note message => cases hdraws
  | handle element a calls assigns =>
    rw [meet, addHandler_eq] at hlive ⊢
    rw [(followAll_kept _ _).2]
    have hadded := ((grows_followAll false _ _).live.mp hlive).1
    exact ⟨_, newNode_mem_addNode hadded, rfl, rfl⟩

/-- Every handler is a process. -/
lemma exists_handlerNode {b : Build} {rs : List Request} (hlive : (rs.foldl (meet x) b).Live)
    {id : String} (hid : IsHandler (b.session.count "handler")
      ((rs.foldl (meet x) b).session.count "handler") id) :
    ∃ n ∈ (rs.foldl (meet x) b).diagram.nodes, n.id = id ∧ n.type = NodeType.process.name := by
  induction rs generalizing b with
  | nil =>
    obtain ⟨j, hlow, hhigh, -⟩ := hid
    exact absurd hhigh (Nat.not_lt.mpr hlow)
  | cons r rest ih =>
    have hgrows := grows_meetAll (x := x) (meet x b r) rest
    have hlive' := (hgrows.live.mp hlive).1
    have hcount := (count_meet (x := x) b r).1
    obtain ⟨j, hlow, hhigh, rfl⟩ := hid
    -- the first request draws the id, or a later one does
    by_cases hj : j < b.session.count "handler" + r.draws
    · have hdraws : r.draws = 1 := by
        cases r with
        | handle element a calls assigns => rfl
        | follow l => exact absurd hj (Nat.not_lt.mpr hlow)
        | note message => exact absurd hj (Nat.not_lt.mpr hlow)
      obtain rfl : j = b.session.count "handler" := by omega
      obtain ⟨n, hn, hid, htype⟩ := exists_node_meet hdraws hlive'
      obtain ⟨n', hn', hcontinues⟩ := hgrows.edits.exists_node hn
      exact ⟨n', hn', hcontinues.id.trans hid, hcontinues.type.trans htype⟩
    · exact ih hlive ⟨j, by omega, hhigh, rfl⟩

lemma le_count_of_mem_linksFrom {b : Build} {rs : List Request} {p : Nat × Link}
    (h : p ∈ linksFrom x (b.session.count "handler") rs) :
    p.1 ≤ (rs.foldl (meet x) b).session.count "handler" := by
  induction rs generalizing b with
  | nil => cases h
  | cons r rest ih =>
    have hcount := (count_meet (x := x) b r).1
    have hle := (grows_meetAll (x := x) (meet x b r) rest).counts "handler"
    obtain h | h := List.mem_append.mp h
    · obtain ⟨l, -, rfl⟩ := List.mem_map.mp h
      exact hcount ▸ hle
    · exact ih (hcount ▸ h)

/-! ## The whole assembly -/

/-- The nodes before the layout are still there at the end. -/
lemma exists_node_connected {s : Session} (hs : s.Sound) {n : Node}
    (hn : n ∈ (routed s).diagram.nodes) : ∃ n' ∈ (connected s).diagram.nodes, n'.Continues n := by
  obtain ⟨-, -, hlive, -⟩ := live_stages_of_sound hs
  have hbefore := (grows_before s).edits
  have hgroups : (routed s).diagram.groups = [] := (groups_routed s).trans hs.groupless
  obtain ⟨n', hn', hcontinues⟩ := Layout.exists_node_ofOutput (hbefore.coherent hs.coherent)
    (hbefore.nested hs.nested) _ _ hlive hn (by simp [hgroups, hollowIds, hollow])
  obtain ⟨n'', hn'', hcontinues'⟩ :=
    (grows_connected hs.coherent hs.nested).edits.exists_node hn'
  exact ⟨n'', hn'', hcontinues'.trans hcontinues⟩

lemma exists_node_of_placed {s : Session} (hs : s.Sound) {n : Node}
    (hn : n ∈ (placed s).1.diagram.nodes) :
    ∃ n' ∈ (connected s).diagram.nodes, n'.Continues n := by
  have hedits : Diagram.Edits false (placed s).1.diagram (routed s).diagram :=
    ((grows_named s).edits.trans (grows_related s).edits).trans (grows_routed s).edits
  obtain ⟨n₁, hn₁, hcontinues⟩ := hedits.exists_node hn
  obtain ⟨n₂, hn₂, hcontinues'⟩ := exists_node_connected hs hn₁
  exact ⟨n₂, hn₂, hcontinues'.trans hcontinues⟩

/-- The nodes of elements are still there at the end. -/
lemma exists_node_of_element {s : Session} (hs : s.Sound) {p : PlacedElement}
    (hp : p ∈ (layout s).elements) : ∃ n ∈ (connected s).diagram.nodes, n.Shows p := by
  obtain ⟨-, -, hlive, -⟩ := live_stages_of_sound hs
  obtain ⟨n, hn, hshows⟩ := (complete_layout hs.coherent hs.groupless hlive).shown p hp
  obtain ⟨n', hn', hcontinues⟩ := (grows_connected hs.coherent hs.nested).edits.exists_node hn
  exact ⟨n', hn', hshows.continues hcontinues⟩

/-- The markup adds edges to what controls groups, and those that elements ask for. -/
lemma mem_edges_markup {s : Session} (hs : s.diagram.Coherent)
    (hnested : Diagram.Nested s.diagram.groups) (hlive : (layout s).build.Live) {e : Edge}
    (he : e ∈ (connected s).diagram.edges) :
    e ∈ (routed s).diagram.edges ∨ (∃ c ∈ (layout s).controls, e ∈ controlEdges (index s) c) ∨
      ∃ number, (number, .edge e) ∈ markupLinks s := by
  have hbefore := (grows_before s).edits
  have hmarkup := adds_meetAll (x := index s)
    ((layout s).controls.foldl (linkControl (index s)) (layout s).build)
    (requests (index s) (layout s).elements)
  rw [count_controls] at hmarkup
  have hlayout := Layout.adds_ofOutput (hbefore.coherent hs) (hbefore.nested hnested)
    s.component.output _ hlive
  obtain he | he := hmarkup e he
  · obtain he | he := adds_linkControls _ _ e he
    · exact .inl ((hlayout e he).resolve_right id)
    · exact .inr (.inl he)
  · exact .inr (.inr he)

/-- **Where edges come from.** -/
lemma mem_edges_connected {s : Session} (hs : s.diagram.Coherent)
    (hnested : Diagram.Nested s.diagram.groups) (hlive : (layout s).build.Live) {e : Edge}
    (he : e ∈ (connected s).diagram.edges) :
    e ∈ s.diagram.edges ∨ .edge e ∈ recordedLinks s ∨
      (∃ p ∈ (placed s).2.2, IsRoutineEdge (index s) p e) ∨
      (∃ c ∈ (layout s).controls, e ∈ controlEdges (index s) c) ∨
      ∃ number, (number, .edge e) ∈ markupLinks s := by
  obtain he | he := mem_edges_markup hs hnested hlive he
  · obtain he | he := adds_linkRoutines _ _ e he
    · obtain he | he := adds_followAll _ _ e he
      · rw [diagram_named, edges_placed] at he
        exact .inl he
      · exact .inr (.inl he)
    · exact .inr (.inr (.inl he))
  · exact .inr (.inr (.inr he))

end Assembly

end ComponentFlow

import ComponentFlow.Proofs.Identities
import ComponentFlow.Proofs.Tracing

/-!
# What assembled nodes stand for

The assembly adds a node for each name among the props, and one for each function from outside that
is called; it remembers which of them it has. All other nodes that it adds stand for nothing in
particular, and the notes that it makes on nodes leave them what they are. So besides what the nodes
of the session stand for there are props and functions from outside, each of them once
(`identities_assemble`).

Nor does the assembly lose a node or a connection of the session (`within_assemble`).
-/

namespace ComponentFlow

open Build

/-! ## Single steps -/

namespace Build

variable {b : Build} {marks : List Identity}

lemma identities_of_nodes_eq {d d' : Diagram} (h : d'.nodes = d.nodes) :
    d'.identities = d.identities := by
  rw [Diagram.identities, h, Diagram.identities]

/-- What holds of the diagram before a change and of what the change makes of it holds after it. -/
lemma identities_change {f : Diagram → Except DiagramError Diagram}
    (hf : ∀ d', f b.diagram = .ok d' → d'.identities.Sublist marks)
    (h : b.diagram.identities.Sublist marks) : (b.change f).diagram.identities.Sublist marks := by
  obtain ⟨-, heq⟩ | ⟨-, d', hok, heq⟩ | ⟨-, e, -, heq⟩ := b.change_cases f
  · rwa [heq]
  · rw [heq]
    exact hf d' hok
  · rw [heq]
    exact h

lemma identities_addNode {sketch : Sketch} {new : Option Identity}
    (hnew : (b.newNode sketch).identity? = new) (h : b.diagram.identities.Sublist marks) :
    (b.addNode sketch).2.diagram.identities.Sublist (marks ++ new.toList) := by
  have hbefore : (b.nextId sketch.stem).2.diagram.identities.Sublist (marks ++ new.toList) :=
    h.trans (List.sublist_append_left _ _)
  refine identities_change (fun d' hok => ?_) hbefore
  obtain ⟨-, -, rfl⟩ := Diagram.addNode_eq_ok_iff.mp hok
  rw [Diagram.identities, List.filterMap_append]
  refine List.Sublist.append h ?_
  rw [List.filterMap_cons, hnew]
  cases new <;> exact List.Sublist.refl _

/-- A node that stands for something. -/
lemma identities_addNode_some {sketch : Sketch} {m : Identity}
    (hsome : (b.newNode sketch).identity? = some m) (h : b.diagram.identities.Sublist marks) :
    (b.addNode sketch).2.diagram.identities.Sublist (marks ++ [m]) :=
  identities_addNode hsome h

/-- A node that stands for nothing in particular. -/
lemma identities_addNode_none {sketch : Sketch} (hnone : (b.newNode sketch).identity? = none)
    (h : b.diagram.identities.Sublist marks) :
    (b.addNode sketch).2.diagram.identities.Sublist marks := by
  have hadded := identities_addNode hnone h
  rwa [Option.toList_none, List.append_nil] at hadded

lemma identities_annotate {key : String} (hkey : key ∉ Node.identityKeys)
    (h : b.diagram.identities.Sublist marks) (id : String) (value : Value) :
    (b.annotate id key value).diagram.identities.Sublist marks := by
  refine identities_change (fun d' hok => ?_) h
  obtain rfl := Except.ok.inj hok
  rw [Diagram.identities, Diagram.modifyNode, List.filterMap_map]
  refine (List.filterMap_congr fun n _ => ?_).symm ▸ h
  rw [Function.comp_apply]
  split
  · refine Node.identity?_congr rfl fun k hk => Metadata.get_set_of_ne _ _ ?_
    rintro rfl
    exact hkey hk
  · rfl

lemma identities_modifyGroup (h : b.diagram.identities.Sublist marks) (id : String)
    (f : Group → Group) : (b.modifyGroup id f).diagram.identities.Sublist marks := by
  refine identities_change (fun d' hok => ?_) h
  obtain rfl := Except.ok.inj hok
  exact h

lemma identity?_groupNode (g : Group) : (Diagram.groupNode g).identity? = none := rfl

lemma identities_openGroup (h : b.diagram.identities.Sublist marks) (label : String)
    (parent : Option String) (kind : String) (metadata : Metadata) :
    (b.openGroup label parent kind metadata).2.diagram.identities.Sublist marks := by
  have hadded : ((b.nextId "subgraph").2.change (·.addGroup
      { id := (b.nextId "subgraph").1, label, parent, kind, metadata })).diagram.identities.Sublist
      marks := by
    refine identities_change (fun d' hok => ?_) h
    obtain ⟨-, -, rfl⟩ := Diagram.addGroup_eq_ok_iff.mp hok
    rw [Diagram.identities, List.filterMap_append,
      List.filterMap_cons_none (identity?_groupNode _), List.filterMap_nil, List.append_nil]
    exact h
  cases parent with
  | none => exact hadded
  | some p => exact identities_modifyGroup hadded _ _

lemma identities_record (h : b.diagram.identities.Sublist marks) (level : Level)
    (origin message : String) :
    (b.record level origin message).diagram.identities.Sublist marks := by
  rwa [(b.record_kept level origin message).2.2.1]

lemma identities_followAll (h : b.diagram.identities.Sublist marks) (ls : List Link) :
    (b.followAll ls).diagram.identities.Sublist marks := by
  rwa [identities_of_nodes_eq (followAll_kept b ls).2]

lemma identities_linkAll (h : b.diagram.identities.Sublist marks) (es : List Edge) :
    (b.linkAll es).diagram.identities.Sublist marks := by
  rw [linkAll_eq_followAll]
  exact identities_followAll h _

end Build

namespace Assembly

variable {x : NameIndex} {marks : List Identity}

/-! ## Props and processes -/

/-- A build with nodes for some names: the nodes stand for the names, and each name is there
once. -/
def Marked (make : String → Identity) (marks : List Identity)
    (st : Build × List (String × String)) : Prop :=
  st.1.diagram.identities.Sublist (marks ++ st.2.map (make ·.1)) ∧ (st.2.map Prod.fst).Nodup

variable {make : String → Identity} {st : Build × List (String × String)}

/-- A node is added for a name that is not there yet. -/
lemma Marked.add (h : Marked make marks st) {name : String} (hnew : st.2.lookup name = none)
    {b : Build} (hb : b.diagram.identities.Sublist
      (marks ++ st.2.map (make ·.1) ++ [make name])) (id : String) :
    Marked make marks (b, st.2 ++ [(name, id)]) := by
  refine ⟨?_, ?_⟩
  · rwa [List.map_append, ← List.append_assoc]
  · rw [List.map_append]
    refine List.nodup_append.mpr ⟨h.2, List.nodup_singleton _, ?_⟩
    rintro old hold _ hname rfl
    obtain ⟨e, he, rfl⟩ := List.mem_map.mp hold
    rw [List.map_cons, List.map_nil, List.mem_singleton] at hname
    exact absurd (List.lookup_eq_none_iff.mp hnew e he) (by simp [hname])

lemma marked_addProp (h : Marked .prop marks st) (p : InputProp) :
    Marked .prop marks (addProp st p) := by
  simp only [addProp]
  split
  · exact h
  · rename_i hnew
    refine h.add (Option.not_isSome_iff_eq_none.mp hnew)
      (identities_addNode_some ?_ h.1) _
    rw [newNode, InputProp.sketch]
    cases p.type.filter (· != "") <;> rfl

lemma marked_addProps {b : Build} (h : b.diagram.identities.Sublist marks)
    (props : List InputProp) : Marked .prop marks (addProps b props) := by
  refine List.foldlRecOn props addProp (motive := Marked .prop marks) ⟨?_, List.nodup_nil⟩
    fun st hst p _ => marked_addProp hst p
  rwa [List.map_nil, List.append_nil]

lemma identities_addRoutine {st : Build × List PlacedRoutine}
    (h : st.1.diagram.identities.Sublist marks) (exported : Bool) (r : Routine) :
    (addRoutine exported st r).1.diagram.identities.Sublist marks := by
  have hadded : (st.1.addNode (r.sketch exported)).2.diagram.identities.Sublist marks := by
    refine identities_addNode_none ?_ h
    rw [newNode, Routine.sketch]
    cases exported <;> cases r.name == "" <;> rfl
  simp only [addRoutine]
  cases r.cleanup with
  | none => exact hadded
  | some c =>
    refine identities_annotate (by decide) ?_ _ _
    exact identities_addNode_none rfl hadded

lemma identities_addRoutines {b : Build} (h : b.diagram.identities.Sublist marks) (exported : Bool)
    (routines : List Routine) :
    (addRoutines b exported routines).1.diagram.identities.Sublist marks :=
  List.foldlRecOn routines (addRoutine exported)
    (motive := fun st : Build × List PlacedRoutine => st.1.diagram.identities.Sublist marks) h
    fun _ hst r _ => identities_addRoutine hst exported r

lemma marked_linkExternal (h : Marked .external marks st) (process callee : String) :
    Marked .external marks (linkExternal x process st callee) := by
  simp only [linkExternal]
  split
  · exact h
  split
  · exact ⟨identities_linkAll h.1 [_], h.2⟩
  · rename_i hnew
    refine h.add hnew (identities_linkAll ?_ [_]) _
    exact identities_addNode_some rfl h.1

lemma marked_linkRoutine (h : Marked .external marks st) (p : PlacedRoutine) :
    Marked .external marks (linkRoutine x st p) := by
  have hbefore := identities_linkAll (identities_followAll (identities_linkAll h.1
    (readEdges x p.id p.routine.references)) (callLinks x p.id p.routine.calls))
    (assignEdges x p.id p.routine.assigns)
  have hstart : Marked .external marks (_, st.2) := ⟨hbefore, h.2⟩
  have hexternals := List.foldlRecOn p.routine.externalCalls (linkExternal x p.id)
    (motive := Marked .external marks) hstart
    fun st hst callee _ => marked_linkExternal hst p.id callee
  exact ⟨identities_linkAll (identities_linkAll hexternals.1 _) _, hexternals.2⟩

/-- The functions from outside that processes call have one node each. -/
lemma identities_linkRoutines {b : Build} (h : b.diagram.identities.Sublist marks)
    (placed : List PlacedRoutine) : ∃ callees : List String, callees.Nodup ∧
      (linkRoutines x b placed).diagram.identities.Sublist (marks ++ callees.map .external) := by
  have hmarked : Marked .external marks (placed.foldl (linkRoutine x) (b, [])) := by
    refine List.foldlRecOn placed (linkRoutine x) (motive := Marked .external marks)
      ⟨?_, List.nodup_nil⟩ fun st hst p _ => marked_linkRoutine hst p
    rwa [List.map_nil, List.append_nil]
  refine ⟨_, hmarked.2, ?_⟩
  rw [List.map_map]
  exact hmarked.1

/-! ## The markup -/

lemma steady_identities (marks : List Identity) :
    Layout.Steady (·.diagram.identities.Sublist marks) where
  addNode := fun _ _ _ h => identities_addNode_none rfl h
  openGroup := fun _ _ _ _ _ h => identities_openGroup h _ _ _ _
  modifyGroup := fun _ _ _ _ h => identities_modifyGroup h _ _
  annotate := fun _ _ _ h => identities_annotate (by decide) h _ _
  record := fun _ _ _ _ h => identities_record h _ _ _

/-- A group that is taken out takes with it at most the node with its id. -/
lemma identities_removeNode {d d' : Diagram} {group id : String}
    (h : (Layout.removeMember d group id).map (·.removeNode id) = .ok d') :
    d'.identities.Sublist d.identities := by
  rw [Layout.removeMember] at h
  split at h
  · obtain rfl := Except.ok.inj h
    exact List.filter_sublist.filterMap _
  · cases h

lemma identities_pruneGroup {st : Build × List String}
    (h : st.1.diagram.identities.Sublist marks) (id : String) :
    (Layout.pruneGroup st id).1.diagram.identities.Sublist marks := by
  rw [Layout.pruneGroup]
  split
  · refine identities_change (fun d' hok => ?_) (identities_record h _ _ _)
    exact (identities_removeNode hok).trans (identities_record h _ _ _)
  · exact h

lemma identities_ofOutput {b : Build} (h : b.diagram.identities.Sublist marks)
    (output : List RenderNode) (exported : List String) :
    (Layout.ofOutput b output exported).build.diagram.identities.Sublist marks :=
  List.foldlRecOn _ Layout.pruneGroup
    (motive := fun st : Build × List String => st.1.diagram.identities.Sublist marks)
    ((steady_identities marks).lay output exported (identities_openGroup h _ _ _ _))
    fun _ hst id _ => identities_pruneGroup hst id

lemma identities_meet {b : Build} (h : b.diagram.identities.Sublist marks) (r : Request) :
    (meet x b r).diagram.identities.Sublist marks := by
  cases r with
  | follow l => exact identities_followAll h [l]
  | note message => exact identities_record h _ _ _
  | handle element a calls assigns =>
    rw [meet, addHandler_eq]
    refine identities_followAll (identities_addNode_none ?_ h) _
    rw [newNode, handlerSketch]
    cases a.source.filter (· != "") <;> rfl

/-! ## The whole assembly -/

/-- An edge between nodes stays when the layout takes out groups, since these are new. -/
lemma mem_edges_ofOutput {b : Build} (hb : b.diagram.Coherent) (hgroups : b.diagram.groups = [])
    (output : List RenderNode) (exported : List String)
    (hlive : (Layout.ofOutput b output exported).build.Live) {e : Edge}
    (he : e ∈ b.diagram.edges) : e ∈ (Layout.ofOutput b output exported).build.diagram.edges := by
  have hnested : Diagram.Nested b.diagram.groups := by
    rw [hgroups]
    exact Diagram.nested_nil
  obtain ⟨-, -, hdiagram⟩ := Layout.diagram_ofOutput hb hnested output exported hlive
  have hkept : ∀ id ∈ b.diagram.ids,
      id ∉ (hollow (Layout.lay b output exported).build.diagram.groups).map (·.id) := by
    intro id hid
    have hmem := ((Layout.settled_ofOutput hb hnested output exported).kept hlive id hid).mpr
      (by simp [hgroups, hollowIds, hollow])
    rw [hdiagram] at hmem
    exact (Diagram.mem_ids_without.mp hmem).2
  obtain ⟨hsource, htarget⟩ := hb.ends e he
  rw [hdiagram]
  refine List.mem_filter.mpr ⟨?_, ?_⟩
  · rwa [Layout.edges_lay]
  · simp only [Bool.and_eq_true, Bool.not_eq_true', List.contains_eq_mem, decide_eq_false_iff_not]
    exact ⟨hkept _ hsource, hkept _ htarget⟩

lemma identities_finish {b : Build} (h : b.diagram.identities.Sublist marks) :
    (finish b).diagram.identities.Sublist marks := by
  obtain ⟨-, e, heq⟩ | ⟨-, message, heq⟩ := finish_cases b
  · rw [heq]
    exact h
  · rw [heq]
    refine identities_change (fun d' hok => ?_) (identities_record h _ _ _)
    obtain rfl := Except.ok.inj hok
    exact identities_record h _ _ _

/-- The markup brings no node that stands for something. -/
lemma identities_assemble_of_routed {s : Session}
    (h : (routed s).diagram.identities.Sublist marks) :
    (assemble s).diagram.identities.Sublist marks := by
  have hlayout : (layout s).build.diagram.identities.Sublist marks := identities_ofOutput h _ _
  have hcontrols : ((layout s).controls.foldl (linkControl (index s))
      (layout s).build).diagram.identities.Sublist marks := by
    rwa [identities_of_nodes_eq (linkControls_kept (layout s).build (layout s).controls).2]
  have hconnected : (connected s).diagram.identities.Sublist marks :=
    List.foldlRecOn _ (meet (index s))
      (motive := fun b : Build => b.diagram.identities.Sublist marks) hcontrols
      fun b hb r _ => identities_meet hb r
  rw [assemble_eq]
  exact identities_finish hconnected

/-- **One node for each name.** Besides what the nodes of the session stand for there are props and
functions from outside, each of them once. -/
lemma identities_assemble (s : Session) : ∃ props callees : List String,
    props.Nodup ∧ callees.Nodup ∧ (assemble s).diagram.identities.Sublist
      (s.diagram.identities ++ props.map .prop ++ callees.map .external) := by
  obtain ⟨hprops, hnodup⟩ := marked_addProps (b := { session := s })
    (List.Sublist.refl s.diagram.identities) s.component.props
  have hplaced := identities_addRoutines (identities_addRoutines hprops false s.component.processes)
    true s.component.exportedHandlers
  have hrelated : (related s).diagram.identities.Sublist _ :=
    identities_followAll (diagram_named s ▸ hplaced) (recordedLinks s)
  obtain ⟨callees, hcallees, hrouted⟩ :=
    identities_linkRoutines (x := index s) hrelated (placed s).2.2
  refine ⟨_, callees, hnodup, hcallees, ?_⟩
  rw [List.map_map]
  exact identities_assemble_of_routed hrouted

/-- If the nodes of the session stand for different things that calls share, then no two nodes of
the diagram stand for the same. -/
lemma nodup_identities_assemble {s : Session} (hnodup : s.diagram.identities.Nodup)
    (hshared : ∀ m ∈ s.diagram.identities, ∃ k, m = .shared k) :
    (assemble s).diagram.identities.Nodup := by
  obtain ⟨props, callees, hprops, hcallees, hsublist⟩ := identities_assemble s
  have hpropsNodup : (props.map Identity.prop).Nodup :=
    hprops.map fun _ _ h => Identity.prop.inj h
  have hcalleesNodup : (callees.map Identity.external).Nodup :=
    hcallees.map fun _ _ h => Identity.external.inj h
  refine List.Nodup.sublist hsublist (List.nodup_append.mpr ⟨List.nodup_append.mpr
    ⟨hnodup, hpropsNodup, ?_⟩, hcalleesNodup, ?_⟩)
  · rintro m hm _ hprop rfl
    obtain ⟨k, rfl⟩ := hshared m hm
    simp at hprop
  · rintro m hm _ hexternal rfl
    obtain ⟨callee, -, rfl⟩ := List.mem_map.mp hexternal
    obtain hm | hm := List.mem_append.mp hm
    · obtain ⟨k, hk⟩ := hshared _ hm
      cases hk
    · simp at hm

/-- Edges that say the same are merged, but no connection is lost. -/
lemma within_merge {d d' : Diagram} (h : d.Within d') :
    d.Within (d'.replaceEdges (mergeEdges d'.edges)) where
  nodes := h.nodes
  edges := by
    intro e he
    obtain ⟨e', he', hsource, htarget⟩ := h.edges e he
    obtain ⟨e'', he'', hsource', htarget', -⟩ := exists_mem_mergeEdges he'
    exact ⟨e'', he'', hsource'.trans hsource, htarget'.trans htarget⟩

/-- The assembly loses no node and no connection of a sound session. -/
lemma within_assemble {s : Session} (hs : s.Sound) : s.diagram.Within (assemble s).diagram := by
  obtain ⟨-, -, hlive, -⟩ := live_stages_of_sound hs
  have hbefore := (grows_before s).edits
  have hgroups : (routed s).diagram.groups = [] := (groups_routed s).trans hs.groupless
  rw [diagram_of_sound hs]
  refine within_merge ⟨fun n hn => ?_, fun e he => ?_⟩
  · obtain ⟨n', hn', hcontinues⟩ := hbefore.exists_node hn
    obtain ⟨n'', hn'', hcontinues'⟩ := exists_node_connected hs hn'
    exact ⟨n'', hn'', (hcontinues'.trans hcontinues).enriches⟩
  · have hlayout : e ∈ (layout s).build.diagram.edges :=
      mem_edges_ofOutput (hbefore.coherent hs.coherent) hgroups _ _ hlive (hbefore.mem_edges he)
    exact ⟨e, (grows_connected hs.coherent hs.nested).edits.mem_edges hlayout, rfl, rfl⟩

end Assembly

end ComponentFlow

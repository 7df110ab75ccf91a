import ComponentFlow.Processor.Discovery
import ComponentFlow.Proofs.Contributions

/-!
# The built-in processors

Every built-in processor serves the calls it accepts: in a sound session it comes to a contribution
that can be committed (`serves_of_mem_builtin`). Most of them make one node of a fixed form. The
interesting ones are those that share nodes between calls. A Jotai or store call that meets its node
again reads what is recorded about it, and can do so since records are of the kinds expected. A
navigation or a remote call links its node to a shared one, which is never the node itself.

Before its contribution is committed, a built-in processor draws ids and writes records, and that is
all, also in sessions that are not sound and for calls that it would not accept
(`unobtrusive_of_mem_builtin`).
-/

namespace ComponentFlow

open Session

/-- A processor that comes to a contribution which can be committed for every call that it accepts.
-/
def Processor.Serves (p : Processor) : Prop :=
  ∀ s i, s.Sound → p.accepts i s.component.framework = true →
    ∃ c, (p.process s i).2 = .ok c ∧ Offers s (p.process s i).1 c

/-- A processor that changes a session at most by drawing ids and writing records, whatever the
call. -/
def Processor.Unobtrusive (p : Processor) : Prop :=
  ∀ (s : Session) (i : Invocation), s.Advances (p.process s i).1

/-! ## Nodes of a fixed form -/

namespace Session

lemma offers_ofNode (s : Session) {make : Session → Node × Session} (hmake : Makes make) :
    Offers s (make s).2 (.ofNode (some (make s).1)) :=
  (offers_empty s true).addNode hmake

/-- A new node with one list under two names. -/
lemma proper_linkedNode (s : Session) (stem label : String) {t : NodeType} (ht : t ≠ .group)
    (i : Option Invocation) {draft : Draft} (hdraft : draft.Shaped)
    (hdispatching : draft.Dispatching) {a b : String} (hlinked : (a, b) ∈ sharedLists)
    {items : List Value} (ha : draft.lookup a = some (some (.list items)))
    (hb : draft.lookup b = some (some (.list items))) :
    Node.Proper { (buildNode s stem label t i draft).1 with linked := [(a, b)] } := by
  have hnames : ∀ l ∈ sharedLists,
      (l.1 ≠ "hook" ∧ l.1 ≠ "library") ∧ l.2 ≠ "hook" ∧ l.2 ≠ "library" := by decide
  obtain ⟨hfirst, hsecond⟩ := hnames _ hlinked
  exact
    { proper_buildNode s stem label ht i hdraft hdispatching with
      linked := List.cons_subset.mpr ⟨hlinked, List.nil_subset _⟩
      links := Node.linksLists_of_pair rfl (get_buildNode s stem label t i hfirst ha)
        (get_buildNode s stem label t i hsecond hb) }

lemma makes_linkedNode (stem label : String) {t : NodeType} (ht : t ≠ .group)
    (i : Option Invocation) {draft : Draft} (hdraft : draft.Shaped)
    (hdispatching : draft.Dispatching) {a b : String} (hlinked : (a, b) ∈ sharedLists)
    {items : List Value} (ha : draft.lookup a = some (some (.list items)))
    (hb : draft.lookup b = some (some (.list items))) :
    Makes fun s => ({ (buildNode s stem label t i draft).1 with linked := [(a, b)] },
      (buildNode s stem label t i draft).2) where
  proper := fun s => proper_linkedNode s stem label ht i hdraft hdispatching hlinked ha hb
  drawn := fun _ => ⟨stem, rfl, rfl⟩

end Session

lemma offers_stateNode (s : Session) (i : Invocation) (category processor : String)
    (selfWritable : Bool) :
    Offers s (stateNode s i category processor selfWritable).2
      (.ofNode (stateNode s i category processor selfWritable).1) := by
  rw [stateNode]
  cases i.boundRoles with
  | nil => exact offers_empty s true
  | cons first rest =>
    refine offers_ofNode s (makes_buildNode _ _ (by decide) _ ?_ ?_)
    · simp [recordKind, Draft.text]
    · simp [Draft.Dispatching]

lemma offers_derivedNode (s : Session) (i : Invocation) (category processor : String)
    (dependencies : List String) :
    Offers s (derivedNode s i category processor dependencies).2
      (.ofNode (derivedNode s i category processor dependencies).1) := by
  rw [derivedNode]
  cases i.hook.bound with
  | nil => exact offers_empty s true
  | cons label rest =>
    refine offers_ofNode s (makes_buildNode _ _ (by decide) _ ?_ ?_)
    · simp [recordKind, dataLabels]
    · simp [Draft.Dispatching]

lemma Custom.offers (s : Session) (i : Invocation) :
    Offers s (Custom.process s i).1 (Custom.process s i).2 := by
  refine offers_ofNode s (makes_buildNode _ _ (by decide) _ ?_ ?_)
  · simp [recordKind]
  · simp [Draft.Dispatching]

/-! ## Frameworks -/

namespace React

lemma offers_reducerNode (s : Session) (i : Invocation) :
    Offers s (reducerNode s i).2 (.ofNode (reducerNode s i).1) := by
  rw [reducerNode]
  cases i.hook.bound with
  | nil => exact offers_empty s true
  | cons state rest =>
    refine offers_ofNode s (makes_linkedNode _ _ (by decide) _ ?_ ?_ (by decide) rfl rfl)
    · simp [recordKind]
    · simp [Draft.Dispatching, List.lookup_cons]

lemma offers_contextNode {s s' : Session} {c : Contribution} (h : Offers s s' c) (i : Invocation)
    (bound : String × Role) :
    Offers s (contextNode i (s', c) bound).1 (contextNode i (s', c) bound).2 := by
  refine h.addNode (makes_buildNode _ _ ?_ _ ?_ ?_)
  · split <;> decide
  · simp [recordKind]
  · simp [Draft.Dispatching]

lemma offers (s : Session) (i : Invocation) : Offers s (process s i).1 (process s i).2 := by
  simp only [process]
  split
  · exact offers_empty s true
  split
  · exact offers_stateNode s i _ _ _
  split
  · exact offers_reducerNode s i
  split
  · refine List.foldlRecOn _ (contextNode i)
      (motive := fun st : Session × Contribution => Offers s st.1 st.2) (offers_empty s true) ?_
    exact fun _ hst bound _ => offers_contextNode hst i bound
  · exact offers_derivedNode s i _ _ _

end React

namespace Vue

lemma offers_injectedNode {s s' : Session} {c : Contribution} (h : Offers s s' c) (i : Invocation)
    (name : String) :
    Offers s (injectedNode i (s', c) name).1 (injectedNode i (s', c) name).2 :=
  h.addNode (makes_buildNode _ _ (by decide) _ (by simp [recordKind]) (by simp [Draft.Dispatching]))

lemma offers (s : Session) (i : Invocation) : Offers s (process s i).1 (process s i).2 := by
  simp only [process]
  split
  · exact offers_stateNode s i _ _ _
  split
  · exact offers_derivedNode s i _ _ _
  split
  · refine List.foldlRecOn _ (injectedNode i)
      (motive := fun st : Session × Contribution => Offers s st.1 st.2) (offers_empty s true) ?_
    exact fun _ hst name _ => offers_injectedNode hst i name
  split
  · refine offers_ofNode s (makes_buildNode _ _ (by decide) _ ?_ ?_)
    · simp [recordKind, dataLabels]
    · simp [Draft.Dispatching]
  · exact offers_empty s true

end Vue

namespace Svelte

lemma offers (s : Session) (i : Invocation) : Offers s (process s i).1 (process s i).2 := by
  simp only [process]
  split
  · exact offers_stateNode s i _ _ _
  split
  · exact offers_derivedNode s i _ _ _
  · exact offers_empty s true

lemma offers_store (s : Session) (i : Invocation) :
    Offers s (processStore s i).1 (processStore s i).2 := by
  simp only [processStore]
  split
  · exact offers_stateNode s i _ _ _
  split
  · exact offers_stateNode s i _ _ _
  split
  · exact offers_derivedNode s i _ _ _
  · exact offers_empty s true

end Svelte

/-! ## Results of known shapes -/

namespace ResultShape

lemma shaped_summary (shape : Option ResultShape) (binding : BindingShape)
    (bound : List BoundProperty) :
    Draft.Shaped ((summary shape binding bound).map fun e => (e.1, some e.2)) := by
  refine Draft.shaped_ofMetadata ?_ ?_
  · simp [summary, Metadata.Shaped, recordKind]
  · simp [summary]

/-- The name of an accepted call is that of a hook whose result is known. -/
lemma find?_of_handlesName {shapes : List ResultShape} {info : ProcessorInfo} {name : String}
    (hhooks : info.hooks = NamePattern.names (shapes.map (·.hook)))
    (h : info.handlesName name = true) : ∃ shape, find? shapes name = some shape := by
  rw [ProcessorInfo.handlesName, hhooks] at h
  simp only [NamePattern.names, List.map_map, List.any_map, List.any_eq_true] at h
  obtain ⟨shape, hmem, hfits⟩ := h
  rw [← Option.isSome_iff_exists, find?, List.find?_isSome]
  exact ⟨shape, hmem, hfits⟩

end ResultShape

lemma ProcessorInfo.handlesName_of_accepts {info : ProcessorInfo} {h : Hook}
    {framework : Option String} (haccepts : info.accepts h framework = true) :
    info.handlesName h.name = true := by
  simp only [ProcessorInfo.accepts, Bool.and_eq_true] at haccepts
  exact haccepts.1.2

lemma Forms.offers_processShaped (shape : ResultShape) (s : Session) (i : Invocation) :
    Offers s (Forms.processShaped shape s i).1 (Forms.processShaped shape s i).2 := by
  refine offers_ofNode s (makes_buildNode _ _ (by decide) _ ?_ ?_)
  · simp [recordKind, ResultShape.shaped_summary]
  · simp [Draft.Dispatching, ResultShape.summary]

lemma Forms.serves : Forms.processor.Serves := by
  intro s i _ haccepts
  obtain ⟨shape, hshape⟩ := ResultShape.find?_of_handlesName rfl
    (ProcessorInfo.handlesName_of_accepts haccepts)
  refine ⟨(processShaped shape s i).2, ?_, ?_⟩
  · change (process s i).2 = _
    rw [process, hshape]
  · change Offers s (process s i).1 _
    rw [process, hshape]
    exact Forms.offers_processShaped shape s i

lemma Forms.unobtrusive : Forms.processor.Unobtrusive := by
  intro s i
  change s.Advances (process s i).1
  rw [process]
  cases ResultShape.find? ResultShape.forms i.hook.name with
  | none => exact Advances.refl s
  | some shape => exact (Forms.offers_processShaped shape s i).toAdvances

namespace Remote

lemma makes_serverNode (endpoint : Option String) : Makes (serverNode endpoint) :=
  makes_buildNode _ _ (by decide) _ (by simp [recordKind]) (by simp [Draft.Dispatching])

lemma makes_callNode (id : String) (shape : ResultShape) (i : Invocation) :
    Makes (callNode id shape i) := by
  refine makes_buildNode _ _ (by decide) _ ?_ ?_
  · simp [recordKind, ResultShape.shaped_summary]
  · simp [Draft.Dispatching, ResultShape.summary]

lemma proper_noteServer (endpoint : Option String) (server : String) {n : Node} (hn : n.Proper) :
    (noteServer endpoint server n).Proper := by
  -- neither of the two names is one of those that share a list
  have hnoted : Node.Recorded
      { n with metadata := n.metadata.set "server_node_id" (.str server) } :=
    hn.toRecorded.set (by simp [recordKind]) (by decide) (by decide)
  cases endpoint with
  | none => exact ⟨hnoted, hn.type⟩
  | some e => exact ⟨hnoted.set (by simp [recordKind]) (by decide) (by decide), hn.type⟩

/-- A call that is linked to its server. The server is not the call, since it is a node of the
diagram or made after the call. -/
lemma offers_linkServer {s : Session} (hs : s.Sound) {dialect : Dialect}
    (hdialect : dialect.fetchLabel ∈ hookLabels) (shape : ResultShape)
    (endpoint : Option String) {make : Session → Node × Session} (hmake : Makes make) :
    Offers s (linkServer dialect shape endpoint (make s).1 (make s).2).1
      (linkServer dialect shape endpoint (make s).1 (make s).2).2 := by
  have hshares : Shares s (.ofNode (some (make s).1)) (serverKey endpoint)
      ((make s).2.sharedNode (.ofNode (some (make s).1)) (serverKey endpoint)
        (serverNode endpoint)) :=
    (offers_ofNode s hmake).sharedNode hs rfl (makes_serverNode endpoint)
  simp only [linkServer]
  generalize (make s).2.sharedNode (.ofNode (some (make s).1)) (serverKey endpoint)
    (serverNode endpoint) = shared at hshares
  have hmem : (make s).1 ∈ (Contribution.ofNode (some (make s).1)).nodes := by
    simp [Contribution.ofNode]
  have hapart := hshares.apart _ hmem
  have hid : ∀ n, (noteServer endpoint shared.1.id n).id = n.id := fun _ => rfl
  have hoffers := hshares.offers.modifyNode (make s).1.id hid fun _ => proper_noteServer _ _
  have hcall := (knows_modifyNode (make s).1.id hid).trans (hshares.knows_node hmem)
  have hserver := (knows_modifyNode (make s).1.id hid).trans hshares.known
  cases shape.operation with
  | mutation => exact hoffers.addEdge hapart hcall hserver (by simp [hookLabels])
  | config => exact hoffers.addEdge hapart hcall hserver (by simp [hookLabels])
  | query => exact hoffers.addEdge hapart.symm hserver hcall hdialect
  | «local» => exact hoffers.addEdge hapart.symm hserver hcall hdialect

lemma offers_processShaped {s : Session} (hs : s.Sound) (id : String) {dialect : Dialect}
    (hdialect : dialect.fetchLabel ∈ hookLabels) (shape : ResultShape) (i : Invocation) :
    Offers s (processShaped id dialect shape s i).1 (processShaped id dialect shape s i).2 := by
  have hmake := makes_callNode id shape i
  simp only [processShaped]
  split
  · exact offers_linkServer hs hdialect shape none hmake
  · cases dialect.endpoint i.hook with
    | some endpoint => exact offers_linkServer hs hdialect shape (some endpoint) hmake
    | none => exact (offers_ofNode s hmake).record _ _ _

lemma advances_linkServer (dialect : Dialect) (shape : ResultShape) (endpoint : Option String)
    (call : Node) (s : Session) :
    s.Advances (linkServer dialect shape endpoint call s).1 := by
  have hshared := (makes_serverNode endpoint).advances_sharedNode s (.ofNode (some call))
    (serverKey endpoint)
  simp only [linkServer]
  cases shape.operation <;> exact hshared

lemma advances_processShaped (id : String) (dialect : Dialect) (shape : ResultShape) (s : Session)
    (i : Invocation) : s.Advances (processShaped id dialect shape s i).1 := by
  have hcall := (makes_callNode id shape i).advances s
  simp only [processShaped]
  split
  · exact hcall.trans (advances_linkServer dialect shape none _ _)
  split
  · exact hcall.trans (advances_linkServer dialect shape _ _ _)
  · exact hcall.trans (advances_record _ _ _ _)

lemma unobtrusive (info : ProcessorInfo) (dialect : Dialect) :
    (processor info dialect).Unobtrusive := by
  intro s i
  change s.Advances (process info.id dialect s i).1
  rw [process]
  split
  · exact advances_processShaped info.id dialect _ s i
  · exact Advances.refl s

lemma serves_of_shape {info : ProcessorInfo} {dialect : Dialect}
    (hdialect : dialect.fetchLabel ∈ hookLabels)
    (h : ∀ hook framework, info.accepts hook framework = true →
      ∃ shape, dialect.shape hook = some shape) : (processor info dialect).Serves := by
  intro s i hs haccepts
  obtain ⟨shape, hshape⟩ := h i.hook _ haccepts
  refine ⟨(processShaped info.id dialect shape s i).2, ?_, ?_⟩
  · change (process info.id dialect s i).2 = _
    rw [process, hshape]
  · change Offers s (process info.id dialect s i).1 _
    rw [process, hshape]
    exact offers_processShaped hs info.id hdialect shape i

lemma serves_listed (info : ProcessorInfo) (shapes : List ResultShape)
    (endpoint : Hook → Option String) : (listed info shapes endpoint).Serves :=
  serves_of_shape (by simp [hookLabels]) fun _ _ haccepts =>
    ResultShape.find?_of_handlesName rfl (ProcessorInfo.handlesName_of_accepts haccepts)

end Remote

/-! ## Navigation -/

namespace Navigation

lemma makes_callNode (r : Router) (i : Invocation) (kind : Kind) :
    Makes fun s => r.callNode s i kind :=
  makes_buildNode _ _ (by decide) _ (by simp [recordKind]) (by simp [Draft.Dispatching])

lemma makes_inputNode : Makes inputNode :=
  makes_buildNode _ _ (by decide) _ (by simp [recordKind]) (by simp [Draft.Dispatching])

lemma makes_outputNode : Makes outputNode :=
  makes_buildNode _ _ (by decide) _ (by simp [recordKind]) (by simp [Draft.Dispatching])

variable {s s' : Session} {c : Contribution} {call : Node}

lemma offers_linkInput (h : Offers s s' c) (hs : s.Sound)
    (hkey : c.resources.lookup inputKey = none) (hcall : call ∈ c.nodes) :
    Offers s (linkInput call s' c).1 (linkInput call s' c).2 := by
  have hshares := h.sharedNode hs hkey makes_inputNode
  exact hshares.offers.addEdge (hshares.apart call hcall).symm hshares.known
    (hshares.knows_node hcall) (by simp [hookLabels])

lemma offers_linkOutput (h : Offers s s' c) (hs : s.Sound)
    (hkey : c.resources.lookup outputKey = none) (hcall : call ∈ c.nodes) :
    Offers s (linkOutput call s' c).1 (linkOutput call s' c).2 := by
  have hshares := h.sharedNode hs hkey makes_outputNode
  exact hshares.offers.addEdge (hshares.apart call hcall) (hshares.knows_node hcall)
    hshares.known (by simp [hookLabels])

/-- A call that is linked to the address that is read can still be linked to the other one. -/
lemma linkInput_kept (h : Offers s s' c) (hs : s.Sound)
    (hkey : c.resources.lookup inputKey = none) (call : Node) :
    c.nodes ⊆ (linkInput call s' c).2.nodes ∧
      (linkInput call s' c).2.resources.lookup outputKey = c.resources.lookup outputKey := by
  have hshares := h.sharedNode hs hkey makes_inputNode
  simp only [linkInput, Contribution.nodes_addEdge, Contribution.resources_addEdge]
  exact ⟨hshares.nodes, hshares.lookup outputKey (by decide)⟩

lemma serves (r : Router) : r.processor.Serves := by
  intro s i hs _
  refine ⟨_, rfl, ?_⟩
  change Offers s (r.process s i).1 (r.process s i).2
  simp only [Router.process]
  generalize r.kindOf i.hook.name = kind
  have hoffers := offers_ofNode s (makes_callNode r i kind)
  have hcall : (r.callNode s i kind).1 ∈
      (Contribution.ofNode (some (r.callNode s i kind).1)).nodes := by
    simp [Contribution.ofNode]
  cases kind with
  | reads => exact offers_linkInput hoffers hs rfl hcall
  | guard => exact offers_linkInput hoffers hs rfl hcall
  | navigates => exact offers_linkOutput hoffers hs rfl hcall
  | both =>
    obtain ⟨hnodes, hkey⟩ := linkInput_kept hoffers hs rfl (r.callNode s i .both).1
    exact offers_linkOutput (offers_linkInput hoffers hs rfl hcall) hs hkey (hnodes hcall)

lemma unobtrusive (r : Router) : r.processor.Unobtrusive := by
  intro s i
  change s.Advances (r.process s i).1
  simp only [Router.process]
  generalize r.kindOf i.hook.name = kind
  have hcall := (makes_callNode r i kind).advances s
  have hinput (s : Session) (c : Contribution) (call : Node) : s.Advances (linkInput call s c).1 :=
    makes_inputNode.advances_sharedNode s c inputKey
  have houtput (s : Session) (c : Contribution) (call : Node) :
      s.Advances (linkOutput call s c).1 := makes_outputNode.advances_sharedNode s c outputKey
  cases kind with
  | reads => exact hcall.trans (hinput _ _ _)
  | guard => exact hcall.trans (hinput _ _ _)
  | navigates => exact hcall.trans (houtput _ _ _)
  | both => exact (hcall.trans (hinput _ _ _)).trans (houtput _ _ _)

end Navigation

/-! ## Stores and atoms -/

namespace Stores

variable {s s' : Session} {c : Contribution}

lemma offers_bindVariables (h : Offers s s' c) (hook : Hook) {id : String}
    (hid : s.knows c id = true) : Offers s s' (bindVariables hook id c) := by
  rw [bindVariables]
  split
  · refine (List.foldlRecOn _ _ (motive := fun c : Contribution =>
      Offers s s' c ∧ s.knows c id = true) ⟨h, hid⟩ ?_).1
    rintro c ⟨hc, hid⟩ name -
    exact ⟨hc.bind _ hid, hid⟩
  · exact h

/-- The number of calls that is recorded is a number, so there is a next one. -/
lemma exists_countAfter {m : Metadata} (h : m.Shaped) : ∃ n, countAfter m = .ok (.int n) := by
  rw [countAfter]
  cases hlookup : m.lookup "invocation_count" with
  | none => exact ⟨2, rfl⟩
  | some v =>
    have hadmits := h _ (Assoc.mem_of_lookup hlookup)
    rw [show recordKind "invocation_count" = .number by decide] at hadmits
    cases v with
    | int n => exact ⟨n + 1, rfl⟩
    | _ => cases hadmits

lemma amending_augment (dialect : Dialect) (i : Invocation) (n : Int) :
    (augment dialect i (.int n)).Amending := by
  simp [augment, Metadata.Amending, recordKind]

lemma makes_storeNode (dialect : Dialect) (i : Invocation) :
    Makes fun s => storeNode dialect s i :=
  makes_buildNode _ _ (by decide) _ (by simp [recordKind]) (by simp [Draft.Dispatching])

lemma offers_process (dialect : Dialect) (hs : s.Sound) (i : Invocation) :
    ∃ c, (process dialect s i).2 = .ok c ∧ Offers s (process dialect s i).1 c := by
  rw [process]
  cases hfound : s.resource? (storeKey i.hook.name) with
  | some existing =>
    obtain ⟨hshaped, hmem⟩ := hs.shaped_of_resource? hfound
    obtain ⟨n, hcount⟩ := exists_countAfter hshaped.metadata
    dsimp only
    rw [hcount]
    refine ⟨_, rfl, ?_⟩
    exact offers_bindVariables ((offers_empty s true).update hmem (amending_augment dialect i n))
      i.hook (knows_iff.mpr (.inl hmem))
  | none =>
    refine ⟨_, rfl, ?_⟩
    exact offers_bindVariables ((offers_empty s true).addShared _ (makes_storeNode dialect i))
      i.hook (knows_addShared _ _ _ _)

lemma advances_process (dialect : Dialect) (s : Session) (i : Invocation) :
    s.Advances (process dialect s i).1 := by
  rw [process]
  split
  · exact Advances.refl s
  · exact (makes_storeNode dialect i).advances s

lemma serves_zustand : zustand.Serves :=
  fun _ i hs _ => offers_process zustandDialect hs i

lemma offers_storeToRefs (hs : s.Sound) (h : Hook) :
    Offers s (storeToRefs s h).1 (storeToRefs s h).2 := by
  rw [storeToRefs]
  cases hfound : h.firstIdentifier.bind fun name => s.resource? (variableKey name) with
  | none => exact (offers_empty s false).record _ _ _
  | some store =>
    obtain ⟨name, -, hresource⟩ := Option.bind_eq_some_iff.mp hfound
    obtain ⟨-, hmem⟩ := hs.shaped_of_resource? hresource
    refine (offers_empty s true).update hmem ?_
    simp [Metadata.Amending, recordKind]

lemma serves_pinia : pinia.Serves := by
  intro s i hs _
  change ∃ c, (processPinia s i).2 = .ok c ∧ Offers s (processPinia s i).1 c
  rw [processPinia]
  split
  · exact ⟨_, rfl, offers_storeToRefs hs i.hook⟩
  · exact offers_process piniaDialect hs i

lemma advances_storeToRefs (s : Session) (h : Hook) : s.Advances (storeToRefs s h).1 := by
  rw [storeToRefs]
  split
  · exact Advances.refl s
  · exact advances_record s _ _ _

lemma unobtrusive_pinia : pinia.Unobtrusive := by
  intro s i
  change s.Advances (processPinia s i).1
  rw [processPinia]
  split
  · exact advances_storeToRefs s i.hook
  · exact advances_process piniaDialect s i

lemma offers_mobx (s : Session) (i : Invocation) :
    Offers s (processMobx s i).1 (processMobx s i).2 := by
  simp only [processMobx]
  split
  · exact offers_stateNode s i _ _ _
  · exact offers_empty s true

end Stores

namespace Jotai

lemma makes_atomNode (i : Invocation) (atom : String) (a : Accessors) :
    Makes fun s => atomNode s i atom a where
  proper := fun s => by
    refine proper_linkedNode s _ _ (by decide) _ ?_ ?_ (by decide) rfl rfl
    · simp [recordKind, Draft.text, dataLabels]
    · simp [Draft.Dispatching]
  drawn := fun _ => ⟨"jotai_atom", rfl, rfl⟩

lemma amending_gained (current : Metadata) {slot list : String} {more : List String}
    (name : Option String)
    (hslot : ∀ v, slot ≠ "dispatchers" ∧ slot ≠ "process" ∧
      (recordKind slot).admits (.str v) = true)
    (hlists : ∀ key ∈ list :: more, ∀ v, key ≠ "dispatchers" ∧ key ≠ "process" ∧
      (recordKind key).admits (.ofNames [v]) = true) :
    (gained current slot list more name).Amending := by
  rw [gained]
  cases named name with
  | none => simp [Metadata.Amending]
  | some v =>
    have hmap : Metadata.Amending ((list :: more).map (·, Value.ofNames [v])) := by
      intro e he
      obtain ⟨key, hkey, rfl⟩ := List.mem_map.mp he
      exact hlists key hkey v
    dsimp only
    split
    · exact hmap
    · intro e he
      obtain he | he := List.mem_append.mp he
      · exact hmap e he
      · rw [List.mem_singleton.mp he]
        exact hslot v

lemma exists_namedAsPair {read : Value} (h : read = .null ∨ ∃ name, read = .str name)
    (write : Value) : ∃ pair, namedAsPair read write = .ok pair := by
  obtain rfl | ⟨name, rfl⟩ := h
  · exact ⟨false, rfl⟩
  · rw [namedAsPair]
    split
    · exact ⟨false, rfl⟩
    · exact ⟨_, rfl⟩

/-- The variable that is recorded for reading is a text, so it is known how its partner would be
named. -/
lemma exists_augment {m : Metadata} (h : m.Shaped) (a : Accessors) :
    ∃ entries, augment m a = .ok entries ∧ entries.Amending := by
  have hreads : (gained m "read_variable" "read_variables" [] a.read).Amending :=
    amending_gained m a.read (by simp [recordKind]) (by simp [recordKind])
  have hwrites : (gained m "write_variable" "write_variables" ["writers"] a.write).Amending :=
    amending_gained m a.write (by simp [recordKind]) (by simp [recordKind])
  have hkind : recordKind "read_variable" = .text := by decide
  rw [augment]
  generalize gained m "read_variable" "read_variables" [] a.read = reads at hreads
  generalize gained m "write_variable" "write_variables" ["writers"] a.write = writes at hwrites
  have hread : (reads.lookup "read_variable").getD (m.get "read_variable") = .null ∨
      ∃ name, (reads.lookup "read_variable").getD (m.get "read_variable") = .str name := by
    cases hlookup : reads.lookup "read_variable" with
    | some v => exact .inr (hreads.passive.shaped.text hkind hlookup)
    | none => exact h.get_text hkind
  obtain ⟨pair, hpair⟩ := exists_namedAsPair hread
    ((writes.lookup "write_variable").getD (m.get "write_variable"))
  rw [hpair]
  refine ⟨_, rfl, ?_⟩
  intro e he
  simp only [List.append_assoc, List.cons_append, List.nil_append, List.mem_cons,
    List.mem_append, List.not_mem_nil, or_false] at he
  obtain rfl | he | he | rfl := he
  · simp [recordKind]
  · exact hreads e he
  · exact hwrites e he
  · simp [recordKind]

lemma serves : processor.Serves := by
  intro s i hs _
  change ∃ c, (process s i).2 = .ok c ∧ Offers s (process s i).1 c
  rw [process]
  cases i.hook.firstIdentifier with
  | none => exact ⟨_, rfl, (offers_empty s false).record _ _ _⟩
  | some atom =>
    dsimp only
    cases hfound : s.resource? (atomKey atom) with
    | some existing =>
      obtain ⟨hshaped, hmem⟩ := hs.shaped_of_resource? hfound
      obtain ⟨entries, haugment, hentries⟩ := exists_augment hshaped.metadata (accessors i.hook)
      dsimp only
      rw [haugment]
      exact ⟨_, rfl, (offers_empty s true).update hmem hentries⟩
    | none => exact ⟨_, rfl, (offers_empty s true).addShared _ (makes_atomNode i atom _)⟩

lemma unobtrusive : processor.Unobtrusive := by
  intro s i
  change s.Advances (process s i).1
  rw [process]
  cases i.hook.firstIdentifier with
  | none => exact advances_record s _ _ _
  | some atom =>
    dsimp only
    split
    · exact Advances.refl s
    · exact (makes_atomNode i atom (accessors i.hook)).advances s

end Jotai

/-! ## All of them -/

/-- **The built-in processors.** Each of them serves the calls that it accepts. -/
theorem serves_of_mem_builtin : ∀ p ∈ builtinProcessors, p.Serves := by
  simp only [builtinProcessors, List.forall_mem_cons]
  exact ⟨fun s i _ _ => ⟨_, rfl, React.offers s i⟩, fun s i _ _ => ⟨_, rfl, Vue.offers s i⟩,
    fun s i _ _ => ⟨_, rfl, Svelte.offers s i⟩, Stores.serves_pinia, Stores.serves_zustand,
    Remote.serves_listed _ _ _, Remote.serves_listed _ _ _, Remote.serves_listed _ _ _,
    Remote.serves_of_shape (by decide) fun _ _ _ => ⟨_, rfl⟩,
    Remote.serves_of_shape (by decide) fun _ _ _ => ⟨_, rfl⟩,
    Jotai.serves, Navigation.serves _, Navigation.serves _, Navigation.serves _, Forms.serves,
    fun s i _ _ => ⟨_, rfl, Stores.offers_mobx s i⟩, Navigation.serves _,
    fun s i _ _ => ⟨_, rfl, Svelte.offers_store s i⟩, Navigation.serves _,
    fun s i _ _ => ⟨_, rfl, Custom.offers s i⟩, by simp⟩

/-- Whatever call a built-in processor gets, in whatever session, it changes the session at most by
drawing ids and writing records. -/
theorem unobtrusive_of_mem_builtin : ∀ p ∈ builtinProcessors, p.Unobtrusive := by
  simp only [builtinProcessors, List.forall_mem_cons]
  exact ⟨fun s i => (React.offers s i).toAdvances, fun s i => (Vue.offers s i).toAdvances,
    fun s i => (Svelte.offers s i).toAdvances, Stores.unobtrusive_pinia,
    Stores.advances_process Stores.zustandDialect, Remote.unobtrusive _ _, Remote.unobtrusive _ _,
    Remote.unobtrusive _ _, Remote.unobtrusive _ _, Remote.unobtrusive _ _, Jotai.unobtrusive,
    Navigation.unobtrusive _, Navigation.unobtrusive _, Navigation.unobtrusive _,
    Forms.unobtrusive, fun s i => (Stores.offers_mobx s i).toAdvances, Navigation.unobtrusive _,
    fun s i => (Svelte.offers_store s i).toAdvances, Navigation.unobtrusive _,
    fun s i => (Custom.offers s i).toAdvances, by simp⟩

end ComponentFlow

import ComponentFlow.Proofs.SharedRuns

/-!
# What a call leaves alone

A call changes no node but those of what it shares with other calls. A contribution is `About` some
of the things that calls share if its nodes stand for these or for nothing in particular, and if it
updates only nodes that stand for these. The contributions of built-in processors are about what
their calls share (`isAbout_of_mem_builtin`). All other nodes are afterwards what they were before
(`About.amended_eq`).

So what a run of calls makes of a node can be told from the calls that share it. The induction for
this goes over the calls in order (`dispatchAll_induction`), and each step is given as a
contribution that is applied to the diagram (`Registry.Step`).
-/

namespace ComponentFlow

open Session

namespace Contribution

/-- A contribution about some of the things that calls share: its nodes stand for these or for
nothing in particular, and what it updates stands for one of these. -/
structure About (c : Contribution) (d : Diagram) (shared : List Shared) : Prop where
  nodes : ∀ n ∈ c.nodes, ∀ k, n.identity? = some (.shared k) → k ∈ shared
  updates : ∀ u ∈ c.updates, ∃ n ∈ d.nodes, n.id = u.1 ∧
    ∃ k ∈ shared, n.identity? = some (.shared k)

variable {c : Contribution} {d : Diagram} {shared : List Shared}

lemma Plain.about (h : c.Plain) (d : Diagram) (shared : List Shared) : c.About d shared where
  nodes := by
    intro n hn k hk
    rw [h.nodes n hn] at hk
    cases hk
  updates := by simp [h.updates]

lemma about_empty (handled : Bool) (d : Diagram) (shared : List Shared) :
    About { handled } d shared :=
  (plain_empty handled).about d shared

lemma About.addEdge (h : c.About d shared) (e : Edge) : (c.addEdge e).About d shared := by
  rw [Contribution.addEdge]
  split
  · exact h
  · exact ⟨h.nodes, h.updates⟩

lemma About.addShared (h : c.About d shared) {k : Shared} (hk : k ∈ shared) {n : Node}
    (hn : n.identity? = some (.shared k)) (key : String) :
    (c.addShared key n).About d shared := by
  refine ⟨List.forall_mem_append.mpr ⟨h.nodes, List.forall_mem_singleton.mpr ?_⟩, h.updates⟩
  intro k' hk'
  obtain rfl : k = k' := by simpa [hn] using hk'
  exact hk

lemma About.sharedNode (h : c.About d shared) {k : Shared} (hk : k ∈ shared)
    {make : Session → Node × Session} (hmake : ∀ s, (make s).1.identity? = some (.shared k))
    (s : Session) (key : String) : (s.sharedNode c key make).2.1.About d shared := by
  rw [Session.sharedNode]
  cases s.findShared? c key with
  | some n => exact h
  | none => exact h.addShared hk (hmake s) key

lemma About.modifyNode (h : c.About d shared) (id : String) {f : Node → Node}
    (hf : ∀ n ∈ c.nodes, n.id = id → (f n).identity? = n.identity?) :
    (c.modifyNode id f).About d shared := by
  refine ⟨fun n' hn' k hk => ?_, h.updates⟩
  obtain ⟨n, hn, rfl⟩ := List.mem_map.mp hn'
  split at hk
  · rename_i heq
    exact h.nodes n hn k (hf n hn (eq_of_beq heq) ▸ hk)
  · exact h.nodes n hn k hk

lemma About.update (h : c.About d shared) {n : Node} (hn : n ∈ d.nodes) {k : Shared}
    (hk : k ∈ shared) (hidentity : n.identity? = some (.shared k)) (entries : Metadata) :
    (c.update n.id entries).About d shared :=
  ⟨h.nodes, List.forall_mem_append.mpr
    ⟨h.updates, List.forall_mem_singleton.mpr ⟨n, hn, rfl, k, hk, hidentity⟩⟩⟩

end Contribution

/-! ## Nodes that are left alone -/

lemma Node.amended_eq_self {n : Node} {updates : List (String × Metadata)}
    (h : ∀ u ∈ updates, u.1 ≠ n.id) : n.amended updates = n := by
  induction updates with
  | nil => rfl
  | cons u rest ih =>
    obtain ⟨hfirst, hrest⟩ := List.forall_mem_cons.mp h
    rw [amended, List.foldl_cons, if_neg (by simpa using hfirst.symm)]
    exact ih hrest

lemma Diagram.eq_of_id {d : Diagram} (h : d.ids.Nodup) {n n' : Node} (hn : n ∈ d.nodes)
    (hn' : n' ∈ d.nodes) (hid : n.id = n'.id) : n = n' :=
  List.inj_on_of_nodup_map h hn hn' hid

/-- A node that stands for none of the things that a contribution is about stays as it is. -/
lemma Contribution.About.amended_eq {c : Contribution} {s s' : Session} {shared : List Shared}
    (h : c.About s.diagram shared) (hs : s.Sound) (hoffers : Offers s s' c) {n : Node}
    (hn : n ∈ s.diagram.nodes ++ c.nodes) (hother : ∀ k ∈ shared, n.identity? ≠ some (.shared k)) :
    n.amended c.updates = n := by
  refine Node.amended_eq_self fun u hu heq => ?_
  obtain ⟨m, hm, hid, k, hk, hidentity⟩ := h.updates u hu
  obtain hn | hn := List.mem_append.mp hn
  · have hsame : m = n := Diagram.eq_of_id hs.coherent.ids_nodup hm hn (hid.trans heq)
    exact hother k hk (hsame ▸ hidentity)
  · -- new ids are not those of nodes that were there
    have hissued := hs.issued m.id (List.mem_map_of_mem hm)
    rw [hid, heq] at hissued
    exact (hoffers.draws hn).not_issued hissued

/-- In a catalogued session there is at most one node for what calls share. -/
lemma Session.Catalogued.eq_of_identity {s : Session} {holder : String → Option String}
    (h : s.Catalogued holder) (hs : s.Sound) {n n' : Node} (hn : n ∈ s.diagram.nodes)
    (hn' : n' ∈ s.diagram.nodes) {k : Shared} (hk : n.identity? = some (.shared k))
    (hk' : n'.identity? = some (.shared k)) : n = n' := by
  have hentry := (h.entry k n.id).mpr ⟨n, hn, rfl, hk⟩
  rw [(h.entry k n'.id).mpr ⟨n', hn', rfl, hk'⟩] at hentry
  exact Diagram.eq_of_id hs.coherent.ids_nodup hn hn' (Option.some.inj hentry).symm

/-! ## Built-in processors -/

/-- A processor whose contributions are about what the calls share. -/
def Processor.IsAbout (p : Processor) : Prop :=
  ∀ s i c holder, s.Sound → s.Catalogued holder → (p.process s i).2 = .ok c →
    c.About s.diagram (sharedBy p.id i.hook holder)

lemma Processor.IsPlain.isAbout {p : Processor} (h : p.IsPlain) : p.IsAbout :=
  fun s i c _ _ _ hok => ((h s i).2 c hok).about _ _

variable {holder : String → Option String} {s : Session}

lemma Jotai.isAbout : Jotai.processor.IsAbout := by
  intro s i c holder hs hcatalogued hok
  change (process s i).2 = .ok c at hok
  change c.About s.diagram (i.hook.firstIdentifier.toList.map .atom)
  rw [process] at hok
  cases hfirst : i.hook.firstIdentifier with
  | none =>
    rw [hfirst] at hok
    obtain rfl := Except.ok.inj hok
    exact Contribution.about_empty false _ _
  | some atom =>
    have hk : Shared.atom atom ∈ (some atom).toList.map Shared.atom := List.mem_singleton_self _
    rw [hfirst] at hok
    dsimp only at hok
    cases hfound : s.resource? (atomKey atom) with
    | some existing =>
      rw [hfound] at hok
      obtain ⟨entries, -, rfl⟩ := exists_of_map_eq_ok hok
      obtain ⟨hmem, hidentity⟩ :=
        hcatalogued.of_resource? hs.coherent (k := .atom atom) hfound
      exact (Contribution.about_empty true _ _).update hmem hk hidentity entries
    | none =>
      rw [hfound] at hok
      obtain rfl := Except.ok.inj hok
      exact (Contribution.about_empty true _ _).addShared hk (identity?_atomNode s i atom _) _

namespace Stores

lemma about_bindVariables {c : Contribution} {d : Diagram} {shared : List Shared}
    (h : c.About d shared) (hook : Hook) (id : String) :
    (bindVariables hook id c).About d shared := by
  obtain ⟨hnodes, hupdates⟩ := bindVariables_kept hook id c
  exact ⟨hnodes ▸ h.nodes, hupdates ▸ h.updates⟩

lemma about_process {dialect : Dialect}
    (hdialect : dialect.category ∈ ["zustand-store", "pinia-store"]) (hs : s.Sound)
    (hcatalogued : s.Catalogued holder) {i : Invocation} {c : Contribution}
    (hok : (process dialect s i).2 = .ok c) : c.About s.diagram [.store i.hook.name] := by
  have hk : Shared.store i.hook.name ∈ [Shared.store i.hook.name] := List.mem_singleton_self _
  rw [process] at hok
  cases hfound : s.resource? (storeKey i.hook.name) with
  | some existing =>
    rw [hfound] at hok
    obtain ⟨count, -, rfl⟩ := exists_of_map_eq_ok hok
    obtain ⟨hmem, hidentity⟩ :=
      hcatalogued.of_resource? hs.coherent (k := .store i.hook.name) hfound
    exact about_bindVariables
      ((Contribution.about_empty true _ _).update hmem hk hidentity _) _ _
  | none =>
    rw [hfound] at hok
    obtain rfl := Except.ok.inj hok
    exact about_bindVariables ((Contribution.about_empty true _ _).addShared hk
      (identity?_storeNode hdialect s i) _) _ _

lemma isAbout_zustand : zustand.IsAbout :=
  fun _ _ _ _ hs hcatalogued hok => about_process (by decide) hs hcatalogued hok

/-- References are taken from the store that the variable holds. -/
lemma about_storeToRefs (hs : s.Sound) (hcatalogued : s.Catalogued holder) (h : Hook) :
    (storeToRefs s h).2.About s.diagram ((h.firstIdentifier.bind holder).toList.map .store) := by
  rw [storeToRefs]
  cases hfound : h.firstIdentifier.bind fun name => s.resource? (variableKey name) with
  | none => exact Contribution.about_empty false _ _
  | some store =>
    obtain ⟨name, hfirst, hresource⟩ := Option.bind_eq_some_iff.mp hfound
    obtain ⟨id, hlookup, hnode⟩ := Option.bind_eq_some_iff.mp hresource
    obtain ⟨hook, hholder, n, hn, rfl, hidentity⟩ := hcatalogued.held name id hlookup
    rw [Diagram.node?_eq_some hs.coherent.ids_nodup hn] at hnode
    obtain rfl := Option.some.inj hnode
    refine (Contribution.about_empty true _ _).update hn ?_ hidentity _
    rw [hfirst, Option.bind_some, hholder]
    exact List.mem_singleton_self _

lemma isAbout_pinia : pinia.IsAbout := by
  intro s i c holder hs hcatalogued hok
  change (processPinia s i).2 = .ok c at hok
  rw [processPinia] at hok
  by_cases hname : i.hook.name == "storeToRefs"
  · have hshared : sharedBy pinia.id i.hook holder =
        (i.hook.firstIdentifier.bind holder).toList.map .store := if_pos hname
    rw [if_pos hname] at hok
    obtain rfl := Except.ok.inj hok
    rw [hshared]
    exact about_storeToRefs hs hcatalogued i.hook
  · have hshared : sharedBy pinia.id i.hook holder = [.store i.hook.name] := if_neg hname
    rw [if_neg hname] at hok
    rw [hshared]
    exact about_process (by decide) hs hcatalogued hok

end Stores

lemma Navigation.about_process (r : Router) (s : Session) (i : Invocation) (d : Diagram) :
    (r.process s i).2.About d (r.addresses i.hook) := by
  simp only [Router.process, Router.addresses]
  generalize r.kindOf i.hook.name = kind
  have hcall (shared : List Shared) :
      (Contribution.ofNode (some (r.callNode s i kind).1)).About d shared := by
    refine (Contribution.plain_ofNode fun n hn => ?_).about d shared
    obtain rfl := Option.some.inj hn
    exact identity?_buildNode s _ _ _ _ rfl (by decide)
  have hinput {c : Contribution} {shared : List Shared} (h : c.About d shared)
      (hk : .addressRead ∈ shared) (call : Node) (t : Session) :
      (linkInput call t c).2.About d shared := by
    have hshared := h.sharedNode hk identity?_inputNode t inputKey
    exact hshared.addEdge _
  have houtput {c : Contribution} {shared : List Shared} (h : c.About d shared)
      (hk : .addressWritten ∈ shared) (call : Node) (t : Session) :
      (linkOutput call t c).2.About d shared := by
    have hshared := h.sharedNode hk identity?_outputNode t outputKey
    exact hshared.addEdge _
  cases kind with
  | reads => exact hinput (hcall _) (by simp) _ _
  | guard => exact hinput (hcall _) (by simp) _ _
  | navigates => exact houtput (hcall _) (by simp) _ _
  | both => exact houtput (hinput (hcall _) (by simp) _ _) (by simp) _ _

lemma Navigation.isAbout {r : Router}
    (hsharers : sharers.lookup r.info.id = some fun h _ => r.addresses h) :
    r.processor.IsAbout := by
  intro s i c holder _ _ hok
  obtain rfl := Except.ok.inj hok
  have hshared : sharedBy r.info.id i.hook holder = r.addresses i.hook := by
    rw [sharedBy, hsharers]
  exact hshared ▸ about_process r s i s.diagram

namespace Remote

lemma about_callNode (id : String) (shape : ResultShape) (i : Invocation) (s : Session)
    (d : Diagram) (shared : List Shared) :
    (Contribution.ofNode (some (callNode id shape i s).1)).About d shared := by
  refine (Contribution.plain_ofNode fun n hn => ?_).about d shared
  obtain rfl := Option.some.inj hn
  exact Node.identity?_eq_none (text?_callNode id shape i s) (by decide)

lemma about_linkServer (hs : s.Sound) (hcatalogued : s.Catalogued holder) (dialect : Dialect)
    (shape : ResultShape) (endpoint : Option String) (id : String) (i : Invocation) :
    (linkServer dialect shape endpoint (callNode id shape i s).1
      (callNode id shape i s).2).2.About s.diagram [.server (endpoint.getD "*")] := by
  have hfound : Found s _ endpoint (fun _ => none) _ :=
    found_server hs hcatalogued endpoint id shape i
  have hshared := (about_callNode id shape i s s.diagram [.server (endpoint.getD "*")]).sharedNode
    (List.mem_singleton_self _) (identity?_serverNode endpoint) (callNode id shape i s).2
    (serverKey endpoint)
  have hnoted (server : String) := hshared.modifyNode (callNode id shape i s).1.id
    fun n hn heq => hfound.identity?_noteServer (text?_callNode id shape i s) hn heq endpoint server
  simp only [linkServer]
  cases shape.operation <;> exact (hnoted _).addEdge _

lemma Queries.isAbout {p : Processor} {configuration : List String}
    {endpoint : Hook → Option String} (h : Queries p configuration endpoint)
    (hsharers : sharers.lookup p.id = some fun h _ => servers configuration endpoint h) :
    p.IsAbout := by
  obtain ⟨info, dialect, rfl, rfl, hshapes⟩ := h
  intro s i c holder hs hcatalogued hok
  change (process info.id dialect s i).2 = .ok c at hok
  obtain ⟨shape, hshape, -, rfl⟩ := process_eq_ok hok
  rw [sharedBy, hsharers]
  dsimp only
  rw [servers_eq]
  obtain ⟨e, htarget, heq⟩ | ⟨-, -, heq⟩ :=
    processShaped_cases info.id dialect s (hshapes i.hook shape hshape)
  · rw [htarget, heq]
    exact about_linkServer hs hcatalogued dialect shape e info.id i
  · rw [heq]
    exact about_callNode info.id shape i s _ _

end Remote

/-- The contributions of built-in processors are about what the calls share. -/
theorem isAbout_of_mem_builtin : ∀ p ∈ builtinProcessors, p.IsAbout := by
  simp only [builtinProcessors, List.forall_mem_cons]
  refine ⟨React.isPlain.isAbout, Vue.isPlain.isAbout, Svelte.isPlain.isAbout, Stores.isAbout_pinia,
    Stores.isAbout_zustand, Remote.queries_swr.isAbout rfl,
    Remote.queries_tanstackQuery.isAbout rfl, Remote.queries_apollo.isAbout rfl,
    Remote.queries_rtkQuery.isAbout rfl, Remote.queries_trpc.isAbout rfl,
    Jotai.isAbout, ?_, ?_, ?_, Forms.isPlain.isAbout, Stores.isPlain_mobx.isAbout, ?_,
    Svelte.isPlain_store.isAbout, ?_, Custom.isPlain.isAbout, by simp⟩
  all_goals exact Navigation.isAbout rfl

/-! ## Calls, one after the other -/

namespace Registry

variable {p : Processor} {i : Invocation} {c : Contribution}

/-- What a call does to a session: the processor offers a contribution about what the call shares,
and it is applied. The session is sound and catalogued afterwards. -/
structure Step (s : Session) (p : Processor) (i : Invocation) (holder : String → Option String)
    (c : Contribution) : Prop where
  process : (p.process (announced s p i) i).2 = .ok c
  offers : Offers s (p.process (announced s p i) i).1 c
  registers : s.Registers c (heldBy p.id i.hook)
  about : c.About s.diagram (sharedBy p.id i.hook holder)
  diagram : (handOver s p i).1.diagram = c.onto s.diagram
  outcome : (handOver s p i).2 = served p i c
  sound : (handOver s p i).1.Sound
  catalogued : (handOver s p i).1.Catalogued (heldAfter holder [(i, (handOver s p i).2)])

lemma exists_step (hs : s.Sound) (hcatalogued : s.Catalogued holder) (hp : p ∈ builtinProcessors)
    (haccepts : p.accepts i s.component.framework = true) : ∃ c, Step s p i holder c := by
  have hserves := serves_of_mem_builtin p hp
  have hcatalogues := catalogues_of_mem_builtin p hp
  obtain ⟨s', c, hprocess, hoffers, heq⟩ := handOver_serves hs hserves haccepts
  have hsound : (announced s p i).Sound := hs.record _ _ _
  have hannounced : (announced s p i).Catalogued holder := hcatalogued.record _ _ _
  have hfiles := hcatalogues _ i c holder hsound hannounced haccepts
  have habout := isAbout_of_mem_builtin p hp _ i c holder hsound hannounced
  rw [hprocess] at hfiles habout
  refine ⟨c, ?_, ?_, { (hfiles rfl { hoffers with }).registers with }, habout rfl, ?_, ?_,
    (sound_handOver hs hserves haccepts).1,
    (files_handOver hs hcatalogued hserves hcatalogues haccepts).1⟩
  · rw [hprocess]
  · rw [hprocess]
    exact hoffers
  · rw [heq, ← hoffers.diagram]
    rfl
  · rw [heq]
    rfl

namespace Step

lemma nodes (h : Step s p i holder c) :
    (handOver s p i).1.diagram.nodes =
      (s.diagram.nodes ++ c.nodes).map (Node.amended c.updates) := by
  rw [h.diagram, Contribution.nodes_onto h.offers.groupless]

/-- A node for nothing that the call shares is there afterwards as it is. -/
lemma mem_nodes (h : Step s p i holder c) (hs : s.Sound) {n : Node}
    (hn : n ∈ s.diagram.nodes ++ c.nodes)
    (hother : ∀ k ∈ sharedBy p.id i.hook holder, n.identity? ≠ some (.shared k)) :
    n ∈ (handOver s p i).1.diagram.nodes := by
  rw [h.nodes]
  exact List.mem_map.mpr ⟨n, hn, h.about.amended_eq hs h.offers hn hother⟩

/-- A node for something else than what the call shares was there before. -/
lemma mem_nodes_before (h : Step s p i holder c) (hs : s.Sound) {n' : Node} {k : Shared}
    (hn' : n' ∈ (handOver s p i).1.diagram.nodes) (hidentity : n'.identity? = some (.shared k))
    (hk : k ∉ sharedBy p.id i.hook holder) : n' ∈ s.diagram.nodes := by
  rw [h.nodes] at hn'
  obtain ⟨n, hn, rfl⟩ := List.mem_map.mp hn'
  have henriches :=
    (Node.enriches_amended (linked_subset hs h.offers hn) h.registers.updates).1
  rw [henriches.identity] at hidentity
  have hother : ∀ k' ∈ sharedBy p.id i.hook holder, n.identity? ≠ some (.shared k') := by
    intro k' hk' heq
    obtain rfl : k = k' := by simpa [hidentity] using heq
    exact hk hk'
  rw [h.about.amended_eq hs h.offers hn hother]
  obtain hn | hn := List.mem_append.mp hn
  · exact hn
  · exact absurd (h.about.nodes n hn k hidentity) hk

end Step

end Registry

/-- What every call keeps, given the calls before it, all calls keep. -/
theorem Analyzer.dispatchAll_induction {r : Registry} (hr : ∀ p ∈ r.entries, p ∈ builtinProcessors)
    {P : List (Invocation × Outcome) → Session → Prop}
    (hstep : ∀ calls s holder p i c, s.Sound → s.Catalogued holder → p ∈ builtinProcessors →
      Registry.Step s p i holder c → P calls s →
      P (calls ++ [(i, Registry.served p i c)]) (Registry.handOver s p i).1)
    {is : List Invocation} {outcomes : List Outcome} {s' : Session} (hs : s.Sound)
    (hcatalogued : s.Catalogued holder) (hstart : P [] s)
    (h : dispatchAll r s is = (s', .ok outcomes)) :
    s'.Sound ∧ (∃ holder', s'.Catalogued holder') ∧ P (is.zip outcomes) s' := by
  suffices hcalls : ∀ calls, P calls s →
      s'.Sound ∧ (∃ holder', s'.Catalogued holder') ∧ P (calls ++ is.zip outcomes) s' from
    hcalls [] hstart
  clear hstart
  induction is generalizing s holder outcomes with
  | nil =>
    intro calls hcalls
    obtain ⟨rfl, -⟩ := Prod.mk.inj h
    exact ⟨hs, ⟨holder, hcatalogued⟩, by simpa using hcalls⟩
  | cons i rest ih =>
    intro calls hcalls
    obtain ⟨p, others, hselect, hrest, rfl⟩ := dispatchAll_cons_eq_ok_iff.mp h
    obtain ⟨hmem, haccepts⟩ := Registry.select?_eq_some hselect
    have hp := hr p hmem
    obtain ⟨c, hc⟩ := Registry.exists_step hs hcatalogued hp haccepts
    have hnext := hstep calls s holder p i c hs hcatalogued hp hc hcalls
    have hlast := ih hc.sound hc.catalogued hrest _ hnext
    rwa [List.append_assoc, ← hc.outcome] at hlast

end ComponentFlow

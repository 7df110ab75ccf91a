import ComponentFlow.Proofs.SharedVariables

/-!
# Addresses and servers

A call of a routing hook and a call for remote data have nodes of their own. Such a node is linked
to the address that the hook reads or writes, or to the server behind the call, and these are found
in the catalogue or made (`links_sharedNode`).

With these, every built-in processor keeps the catalogue (`catalogues_of_mem_builtin`).
-/

namespace ComponentFlow

open Session

variable {holder holds : String → Option String} {s s' : Session} {c : Contribution}

/-! ## Edges to shared nodes -/

/-- Whether an edge connects a call with the node that stands for what it shares. -/
def Shared.Joins (k : Shared) (id : String) (call : Option String) (e : Edge) : Prop :=
  match k with
  | .addressRead => e.source = id ∧ call = some e.target
  | .addressWritten => call = some e.source ∧ e.target = id
  | .server _ => (e.source = id ∧ call = some e.target) ∨ (call = some e.source ∧ e.target = id)
  | .atom _ => False
  | .store _ => False

lemma Shared.attached_of_joins {k : Shared} {d : Diagram} {n : Node} (hn : n ∈ d.nodes)
    (hidentity : n.identity? = some (.shared k)) {call : Option String} {e : Edge}
    (he : e ∈ d.edges) (hjoins : k.Joins n.id call e) (h : Hook) : k.Attached d h call := by
  cases k with
  | addressRead => exact ⟨n, hn, hidentity, e, he, hjoins⟩
  | addressWritten => exact ⟨n, hn, hidentity, e, he, hjoins⟩
  | server endpoint => exact ⟨n, hn, hidentity, e, he, hjoins⟩
  | atom name => exact hjoins.elim
  | store hook => exact hjoins.elim

/-- Whether a contribution has the edge that connects a call with what it shares. -/
def Session.Joined (s : Session) (c : Contribution) (k : Shared) (call : Option String) : Prop :=
  ∃ n ∈ s.diagram.nodes ++ c.nodes, n.identity? = some (.shared k) ∧
    ∃ e ∈ c.edges, k.Joins n.id call e

lemma Session.Joined.mono {k : Shared} {call : Option String} (h : s.Joined c k call)
    {c' : Contribution} (hnodes : c.nodes ⊆ c'.nodes) (hedges : c.edges ⊆ c'.edges) :
    s.Joined c' k call := by
  obtain ⟨n, hn, hidentity, e, he, hjoins⟩ := h
  refine ⟨n, ?_, hidentity, e, hedges he, hjoins⟩
  exact List.mem_append.mpr ((List.mem_append.mp hn).imp id fun hn => hnodes hn)

/-- A call is attached to what its contribution connects it with. -/
lemma Session.Registers.attached (h : s.Registers c holds) (hs : s.Sound)
    (hoffers : Offers s s' c) {k : Shared} {call : Option String} (hjoined : s.Joined c k call)
    (hook : Hook) : k.Attached (c.onto s.diagram) hook call := by
  obtain ⟨n, hn, hidentity, e, he, hjoins⟩ := hjoined
  obtain ⟨n', hn', henriches, -⟩ := h.exists_amended hs hoffers hn
  refine Shared.attached_of_joins hn' (henriches.identity.trans hidentity) ?_
    (henriches.id ▸ hjoins) hook
  rw [Contribution.edges_onto]
  exact List.mem_append_right _ he

lemma Contribution.mem_edges_addEdge (c : Contribution) (e : Edge) : e ∈ (c.addEdge e).edges := by
  rw [addEdge]
  split
  · rename_i h
    exact List.contains_iff_mem.mp h
  · exact List.mem_append_right _ List.mem_cons_self

lemma Contribution.subset_edges_addEdge (c : Contribution) (e : Edge) :
    c.edges ⊆ (c.addEdge e).edges := by
  rw [addEdge]
  split
  · exact List.Subset.refl _
  · exact List.subset_append_left _ _

/-- A shared node that is made comes after the nodes that were there. -/
lemma nodes_sharedNode (s : Session) (c : Contribution) (key : String)
    (make : Session → Node × Session) :
    c.nodes <+: (s.sharedNode c key make).2.1.nodes ∧
      (s.sharedNode c key make).2.1.edges = c.edges ∧
      ∀ n ∈ (s.sharedNode c key make).2.1.nodes, n ∈ c.nodes ∨ n = (s.sharedNode c key make).1 := by
  rw [Session.sharedNode]
  cases s.findShared? c key with
  | some n => exact ⟨List.prefix_refl _, rfl, fun _ hn => .inl hn⟩
  | none =>
    refine ⟨List.prefix_append _ _, rfl, fun n hn => ?_⟩
    exact (List.mem_append.mp hn).imp id List.mem_singleton.mp

/-- A contribution with a link between a call and what it shares. -/
structure Session.Links (s : Session) (c : Contribution) (k : Shared) (call : Option String)
    (holds : String → Option String) (r : Session × Contribution) : Prop where
  resources : r.1.resources = s.resources
  registers : s.Registers r.2 holds
  nodes : c.nodes <+: r.2.nodes
  edges : c.edges ⊆ r.2.edges
  joined : s.Joined r.2 k call

lemma links_sharedNode (h : s.Registers c holds) (hs : s.Sound) (hcatalogued : s.Catalogued holder)
    (hdiagram : s'.diagram = s.diagram) (hresources : s'.resources = s.resources) {k : Shared}
    (hnew : c.resources.lookup k.key = none) {make : Session → Node × Session}
    (hmake : ∀ t, (make t).1.identity? = some (.shared k) ∧ (make t).2.resources = t.resources)
    (edge : String → Edge) {call : Option String} (hedge : ∀ id, k.Joins id call (edge id)) :
    s.Links c k call holds ((s'.sharedNode c k.key make).2.2,
      (s'.sharedNode c k.key make).2.1.addEdge (edge (s'.sharedNode c k.key make).1.id)) := by
  obtain ⟨hkept, hregisters, hmem, hidentity⟩ :=
    h.sharedNode hs hcatalogued hdiagram hresources hnew hmake
  obtain ⟨hnodes, hedges, -⟩ := nodes_sharedNode s' c k.key make
  refine
    { resources := hkept
      registers := hregisters.addEdge _
      nodes := by rwa [Contribution.nodes_addEdge]
      edges := hedges ▸ Contribution.subset_edges_addEdge _ _
      joined := ⟨_, ?_, hidentity, _, Contribution.mem_edges_addEdge _ _, hedge _⟩ }
  rwa [Contribution.nodes_addEdge]

/-- A contribution that starts with the node of a call and has the edges that connect it with all
that the call shares. -/
structure Session.Connects (s : Session) (shared : List Shared) (holds : String → Option String)
    (r : Session × Contribution) : Prop where
  resources : r.1.resources = s.resources
  registers : s.Registers r.2 holds
  joined : ∀ k ∈ shared, s.Joined r.2 k (r.2.nodes.map (·.id)).head?

lemma Processor.files_of_connects {p : Processor} {i : Invocation} {shared : List Shared}
    {r : Session × Contribution} (h : s.Connects shared (heldBy p.id i.hook) r) (hs : s.Sound)
    (hoffers : Offers s r.1 r.2) (hid : p.id ≠ "zustand" ∧ p.id ≠ "pinia")
    (hshared : sharedBy p.id i.hook holder = shared) : p.Files i holder s r.1 r.2 where
  resources := h.resources
  registers := h.registers
  binds := fun name _ => heldBy_eq_none hid i.hook name
  attached := by
    intro k hk
    change k ∈ sharedBy p.id i.hook holder at hk
    rw [hshared] at hk
    exact h.registers.attached hs hoffers (h.joined k hk) i.hook

/-! ## Navigation -/

namespace Navigation

lemma identity?_inputNode (s : Session) :
    (inputNode s).1.identity? = some (.shared .addressRead) :=
  Node.identity?_eq_some (text?_buildNode s _ _ _ _ (by decide) rfl) rfl

lemma identity?_outputNode (s : Session) :
    (outputNode s).1.identity? = some (.shared .addressWritten) :=
  Node.identity?_eq_some (text?_buildNode s _ _ _ _ (by decide) rfl) rfl

lemma links_linkInput (h : s.Registers c holds) (hs : s.Sound) (hcatalogued : s.Catalogued holder)
    (hdiagram : s'.diagram = s.diagram) (hresources : s'.resources = s.resources)
    (hnew : c.resources.lookup inputKey = none) (call : Node) :
    s.Links c .addressRead (some call.id) holds (linkInput call s' c) :=
  links_sharedNode h hs hcatalogued hdiagram hresources (k := .addressRead) hnew
    (fun t => ⟨identity?_inputNode t, rfl⟩) (⟨·, call.id, "provides"⟩) fun _ => ⟨rfl, rfl⟩

lemma links_linkOutput (h : s.Registers c holds) (hs : s.Sound)
    (hcatalogued : s.Catalogued holder) (hdiagram : s'.diagram = s.diagram)
    (hresources : s'.resources = s.resources) (hnew : c.resources.lookup outputKey = none)
    (call : Node) :
    s.Links c .addressWritten (some call.id) holds (linkOutput call s' c) :=
  links_sharedNode h hs hcatalogued hdiagram hresources (k := .addressWritten) hnew
    (fun t => ⟨identity?_outputNode t, rfl⟩) (⟨call.id, ·, "navigates"⟩) fun _ => ⟨rfl, rfl⟩

/-- The call of a routing hook is linked to the addresses that it reads and writes. -/
lemma connects_process (r : Router) (i : Invocation) (hs : s.Sound)
    (hcatalogued : s.Catalogued holder) :
    s.Connects (r.addresses i.hook) holds (r.process s i) := by
  simp only [Router.process, Router.addresses]
  generalize r.kindOf i.hook.name = kind
  have hoffers := offers_ofNode s (makes_callNode r i kind)
  have hplain : (Contribution.ofNode (some (r.callNode s i kind).1)).Plain := by
    refine Contribution.plain_ofNode fun n hn => ?_
    obtain rfl := Option.some.inj hn
    exact identity?_buildNode s _ _ _ _ rfl (by decide)
  have hregisters : s.Registers (.ofNode (some (r.callNode s i kind).1)) holds := hplain.registers s
  have hinput := links_linkInput hregisters hs hcatalogued hoffers.diagram rfl rfl
    (r.callNode s i kind).1
  have houtput := links_linkOutput hregisters hs hcatalogued hoffers.diagram rfl rfl
    (r.callNode s i kind).1
  -- the node of the call is the first one, also of what is put together later
  have hhead {nodes : List Node} (h : [(r.callNode s i kind).1] <+: nodes) :
      (nodes.map (·.id)).head? = some (r.callNode s i kind).1.id := by
    obtain ⟨rest, rfl⟩ := h
    rfl
  cases kind with
  | reads =>
    refine ⟨hinput.resources, hinput.registers, List.forall_mem_singleton.mpr ?_⟩
    exact (hhead hinput.nodes).symm ▸ hinput.joined
  | guard =>
    refine ⟨hinput.resources, hinput.registers, List.forall_mem_singleton.mpr ?_⟩
    exact (hhead hinput.nodes).symm ▸ hinput.joined
  | navigates =>
    refine ⟨houtput.resources, houtput.registers, List.forall_mem_singleton.mpr ?_⟩
    exact (hhead houtput.nodes).symm ▸ houtput.joined
  | both =>
    have hcall : (r.callNode s i .both).1 ∈
        (Contribution.ofNode (some (r.callNode s i .both).1)).nodes := List.mem_singleton_self _
    have hfirst := offers_linkInput hoffers hs rfl hcall
    obtain ⟨-, hnew⟩ := linkInput_kept hoffers hs rfl (r.callNode s i .both).1
    have hsecond := links_linkOutput hinput.registers hs hcatalogued hfirst.diagram
      hinput.resources hnew (r.callNode s i .both).1
    refine ⟨hsecond.resources, hsecond.registers, fun k hk => ?_⟩
    rw [hhead (hinput.nodes.trans hsecond.nodes)]
    obtain rfl | hk := List.mem_cons.mp hk
    · exact hinput.joined.mono hsecond.nodes.subset hsecond.edges
    · obtain rfl := List.mem_singleton.mp hk
      exact hsecond.joined

lemma catalogues {r : Router} (hsharers : sharers.lookup r.info.id = some fun h _ => r.addresses h)
    (hid : r.info.id ≠ "zustand" ∧ r.info.id ≠ "pinia") : r.processor.Catalogues := by
  intro s i c holder hs hcatalogued _ hok hoffers
  obtain rfl := Except.ok.inj hok
  refine Processor.files_of_connects (connects_process r i hs hcatalogued) hs hoffers hid ?_
  change sharedBy r.info.id i.hook holder = _
  rw [sharedBy, hsharers]

end Navigation

/-! ## Remote data -/

namespace Remote

lemma identity?_serverNode (endpoint : Option String) (s : Session) :
    (serverNode endpoint s).1.identity? = some (.shared (.server (endpoint.getD "*"))) := by
  refine Node.identity?_eq_some (text?_buildNode s _ _ _ _ (by decide) rfl) ?_
  cases endpoint <;> rfl

lemma text?_callNode (id : String) (shape : ResultShape) (i : Invocation) (s : Session) :
    (callNode id shape i s).1.text? "category" = some "library-hook" :=
  text?_buildNode s _ _ _ _ (by decide) rfl

lemma registers_callNode (s : Session) (id : String) (shape : ResultShape) (i : Invocation) :
    s.Registers (.ofNode (some (callNode id shape i s).1)) holds := by
  refine (Contribution.plain_ofNode fun n hn => ?_).registers s
  obtain rfl := Option.some.inj hn
  exact Node.identity?_eq_none (text?_callNode id shape i s) (by decide)

/-- The note about the server leaves the category of a call as it is. -/
lemma text?_noteServer (endpoint : Option String) (server : String) (n : Node) :
    (noteServer endpoint server n).text? "category" = n.text? "category" := by
  cases endpoint with
  | none =>
    exact congrArg Value.asText? (Metadata.get_set_of_ne n.metadata _ (by decide))
  | some e =>
    exact congrArg Value.asText? ((Metadata.get_set_of_ne _ _ (by decide)).trans
      (Metadata.get_set_of_ne n.metadata _ (by decide)))

lemma identity?_noteServer {n : Node} (h : n.text? "category" = some "library-hook")
    (endpoint : Option String) (server : String) :
    (noteServer endpoint server n).identity? = n.identity? := by
  have hnone : "library-hook" ∉ sharedCategories := by decide
  rw [Node.identity?_eq_none h hnone,
    Node.identity?_eq_none ((text?_noteServer endpoint server n).trans h) hnone]

/-- The server behind a call, found or made, with the contribution that holds the call and, if it is
new, the server. The two are different nodes. -/
structure Found (s : Session) (call : Node) (endpoint : Option String)
    (holds : String → Option String) (found : Node × Contribution × Session) : Prop where
  resources : found.2.2.resources = s.resources
  registers : s.Registers found.2.1 holds
  server : found.1 ∈ s.diagram.nodes ++ found.2.1.nodes
  identity : found.1.identity? = some (.shared (.server (endpoint.getD "*")))
  first : [call] <+: found.2.1.nodes
  only : ∀ n ∈ found.2.1.nodes, n ∈ [call] ∨ n = found.1
  apart : call.id ≠ found.1.id

lemma found_server (hs : s.Sound) (hcatalogued : s.Catalogued holder) (endpoint : Option String)
    (id : String) (shape : ResultShape) (i : Invocation) :
    Found s (callNode id shape i s).1 endpoint holds ((callNode id shape i s).2.sharedNode
      (.ofNode (some (callNode id shape i s).1)) (serverKey endpoint) (serverNode endpoint)) := by
  have hoffers := offers_ofNode s (makes_callNode id shape i)
  have hregisters : s.Registers (.ofNode (some (callNode id shape i s).1)) holds :=
    registers_callNode s id shape i
  have hshares : Shares s _ (serverKey endpoint) _ :=
    hoffers.sharedNode hs rfl (makes_serverNode endpoint)
  obtain ⟨hkept, hshared, hmem, hidentity⟩ := hregisters.sharedNode hs hcatalogued hoffers.diagram
    rfl (k := .server (endpoint.getD "*")) rfl fun t => ⟨identity?_serverNode endpoint t, rfl⟩
  obtain ⟨hnodes, -, honly⟩ := nodes_sharedNode (callNode id shape i s).2
    (.ofNode (some (callNode id shape i s).1)) (serverKey endpoint) (serverNode endpoint)
  exact ⟨hkept, hshared, hmem, hidentity, hnodes, honly,
    hshares.apart (callNode id shape i s).1 (List.mem_singleton_self _)⟩

/-- A note on the node of the call changes no identity, since the server is another node. -/
lemma Found.identity?_noteServer {call : Node} {endpoint : Option String}
    {found : Node × Contribution × Session} (h : Found s call endpoint holds found)
    (hcategory : call.text? "category" = some "library-hook") {n : Node}
    (hn : n ∈ found.2.1.nodes) (heq : n.id = call.id) (endpoint' : Option String)
    (server : String) : (noteServer endpoint' server n).identity? = n.identity? := by
  obtain hcall | rfl := h.only n hn
  · rw [List.mem_singleton.mp hcall]
    exact Remote.identity?_noteServer hcategory endpoint' server
  · exact absurd heq.symm h.apart

/-- A call is connected with the server that is noted on its node. -/
lemma Found.connects {call : Node} {endpoint : Option String}
    {found : Node × Contribution × Session} (h : Found s call endpoint holds found)
    (hcategory : call.text? "category" = some "library-hook") {e : Edge}
    (hjoins : (Shared.server (endpoint.getD "*")).Joins found.1.id (some call.id) e) :
    s.Connects [.server (endpoint.getD "*")] holds (found.2.2,
      (found.2.1.modifyNode call.id (noteServer endpoint found.1.id)).addEdge e) := by
  have hid : ∀ n, (noteServer endpoint found.1.id n).id = n.id := fun _ => rfl
  have hmodified : s.Registers
      (found.2.1.modifyNode call.id (noteServer endpoint found.1.id)) holds :=
    h.registers.modifyNode call.id hid fun _ hn heq =>
      h.identity?_noteServer hcategory hn heq _ _
  refine ⟨h.resources, hmodified.addEdge e, List.forall_mem_singleton.mpr ?_⟩
  have hhead : ((found.2.1.modifyNode call.id (noteServer endpoint found.1.id)).nodes.map
      (·.id)).head? = some call.id := by
    obtain ⟨rest, hrest⟩ := h.first
    rw [Contribution.ids_modifyNode hid, ← hrest]
    rfl
  rw [Contribution.nodes_addEdge, hhead]
  refine ⟨found.1, ?_, h.identity, e, Contribution.mem_edges_addEdge _ e, hjoins⟩
  rw [Contribution.nodes_addEdge]
  refine List.mem_append.mpr ((List.mem_append.mp h.server).imp id fun hmem => ?_)
  refine List.mem_map.mpr ⟨found.1, hmem, if_neg fun heq => ?_⟩
  exact h.apart (eq_of_beq heq).symm

lemma connects_linkServer (hs : s.Sound) (hcatalogued : s.Catalogued holder) (dialect : Dialect)
    (shape : ResultShape) (endpoint : Option String) (id : String) (i : Invocation) :
    s.Connects [.server (endpoint.getD "*")] holds
      (linkServer dialect shape endpoint (callNode id shape i s).1 (callNode id shape i s).2) := by
  have hfound : Found s _ endpoint holds _ := found_server hs hcatalogued endpoint id shape i
  have hconnects := fun e => hfound.connects (text?_callNode id shape i s) (e := e)
  simp only [linkServer]
  cases shape.operation with
  | mutation => exact hconnects _ (.inr ⟨rfl, rfl⟩)
  | config => exact hconnects _ (.inr ⟨rfl, rfl⟩)
  | query => exact hconnects _ (.inl ⟨rfl, rfl⟩)
  | «local» => exact hconnects _ (.inl ⟨rfl, rfl⟩)

/-- The endpoint behind a call for remote data, if it is known: none for the server that
configuration hooks refer to. -/
def target (configuration : List String) (endpoint : Hook → Option String) (h : Hook) :
    Option (Option String) :=
  if configuration.contains h.name then some none else (endpoint h).map some

lemma servers_eq (configuration : List String) (endpoint : Hook → Option String) (h : Hook) :
    servers configuration endpoint h =
      (target configuration endpoint h).toList.map fun e => .server (e.getD "*") := by
  rw [servers, target]
  split
  · rfl
  · cases endpoint h <;> rfl

/-- A call is linked to the server behind it, or its node is all there is. -/
lemma processShaped_cases (id : String) (dialect : Dialect) {shape : ResultShape} (s : Session)
    {i : Invocation} {configuration : List String}
    (hconfig : shape.operation = .config ↔ configuration.contains i.hook.name = true) :
    (∃ e, target configuration dialect.endpoint i.hook = some e ∧
      processShaped id dialect shape s i =
        linkServer dialect shape e (callNode id shape i s).1 (callNode id shape i s).2) ∨
    (target configuration dialect.endpoint i.hook = none ∧
      (processShaped id dialect shape s i).1.resources = s.resources ∧
      (processShaped id dialect shape s i).2 = .ofNode (some (callNode id shape i s).1)) := by
  simp only [processShaped, target]
  by_cases h : shape.operation = .config
  · rw [if_pos h, if_pos (hconfig.mp h)]
    exact .inl ⟨none, rfl, rfl⟩
  · rw [if_neg h, if_neg fun hcontains => h (hconfig.mpr hcontains)]
    cases dialect.endpoint i.hook with
    | some endpoint => exact .inl ⟨some endpoint, rfl, rfl⟩
    | none => exact .inr ⟨rfl, rfl, rfl⟩

lemma connects_processShaped (hs : s.Sound) (hcatalogued : s.Catalogued holder) (id : String)
    (dialect : Dialect) {shape : ResultShape} {i : Invocation} {configuration : List String}
    (hconfig : shape.operation = .config ↔ configuration.contains i.hook.name = true) :
    s.Connects (servers configuration dialect.endpoint i.hook) holds
      (processShaped id dialect shape s i) := by
  rw [servers_eq]
  obtain ⟨e, htarget, heq⟩ | ⟨htarget, hresources, hnodes⟩ :=
    processShaped_cases id dialect s hconfig
  · rw [htarget, heq]
    exact connects_linkServer hs hcatalogued dialect shape e id i
  · rw [htarget]
    exact ⟨hresources, hnodes ▸ registers_callNode s id shape i, by simp⟩

lemma process_eq_ok {id : String} {dialect : Dialect} {i : Invocation} {c : Contribution}
    (hok : (process id dialect s i).2 = .ok c) : ∃ shape, dialect.shape i.hook = some shape ∧
      (process id dialect s i).1 = (processShaped id dialect shape s i).1 ∧
      (processShaped id dialect shape s i).2 = c := by
  rw [process] at hok ⊢
  cases hshape : dialect.shape i.hook with
  | none =>
    rw [hshape] at hok
    cases hok
  | some shape =>
    rw [hshape] at hok
    exact ⟨shape, rfl, rfl, Except.ok.inj hok⟩

/-- A processor for remote data, with the hooks that are for configuration and with the endpoints of
all other calls. -/
def Queries (p : Processor) (configuration : List String) (endpoint : Hook → Option String) :
    Prop :=
  ∃ info dialect, p = processor info dialect ∧ dialect.endpoint = endpoint ∧
    ∀ h shape, dialect.shape h = some shape →
      (shape.operation = .config ↔ configuration.contains h.name = true)

/-- The shapes of the results tell which hooks of fixed names are for configuration. -/
lemma queries_listed {info : ProcessorInfo} {shapes : List ResultShape}
    {endpoint : Hook → Option String} {configuration : List String}
    (hshapes : ∀ shape ∈ shapes,
      (shape.operation = .config ↔ configuration.contains shape.hook = true)) :
    Queries (listed info shapes endpoint) configuration endpoint := by
  refine ⟨_, _, rfl, rfl, fun h shape hshape => ?_⟩
  have hfound : shapes.find? (·.hook == h.name) = some shape := hshape
  have hhook := List.find?_some hfound
  rw [← eq_of_beq hhook]
  exact hshapes shape (List.mem_of_find?_eq_some hfound)

lemma queries_swr : Queries swr ["useSWRConfig"] Hook.firstLiteral := queries_listed (by decide)

lemma queries_tanstackQuery : Queries tanstackQuery [] Hook.firstLiteral :=
  queries_listed (by decide)

lemma queries_apollo : Queries apollo [] fun h => h.firstIdentifier.or h.firstLiteral :=
  queries_listed (by decide)

lemma queries_rtkQuery : Queries rtkQuery [] rtkEndpoint := by
  refine ⟨_, _, rfl, rfl, fun h shape hshape => ?_⟩
  obtain rfl := Option.some.inj hshape
  split <;> simp [ResultShape.rtkMutation, ResultShape.rtkQuery]

lemma queries_trpc : Queries trpc [] trpcEndpoint := by
  refine ⟨_, _, rfl, rfl, fun h shape hshape => ?_⟩
  obtain rfl := Option.some.inj hshape
  split <;> simp [ResultShape.trpcMutation, ResultShape.trpcQuery]

lemma Queries.catalogues {p : Processor} {configuration : List String}
    {endpoint : Hook → Option String} (h : Queries p configuration endpoint)
    (hsharers : sharers.lookup p.id = some fun h _ => servers configuration endpoint h)
    (hid : p.id ≠ "zustand" ∧ p.id ≠ "pinia") : p.Catalogues := by
  obtain ⟨info, dialect, rfl, rfl, hshapes⟩ := h
  intro s i c holder hs hcatalogued _ hok hoffers
  change (process info.id dialect s i).2 = .ok c at hok
  change Offers s (process info.id dialect s i).1 c at hoffers
  change (processor info dialect).Files i holder s (process info.id dialect s i).1 c
  obtain ⟨shape, hshape, hsession, rfl⟩ := process_eq_ok hok
  rw [hsession] at hoffers ⊢
  refine Processor.files_of_connects (connects_processShaped hs hcatalogued info.id dialect
    (hshapes i.hook shape hshape)) hs hoffers hid ?_
  rw [sharedBy, hsharers]

end Remote

/-! ## All of them -/

/-- Every built-in processor keeps the catalogue. -/
theorem catalogues_of_mem_builtin : ∀ p ∈ builtinProcessors, p.Catalogues := by
  simp only [builtinProcessors, List.forall_mem_cons]
  refine ⟨React.isPlain.catalogues rfl, Vue.isPlain.catalogues rfl, Svelte.isPlain.catalogues rfl,
    Stores.catalogues_pinia, Stores.catalogues_zustand,
    Remote.queries_swr.catalogues rfl (by decide),
    Remote.queries_tanstackQuery.catalogues rfl (by decide),
    Remote.queries_apollo.catalogues rfl (by decide),
    Remote.queries_rtkQuery.catalogues rfl (by decide),
    Remote.queries_trpc.catalogues rfl (by decide), Jotai.catalogues, ?_, ?_, ?_,
    Forms.isPlain.catalogues rfl, Stores.isPlain_mobx.catalogues rfl, ?_,
    Svelte.isPlain_store.catalogues rfl, ?_, Custom.isPlain.catalogues rfl, by simp⟩
  all_goals exact Navigation.catalogues rfl (by decide)

end ComponentFlow

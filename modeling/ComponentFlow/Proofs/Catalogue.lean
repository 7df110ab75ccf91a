import ComponentFlow.Proofs.Builtins
import ComponentFlow.Proofs.Identities
import ComponentFlow.Proofs.Pruning

/-!
# The catalogue of shared nodes

The nodes that hook calls share are found through the resources of a session. A session is
`Catalogued` if its resources name exactly these nodes. A contribution `Registers` what it makes if
it binds each new node of that kind to its key, and no key that is bound already. Then the session
is catalogued afterwards (`Registers.catalogued`), and so there is one node for each thing that is
shared (`Catalogued.nodup`).

`Registers` has a lemma for each way in which a contribution is put together.
-/

namespace ComponentFlow

/-! ## Keys -/

/-- The resource key of what calls share. -/
def Shared.key : Shared → String
  | addressRead => Navigation.inputKey
  | addressWritten => Navigation.outputKey
  | atom name => Jotai.atomKey name
  | store hook => Stores.storeKey hook
  | server endpoint => Remote.serverKey (some endpoint)

/-- The word that a key starts with, and what follows it. -/
def Shared.parts : Shared → String × String
  | addressRead => ("url", "input")
  | addressWritten => ("url", "output")
  | atom name => ("atom", name)
  | store hook => ("store", hook)
  | server endpoint => ("server", endpoint)

lemma Shared.toList_key (k : Shared) :
    k.key.toList = k.parts.1.toList ++ ':' :: k.parts.2.toList := by
  cases k <;> dsimp only [Shared.key, Shared.parts]
  case addressRead => rfl
  case addressWritten => rfl
  case atom name => exact String.toList_append (s := "atom:")
  case store hook => exact String.toList_append (s := "store:")
  case server endpoint => exact String.toList_append (s := "server:")

lemma Shared.takeWhile_parts (k : Shared) (rest : List Char) :
    (k.parts.1.toList ++ ':' :: rest).takeWhile (· != ':') = k.parts.1.toList := by
  cases k <;> dsimp only [Shared.parts] <;> rfl

lemma Shared.key_injective : Function.Injective Shared.key := by
  intro k k' h
  have hchars := congrArg String.toList h
  rw [k.toList_key, k'.toList_key] at hchars
  have hword : k.parts.1.toList = k'.parts.1.toList := by
    rw [← k.takeWhile_parts k.parts.2.toList, hchars, k'.takeWhile_parts]
  rw [hword, List.append_cancel_left_eq] at hchars
  have hparts : k.parts = k'.parts :=
    Prod.ext (String.toList_inj.mp hword) (String.toList_inj.mp (List.cons.inj hchars).2)
  cases k <;> cases k' <;> simp_all [Shared.parts]

lemma Stores.toList_variableKey (name : String) :
    (variableKey name).toList = "store-variable".toList ++ ':' :: name.toList :=
  String.toList_append (s := "store-variable:")

lemma Stores.variableKey_injective : Function.Injective variableKey := by
  intro name name' h
  have hchars := congrArg String.toList h
  rw [toList_variableKey, toList_variableKey, List.append_cancel_left_eq] at hchars
  exact String.toList_inj.mp (List.cons.inj hchars).2

lemma Shared.key_ne_variableKey (k : Shared) (name : String) :
    k.key ≠ Stores.variableKey name := by
  intro h
  have hchars := congrArg String.toList h
  have hword : k.parts.1.toList = "store-variable".toList := by
    rw [← k.takeWhile_parts k.parts.2.toList, ← k.toList_key, hchars, Stores.toList_variableKey]
    rfl
  cases k <;> exact absurd (String.toList_inj.mp hword) (by simp [Shared.parts])

/-! ## Resources and nodes after a commit -/

namespace Contribution

/-- A diagram to which a contribution has been applied as a whole. -/
def onto (c : Contribution) (d : Diagram) : Diagram :=
  c.updates.foldl Session.applyUpdate
    { d.extend c.nodes c.groups with edges := d.edges ++ c.edges }

lemma nodes_applyUpdates (d : Diagram) (updates : List (String × Metadata)) :
    (updates.foldl Session.applyUpdate d).nodes = d.nodes.map (Node.amended updates) := by
  induction updates generalizing d with
  | nil => exact (List.map_id' d.nodes).symm
  | cons u rest ih =>
    rw [List.foldl_cons, ih, Session.applyUpdate, Diagram.modifyNode, List.map_map]
    rfl

lemma nodes_onto {c : Contribution} (hgroups : c.groups = []) (d : Diagram) :
    (c.onto d).nodes = (d.nodes ++ c.nodes).map (Node.amended c.updates) := by
  rw [onto, nodes_applyUpdates]
  simp [Diagram.extend, hgroups]

lemma edges_onto (c : Contribution) (d : Diagram) : (c.onto d).edges = d.edges ++ c.edges :=
  (Session.updates_kept _ c.updates).2.1

end Contribution

/-! ## Catalogued sessions -/

namespace Session

/-- A session whose resources name the nodes that calls share, and no others, and the stores that
variables hold. A store goes by its hook. -/
structure Catalogued (s : Session) (holder : String → Option String) : Prop where
  entry : ∀ k id, s.resources.lookup (Shared.key k) = some id ↔
    ∃ n ∈ s.diagram.nodes, n.id = id ∧ n.identity? = some (.shared k)
  shared : ∀ n ∈ s.diagram.nodes, ∀ m, n.identity? = some m → ∃ k, m = .shared k
  held : ∀ name id, s.resources.lookup (Stores.variableKey name) = some id →
    ∃ hook, holder name = some hook ∧
      ∃ n ∈ s.diagram.nodes, n.id = id ∧ n.identity? = some (.shared (.store hook))
  free : ∀ name, s.resources.lookup (Stores.variableKey name) = none → holder name = none

/-- A contribution that binds every new node that calls share to its key, but no key that is bound
already, and that leaves nodes what they are. It may bind variables to the stores that they hold. -/
structure Registers (s : Session) (c : Contribution) (holder : String → Option String) : Prop where
  keys : (c.resources.map Prod.fst).Nodup
  nodes : ∀ n ∈ c.nodes, ∀ m, n.identity? = some m →
    ∃ k, m = .shared k ∧ c.resources.lookup (Shared.key k) = some n.id
  entries : ∀ k id, c.resources.lookup (Shared.key k) = some id →
    s.resource? k.key = none ∧ ∃ n ∈ c.nodes, n.id = id ∧ n.identity? = some (.shared k)
  held : ∀ name id, c.resources.lookup (Stores.variableKey name) = some id →
    ∃ hook, holder name = some hook ∧
      ∃ n ∈ s.diagram.nodes ++ c.nodes, n.id = id ∧ n.identity? = some (.shared (.store hook))
  updates : ∀ u ∈ c.updates, u.2.Enriching

variable {s s' : Session} {c : Contribution} {holder holds : String → Option String}

lemma catalogued_start (component : Component) (atoms : List Atom) (journal : Journal) :
    Catalogued { start component atoms with journal } fun _ => none where
  entry := by simp [start]
  shared := by simp [start]
  held := by simp [start]
  free := by simp

lemma Catalogued.record (h : s.Catalogued holder) (level : Level) (origin message : String) :
    (s.record level origin message).Catalogued holder :=
  ⟨h.entry, h.shared, h.held, h.free⟩

/-- What a key of the catalogue is bound to is a node that stands for what the key says. -/
lemma Catalogued.of_resource? (h : s.Catalogued holder) (hs : s.diagram.Coherent) {k : Shared}
    {n : Node} (hn : s.resource? k.key = some n) :
    n ∈ s.diagram.nodes ∧ n.identity? = some (.shared k) := by
  obtain ⟨id, hlookup, hnode⟩ := Option.bind_eq_some_iff.mp hn
  obtain ⟨m, hm, rfl, hidentity⟩ := (h.entry k id).mp hlookup
  rw [Diagram.node?_eq_some hs.ids_nodup hm] at hnode
  obtain rfl := Option.some.inj hnode
  exact ⟨hm, hidentity⟩

lemma Catalogued.lookup_eq_none (h : s.Catalogued holder) (hs : s.diagram.Coherent) {k : Shared}
    (hn : s.resource? k.key = none) : s.resources.lookup k.key = none := by
  cases hlookup : s.resources.lookup k.key with
  | none => rfl
  | some id =>
    obtain ⟨m, hm, rfl, -⟩ := (h.entry k id).mp hlookup
    rw [resource?, hlookup, Option.bind_some, Diagram.node?_eq_some hs.ids_nodup hm] at hn
    cases hn

/-- A variable that holds a store is bound to the node of that store. -/
lemma Catalogued.exists_held (h : s.Catalogued holder) (hs : s.diagram.Coherent)
    {name hook : String} (hholder : holder name = some hook) :
    ∃ n ∈ s.diagram.nodes, s.resource? (Stores.variableKey name) = some n ∧
      n.identity? = some (.shared (.store hook)) := by
  cases hlookup : s.resources.lookup (Stores.variableKey name) with
  | none =>
    rw [h.free name hlookup] at hholder
    cases hholder
  | some id =>
    obtain ⟨hook', hholder', n, hn, rfl, hidentity⟩ := h.held name id hlookup
    obtain rfl : hook = hook' := Option.some.inj (hholder.symm.trans hholder')
    refine ⟨n, hn, ?_, hidentity⟩
    rw [resource?, hlookup, Option.bind_some, Diagram.node?_eq_some hs.ids_nodup hn]

/-- **One node for each.** In a catalogued session no two nodes stand for the same. -/
lemma Catalogued.nodup (h : s.Catalogued holder) (hs : s.diagram.Coherent) :
    s.diagram.identities.Nodup := by
  have hids : s.diagram.nodes.Pairwise fun n n' => n.id ≠ n'.id :=
    List.pairwise_map.mp hs.ids_nodup
  refine List.pairwise_filterMap.mpr (hids.imp_of_mem ?_)
  rintro n n' hn hn' hne m hm m' hm' rfl
  obtain ⟨k, rfl⟩ := h.shared n hn m hm
  have hentry := (h.entry k n.id).mpr ⟨n, hn, rfl, hm⟩
  rw [(h.entry k n'.id).mpr ⟨n', hn', rfl, hm'⟩] at hentry
  exact hne (Option.some.inj hentry).symm

/-! ## Commits -/

lemma linked_subset (hs : s.Sound) (hoffers : Offers s s' c) {n : Node}
    (hn : n ∈ s.diagram.nodes ++ c.nodes) : n.linked ⊆ sharedLists := by
  obtain hn | hn := List.mem_append.mp hn
  · exact (hs.shaped n hn).linked
  · exact (hoffers.proper n hn).linked

/-- The nodes that a contribution finds or brings, after it is applied. -/
lemma Registers.exists_amended (h : s.Registers c holds) (hs : s.Sound) (hoffers : Offers s s' c)
    {n : Node} (hn : n ∈ s.diagram.nodes ++ c.nodes) :
    ∃ n' ∈ (c.onto s.diagram).nodes, n'.Enriches n ∧
      ∀ entries roles, (n.id, entries) ∈ c.updates → ("variables", Value.ofRoles roles) ∈ entries →
        ∀ name ∈ roles.map Prod.fst, n'.Names name := by
  refine ⟨n.amended c.updates, ?_, Node.enriches_amended (linked_subset hs hoffers hn) h.updates⟩
  rw [Contribution.nodes_onto hoffers.groupless]
  exact List.mem_map_of_mem hn

/-- Every node afterwards comes from one that the contribution found or brought. -/
lemma Registers.exists_before (h : s.Registers c holds) (hs : s.Sound) (hoffers : Offers s s' c)
    {n' : Node} (hn' : n' ∈ (c.onto s.diagram).nodes) :
    ∃ n ∈ s.diagram.nodes ++ c.nodes, n'.Enriches n := by
  rw [Contribution.nodes_onto hoffers.groupless] at hn'
  obtain ⟨n, hn, rfl⟩ := List.mem_map.mp hn'
  exact ⟨n, hn, (Node.enriches_amended (linked_subset hs hoffers hn) h.updates).1⟩

/-- Updates change neither which nodes there are nor what they stand for. -/
lemma Registers.exists_onto_iff (h : s.Registers c holds) (hs : s.Sound) (hoffers : Offers s s' c)
    {id : String} {m : Identity} :
    (∃ n' ∈ (c.onto s.diagram).nodes, n'.id = id ∧ n'.identity? = some m) ↔
      ∃ n ∈ s.diagram.nodes ++ c.nodes, n.id = id ∧ n.identity? = some m := by
  constructor
  · rintro ⟨n', hn', rfl, hidentity⟩
    obtain ⟨n, hn, henriches⟩ := h.exists_before hs hoffers hn'
    exact ⟨n, hn, henriches.id.symm, henriches.identity.symm.trans hidentity⟩
  · rintro ⟨n, hn, rfl, hidentity⟩
    obtain ⟨n', hn', henriches, -⟩ := h.exists_amended hs hoffers hn
    exact ⟨n', hn', henriches.id, henriches.identity.trans hidentity⟩

lemma Registers.within (h : s.Registers c holds) (hs : s.Sound) (hoffers : Offers s s' c) :
    s.diagram.Within (c.onto s.diagram) where
  nodes := by
    intro n hn
    obtain ⟨n', hn', henriches, -⟩ := h.exists_amended hs hoffers (List.mem_append_left _ hn)
    exact ⟨n', hn', henriches⟩
  edges := by
    intro e he
    rw [Contribution.edges_onto]
    exact ⟨e, List.mem_append_left _ he, rfl, rfl⟩

/-- The entries of a session and the new ones name the nodes of the session and the new ones. -/
lemma Registers.entry_iff (h : s.Registers c holds) (hs : s.Sound)
    (hcatalogued : s.Catalogued holder) (k : Shared) (id : String) :
    (c.resources.lookup k.key).or (s.resources.lookup k.key) = some id ↔
      ∃ n ∈ s.diagram.nodes ++ c.nodes, n.id = id ∧ n.identity? = some (.shared k) := by
  constructor
  · intro hentry
    obtain hentry | ⟨-, hentry⟩ := Option.or_eq_some_iff.mp hentry
    · obtain ⟨-, n, hn, hid, hidentity⟩ := h.entries k id hentry
      exact ⟨n, List.mem_append_right _ hn, hid, hidentity⟩
    · obtain ⟨n, hn, hid, hidentity⟩ := (hcatalogued.entry k id).mp hentry
      exact ⟨n, List.mem_append_left _ hn, hid, hidentity⟩
  · rintro ⟨n, hn, rfl, hidentity⟩
    obtain hn | hn := List.mem_append.mp hn
    · -- a key that is bound is not bound again
      have hentry := (hcatalogued.entry k n.id).mpr ⟨n, hn, rfl, hidentity⟩
      cases hnew : c.resources.lookup k.key with
      | none => rwa [Option.none_or]
      | some id =>
        have hnone := hcatalogued.lookup_eq_none hs.coherent (h.entries k id hnew).1
        rw [hnone] at hentry
        cases hentry
    · obtain ⟨k', hk', hentry⟩ := h.nodes n hn _ hidentity
      obtain rfl : k = k' := by simpa using hk'
      rw [hentry, Option.some_or]

/-- The same for the variables that hold stores. -/
lemma Registers.exists_held (h : s.Registers c holds) (hcatalogued : s.Catalogued holder)
    (hholds : ∀ name, c.resources.lookup (Stores.variableKey name) = none → holds name = none)
    {name id : String} (hheld : (c.resources.lookup (Stores.variableKey name)).or
      (s.resources.lookup (Stores.variableKey name)) = some id) :
    ∃ hook, (holds name).or (holder name) = some hook ∧
      ∃ n ∈ s.diagram.nodes ++ c.nodes, n.id = id ∧
        n.identity? = some (.shared (.store hook)) := by
  obtain hheld | ⟨hnone, hheld⟩ := Option.or_eq_some_iff.mp hheld
  · obtain ⟨hook, hholds, hstore⟩ := h.held name id hheld
    exact ⟨hook, by rw [hholds, Option.some_or], hstore⟩
  · obtain ⟨hook, hholder, n, hn, hstore⟩ := hcatalogued.held name id hheld
    refine ⟨hook, ?_, n, List.mem_append_left _ hn, hstore⟩
    rw [hholds name hnone, Option.none_or, hholder]

/-- A session is catalogued after what it registers is committed. -/
lemma Registers.catalogued (h : s.Registers c holds) (hs : s.Sound)
    (hcatalogued : s.Catalogued holder) (hoffers : Offers s s' c)
    (hresources : s'.resources = s.resources)
    (hholds : ∀ name, c.resources.lookup (Stores.variableKey name) = none → holds name = none) :
    (s'.applied c).Catalogued fun name => (holds name).or (holder name) := by
  have hdiagram : (s'.applied c).diagram = c.onto s.diagram := by
    rw [← hoffers.diagram]
    rfl
  have hlookup : ∀ key, (s'.applied c).resources.lookup key =
      (c.resources.lookup key).or (s.resources.lookup key) := by
    intro key
    rw [← hresources]
    exact Assoc.lookup_insertAll s'.resources h.keys key
  refine ⟨fun k id => ?entry, fun n' hn' m hm => ?shared, fun name id hheld => ?held,
    fun name hfree => ?free⟩
  case entry =>
    rw [hlookup, hdiagram, h.entry_iff hs hcatalogued, h.exists_onto_iff hs hoffers]
  case shared =>
    rw [hdiagram] at hn'
    obtain ⟨n, hn, henriches⟩ := h.exists_before hs hoffers hn'
    rw [henriches.identity] at hm
    obtain hn | hn := List.mem_append.mp hn
    · exact hcatalogued.shared n hn m hm
    · obtain ⟨k, hk, -⟩ := h.nodes n hn m hm
      exact ⟨k, hk⟩
  case held =>
    rw [hlookup] at hheld
    obtain ⟨hook, hholder, hstore⟩ := h.exists_held hcatalogued hholds hheld
    rw [hdiagram]
    exact ⟨hook, hholder, (h.exists_onto_iff hs hoffers).mpr hstore⟩
  case free =>
    rw [hlookup, Option.or_eq_none_iff] at hfree
    rw [hholds name hfree.1, hcatalogued.free name hfree.2, Option.none_or]

/-! ## Putting contributions together -/

lemma registers_empty (s : Session) (handled : Bool) (holds : String → Option String) :
    s.Registers { handled } holds where
  keys := List.nodup_nil
  nodes := by simp
  entries := by simp
  held := by simp
  updates := by simp

lemma lookup_addShared (c : Contribution) (key : String) (n : Node) (other : String) :
    (c.addShared key n).resources.lookup other =
      if other == key then some n.id else c.resources.lookup other :=
  Assoc.lookup_insert key other n.id c.resources

lemma Registers.addShared (h : s.Registers c holds) {k : Shared} {n : Node}
    (hn : n.identity? = some (.shared k)) (hfree : s.resource? k.key = none)
    (hnew : c.resources.lookup k.key = none) : s.Registers (c.addShared k.key n) holds where
  keys := Assoc.nodup_keys_insert _ _ h.keys
  nodes := by
    intro n' hn' m hm
    obtain hn' | hn' := List.mem_append.mp hn'
    · obtain ⟨k', rfl, hentry⟩ := h.nodes n' hn' m hm
      have hne : k'.key ≠ k.key := by
        intro heq
        rw [heq, hnew] at hentry
        cases hentry
      refine ⟨k', rfl, ?_⟩
      rw [lookup_addShared, if_neg (by simpa using hne), hentry]
    · rw [List.mem_singleton.mp hn', hn] at hm
      obtain rfl := Option.some.inj hm
      refine ⟨k, rfl, ?_⟩
      rw [lookup_addShared, if_pos (beq_self_eq_true _), List.mem_singleton.mp hn']
  entries := by
    intro k' id hentry
    rw [lookup_addShared] at hentry
    by_cases heq : k'.key = k.key
    · obtain rfl := Shared.key_injective heq
      rw [if_pos (beq_self_eq_true _)] at hentry
      exact ⟨hfree, n, List.mem_append_right _ List.mem_cons_self, Option.some.inj hentry, hn⟩
    · rw [if_neg (by simpa using heq)] at hentry
      obtain ⟨hfree', n', hn', hid, hidentity⟩ := h.entries k' id hentry
      exact ⟨hfree', n', List.mem_append_left _ hn', hid, hidentity⟩
  held := by
    intro name id hheld
    have hne : Stores.variableKey name ≠ k.key := (k.key_ne_variableKey name).symm
    rw [lookup_addShared, if_neg (by simpa using hne)] at hheld
    obtain ⟨hook, hholds, n', hn', hstore⟩ := h.held name id hheld
    refine ⟨hook, hholds, n', ?_, hstore⟩
    exact List.append_assoc _ _ _ ▸ List.mem_append_left _ hn'
  updates := h.updates

lemma Registers.addEdge (h : s.Registers c holds) (e : Edge) :
    s.Registers (c.addEdge e) holds := by
  rw [Contribution.addEdge]
  split
  · exact h
  · exact { h with }

lemma Registers.update (h : s.Registers c holds) (id : String) {entries : Metadata}
    (hentries : entries.Enriching) : s.Registers (c.update id entries) holds :=
  { h with
    updates := List.forall_mem_append.mpr ⟨h.updates, List.forall_mem_singleton.mpr hentries⟩ }

/-- A new node may still be changed, as long as it stands for the same afterwards. -/
lemma Registers.modifyNode (h : s.Registers c holds) (id : String) {f : Node → Node}
    (hf : ∀ n, (f n).id = n.id) (hidentity : ∀ n ∈ c.nodes, n.id = id →
      (f n).identity? = n.identity?) : s.Registers (c.modifyNode id f) holds := by
  have hstep : ∀ n ∈ c.nodes, (if n.id == id then f n else n).id = n.id ∧
      (if n.id == id then f n else n).identity? = n.identity? := by
    intro n hn
    split
    · rename_i heq
      exact ⟨hf n, hidentity n hn (eq_of_beq heq)⟩
    · exact ⟨rfl, rfl⟩
  refine { h with nodes := fun n' hn' m hm => ?_, entries := fun k id hentry => ?_,
                  held := fun name id hheld => ?_ }
  · obtain ⟨n, hn, rfl⟩ := List.mem_map.mp hn'
    rw [(hstep n hn).2] at hm
    rw [(hstep n hn).1]
    exact h.nodes n hn m hm
  · obtain ⟨hfree, n, hn, hid, hidentity⟩ := h.entries k id hentry
    exact ⟨hfree, _, List.mem_map_of_mem hn, (hstep n hn).1.trans hid,
      (hstep n hn).2.trans hidentity⟩
  · obtain ⟨hook, hholds, n, hn, hid, hstore⟩ := h.held name id hheld
    refine ⟨hook, hholds, ?_⟩
    obtain hn | hn := List.mem_append.mp hn
    · exact ⟨n, List.mem_append_left _ hn, hid, hstore⟩
    · exact ⟨_, List.mem_append_right _ (List.mem_map_of_mem hn), (hstep n hn).1.trans hid,
        (hstep n hn).2.trans hstore⟩

/-- A variable may be bound to the store that it holds. -/
lemma Registers.bindVariable (h : s.Registers c holds) {name hook : String}
    (hholds : holds name = some hook) {n : Node} (hn : n ∈ s.diagram.nodes ++ c.nodes)
    (hstore : n.identity? = some (.shared (.store hook))) :
    s.Registers (c.bind (Stores.variableKey name) n.id) holds := by
  have hlookup (key : String) : (c.bind (Stores.variableKey name) n.id).resources.lookup key =
      if key == Stores.variableKey name then some n.id else c.resources.lookup key :=
    Assoc.lookup_insert _ key n.id c.resources
  have hkeys (k : Shared) : (c.bind (Stores.variableKey name) n.id).resources.lookup k.key =
      c.resources.lookup k.key := by
    rw [hlookup, if_neg (by simpa using k.key_ne_variableKey name)]
  refine
    { keys := Assoc.nodup_keys_insert _ _ h.keys
      nodes := fun n' hn' m hm => ?_
      entries := fun k id hentry => h.entries k id (hkeys k ▸ hentry)
      held := fun other id hheld => ?_
      updates := h.updates }
  · obtain ⟨k, rfl, hentry⟩ := h.nodes n' hn' m hm
    exact ⟨k, rfl, (hkeys k).trans hentry⟩
  · rw [hlookup] at hheld
    split at hheld
    · rename_i heq
      obtain rfl := Stores.variableKey_injective (eq_of_beq heq)
      exact ⟨hook, hholds, n, hn, Option.some.inj hheld, hstore⟩
    · exact h.held other id hheld

/-- A node that calls share, found or made: the contribution with it registers what it did before,
and the node. -/
lemma Registers.sharedNode (h : s.Registers c holds) (hs : s.Sound)
    (hcatalogued : s.Catalogued holder) (hdiagram : s'.diagram = s.diagram)
    (hresources : s'.resources = s.resources) {k : Shared}
    (hnew : c.resources.lookup k.key = none) {make : Session → Node × Session}
    (hmake : ∀ t, (make t).1.identity? = some (.shared k) ∧ (make t).2.resources = t.resources) :
    (s'.sharedNode c k.key make).2.2.resources = s.resources ∧
      s.Registers (s'.sharedNode c k.key make).2.1 holds ∧
      (s'.sharedNode c k.key make).1 ∈
        s.diagram.nodes ++ (s'.sharedNode c k.key make).2.1.nodes ∧
      (s'.sharedNode c k.key make).1.identity? = some (.shared k) := by
  have hresource : s'.resource? k.key = s.resource? k.key := by
    rw [resource?, resource?, hdiagram, hresources]
  rw [Session.sharedNode, findShared?, hresource, hnew]
  cases hfound : s.resource? k.key with
  | some n =>
    obtain ⟨hn, hidentity⟩ := hcatalogued.of_resource? hs.coherent hfound
    exact ⟨hresources, h, List.mem_append_left _ hn, hidentity⟩
  | none =>
    obtain ⟨hidentity, hkept⟩ := hmake s'
    exact ⟨hkept.trans hresources, h.addShared hidentity hfound hnew,
      List.mem_append_right _ (List.mem_append_right _ List.mem_cons_self), hidentity⟩

end Session

end ComponentFlow

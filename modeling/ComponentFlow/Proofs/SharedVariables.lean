import ComponentFlow.Proofs.Sharing

/-!
# Atoms and stores

All calls for an atom or for a store share a node. A call gives it the variables that it binds: when
the node is made, or by an update of the node that the catalogue has (`Contribution.Merges`). A
variable that holds a store as a whole is bound to its node, and references that are taken from the
variable later go to that node.
-/

namespace ComponentFlow

open Session

variable {holder holds : String → Option String}

/-! ## Variables that are merged into nodes -/

section

variable {s s' : Session} {c : Contribution}

/-- Whether a variable is among those of a node once a contribution is applied: it is one already,
or it is merged in. -/
def Contribution.Merges (c : Contribution) (n : Node) (name : String) : Prop :=
  n.Names name ∨ ∃ entries roles, (n.id, entries) ∈ c.updates ∧
    ("variables", Value.ofRoles roles) ∈ entries ∧ name ∈ roles.map Prod.fst

lemma Session.Registers.exists_naming (h : s.Registers c holds) (hs : s.Sound)
    (hoffers : Offers s s' c) {n : Node} (hn : n ∈ s.diagram.nodes ++ c.nodes)
    {names : List String} (hnames : ∀ name ∈ names, c.Merges n name) :
    ∃ n' ∈ (c.onto s.diagram).nodes, n'.identity? = n.identity? ∧
      ∀ name ∈ names, n'.Names name := by
  obtain ⟨n', hn', henriches, hmerged⟩ := h.exists_amended hs hoffers hn
  refine ⟨n', hn', henriches.identity, fun name hname => ?_⟩
  obtain hbefore | ⟨entries, roles, hupdate, hentry, hrole⟩ := hnames name hname
  · exact henriches.names name hbefore
  · exact hmerged entries roles hupdate hentry name hrole

end

lemma exists_of_map_eq_ok {ε α β : Type} {f : α → β} {x : Except ε α} {b : β}
    (h : x.map f = .ok b) : ∃ a, x = .ok a ∧ f a = b := by
  cases x with
  | error e => cases h
  | ok a => exact ⟨a, rfl, Except.ok.inj h⟩

/-! ## Atoms -/

namespace Jotai

lemma mem_roles {a : Accessors} {name : String} (hne : (name != "") = true)
    (h : a.read = some name ∨ a.write = some name) : name ∈ a.roles.map Prod.fst := by
  have hnamed {slot : Option String} (hslot : slot = some name) : named slot = some name :=
    Option.filter_eq_some_iff.mpr ⟨hslot, hne⟩
  rw [Accessors.roles, Assoc.mem_keys_ofList, List.map_append, List.mem_append]
  obtain h | h := h
  · exact .inl (by simp [hnamed h])
  · exact .inr (by simp [hnamed h])

/-- The variables by which a call accesses its atom have roles. -/
lemma mem_roles_of_accessed {h : Hook} {name : String} (hname : name ∈ accessed h) :
    name ∈ (accessors h).roles.map Prod.fst := by
  obtain ⟨hmem, hne⟩ := List.mem_filter.mp hname
  refine mem_roles hne ?_
  rw [accessors]
  by_cases hsetter : h.name == "useSetAtom"
  · rw [eq_of_beq hsetter] at hmem ⊢
    cases hbound : h.bound <;> simp_all
  by_cases hpair : h.name == "useAtom" && h.binding = .array
  · rw [if_neg hsetter, if_pos hpair]
    rw [if_pos hpair] at hmem
    cases hbound : h.bound with
    | nil => simp [hbound] at hmem
    | cons first rest =>
      cases rest with
      | nil => simp_all
      | cons second rest => simpa [hbound, eq_comm] using hmem
  · rw [if_neg hsetter, if_neg hpair]
    rw [if_neg hpair] at hmem
    cases hbound : h.bound <;> simp_all

/-- What a further call adds leaves the node the node of its atom. -/
lemma enriching_gained (current : Metadata) {slot list : String} {more : List String}
    (name : Option String)
    (hkeys : ∀ key ∈ slot :: list :: more, key ∉ Node.identityKeys ∧ key ≠ "variables") :
    (gained current slot list more name).Enriching := by
  have hentry : ∀ e ∈ gained current slot list more name, e.1 ∈ slot :: list :: more := by
    rw [gained]
    cases named name with
    | none => simp
    | some v =>
      intro e he
      dsimp only at he
      split at he
      · obtain ⟨key, hkey, rfl⟩ := List.mem_map.mp he
        exact List.mem_cons_of_mem _ hkey
      · obtain he | he := List.mem_append.mp he
        · obtain ⟨key, hkey, rfl⟩ := List.mem_map.mp he
          exact List.mem_cons_of_mem _ hkey
        · rw [List.mem_singleton.mp he]
          exact List.mem_cons_self
  intro e he
  obtain ⟨hidentity, hvariables⟩ := hkeys e.1 (hentry e he)
  exact ⟨hidentity, fun heq => absurd heq hvariables⟩

lemma enriching_augment {m entries : Metadata} {a : Accessors} (h : augment m a = .ok entries) :
    entries.Enriching ∧ ("variables", Value.ofRoles a.roles) ∈ entries := by
  have hreads : (gained m "read_variable" "read_variables" [] a.read).Enriching :=
    enriching_gained m a.read (by decide)
  have hwrites : (gained m "write_variable" "write_variables" ["writers"] a.write).Enriching :=
    enriching_gained m a.write (by decide)
  obtain ⟨pair, -, rfl⟩ := exists_of_map_eq_ok h
  refine ⟨?_, by simp⟩
  intro e he
  simp only [List.append_assoc, List.cons_append, List.nil_append, List.mem_cons,
    List.mem_append, List.not_mem_nil, or_false] at he
  obtain rfl | he | he | rfl := he
  · exact ⟨(by decide : "variables" ∉ Node.identityKeys), fun _ => ⟨a.roles, rfl⟩⟩
  · exact hreads e he
  · exact hwrites e he
  · simp [Node.identityKeys]

lemma identity?_atomNode (s : Session) (i : Invocation) (atom : String) (a : Accessors) :
    (atomNode s i atom a).1.identity? = some (.shared (.atom atom)) := by
  refine (Node.identity?_linked _ _).trans
    (Node.identity?_eq_some (text?_buildNode s _ _ _ _ (by decide) rfl) ?_)
  exact Node.sharedAs_atom (text?_buildNode s _ _ _ _ (by decide) rfl)

lemma names_atomNode (s : Session) (i : Invocation) (atom : String) {a : Accessors} {name : String}
    (hname : name ∈ a.roles.map Prod.fst) : (atomNode s i atom a).1.Names name :=
  (Node.names_linked _ _ _).mpr (names_buildNode s _ _ _ _ rfl hname)

lemma catalogues : processor.Catalogues := by
  intro s i c holder hs hcatalogued _ hok hoffers
  change (process s i).2 = .ok c at hok
  change Offers s (process s i).1 c at hoffers
  change Processor.Files processor i holder s (process s i).1 c
  have hbinds : ∀ name, heldBy processor.id i.hook name = none := heldBy_eq_none (by decide) i.hook
  have hshared : sharedBy processor.id i.hook holder =
      i.hook.firstIdentifier.toList.map .atom := rfl
  rw [process] at hok hoffers ⊢
  cases hfirst : i.hook.firstIdentifier with
  | none =>
    rw [hfirst] at hok hoffers hshared
    obtain rfl := Except.ok.inj hok
    refine ⟨rfl, registers_empty s false _, fun name _ => hbinds name, fun k hk => ?_⟩
    exact absurd (hshared ▸ hk) List.not_mem_nil
  | some atom =>
    rw [hfirst] at hok hoffers hshared
    dsimp only at hok hoffers ⊢
    -- the node of the atom, once it is known which one it is
    suffices h : s.Registers c (heldBy processor.id i.hook) ∧
        ∃ n ∈ s.diagram.nodes ++ c.nodes, n.identity? = some (.shared (.atom atom)) ∧
          ∀ name ∈ accessed i.hook, c.Merges n name by
      obtain ⟨hregisters, n, hn, hidentity, hnames⟩ := h
      obtain ⟨n', hn', hkept, hnamed⟩ := hregisters.exists_naming hs hoffers hn hnames
      refine ⟨?_, hregisters, fun name _ => hbinds name, fun k hk => ?_⟩
      · cases s.resource? (atomKey atom) <;> rfl
      · change k ∈ sharedBy processor.id i.hook holder at hk
        rw [hshared] at hk
        obtain rfl := List.mem_singleton.mp hk
        exact ⟨n', hn', hkept.trans hidentity, hnamed⟩
    cases hfound : s.resource? (atomKey atom) with
    | some existing =>
      rw [hfound] at hok
      obtain ⟨entries, haugment, rfl⟩ := exists_of_map_eq_ok hok
      obtain ⟨henriching, hentry⟩ := enriching_augment haugment
      obtain ⟨hmem, hidentity⟩ :=
        hcatalogued.of_resource? hs.coherent (k := .atom atom) hfound
      refine ⟨(registers_empty s true _).update _ henriching, existing,
        List.mem_append_left _ hmem, hidentity, fun name hname => .inr ?_⟩
      exact ⟨entries, _, List.mem_singleton_self _, hentry, mem_roles_of_accessed hname⟩
    | none =>
      rw [hfound] at hok
      obtain rfl := Except.ok.inj hok
      have hidentity := identity?_atomNode s i atom (accessors i.hook)
      refine ⟨(registers_empty s true _).addShared (k := .atom atom) hidentity hfound rfl, _,
        List.mem_append_right _ List.mem_cons_self, hidentity, fun name hname => .inl ?_⟩
      exact names_atomNode s i atom (mem_roles_of_accessed hname)

end Jotai

/-! ## Stores -/

lemma mem_allData {names : List String} {name : String} (h : name ∈ names) :
    name ∈ (allData names).map Prod.fst := by
  rw [allData, Assoc.mem_keys_ofList]
  simpa using h

namespace Stores

lemma mem_roles {i : Invocation} {name : String} (hname : name ∈ i.hook.bound) :
    name ∈ (roles i).map Prod.fst := by
  rw [roles]
  split
  · exact mem_allData hname
  · rw [Assoc.mem_keys_ofList]
    simpa using hname

lemma identity?_storeNode {dialect : Dialect}
    (hdialect : dialect.category ∈ ["zustand-store", "pinia-store"]) (s : Session)
    (i : Invocation) :
    (storeNode dialect s i).1.identity? = some (.shared (.store i.hook.name)) :=
  Node.identity?_eq_some (text?_buildNode s _ _ _ _ (by decide) rfl)
    (Node.sharedAs_store hdialect (text?_buildNode s _ _ _ _ (by decide) rfl))

lemma enriching_augment (dialect : Dialect) (i : Invocation) (count : Value) :
    (augment dialect i count).Enriching := by
  simp [augment, Metadata.Enriching, Node.identityKeys]

/-- The variables that hold a store are bound to it. -/
lemma registers_bindVariables {s : Session} {c : Contribution} (h : s.Registers c holds)
    {hook : Hook}
    (hholds : ∀ name ∈ hook.bound, hook.binding = .identifier → holds name = some hook.name)
    {n : Node} (hn : n ∈ s.diagram.nodes ++ c.nodes)
    (hstore : n.identity? = some (.shared (.store hook.name))) :
    s.Registers (bindVariables hook n.id c) holds := by
  rw [bindVariables]
  split
  · rename_i hbinding
    refine (List.foldlRecOn _ _ (motive := fun c : Contribution =>
      s.Registers c holds ∧ n ∈ s.diagram.nodes ++ c.nodes) ⟨h, hn⟩ ?_).1
    rintro c ⟨hc, hn⟩ name hname
    exact ⟨hc.bindVariable (hholds name hname hbinding) hn hstore, hn⟩
  · exact h

lemma bindVariables_kept (hook : Hook) (id : String) (c : Contribution) :
    (bindVariables hook id c).nodes = c.nodes ∧ (bindVariables hook id c).updates = c.updates := by
  rw [bindVariables]
  split
  · refine List.foldlRecOn _ _ (motive := fun c' : Contribution =>
      c'.nodes = c.nodes ∧ c'.updates = c.updates) ⟨rfl, rfl⟩ ?_
    exact fun _ h _ _ => h
  · exact ⟨rfl, rfl⟩

lemma lookup_bindVariables {hook : Hook} (hbinding : hook.binding = .identifier) (id : String)
    (c : Contribution) {name : String} (hname : name ∈ hook.bound) :
    (bindVariables hook id c).resources.lookup (variableKey name) = some id := by
  rw [bindVariables, if_pos hbinding]
  obtain ⟨before, after, hsplit⟩ := List.append_of_mem hname
  rw [hsplit, List.foldl_append, List.foldl_cons]
  refine List.foldlRecOn _ _ (motive := fun c : Contribution =>
    c.resources.lookup (variableKey name) = some id) ?_ ?_
  · rw [Contribution.bind, Assoc.lookup_insert, if_pos (beq_self_eq_true _)]
  · intro c hc other _
    rw [Contribution.bind, Assoc.lookup_insert, hc]
    exact ite_self _

/-- The call of a store hook, by a processor that handles it as one. -/
lemma files_process {p : Processor} {dialect : Dialect}
    (hdialect : dialect.category ∈ ["zustand-store", "pinia-store"]) {s : Session} (hs : s.Sound)
    (hcatalogued : s.Catalogued holder) {i : Invocation} {c : Contribution}
    (hok : (process dialect s i).2 = .ok c) (hoffers : Offers s (process dialect s i).1 c)
    (hheld : ∀ name, heldBy p.id i.hook name =
      if i.hook.binding = .identifier ∧ name ∈ i.hook.bound then some i.hook.name else none)
    (hshared : sharedBy p.id i.hook holder = [.store i.hook.name]) :
    p.Files i holder s (process dialect s i).1 c := by
  have hholds : ∀ name ∈ i.hook.bound, i.hook.binding = .identifier →
      heldBy p.id i.hook name = some i.hook.name :=
    fun name hname hbinding => (hheld name).trans (if_pos ⟨hbinding, hname⟩)
  -- the node of the store, and the contribution before variables are bound to it
  suffices h : ∃ n c', n ∈ s.diagram.nodes ++ c'.nodes ∧ s.Registers c' (heldBy p.id i.hook) ∧
      n.identity? = some (.shared (.store i.hook.name)) ∧ c = bindVariables i.hook n.id c' ∧
      ∀ name ∈ i.hook.bound, c'.Merges n name by
    obtain ⟨n, c', hn, hregisters, hidentity, rfl, hnames⟩ := h
    obtain ⟨hnodes, hupdates⟩ := bindVariables_kept i.hook n.id c'
    have hbound := registers_bindVariables hregisters hholds hn hidentity
    obtain ⟨n', hn', hkept, hnamed⟩ := hbound.exists_naming hs hoffers (hnodes ▸ hn)
      fun name hname => (hnames name hname).imp id fun h => by rwa [hupdates]
    refine ⟨?_, hbound, fun name hfree => ?_, fun k hk => ?_⟩
    · rw [process]
      cases s.resource? (storeKey i.hook.name) <;> rfl
    · rw [hheld, if_neg]
      rintro ⟨hbinding, hname⟩
      rw [lookup_bindVariables hbinding n.id c' hname] at hfree
      cases hfree
    · change k ∈ sharedBy p.id i.hook holder at hk
      rw [hshared] at hk
      obtain rfl := List.mem_singleton.mp hk
      exact ⟨n', hn', hkept.trans hidentity, hnamed⟩
  rw [process] at hok
  cases hfound : s.resource? (storeKey i.hook.name) with
  | some existing =>
    rw [hfound] at hok
    obtain ⟨count, -, rfl⟩ := exists_of_map_eq_ok hok
    obtain ⟨hmem, hidentity⟩ :=
      hcatalogued.of_resource? hs.coherent (k := .store i.hook.name) hfound
    refine ⟨existing, _, List.mem_append_left _ hmem,
      (registers_empty s true _).update _ (enriching_augment dialect i count), hidentity, rfl,
      fun name hname => .inr ?_⟩
    exact ⟨_, roles i, List.mem_singleton_self _, List.mem_cons_self, mem_roles hname⟩
  | none =>
    rw [hfound] at hok
    obtain rfl := Except.ok.inj hok
    have hidentity := identity?_storeNode hdialect s i
    refine ⟨_, _, List.mem_append_right _ List.mem_cons_self,
      (registers_empty s true _).addShared (k := .store i.hook.name) hidentity hfound rfl,
      hidentity, rfl, fun name hname => .inl ?_⟩
    exact names_buildNode s _ _ _ _ rfl (mem_roles hname)

lemma catalogues_zustand : zustand.Catalogues := by
  intro s i c holder hs hcatalogued _ hok hoffers
  refine files_process (by decide) hs hcatalogued hok hoffers (fun name => ?_) rfl
  exact if_congr (and_iff_right (.inl rfl)) rfl rfl

/-- References that are taken from a variable go to the store that it holds. -/
lemma files_storeToRefs {s : Session} (hs : s.Sound) (hcatalogued : s.Catalogued holder)
    {i : Invocation} (hname : i.hook.name = "storeToRefs") :
    pinia.Files i holder s (storeToRefs s i.hook).1 (storeToRefs s i.hook).2 := by
  have hheld : ∀ name, heldBy pinia.id i.hook name = none := by
    intro name
    refine if_neg fun h => ?_
    obtain hzustand | ⟨-, hne⟩ := h.1
    · exact absurd hzustand (by decide)
    · exact hne hname
  have hshared : sharedBy pinia.id i.hook holder =
      (i.hook.firstIdentifier.bind holder).toList.map .store :=
    if_pos (beq_iff_eq.mpr hname)
  have hoffers := offers_storeToRefs hs i.hook
  rw [storeToRefs] at hoffers ⊢
  -- the store that the variable holds is the one that is found
  have hfinds : ∀ k ∈ sharedBy pinia.id i.hook holder, ∃ n ∈ s.diagram.nodes,
      (i.hook.firstIdentifier.bind fun name => s.resource? (variableKey name)) = some n ∧
        ∃ hook, k = .store hook ∧ n.identity? = some (.shared (.store hook)) := by
    intro k hk
    rw [hshared] at hk
    obtain ⟨hook, hhook, rfl⟩ := List.mem_map.mp hk
    obtain ⟨name, hfirst, hholder⟩ := Option.bind_eq_some_iff.mp (Option.mem_toList.mp hhook)
    obtain ⟨n, hn, hresource, hidentity⟩ := hcatalogued.exists_held hs.coherent hholder
    exact ⟨n, hn, Option.bind_eq_some_iff.mpr ⟨name, hfirst, hresource⟩, hook, rfl, hidentity⟩
  cases hfound : i.hook.firstIdentifier.bind fun name => s.resource? (variableKey name) with
  | none =>
    refine ⟨rfl, registers_empty s false _, fun name _ => hheld name, fun k hk => ?_⟩
    obtain ⟨n, -, hsome, -⟩ := hfinds k hk
    rw [hfound] at hsome
    cases hsome
  | some store =>
    rw [hfound] at hoffers
    have hregisters : s.Registers (({} : Contribution).update store.id
        [("variables", .ofRoles (allData i.hook.bound)),
         ("refs", .ofNames ((allData i.hook.bound).map Prod.fst))]) (heldBy pinia.id i.hook) :=
      (registers_empty s true _).update _ (by simp [Metadata.Enriching, Node.identityKeys])
    refine ⟨rfl, hregisters, fun name _ => hheld name, fun k hk => ?_⟩
    obtain ⟨n, hn, hsome, hook, rfl, hidentity⟩ := hfinds k hk
    rw [hfound] at hsome
    obtain rfl := Option.some.inj hsome
    obtain ⟨n', hn', hkept, hnamed⟩ := hregisters.exists_naming hs hoffers
      (List.mem_append_left _ hn) fun name (hmem : name ∈ i.hook.bound) => .inr
        ⟨_, _, List.mem_singleton_self _, List.mem_cons_self, mem_allData hmem⟩
    exact ⟨n', hn', hkept.trans hidentity, hnamed⟩

lemma catalogues_pinia : pinia.Catalogues := by
  intro s i c holder hs hcatalogued _ hok hoffers
  change (processPinia s i).2 = .ok c at hok
  change Offers s (processPinia s i).1 c at hoffers
  change pinia.Files i holder s (processPinia s i).1 c
  rw [processPinia] at hok hoffers ⊢
  by_cases hname : i.hook.name == "storeToRefs"
  · rw [if_pos hname] at hok hoffers ⊢
    obtain rfl := Except.ok.inj hok
    exact files_storeToRefs hs hcatalogued (eq_of_beq hname)
  · rw [if_neg hname] at hok hoffers ⊢
    refine files_process (by decide) hs hcatalogued hok hoffers (fun name => ?_) ?_
    · refine if_congr (and_iff_right (.inr ⟨rfl, ?_⟩)) rfl rfl
      exact fun heq => hname (beq_iff_eq.mpr heq)
    · exact if_neg hname

end Stores

end ComponentFlow

import ComponentFlow.Assembly.NameIndex
import ComponentFlow.Proofs.Diagrams
import ComponentFlow.Proofs.Records

/-!
# What nodes stand for

Some things have one node in a diagram, however often they are met: the address of the page, an
atom, a store, a server, a prop, and a function from outside the component. `Node.identity?` reads
off a node which of these it stands for.

A hook call is attached to what it shares with other calls (`Shared.Attached`): its variables are
among those of an atom or a store, and its node is connected with the address or the server. What is
attached once stays so, since later contributions only add to nodes (`Node.Enriches`,
`Diagram.Within`).
-/

namespace ComponentFlow

/-- What hook calls share a node for. Servers go by their endpoints; the server that configuration
hooks refer to has none and goes by a star. -/
inductive Shared where
  | addressRead
  | addressWritten
  | atom (name : String)
  | store (hook : String)
  | server (endpoint : String)
  deriving Repr, DecidableEq

/-- What a node stands for, if there is to be one node for it. -/
inductive Identity where
  | shared (k : Shared)
  | prop (name : String)
  | external (callee : String)
  deriving Repr, DecidableEq

namespace Node

/-- The text that is recorded under a name. -/
def text? (n : Node) (key : String) : Option String := (n.metadata.get key).asText?

/-- What a node of a category is shared for. -/
def sharedAs (n : Node) (category : String) : Option Shared :=
  if category = "url" then
    if n.label = "URL: Input" then some .addressRead
    else if n.label = "URL: Output" then some .addressWritten
    else none
  else if category = "jotai-atom" then (n.text? "atom_name").map .atom
  else if category = "zustand-store" ∨ category = "pinia-store" then
    (n.text? "store_name").map .store
  else if category = "server" then some (.server ((n.text? "endpoint").getD "*"))
  else none

/-- What a node stands for. Nodes of hooks have a category; those of props and of functions from
outside have a mark instead. -/
def identity? (n : Node) : Option Identity :=
  match n.text? "category" with
  | some category => (n.sharedAs category).map .shared
  | none =>
    if (n.metadata.get "prop").isTruthy then some (.prop n.label)
    else if (n.metadata.get "external_call").isTruthy then some (.external n.label)
    else none

/-- Whether a variable is among those of a node. -/
def Names (n : Node) (name : String) : Prop :=
  name ∈ (NameIndex.variablesOf n).map Prod.fst

instance (n : Node) (name : String) : Decidable (n.Names name) :=
  inferInstanceAs (Decidable (name ∈ _))

/-- The records that tell what a node stands for. -/
def identityKeys : List String :=
  ["category", "atom_name", "store_name", "endpoint", "prop", "external_call"]

lemma identity?_congr {n n' : Node} (hlabel : n'.label = n.label)
    (hget : ∀ key ∈ identityKeys, n'.metadata.get key = n.metadata.get key) :
    n'.identity? = n.identity? := by
  simp only [identityKeys, List.forall_mem_cons] at hget
  obtain ⟨hcategory, hatom, hstore, hendpoint, hprop, hexternal, -⟩ := hget
  simp only [identity?, sharedAs, text?, hlabel, hcategory, hatom, hstore, hendpoint, hprop,
    hexternal]

lemma names_iff {n : Node} {name : String} : n.Names name ↔
    ∃ entries v, n.metadata.get "variables" = .map entries ∧ (Value.str name, v) ∈ entries := by
  rw [Names, NameIndex.variablesOf]
  constructor
  · intro h
    split at h
    · rename_i entries hget
      obtain ⟨e, he, rfl⟩ := List.mem_map.mp h
      obtain ⟨⟨key, v⟩, hmem, hkey⟩ := List.mem_filterMap.mp he
      cases key with
      | str name =>
        obtain rfl := Option.some.inj hkey
        exact ⟨entries, v, hget, hmem⟩
      | _ => cases hkey
    · cases h
  · rintro ⟨entries, v, hget, hmem⟩
    rw [hget]
    exact List.mem_map.mpr ⟨(name, NameIndex.roleOf v),
      List.mem_filterMap.mpr ⟨(.str name, v), hmem, rfl⟩, rfl⟩

end Node

/-! ## Nodes that gain records -/

namespace Value

lemma eq_of_same_str {v : Value} {s : String} (h : same v (.str s) = true) : v = .str s := by
  cases v with
  | str t => exact congrArg Value.str (eq_of_beq (by simpa [same] using h))
  | _ => simp [same] at h

/-- Entries keep their keys when another one is put in. -/
lemma exists_mem_insertEntry {entries : List (Value × Value)} {k v : Value} (key value : Value)
    (h : (k, v) ∈ entries) : ∃ v', (k, v') ∈ insertEntry key value entries := by
  obtain hkept | ⟨-, hnew⟩ := mem_insertEntry h key value
  · exact ⟨v, hkept⟩
  · exact ⟨value, hnew⟩

lemma exists_mem_update {entries : List (Value × Value)} {k v : Value}
    (news : List (Value × Value)) (h : (k, v) ∈ entries) :
    ∃ v', (k, v') ∈ Value.update entries news := by
  refine List.foldlRecOn news _ (motive := fun done => ∃ v', (k, v') ∈ done) ⟨v, h⟩ ?_
  rintro done ⟨v', hv'⟩ e _
  exact exists_mem_insertEntry e.1 e.2 hv'

lemma exists_mem_update_of_new {news : List (Value × Value)} {key : String} {v : Value}
    (entries : List (Value × Value)) (h : (.str key, v) ∈ news) :
    ∃ v', (.str key, v') ∈ Value.update entries news := by
  obtain ⟨e, he, hsame, -⟩ := exists_mem_update_given entries h
  exact ⟨e.2, eq_of_same_str hsame ▸ he⟩

end Value

/-- Entries that add to a node without making it another one: they leave alone what tells what the
node stands for, and the variables among them come with roles. -/
def Metadata.Enriching (m : Metadata) : Prop :=
  ∀ e ∈ m, e.1 ∉ Node.identityKeys ∧ (e.1 = "variables" → ∃ roles, e.2 = .ofRoles roles)

namespace Node

/-- A node as it is later: it stands for the same, and it may have gained variables. -/
structure Enriches (n' n : Node) : Prop where
  id : n'.id = n.id
  identity : n'.identity? = n.identity?
  names : ∀ name, n.Names name → n'.Names name

lemma enriches_refl (n : Node) : n.Enriches n := ⟨rfl, rfl, fun _ h => h⟩

lemma Enriches.trans {n'' n' n : Node} (h : n''.Enriches n') (h' : n'.Enriches n) :
    n''.Enriches n where
  id := h.id.trans h'.id
  identity := h.identity.trans h'.identity
  names := fun name hname => h.names name (h'.names name hname)

lemma Continues.enriches {n' n : Node} (h : n'.Continues n) : n'.Enriches n where
  id := h.id
  identity := by
    refine identity?_congr h.label fun key hkey => h.records key ?_
    revert key
    decide
  names := by
    intro name hname
    rw [names_iff] at hname ⊢
    rwa [h.records "variables" (by decide)]

lemma label_patchEntry (n : Node) (key : String) (value : Value) :
    (n.patchEntry key value).label = n.label ∧ (n.patchEntry key value).id = n.id := by
  simp only [patchEntry]
  split <;> exact ⟨rfl, rfl⟩

/-- The variables that are merged into a node are among its variables. -/
lemma names_patchEntry {n : Node} (hlinked : n.linked ⊆ sharedLists)
    (roles : List (String × Role)) {name : String}
    (h : n.Names name ∨ name ∈ roles.map Prod.fst) :
    (n.patchEntry "variables" (.ofRoles roles)).Names name := by
  have hget := get_patchEntry hlinked "variables" (.ofRoles roles) (k := "variables") (by decide)
  rw [if_pos rfl] at hget
  have hnew : name ∈ roles.map Prod.fst → ∃ v, (Value.str name, v) ∈
      (roles.map fun r => (r.1, r.2.name)).map fun e => (Value.str e.1, Value.str e.2) := by
    intro hname
    obtain ⟨r, hr, rfl⟩ := List.mem_map.mp hname
    exact ⟨.str r.2.name, List.mem_map.mpr ⟨(r.1, r.2.name), List.mem_map_of_mem hr, rfl⟩⟩
  rw [names_iff, hget]
  cases hold : n.metadata.get "variables" with
  | map entries =>
    obtain ⟨v, hv⟩ : ∃ v, (Value.str name, v) ∈ Value.update entries
        ((roles.map fun r => (r.1, r.2.name)).map fun e => (Value.str e.1, Value.str e.2)) := by
      obtain hname | hname := h
      · obtain ⟨entries', v, hget', hmem⟩ := names_iff.mp hname
        obtain rfl : entries = entries' := by simpa [hold] using hget'
        exact Value.exists_mem_update _ hmem
      · obtain ⟨v, hv⟩ := hnew hname
        exact Value.exists_mem_update_of_new _ hv
    exact ⟨_, v, rfl, hv⟩
  | _ =>
    obtain hname | hname := h
    · obtain ⟨entries', v, hget', -⟩ := names_iff.mp hname
      rw [hold] at hget'
      cases hget'
    · obtain ⟨v, hv⟩ := hnew hname
      exact ⟨_, v, rfl, hv⟩

lemma enriches_patchEntry {n : Node} (hlinked : n.linked ⊆ sharedLists) {key : String}
    {value : Value} (hkey : key ∉ identityKeys)
    (hvalue : key = "variables" → ∃ roles, value = .ofRoles roles) :
    (n.patchEntry key value).Enriches n where
  id := (n.label_patchEntry key value).2
  identity := by
    refine identity?_congr (n.label_patchEntry key value).1 fun k hk => ?_
    have hlists : ∀ k ∈ identityKeys, ∀ l ∈ sharedLists, k ≠ l.1 ∧ k ≠ l.2 := by decide
    have hne : k ≠ key := by
      rintro rfl
      exact hkey hk
    rw [get_patchEntry hlinked key value (hlists k hk), if_neg hne]
  names := by
    intro name hname
    by_cases hvariables : key = "variables"
    · subst hvariables
      obtain ⟨roles, rfl⟩ := hvalue rfl
      exact names_patchEntry hlinked roles (.inl hname)
    · rw [names_iff] at hname ⊢
      rwa [get_patchEntry hlinked key value (by decide),
        if_neg fun heq => hvariables heq.symm]

/-- What is merged into a node adds to it, and the variables that are merged are then among its
variables. -/
lemma enriches_patch {n : Node} (hlinked : n.linked ⊆ sharedLists) {entries : Metadata}
    (hentries : entries.Enriching) :
    (n.patch entries).linked ⊆ sharedLists ∧ (n.patch entries).Enriches n ∧
      ∀ roles, ("variables", Value.ofRoles roles) ∈ entries →
        ∀ name ∈ roles.map Prod.fst, (n.patch entries).Names name := by
  induction entries generalizing n with
  | nil => exact ⟨hlinked, n.enriches_refl, by simp⟩
  | cons e rest ih =>
    obtain ⟨⟨hkey, hvalue⟩, hrest⟩ := List.forall_mem_cons.mp hentries
    obtain ⟨hlinked', henriches, hnames⟩ := ih (linked_patchEntry hlinked e.1 e.2) hrest
    refine ⟨hlinked', henriches.trans (enriches_patchEntry hlinked hkey hvalue), ?_⟩
    intro roles hroles name hname
    obtain rfl | hroles := List.mem_cons.mp hroles
    · exact henriches.names name (names_patchEntry hlinked roles (.inr hname))
    · exact hnames roles hroles name hname

/-- A node after updates, some of which may be meant for it. -/
def amended (updates : List (String × Metadata)) (n : Node) : Node :=
  updates.foldl (fun n u => if n.id == u.1 then n.patch u.2 else n) n

lemma enriches_amended {n : Node} (hlinked : n.linked ⊆ sharedLists)
    {updates : List (String × Metadata)} (hupdates : ∀ u ∈ updates, u.2.Enriching) :
    (n.amended updates).Enriches n ∧
      ∀ entries roles, (n.id, entries) ∈ updates → ("variables", Value.ofRoles roles) ∈ entries →
        ∀ name ∈ roles.map Prod.fst, (n.amended updates).Names name := by
  induction updates generalizing n with
  | nil => exact ⟨n.enriches_refl, by simp⟩
  | cons u rest ih =>
    obtain ⟨hfirst, hrest⟩ := List.forall_mem_cons.mp hupdates
    rw [amended, List.foldl_cons]
    by_cases hid : n.id == u.1
    · obtain ⟨hlinked', henriches, hnames⟩ := enriches_patch hlinked hfirst
      obtain ⟨hamended, hmore⟩ := ih hlinked' hrest
      rw [if_pos hid]
      refine ⟨hamended.trans henriches, fun entries roles hmem hroles name hname => ?_⟩
      obtain heq | hmem := List.mem_cons.mp hmem
      · rw [← heq] at hnames
        exact hamended.names name (heq ▸ hnames roles hroles name hname)
      · exact hmore entries roles (henriches.id ▸ hmem) hroles name hname
    · obtain ⟨hamended, hmore⟩ := ih hlinked hrest
      rw [if_neg hid]
      refine ⟨hamended, fun entries roles hmem hroles name hname => ?_⟩
      obtain heq | hmem := List.mem_cons.mp hmem
      · exact absurd (beq_iff_eq.mpr (congrArg Prod.fst heq)) hid
      · exact hmore entries roles hmem hroles name hname

end Node

/-! ## Diagrams that gain nodes -/

namespace Diagram

/-- What the nodes of a diagram stand for. -/
def identities (d : Diagram) : List Identity := d.nodes.filterMap Node.identity?

/-- A diagram as it is later: no node and no connection is lost. -/
structure Within (d d' : Diagram) : Prop where
  nodes : ∀ n ∈ d.nodes, ∃ n' ∈ d'.nodes, n'.Enriches n
  edges : ∀ e ∈ d.edges, ∃ e' ∈ d'.edges, e'.source = e.source ∧ e'.target = e.target

lemma within_refl (d : Diagram) : d.Within d :=
  ⟨fun n hn => ⟨n, hn, n.enriches_refl⟩, fun e he => ⟨e, he, rfl, rfl⟩⟩

lemma Within.trans {d d' d'' : Diagram} (h : d.Within d') (h' : d'.Within d'') : d.Within d'' where
  nodes := by
    intro n hn
    obtain ⟨n', hn', henriches⟩ := h.nodes n hn
    obtain ⟨n'', hn'', henriches'⟩ := h'.nodes n' hn'
    exact ⟨n'', hn'', henriches'.trans henriches⟩
  edges := by
    intro e he
    obtain ⟨e', he', hsource, htarget⟩ := h.edges e he
    obtain ⟨e'', he'', hsource', htarget'⟩ := h'.edges e' he'
    exact ⟨e'', he'', hsource'.trans hsource, htarget'.trans htarget⟩

end Diagram

/-- The variables by which a call reads and writes its atom: the first one and, if the pair of an
atom is bound to an array, the second one. An empty name is no variable. -/
def Jotai.accessed (h : Hook) : List String :=
  (h.bound.take (if h.name == "useAtom" && h.binding = .array then 2 else 1)).filter (· != "")

/-- Whether a call is attached to what it shares. Its variables are among those of an atom or a
store. The node of the call, if there is one, is connected with the address or the server. -/
def Shared.Attached (k : Shared) (d : Diagram) (h : Hook) (call : Option String) : Prop :=
  ∃ n ∈ d.nodes, n.identity? = some (.shared k) ∧
    match k with
    | .atom _ => ∀ name ∈ Jotai.accessed h, n.Names name
    | .store _ => ∀ name ∈ h.bound, n.Names name
    | .addressRead => ∃ e ∈ d.edges, e.source = n.id ∧ call = some e.target
    | .addressWritten => ∃ e ∈ d.edges, call = some e.source ∧ e.target = n.id
    | .server _ => ∃ e ∈ d.edges, (e.source = n.id ∧ call = some e.target) ∨
        (call = some e.source ∧ e.target = n.id)

lemma Shared.Attached.within {k : Shared} {d d' : Diagram} {h : Hook} {call : Option String}
    (hattached : k.Attached d h call) (hwithin : d.Within d') : k.Attached d' h call := by
  obtain ⟨n, hn, hidentity, hkind⟩ := hattached
  obtain ⟨n', hn', henriches⟩ := hwithin.nodes n hn
  refine ⟨n', hn', henriches.identity.trans hidentity, ?_⟩
  cases k with
  | atom name => exact fun name hname => henriches.names name (hkind name hname)
  | store hook => exact fun name hname => henriches.names name (hkind name hname)
  | addressRead =>
    obtain ⟨e, he, hsource, hcall⟩ := hkind
    obtain ⟨e', he', hsource', htarget'⟩ := hwithin.edges e he
    exact ⟨e', he', by rw [hsource', hsource, henriches.id], by rw [hcall, htarget']⟩
  | addressWritten =>
    obtain ⟨e, he, hcall, htarget⟩ := hkind
    obtain ⟨e', he', hsource', htarget'⟩ := hwithin.edges e he
    exact ⟨e', he', by rw [hcall, hsource'], by rw [htarget', htarget, henriches.id]⟩
  | server endpoint =>
    obtain ⟨e, he, hends⟩ := hkind
    obtain ⟨e', he', hsource', htarget'⟩ := hwithin.edges e he
    refine ⟨e', he', ?_⟩
    rw [hsource', htarget', henriches.id]
    exact hends

end ComponentFlow

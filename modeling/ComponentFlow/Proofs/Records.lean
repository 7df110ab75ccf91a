import ComponentFlow.Proofs.LinkedNames
import ComponentFlow.Proofs.Names

/-!
# Records that can be read

Links are read off the records about nodes, and a record of the wrong kind is a fault. `recordKind`
gives the kind of value that is expected under each name. A node is `Shaped` if all its records are
of the kinds expected. Merging records into a shaped node leaves it shaped as long as the new
records are of the right kinds (`Node.Shaped.patch`), and nothing that is read off a shaped node is
a fault. The nodes that hooks come to are shaped and some more (`Node.Recorded`).

A shaped node is also consistent in one point: what sends actions to it is among what writes it. The
two lists are recorded as one, so whatever the first gains the second gains too.
-/

namespace ComponentFlow

/-- What kind of value is expected. -/
inductive RecordKind where
  | names
  | text
  | label
  | mapping
  | number
  | any
  deriving Repr, DecidableEq, Inhabited

/-- The labels of edges that lead to a value from what it is made of. -/
def dataLabels : List String := ["derives", "provides"]

/-- Whether a value is of the kind expected. -/
def RecordKind.admits : RecordKind → Value → Bool
  | names, .list items => items.all (·.asText?.isSome)
  | text, .str _ => true
  | label, .str s => dataLabels.contains s
  | mapping, .map _ => true
  | number, .int _ => true
  | any, _ => true
  | _, _ => false

/-- The kind of value expected under a name. Only names that links are read from have one. -/
def recordKind (key : String) : RecordKind :=
  if ["writers", "dispatchers", "dependencies", "atom_dependencies"].contains key then .names
  else if ["read_variable", "initial_reference", "process"].contains key then .text
  else if key == "dependency_label" then .label
  else if key == "aliases" then .mapping
  else if key == "invocation_count" then .number
  else .any

/-- Whether all records are of the kinds expected. -/
def Metadata.Shaped (m : Metadata) : Prop :=
  ∀ e ∈ m, (recordKind e.1).admits e.2 = true

/-- Whether the entries are of the kinds expected, and none of them is about what sends actions. -/
def Metadata.Passive (m : Metadata) : Prop :=
  ∀ e ∈ m, e.1 ≠ "dispatchers" ∧ (recordKind e.1).admits e.2 = true

lemma Metadata.Passive.shaped {m : Metadata} (h : m.Passive) : m.Shaped :=
  fun e he => (h e he).2

/-- Whether the entries can be merged into records of the kinds expected. What sends actions to a
node, and the process that it stands for, are known from the start. -/
def Metadata.Amending (m : Metadata) : Prop :=
  ∀ e ∈ m, e.1 ≠ "dispatchers" ∧ e.1 ≠ "process" ∧ (recordKind e.1).admits e.2 = true

lemma Metadata.Amending.passive {m : Metadata} (h : m.Amending) : m.Passive :=
  fun e he => ⟨(h e he).1, (h e he).2.2⟩

/-- The names that may stand for one list. -/
def sharedLists : List (String × String) :=
  [("writers", "dispatchers"), ("atom_dependencies", "dependencies")]

lemma recordKind_of_mem_sharedLists :
    ∀ l ∈ sharedLists, recordKind l.1 = .names ∧ recordKind l.2 = .names := by
  decide

/-- Whether everything that sends actions is among what writes. -/
def Metadata.Dispatching (m : Metadata) : Prop :=
  ∀ name, m.lists "dispatchers" name = true → m.lists "writers" name = true

lemma Metadata.Passive.dispatching {m : Metadata} (h : m.Passive) : m.Dispatching := by
  intro name hname
  rw [Metadata.lists] at hname
  cases hlookup : m.lookup "dispatchers" with
  | none =>
    rw [hlookup] at hname
    cases hname
  | some v => exact absurd rfl (h _ (Assoc.mem_of_lookup hlookup)).1

/-- Whether the records about a node are of the kinds expected. -/
structure Node.Shaped (n : Node) : Prop where
  metadata : n.metadata.Shaped
  linked : n.linked ⊆ sharedLists
  dispatching : n.metadata.Dispatching

/-! ## Merging records -/

lemma Value.all_gain {p : Value → Bool} {items news : List Value} (hitems : items.all p = true)
    (hnews : news.all p = true) : (Value.gain items news).all p = true := by
  induction news generalizing items with
  | nil => exact hitems
  | cons v rest ih =>
    rw [List.all_cons, Bool.and_eq_true] at hnews
    rw [Value.gain, List.foldl_cons]
    refine ih ?_ hnews.2
    split
    · exact hitems
    · rw [List.all_append, hitems, List.all_cons, hnews.1]
      rfl

namespace RecordKind

@[simp] lemma admits_any (v : Value) : RecordKind.any.admits v = true := by
  cases v <;> rfl

@[simp] lemma admits_ofNames (names : List String) :
    RecordKind.names.admits (.ofNames names) = true := by
  simp [RecordKind.admits, Value.ofNames, Value.asText?]

@[simp] lemma admits_text (s : String) : RecordKind.text.admits (.str s) = true := rfl

@[simp] lemma admits_label (s : String) :
    RecordKind.label.admits (.str s) = dataLabels.contains s := rfl

@[simp] lemma admits_ofTexts (entries : List (String × String)) :
    RecordKind.mapping.admits (.ofTexts entries) = true := rfl

@[simp] lemma admits_number (n : Int) : RecordKind.number.admits (.int n) = true := rfl

/-- Merging a value of the kind expected gives one, whether there was one before or none. -/
lemma admits_merge {k : RecordKind} {old new : Value} (hold : old = .null ∨ k.admits old = true)
    (hnew : k.admits new = true) : k.admits (old.merge new) = true := by
  cases k with
  | names =>
    cases new with
    | list news =>
      obtain rfl | hold := hold
      · exact hnew
      · cases old with
        | list items => exact Value.all_gain hold hnew
        | _ => cases hold
    | _ => cases hnew
  | text =>
    cases new with
    | str s => cases old <;> rfl
    | _ => cases hnew
  | label =>
    cases new with
    | str s => cases old <;> exact hnew
    | _ => cases hnew
  | mapping =>
    cases new with
    | map news => cases old <;> rfl
    | _ => cases hnew
  | number =>
    cases new with
    | int n => cases old <;> rfl
    | _ => cases hnew
  | any => exact admits_any _

end RecordKind

namespace Metadata

/-- What is recorded under a name is of the kind expected, if anything is. -/
lemma Shaped.get {m : Metadata} (h : m.Shaped) (key : String) :
    m.get key = .null ∨ (recordKind key).admits (m.get key) = true := by
  rw [Metadata.get]
  cases hlookup : m.lookup key with
  | none => exact .inl rfl
  | some v => exact .inr (h _ (Assoc.mem_of_lookup hlookup))

lemma Shaped.set {m : Metadata} (h : m.Shaped) {key : String} {value : Value}
    (hvalue : (recordKind key).admits value = true) : (m.set key value).Shaped := by
  intro e he
  obtain rfl | he := Assoc.mem_insert he
  · exact hvalue
  · exact h e he

end Metadata

lemma Metadata.Shaped.names {m : Metadata} (h : m.Shaped) {key : String} {v : Value}
    (hkey : recordKind key = .names) (hv : m.lookup key = some v) :
    ∃ items, v = .list items ∧ ∀ item ∈ items, ∃ name, item = .str name := by
  have hadmits := h _ (Assoc.mem_of_lookup hv)
  rw [hkey] at hadmits
  cases v with
  | list items =>
    refine ⟨items, rfl, fun item hitem => ?_⟩
    have htext := List.all_eq_true.mp hadmits item hitem
    cases item with
    | str name => exact ⟨name, rfl⟩
    | _ => cases htext
  | _ => cases hadmits

/-- A list of names that is merged with another one still holds its names. -/
lemma Value.holds_merge {items news : List Value} {name : String}
    (h : (Value.list items).holds name = true) :
    ((Value.list items).merge (.list news)).holds name = true := by
  obtain ⟨item, hitem, hname⟩ := List.any_eq_true.mp h
  exact List.any_eq_true.mpr ⟨item, (Value.prefix_gain items news).subset hitem, hname⟩

/-- A record of names that another one is merged into still lists its names. -/
lemma Metadata.Shaped.holds_merge {m : Metadata} (h : m.Shaped) {key : String}
    (hkey : recordKind key = .names) {value : Value}
    (hvalue : RecordKind.names.admits value = true) {name : String}
    (hold : m.lists key name = true) : ((m.get key).merge value).holds name = true := by
  rw [Metadata.lists] at hold
  rw [Metadata.get]
  cases hrecorded : m.lookup key with
  | none =>
    rw [hrecorded] at hold
    cases hold
  | some v =>
    obtain ⟨items, rfl, -⟩ := h.names hkey hrecorded
    rw [hrecorded] at hold
    cases value with
    | list news => exact Value.holds_merge hold
    | _ => cases hvalue

lemma Metadata.Dispatching.set {m : Metadata} (h : m.Dispatching) {key : String} (value : Value)
    (hdispatchers : "dispatchers" ≠ key) (hwriters : "writers" ≠ key) :
    (m.set key value).Dispatching := by
  intro name hname
  rw [Metadata.lists, Metadata.lookup_set, beq_false_of_ne hdispatchers] at hname
  rw [Metadata.lists, Metadata.lookup_set, beq_false_of_ne hwriters]
  exact h name hname

namespace Node

/-- What merging a record comes to: the value is set under the name, and maybe under names that
stand for the same list. -/
lemma exists_patchEntry (n : Node) (key : String) (value : Value) :
    ∃ keys : List String, key ∈ keys ∧
      (∀ k ∈ keys, n.Shares k key) ∧
      (n.patchEntry key value).metadata =
        keys.foldl (fun m k => m.set k ((n.metadata.get key).merge value)) n.metadata ∧
      (n.patchEntry key value).linked ⊆ n.linked := by
  by_cases h : ∃ items news, n.metadata.get key = .list items ∧ value.sequence? = some news
  · obtain ⟨items, news, hitems, hnews⟩ := h
    rw [patchEntry_of_list hitems hnews, hitems, Value.merge_list hnews]
    exact ⟨n.synonyms key, List.mem_cons_self, fun k hk => (mem_synonyms.mp hk).symm, rfl,
      List.Subset.refl _⟩
  · rw [patchEntry_of_other fun items news hitems hnews => h ⟨items, news, hitems, hnews⟩]
    refine ⟨[key], List.mem_cons_self, List.forall_mem_singleton.mpr (.inl rfl), rfl, ?_⟩
    exact List.filter_sublist.subset

/-- A list that several names stand for is a list of names under each of them. -/
lemma Shaped.recordKind_of_shares {n : Node} (h : n.Shaped) {a b : String}
    (hshares : n.Shares a b) : recordKind a = recordKind b := by
  obtain rfl | hl | hl := hshares
  · rfl
  · obtain ⟨hfirst, hsecond⟩ := recordKind_of_mem_sharedLists _ (h.linked hl)
    exact hfirst.trans hsecond.symm
  · obtain ⟨hfirst, hsecond⟩ := recordKind_of_mem_sharedLists _ (h.linked hl)
    exact hsecond.trans hfirst.symm

/-- Dispatchers share their list with writers only, and writers with dispatchers only. -/
lemma Shaped.eq_writers_of_shares {n : Node} (h : n.Shaped) {a key : String}
    (hkey : key ≠ "dispatchers") (ha : a = "dispatchers" ∨ a = "writers")
    (hshares : n.Shares a key) : key = "writers" := by
  have hlists : ∀ l ∈ sharedLists, (l.2 = "dispatchers" ↔ l.1 = "writers") ∧ l.1 ≠ "dispatchers" ∧
      l.2 ≠ "writers" := by decide
  obtain rfl | hl | hl := hshares
  · exact ha.resolve_left hkey
  · have hends := hlists _ (h.linked hl)
    obtain rfl | rfl := ha
    · exact absurd rfl hends.2.1
    · exact absurd (hends.1.mpr rfl) hkey
  · have hends := hlists _ (h.linked hl)
    obtain rfl | rfl := ha
    · exact hends.1.mp rfl
    · exact absurd rfl hends.2.2

lemma Shaped.patchEntry {n : Node} (h : n.Shaped) {key : String} {value : Value}
    (hkey : key ≠ "dispatchers") (hvalue : (recordKind key).admits value = true) :
    (n.patchEntry key value).Shaped := by
  obtain ⟨keys, hmem, hkeys, hmetadata, hlinked⟩ := n.exists_patchEntry key value
  have hmerged : (recordKind key).admits ((n.metadata.get key).merge value) = true :=
    RecordKind.admits_merge (h.metadata.get key) hvalue
  have hlookup : ∀ k, (n.patchEntry key value).metadata.lookup k =
      if k ∈ keys then some ((n.metadata.get key).merge value) else n.metadata.lookup k := by
    intro k
    rw [hmetadata, Metadata.lookup_setAll]
  refine ⟨?metadata, List.Subset.trans hlinked h.linked, fun name hname => ?dispatching⟩
  case metadata =>
    rw [hmetadata]
    refine List.foldlRecOn _ _ h.metadata fun m hm k hk => Metadata.Shaped.set hm ?_
    rw [h.recordKind_of_shares (hkeys k hk)]
    exact hmerged
  case dispatching =>
    rw [Metadata.lists, hlookup] at hname ⊢
    by_cases hwriters : key = "writers"
    · subst hwriters
      rw [if_pos hmem]
      by_cases hdispatchers : "dispatchers" ∈ keys
      · rwa [if_pos hdispatchers] at hname
      · -- only the list of writers grows
        rw [if_neg hdispatchers] at hname
        have hnames : recordKind "writers" = .names := by decide
        rw [hnames] at hvalue
        exact h.metadata.holds_merge hnames hvalue (h.dispatching name hname)
    · have houtside : ∀ k, k = "dispatchers" ∨ k = "writers" → k ∉ keys := fun k hk hin =>
        hwriters (h.eq_writers_of_shares hkey hk (hkeys k hin))
      rw [if_neg (houtside _ (.inr rfl))]
      rw [if_neg (houtside _ (.inl rfl))] at hname
      exact h.dispatching name hname

/-- A shaped node stays so if what is merged into it is of the kinds expected. -/
lemma Shaped.patch {n : Node} (h : n.Shaped) {entries : Metadata} (hentries : entries.Amending) :
    (n.patch entries).Shaped :=
  List.foldlRecOn entries _ h fun _ hn e he => hn.patchEntry (hentries e he).1 (hentries e he).2.2

/-- A record that is merged into a node is seen under its name, and maybe under names that stand for
the same list. -/
lemma get_patchEntry {n : Node} {lists : List (String × String)} (hlinked : n.linked ⊆ lists)
    (key : String) (value : Value) {k : String} (hk : ∀ l ∈ lists, k ≠ l.1 ∧ k ≠ l.2) :
    (n.patchEntry key value).metadata.get k =
      if k = key then (n.metadata.get key).merge value else n.metadata.get k := by
  obtain ⟨keys, hmem, hkeys, hmetadata, -⟩ := n.exists_patchEntry key value
  have hiff : k ∈ keys ↔ k = key := by
    constructor
    · intro hin
      obtain heq | hl | hl := hkeys k hin
      · exact heq
      · exact absurd rfl (hk _ (hlinked hl)).1
      · exact absurd rfl (hk _ (hlinked hl)).2
    · rintro rfl
      exact hmem
  rw [Metadata.get, hmetadata, Metadata.lookup_setAll]
  simp only [hiff]
  split
  · rfl
  · rfl

lemma linked_patchEntry {n : Node} {lists : List (String × String)} (hlinked : n.linked ⊆ lists)
    (key : String) (value : Value) : (n.patchEntry key value).linked ⊆ lists := by
  obtain ⟨-, -, -, -, hsub⟩ := n.exists_patchEntry key value
  exact List.Subset.trans hsub hlinked

/-- What is merged into a node does not change which process it stands for. -/
lemma get_patch_process (n : Node) (hlinked : n.linked ⊆ sharedLists) {entries : Metadata}
    (hentries : entries.Amending) :
    (n.patch entries).metadata.get "process" = n.metadata.get "process" := by
  refine (List.foldlRecOn entries _ (motive := fun n' : Node => n'.linked ⊆ sharedLists ∧
    n'.metadata.get "process" = n.metadata.get "process") ⟨hlinked, rfl⟩ ?_).2
  rintro n' ⟨hlinked, hget⟩ e he
  refine ⟨linked_patchEntry hlinked e.1 e.2, ?_⟩
  rw [get_patchEntry hlinked e.1 e.2 (by decide), if_neg (hentries e he).2.1.symm, hget]

/-- A shaped node whose links lead between names of one list and that does not stand for a process
of the component. -/
structure Recorded (n : Node) : Prop extends n.Shaped where
  links : n.LinksLists
  process : n.metadata.get "process" = .null

lemma Recorded.patch {n : Node} (h : n.Recorded) {entries : Metadata}
    (hentries : entries.Amending) : (n.patch entries).Recorded where
  toShaped := h.toShaped.patch hentries
  links := h.links.patch entries
  process := (n.get_patch_process h.linked hentries).trans h.process

/-- A name that never shares a list may take any value of the kind expected. -/
lemma Recorded.set {n : Node} (h : n.Recorded) {key : String} {value : Value}
    (hvalue : (recordKind key).admits value = true) (hkey : "process" ≠ key)
    (hlists : ∀ l ∈ sharedLists, l.1 ≠ key ∧ l.2 ≠ key) :
    Recorded { n with metadata := n.metadata.set key value } := by
  obtain ⟨hwriters, hdispatchers⟩ := hlists ("writers", "dispatchers") List.mem_cons_self
  exact
    { metadata := h.metadata.set hvalue
      linked := h.linked
      dispatching := h.dispatching.set value hdispatchers hwriters
      links := h.links.set (fun l hl => hlists l (h.linked hl)) value
      process := (Metadata.get_set_of_ne _ _ hkey).trans h.process }

end Node

/-! ## Reading records -/

lemma Metadata.Shaped.text {m : Metadata} (h : m.Shaped) {key : String} {v : Value}
    (hkey : recordKind key = .text) (hv : m.lookup key = some v) : ∃ s, v = .str s := by
  have hadmits := h _ (Assoc.mem_of_lookup hv)
  rw [hkey] at hadmits
  cases v with
  | str s => exact ⟨s, rfl⟩
  | _ => cases hadmits

lemma Metadata.Shaped.label {m : Metadata} (h : m.Shaped) {v : Value}
    (hv : m.lookup "dependency_label" = some v) : ∃ s ∈ dataLabels, v = .str s := by
  have hadmits := h _ (Assoc.mem_of_lookup hv)
  rw [show recordKind "dependency_label" = .label by decide] at hadmits
  cases v with
  | str s => exact ⟨s, by simpa using hadmits, rfl⟩
  | _ => cases hadmits

lemma Metadata.Shaped.get_names {m : Metadata} (h : m.Shaped) {key : String}
    (hkey : recordKind key = .names) : m.get key = .null ∨
      ∃ items, m.get key = .list items ∧ ∀ item ∈ items, ∃ name, item = .str name := by
  rw [Metadata.get]
  cases hlookup : m.lookup key with
  | none => exact .inl rfl
  | some v => exact .inr (h.names hkey hlookup)

lemma Metadata.Shaped.get_text {m : Metadata} (h : m.Shaped) {key : String}
    (hkey : recordKind key = .text) : m.get key = .null ∨ ∃ s, m.get key = .str s := by
  rw [Metadata.get]
  cases hlookup : m.lookup key with
  | none => exact .inl rfl
  | some v => exact .inr (h.text hkey hlookup)

lemma Metadata.Shaped.listFault? {m : Metadata} (h : m.Shaped) {key : String}
    (hkey : recordKind key = .names) : m.listFault? key = none := by
  rw [Metadata.listFault?]
  cases hlookup : m.lookup key with
  | none => rfl
  | some v =>
    obtain ⟨items, rfl, -⟩ := h.names hkey hlookup
    rfl

namespace NameIndex

lemma aliasFault?_eq_none {n : Node} (h : n.Shaped) : aliasFault? n = none := by
  have haliases : n.metadata.get "aliases" = .null ∨
      ∃ entries, n.metadata.get "aliases" = .map entries := by
    obtain hnull | hadmits := h.metadata.get "aliases"
    · exact .inl hnull
    · rw [show recordKind "aliases" = .mapping by decide] at hadmits
      cases hget : n.metadata.get "aliases" with
      | map entries => exact .inr ⟨entries, rfl⟩
      | _ =>
        rw [hget] at hadmits
        cases hadmits
  unfold aliasFault?
  split
  · rfl
  · rename_i hno
    obtain hnull | ⟨entries, hentries⟩ := haliases
    · rw [hnull]
      rfl
    · exact absurd hentries (hno entries)
  · rfl

lemma processFault?_eq_none {n : Node} (h : n.Shaped) : processFault? n = none := by
  unfold processFault?
  split
  · obtain hnull | ⟨s, hs⟩ := h.metadata.get_text (show recordKind "process" = .text by decide)
    · rw [hnull]
      rfl
    · rw [hs]
      rfl
  · rfl

end NameIndex

end ComponentFlow

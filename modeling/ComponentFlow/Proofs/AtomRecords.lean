import ComponentFlow.Proofs.Untouched

/-!
# What is recorded about atoms

The first call for an atom makes its node, and every further call merges what it binds into the
records of that node. What is recorded in the end is a function of all the calls for the atom, in
order (`Gathers`): the variables that read it and those that write it, each once, their roles, and
whether the first of each are named as a pair.

A call for an atom leaves the node of every other atom alone, and so do calls for anything else. So
the records follow from the calls for the atom by induction over all calls (`dispatchAll_atoms`).
-/

namespace ComponentFlow

open Session

/-! ## Merging names and roles -/

namespace Value

lemma isAmong_map_str (names : List String) (v : String) :
    isAmong (names.map .str) (.str v) = names.contains v := by
  rw [isAmong, List.any_map, List.contains_eq_any_beq]
  refine List.any_congr rfl fun name => ?_
  rw [Function.comp_apply, same, Bool.beq_comm]

lemma merge_str (v : Value) (text : String) : v.merge (.str text) = .str text := by
  cases v <;> rfl

lemma merge_bool (v : Value) (b : Bool) : v.merge (.bool b) = .bool b := by
  cases v <;> rfl

/-- Names that were gathered gain a name. -/
lemma merge_ofNames (names : List String) (v : String) :
    (ofNames (Text.distinct names)).merge (ofNames [v]) =
      ofNames (Text.distinct (names ++ [v])) := by
  rw [Text.distinct_concat]
  simp only [ofNames, merge, gain, List.map_cons, List.map_nil, List.foldl_cons, List.foldl_nil,
    isAmong_map_str]
  split
  · rfl
  · rw [List.map_append, List.map_singleton]

lemma insertEntry_roles (name : String) (role : Role) (roles : List (String × Role)) :
    insertEntry (.str name) (.str role.name)
        (roles.map fun r => (Value.str r.1, Value.str r.2.name)) =
      (Assoc.insert name role roles).map fun r => (Value.str r.1, Value.str r.2.name) := by
  induction roles with
  | nil => rfl
  | cons r rest ih =>
    rw [List.map_cons, insertEntry, Assoc.insert, same]
    split
    · rfl
    · rw [ih, List.map_cons]

lemma ofRoles_eq (roles : List (String × Role)) :
    ofRoles roles = .map (roles.map fun r => (Value.str r.1, Value.str r.2.name)) := by
  rw [ofRoles, ofTexts, List.map_map]
  rfl

/-- Roles that are there are replaced by those given later. -/
lemma merge_ofRoles (roles news : List (String × Role)) :
    (ofRoles roles).merge (ofRoles news) = ofRoles (Assoc.insertAll roles news) := by
  simp only [ofRoles_eq, merge, update, Assoc.insertAll]
  congr 1
  induction news generalizing roles with
  | nil => rfl
  | cons r rest ih =>
    rw [List.map_cons, List.foldl_cons, List.foldl_cons, insertEntry_roles]
    exact ih _

end Value

lemma Metadata.lookup_map_pair (keys : List String) (v : Value) (k : String) :
    (keys.map (·, v)).lookup k = if k ∈ keys then some v else none := by
  induction keys with
  | nil => rfl
  | cons key rest ih =>
    rw [List.map_cons, List.lookup_cons, ih]
    by_cases h : k = key
    · simp [h]
    · rw [beq_false_of_ne h]
      simp [h]

namespace Node

variable {n : Node} {lists : List (String × String)} {entries : Metadata}

lemma linked_patch (hlinked : n.linked ⊆ lists) (entries : Metadata) :
    (n.patch entries).linked ⊆ lists := by
  refine List.foldlRecOn entries _ (motive := fun n : Node => n.linked ⊆ lists) hlinked ?_
  exact fun n hn e _ => linked_patchEntry hn e.1 e.2

/-- Entries with different names are merged independently of each other. -/
lemma get_patch (hlinked : n.linked ⊆ lists) (hkeys : (entries.map Prod.fst).Nodup) {k : String}
    (hk : ∀ l ∈ lists, k ≠ l.1 ∧ k ≠ l.2) :
    (n.patch entries).metadata.get k =
      (entries.lookup k).elim (n.metadata.get k) (n.metadata.get k).merge := by
  induction entries generalizing n with
  | nil => rfl
  | cons e rest ih =>
    obtain ⟨hfirst, hrest⟩ := List.nodup_cons.mp hkeys
    have hstep := get_patchEntry hlinked e.1 e.2 hk
    have hlater := ih (linked_patchEntry hlinked e.1 e.2) hrest
    rw [patch, List.foldl_cons, ← patch, hlater, List.lookup_cons]
    by_cases heq : k = e.1
    · have hnone : rest.lookup k = none := by
        rw [List.lookup_eq_none_iff]
        intro e' he'
        exact bne_iff_ne.mpr fun h => hfirst (heq ▸ h ▸ List.mem_map_of_mem he')
      rw [hnone, hstep, if_pos heq, heq, beq_self_eq_true]
      rfl
    · rw [hstep, if_neg heq, beq_false_of_ne heq]

end Node

namespace Jotai

/-! ## The calls for an atom -/

/-- The variables by which some calls read their atom. -/
def reads (calls : List Accessors) : List String := calls.filterMap fun a => named a.read

/-- The variables by which some calls write their atom. -/
def writes (calls : List Accessors) : List String := calls.filterMap fun a => named a.write

/-- The role of a variable, if a call binds it. A variable that both reads and writes is a
function. -/
def Accessors.role? (a : Accessors) (name : String) : Option Role :=
  if named a.write = some name then some .function
  else if named a.read = some name then some .data
  else none

/-- The role of a variable after some calls: the last call that binds it counts. -/
def roleAfter (calls : List Accessors) (name : String) : Option Role :=
  calls.reverse.findSome? (·.role? name)

/-- What is recorded about an atom after some calls for it. -/
structure Gathers (n : Node) (calls : List Accessors) : Prop where
  readVariables : n.metadata.get "read_variables" = .ofNames (Text.distinct (reads calls))
  writeVariables : n.metadata.get "write_variables" = .ofNames (Text.distinct (writes calls))
  writers : n.metadata.get "writers" = .ofNames (Text.distinct (writes calls))
  roles : ∃ roles, n.metadata.get "variables" = .ofRoles roles ∧ (roles.map Prod.fst).Nodup ∧
    (∀ name, name ∈ roles.map Prod.fst ↔ name ∈ reads calls ∨ name ∈ writes calls) ∧
    ∀ name, roles.lookup name = roleAfter calls name
  pair : ∃ b, n.metadata.get "is_read_write_pair" = .bool b ∧
    (b = true ↔ ∃ r w, (reads calls).head? = some r ∧ (writes calls).head? = some w ∧
      w = "set" ++ Text.capitalize r)

lemma filterMap_named_concat (slot : Accessors → Option String) (calls : List Accessors)
    (a : Accessors) : (calls ++ [a]).filterMap (fun a => named (slot a)) =
      calls.filterMap (fun a => named (slot a)) ++ (named (slot a)).toList := by
  rw [List.filterMap_append]
  cases h : named (slot a) <;> simp [h]

lemma reads_concat (calls : List Accessors) (a : Accessors) :
    reads (calls ++ [a]) = reads calls ++ (named a.read).toList :=
  filterMap_named_concat (·.read) calls a

lemma writes_concat (calls : List Accessors) (a : Accessors) :
    writes (calls ++ [a]) = writes calls ++ (named a.write).toList :=
  filterMap_named_concat (·.write) calls a

lemma ne_empty_of_mem_named {slot : Accessors → Option String} {calls : List Accessors}
    {name : String} (h : name ∈ calls.filterMap fun a => named (slot a)) : name ≠ "" := by
  obtain ⟨a, -, ha⟩ := List.mem_filterMap.mp h
  exact bne_iff_ne.mp (Option.filter_eq_some_iff.mp ha).2

lemma ne_empty_of_mem_reads {calls : List Accessors} : ∀ name ∈ reads calls, name ≠ "" :=
  fun _ => ne_empty_of_mem_named

lemma ne_empty_of_mem_writes {calls : List Accessors} : ∀ name ∈ writes calls, name ≠ "" :=
  fun _ => ne_empty_of_mem_named

lemma roleAfter_concat (calls : List Accessors) (a : Accessors) (name : String) :
    roleAfter (calls ++ [a]) name = (a.role? name).or (roleAfter calls name) := by
  rw [roleAfter, List.reverse_append, List.reverse_singleton, List.singleton_append,
    List.findSome?_cons]
  cases a.role? name <;> rfl

lemma lookup_insertAll_named (roles : List (String × Role)) (slot : Option String) (role : Role)
    (name : String) : (Assoc.insertAll roles (slot.toList.map (·, role))).lookup name =
      if slot = some name then some role else roles.lookup name := by
  cases slot with
  | none => simp [Assoc.insertAll]
  | some v =>
    refine (Assoc.lookup_insert v name role roles).trans (if_congr ?_ rfl rfl)
    rw [beq_iff_eq, Option.some_inj, eq_comm]

lemma lookup_roles (a : Accessors) (name : String) : a.roles.lookup name = a.role? name := by
  rw [Accessors.roles, Assoc.ofList, Assoc.insertAll, List.foldl_append, ← Assoc.insertAll,
    lookup_insertAll_named, ← Assoc.insertAll, lookup_insertAll_named]
  rfl

lemma mem_keys_roles (a : Accessors) (name : String) :
    name ∈ a.roles.map Prod.fst ↔ named a.read = some name ∨ named a.write = some name := by
  rw [Accessors.roles, Assoc.mem_keys_ofList]
  simp

lemma nodup_keys_roles (a : Accessors) : (a.roles.map Prod.fst).Nodup :=
  Assoc.nodup_keys_insertAll _ List.nodup_nil

/-! ## Records that are gathered -/

/-- Whether the first of some names is recorded. If there is none, an empty name may be. -/
def Slot (v : Value) (names : List String) : Prop :=
  match names.head? with
  | some name => v = .str name
  | none => v.isTruthy = false

/-- The records of an atom, with what is needed when a further call comes. -/
structure Kept (n : Node) (calls : List Accessors) : Prop extends Gathers n calls where
  linked : n.linked ⊆ [("atom_dependencies", "dependencies")]
  read : Slot (n.metadata.get "read_variable") (reads calls)
  write : Slot (n.metadata.get "write_variable") (writes calls)

lemma isReadWritePair_iff {read write : Option String} : isReadWritePair read write = true ↔
    ∃ r w, named read = some r ∧ named write = some w ∧ w = "set" ++ Text.capitalize r := by
  cases read with
  | none => simp [isReadWritePair, named]
  | some r =>
    cases write with
    | none => simp [isReadWritePair, named]
    | some w =>
      simp only [isReadWritePair, named, Option.filter_eq_some_iff, Bool.and_eq_true, bne_iff_ne,
        beq_iff_eq, Option.some_inj]
      constructor
      · rintro ⟨⟨hr, hw⟩, hpair⟩
        exact ⟨r, w, ⟨rfl, hr⟩, ⟨rfl, hw⟩, hpair⟩
      · rintro ⟨r, w, ⟨rfl, hr⟩, ⟨rfl, hw⟩, hpair⟩
        exact ⟨⟨hr, hw⟩, hpair⟩

lemma namedAsPair_of_missing {read write : Value} (h : (read.isTruthy && write.isTruthy) = false) :
    namedAsPair read write = .ok false := by
  rw [namedAsPair.eq_def, h]
  rfl

/-- The first names that are recorded tell whether they are named as a pair. -/
lemma namedAsPair_slots {read write : Value} {rs ws : List String} (hread : Slot read rs)
    (hwrite : Slot write ws) (hrs : ∀ r ∈ rs, r ≠ "") (hws : ∀ w ∈ ws, w ≠ "") {b : Bool}
    (h : namedAsPair read write = .ok b) :
    b = true ↔ ∃ r w, rs.head? = some r ∧ ws.head? = some w ∧ w = "set" ++ Text.capitalize r := by
  cases rs with
  | nil =>
    rw [namedAsPair_of_missing (Bool.and_eq_false_iff.mpr (.inl hread))] at h
    obtain rfl := Except.ok.inj h
    simp
  | cons r rs =>
    cases ws with
    | nil =>
      rw [namedAsPair_of_missing (Bool.and_eq_false_iff.mpr (.inr hwrite))] at h
      obtain rfl := Except.ok.inj h
      simp
    | cons w ws =>
      obtain rfl : read = .str r := hread
      obtain rfl : write = .str w := hwrite
      have hr := hrs r List.mem_cons_self
      have hw := hws w List.mem_cons_self
      have heq : namedAsPair (.str r) (.str w) = .ok (isReadWritePair (some r) (some w)) := by
        simp [namedAsPair, Value.isTruthy, Value.asText?, hr, hw]
      rw [heq] at h
      rw [← Except.ok.inj h, isReadWritePair_iff]
      simp [named, Option.filter_eq_some_iff, hr]

/-! ## The first call -/

lemma distinct_toList (slot : Option String) : Text.distinct slot.toList = slot.toList := by
  cases slot <;> rfl

lemma reads_singleton (a : Accessors) : reads [a] = (named a.read).toList := reads_concat [] a

lemma writes_singleton (a : Accessors) : writes [a] = (named a.write).toList := writes_concat [] a

lemma roleAfter_singleton (a : Accessors) (name : String) : roleAfter [a] name = a.role? name := by
  rw [← List.nil_append [a], roleAfter_concat]
  exact Option.or_none

/-- The variable of the first call is recorded, also an empty one. -/
lemma slot_named {v : Value} {slot : Option String} (h : v = (slot.map Value.str).getD .null) :
    Slot v (named slot).toList := by
  subst h
  cases slot with
  | none => rfl
  | some name =>
    by_cases hname : name = ""
    · subst hname
      rfl
    · have hnamed : named (some name) = some name :=
        Option.filter_eq_some_iff.mpr ⟨rfl, bne_iff_ne.mpr hname⟩
      rw [hnamed]
      rfl

lemma kept_atomNode (s : Session) (i : Invocation) (atom : String) (a : Accessors) :
    Kept (atomNode s i atom a).1 [a] := by
  obtain ⟨draft, hnode, hdraft⟩ : ∃ draft, (atomNode s i atom a).1.metadata =
      (buildNode s "jotai_atom" atom .store (some i) draft).1.metadata ∧ draft = _ := ⟨_, rfl, rfl⟩
  have hget {key : String} {v : Value} (hkey : key ≠ "hook" ∧ key ≠ "library")
      (hlookup : draft.lookup key = some (some v)) :
      (atomNode s i atom a).1.metadata.get key = v :=
    hnode ▸ get_buildNode s _ _ _ _ hkey hlookup
  have hslot {key : String} {slot : Option String} (hkey : key ≠ "hook" ∧ key ≠ "library")
      (hlookup : draft.lookup key = some (Draft.text slot))
      (honly : slot = none → ∀ v, (key, some v) ∉ draft) :
      Slot ((atomNode s i atom a).1.metadata.get key) (named slot).toList := by
    refine slot_named ?_
    cases slot with
    | some name => exact hget hkey hlookup
    | none => exact hnode ▸ get_buildNode_null s _ _ _ _ hkey (honly rfl)
  subst hdraft
  refine
    { readVariables := ?_, writeVariables := ?_, writers := ?_, roles := ?_, pair := ?_
      linked := List.Subset.refl _, read := ?_, write := ?_ }
  · rw [reads_singleton, distinct_toList]
    exact hget (by decide) rfl
  · rw [writes_singleton, distinct_toList]
    exact hget (by decide) rfl
  · rw [writes_singleton, distinct_toList]
    exact hget (by decide) rfl
  · refine ⟨a.roles, hget (by decide) rfl, nodup_keys_roles a, fun name => ?_, fun name => ?_⟩
    · rw [mem_keys_roles, reads_singleton, writes_singleton, Option.mem_toList, Option.mem_toList]
    · rw [lookup_roles, roleAfter_singleton]
  · refine ⟨_, hget (by decide) rfl, ?_⟩
    rw [isReadWritePair_iff, reads_singleton, writes_singleton, Option.head?_toList,
      Option.head?_toList]
  · rw [reads_singleton]
    exact hslot (by decide) rfl (by simp +contextual [Draft.text])
  · rw [writes_singleton]
    exact hslot (by decide) rfl (by simp +contextual [Draft.text])

/-! ## Further calls -/

/-- What the entries of a further call are, name by name. -/
structure Augments (m : Metadata) (a : Accessors) (entries : Metadata) : Prop where
  keys : (entries.map Prod.fst).Nodup
  roles : entries.lookup "variables" = some (.ofRoles a.roles)
  readVariables : entries.lookup "read_variables" = (named a.read).map (.ofNames [·])
  writeVariables : entries.lookup "write_variables" = (named a.write).map (.ofNames [·])
  writers : entries.lookup "writers" = (named a.write).map (.ofNames [·])
  read : entries.lookup "read_variable" =
    if (m.get "read_variable").isTruthy = false then (named a.read).map .str else none
  write : entries.lookup "write_variable" =
    if (m.get "write_variable").isTruthy = false then (named a.write).map .str else none
  pair : ∃ b, entries.lookup "is_read_write_pair" = some (.bool b) ∧
    namedAsPair ((entries.lookup "read_variable").getD (m.get "read_variable"))
      ((entries.lookup "write_variable").getD (m.get "write_variable")) = .ok b

/-- The lists gain the name, and the slot is filled if it is not yet. -/
lemma lookup_gained (current : Metadata) (slot list : String) (more : List String)
    (name : Option String) (k : String) :
    (gained current slot list more name).lookup k =
      if k ∈ list :: more then (named name).map (.ofNames [·])
      else if k = slot ∧ (current.get slot).isTruthy = false then (named name).map .str
      else none := by
  rw [gained]
  cases named name with
  | none => simp
  | some v =>
    dsimp only
    by_cases hk : k ∈ list :: more
    · rw [if_pos hk]
      split
      · rw [Metadata.lookup_map_pair, if_pos hk]
        rfl
      · rw [List.lookup_append, Metadata.lookup_map_pair, if_pos hk]
        rfl
    · rw [if_neg hk]
      split
      · rename_i htruthy
        rw [Metadata.lookup_map_pair, if_neg hk, if_neg fun h => by simp [htruthy] at h]
      · rename_i htruthy
        rw [List.lookup_append, Metadata.lookup_map_pair, if_neg hk, Option.none_or,
          List.lookup_cons]
        by_cases heq : k = slot
        · simp [heq, htruthy]
        · rw [beq_false_of_ne heq, if_neg fun h => heq h.1]
          rfl

lemma keys_gained (current : Metadata) (slot list : String) (more : List String)
    (name : Option String) :
    ((gained current slot list more name).map Prod.fst).Sublist (list :: more ++ [slot]) := by
  rw [gained]
  cases named name with
  | none => exact List.nil_sublist _
  | some v =>
    dsimp only
    split
    · simp [Function.comp_def]
    · simp [Function.comp_def]

lemma augments_augment {m entries : Metadata} {a : Accessors} (h : augment m a = .ok entries) :
    Augments m a entries := by
  obtain ⟨b, hpair, rfl⟩ := exists_of_map_eq_ok h
  have hreads := lookup_gained m "read_variable" "read_variables" [] a.read
  have hwrites := lookup_gained m "write_variable" "write_variables" ["writers"] a.write
  refine ⟨?keys, ?_, ?_, ?_, ?_, ?_, ?_, b, ?_, ?pair⟩
  case keys =>
    have hgained := (keys_gained m "read_variable" "read_variables" [] a.read).append
      (keys_gained m "write_variable" "write_variables" ["writers"] a.write)
    have hall := ((List.Sublist.refl ["variables"]).append hgained).append
      (List.Sublist.refl ["is_read_write_pair"])
    rw [List.map_append, List.map_append, List.map_append, List.append_assoc (List.map _ [_])]
    exact hall.nodup (by decide)
  case pair =>
    refine Eq.trans ?_ hpair
    simp [List.lookup_append, List.lookup_cons, hreads, hwrites]
  all_goals simp [List.lookup_append, List.lookup_cons, hreads, hwrites]

/-- A list of names gains the name of a further call, if there is one and it is new. -/
lemma elim_merge_names {v : Value} {names : List String} (h : v = .ofNames (Text.distinct names))
    (name : Option String) : (name.map (Value.ofNames [·])).elim v v.merge =
      .ofNames (Text.distinct (names ++ name.toList)) := by
  subst h
  cases name with
  | none => rw [Option.toList_none, List.append_nil]; rfl
  | some name => exact Value.merge_ofNames names name

/-- The name of a further call is recorded if there was none. -/
lemma Slot.further {v : Value} {names : List String} (h : Slot v names)
    (hnames : ∀ name ∈ names, name ≠ "") (name : Option String) :
    Slot ((if v.isTruthy = false then name.map Value.str else none).getD v)
      (names ++ name.toList) := by
  cases names with
  | nil =>
    rw [if_pos (show v.isTruthy = false from h)]
    cases name with
    | none => exact h
    | some name => rfl
  | cons first rest =>
    obtain rfl : v = .str first := h
    have htruthy : (Value.str first).isTruthy = true :=
      bne_iff_ne.mpr (hnames first List.mem_cons_self)
    rw [htruthy]
    rfl

/-- A name replaces whatever it is merged into. -/
lemma elim_merge_str (v : Value) (c : Prop) [Decidable c] (name : Option String) :
    (if c then name.map Value.str else none).elim v v.merge =
      (if c then name.map Value.str else none).getD v := by
  split
  · cases name with
    | none => rfl
    | some name => exact Value.merge_str v name
  · rfl

/-- A further call for an atom. -/
lemma Kept.patch {n : Node} {calls : List Accessors} (h : Kept n calls) {a : Accessors}
    {entries : Metadata} (hentries : Augments n.metadata a entries) :
    Kept (n.patch entries) (calls ++ [a]) := by
  have hget {k : String} (hk : k ≠ "atom_dependencies" ∧ k ≠ "dependencies") :
      (n.patch entries).metadata.get k =
        (entries.lookup k).elim (n.metadata.get k) (n.metadata.get k).merge :=
    Node.get_patch h.linked hentries.keys (List.forall_mem_singleton.mpr hk)
  have hread : Slot ((entries.lookup "read_variable").getD (n.metadata.get "read_variable"))
      (reads (calls ++ [a])) := by
    rw [hentries.read, reads_concat]
    exact h.read.further ne_empty_of_mem_reads _
  have hwrite : Slot ((entries.lookup "write_variable").getD (n.metadata.get "write_variable"))
      (writes (calls ++ [a])) := by
    rw [hentries.write, writes_concat]
    exact h.write.further ne_empty_of_mem_writes _
  refine
    { readVariables := ?_, writeVariables := ?_, writers := ?_, roles := ?_, pair := ?_
      linked := Node.linked_patch h.linked entries, read := ?_, write := ?_ }
  · rw [hget (by decide), hentries.readVariables, reads_concat]
    exact elim_merge_names h.readVariables _
  · rw [hget (by decide), hentries.writeVariables, writes_concat]
    exact elim_merge_names h.writeVariables _
  · rw [hget (by decide), hentries.writers, writes_concat]
    exact elim_merge_names h.writers _
  · obtain ⟨roles, hroles, hnodup, hkeys, hlookup⟩ := h.roles
    refine ⟨Assoc.insertAll roles a.roles, ?_, Assoc.nodup_keys_insertAll _ hnodup, fun name => ?_,
      fun name => ?_⟩
    · rw [hget (by decide), hentries.roles, hroles]
      exact Value.merge_ofRoles roles a.roles
    · rw [Assoc.mem_keys_insertAll, hkeys, mem_keys_roles, reads_concat, writes_concat,
        List.mem_append, List.mem_append, Option.mem_toList, Option.mem_toList]
      exact or_or_or_comm
    · rw [Assoc.lookup_insertAll roles (nodup_keys_roles a), lookup_roles, hlookup,
        roleAfter_concat]
  · obtain ⟨b, hb, hpair⟩ := hentries.pair
    refine ⟨b, ?_, ?_⟩
    · rw [hget (by decide), hb]
      exact Value.merge_bool _ b
    · exact namedAsPair_slots hread hwrite ne_empty_of_mem_reads ne_empty_of_mem_writes hpair
  · rwa [hget (by decide), hentries.read, elim_merge_str, ← hentries.read]
  · rwa [hget (by decide), hentries.write, elim_merge_str, ← hentries.write]

/-! ## All calls -/

/-- The accessors of the calls for an atom, in order. -/
def callsFor (atom : String) (calls : List (Invocation × Outcome)) : List Accessors :=
  calls.filterMap fun call =>
    if call.2.processor = info.id ∧ call.1.hook.firstIdentifier = some atom then
      some (accessors call.1.hook)
    else none

lemma callsFor_concat (atom : String) (calls : List (Invocation × Outcome)) (p : Processor)
    (i : Invocation) (c : Contribution) :
    callsFor atom (calls ++ [(i, Registry.served p i c)]) =
      if p.id = info.id ∧ i.hook.firstIdentifier = some atom then
        callsFor atom calls ++ [accessors i.hook]
      else callsFor atom calls := by
  rw [callsFor, List.filterMap_append, ← callsFor]
  by_cases h : p.id = info.id ∧ i.hook.firstIdentifier = some atom
  · simp [Registry.served, h]
  · simp [Registry.served, h]

/-- Atoms are shared by the calls for them only. -/
lemma atom_mem_sharedBy {processor atom : String} {h : Hook} {holder : String → Option String}
    (hmem : .atom atom ∈ sharedBy processor h holder) :
    processor = info.id ∧ h.firstIdentifier = some atom := by
  have haddresses (r : Navigation.Router) : Shared.atom atom ∉ r.addresses h := by
    rw [Navigation.Router.addresses]
    cases r.kindOf h.name <;> simp
  have hservers (configuration : List String) (endpoint : Hook → Option String) :
      Shared.atom atom ∉ Remote.servers configuration endpoint h := by
    rw [Remote.servers_eq]
    simp
  rw [sharedBy] at hmem
  cases hlookup : sharers.lookup processor with
  | none => simp [hlookup] at hmem
  | some shared =>
    rw [hlookup] at hmem
    have hentry := Assoc.mem_of_lookup hlookup
    simp only [sharers, List.mem_cons, Prod.mk.injEq, List.not_mem_nil, or_false] at hentry
    obtain ⟨rfl, rfl⟩ | ⟨rfl, rfl⟩ | ⟨rfl, rfl⟩ | ⟨-, rfl⟩ | ⟨-, rfl⟩ | ⟨-, rfl⟩ | ⟨-, rfl⟩ |
      ⟨-, rfl⟩ | ⟨-, rfl⟩ | ⟨-, rfl⟩ | ⟨-, rfl⟩ | ⟨-, rfl⟩ | ⟨-, rfl⟩ := hentry
    · simpa [info] using hmem
    · simp at hmem
    · dsimp only at hmem
      split at hmem <;> simp at hmem
    all_goals first | exact absurd hmem (haddresses _) | exact absurd hmem (hservers _ _)

lemma eq_processor {p : Processor} (hp : p ∈ builtinProcessors) (hid : p.id = info.id) :
    p = processor := by
  have hmem : processor ∈ builtinProcessors := by simp [builtinProcessors]
  exact List.inj_on_of_nodup_map nodup_builtin_ids hp hmem hid

/-- Whether the node of every atom has the records of the calls for it. -/
def KeptAll (calls : List (Invocation × Outcome)) (s : Session) : Prop :=
  ∀ atom, (∀ n ∈ s.diagram.nodes, n.identity? = some (.shared (.atom atom)) →
      Kept n (callsFor atom calls)) ∧
    (callsFor atom calls ≠ [] → ∃ n ∈ s.diagram.nodes, n.identity? = some (.shared (.atom atom)))

variable {holder : String → Option String} {s : Session} {i : Invocation} {c : Contribution}
  {calls : List Accessors} {atom : String}

/-- The node of an atom after a call for it: it is made, or it gains the records of the call. -/
lemma exists_of_process (hs : s.Sound) (hcatalogued : s.Catalogued holder)
    (hfirst : i.hook.firstIdentifier = some atom) (hok : (process s i).2 = .ok c)
    (hkept : ∀ n ∈ s.diagram.nodes, n.identity? = some (.shared (.atom atom)) → Kept n calls)
    (hsome : calls ≠ [] → ∃ n ∈ s.diagram.nodes, n.identity? = some (.shared (.atom atom))) :
    ∃ n ∈ s.diagram.nodes ++ c.nodes, n.identity? = some (.shared (.atom atom)) ∧
      Kept (n.amended c.updates) (calls ++ [accessors i.hook]) := by
  rw [process, hfirst] at hok
  dsimp only at hok
  cases hfound : s.resource? (atomKey atom) with
  | some existing =>
    rw [hfound] at hok
    obtain ⟨entries, haugment, rfl⟩ := exists_of_map_eq_ok hok
    obtain ⟨hmem, hidentity⟩ := hcatalogued.of_resource? hs.coherent (k := .atom atom) hfound
    refine ⟨existing, List.mem_append_left _ hmem, hidentity, ?_⟩
    have hamended : existing.amended [(existing.id, entries)] = existing.patch entries :=
      if_pos (beq_self_eq_true _)
    exact hamended ▸ (hkept existing hmem hidentity).patch (augments_augment haugment)
  | none =>
    rw [hfound] at hok
    obtain rfl := Except.ok.inj hok
    have hnone : calls = [] := by
      by_contra hne
      obtain ⟨n, hn, hidentity⟩ := hsome hne
      have hentry := (hcatalogued.entry (.atom atom) n.id).mpr ⟨n, hn, rfl, hidentity⟩
      rw [hcatalogued.lookup_eq_none hs.coherent (k := .atom atom) hfound] at hentry
      cases hentry
    refine ⟨_, List.mem_append_right _ List.mem_cons_self, identity?_atomNode s i atom _, ?_⟩
    rw [hnone]
    exact kept_atomNode s i atom (accessors i.hook)

/-- A call for an atom is recorded, and what is recorded about other atoms stays. -/
lemma keptAll_step (calls : List (Invocation × Outcome)) (s : Session)
    (holder : String → Option String) (p : Processor) (i : Invocation) (c : Contribution)
    (hs : s.Sound) (hcatalogued : s.Catalogued holder) (hp : p ∈ builtinProcessors)
    (hstep : Registry.Step s p i holder c) (hcalls : KeptAll calls s) :
    KeptAll (calls ++ [(i, Registry.served p i c)]) (Registry.handOver s p i).1 := by
  intro atom
  obtain ⟨hkept, hsome⟩ := hcalls atom
  rw [callsFor_concat]
  by_cases hcall : p.id = info.id ∧ i.hook.firstIdentifier = some atom
  · obtain rfl := eq_processor hp hcall.1
    obtain ⟨n, hn, hidentity, hafter⟩ := exists_of_process (hs.record _ _ _)
      (hcatalogued.record _ _ _) hcall.2 hstep.process hkept hsome
    have henriches :=
      (Node.enriches_amended (linked_subset hs hstep.offers hn) hstep.registers.updates).1
    have hmem : n.amended c.updates ∈ (Registry.handOver s processor i).1.diagram.nodes := by
      rw [hstep.nodes]
      exact List.mem_map_of_mem hn
    rw [if_pos hcall]
    refine ⟨fun n' hn' hidentity' => ?_, fun _ => ⟨_, hmem, henriches.identity.trans hidentity⟩⟩
    obtain rfl : n.amended c.updates = n' := hstep.catalogued.eq_of_identity hstep.sound hmem hn'
      (henriches.identity.trans hidentity) hidentity'
    exact hafter
  · -- a call for something else is not about the node of the atom
    have hother : .atom atom ∉ sharedBy p.id i.hook holder := fun h => hcall (atom_mem_sharedBy h)
    rw [if_neg hcall]
    constructor
    · intro n hn hidentity
      exact hkept n (hstep.mem_nodes_before hs hn hidentity hother) hidentity
    · intro hne
      obtain ⟨n, hn, hidentity⟩ := hsome hne
      refine ⟨n, hstep.mem_nodes hs (List.mem_append_left _ hn) fun k hk heq => ?_, hidentity⟩
      obtain rfl : .atom atom = k := by simpa [hidentity] using heq
      exact hother hk

end Jotai

namespace Analyzer

open Jotai

/-- **Atoms.** Whatever hooks are dispatched with any selection of built-in processors that
discovery accepts, there is one node for every atom that is the first argument of a call for atoms,
and its records are what the calls for this atom make of it. -/
theorem dispatchAll_atoms (component : Component) (atoms : List Atom) (sel : Selection)
    (ps : List Processor) (hsel : discover sel [] = .ok ps) (is : List Invocation) :
    createRegistry sel [] = .ok ⟨ps⟩ ∧ ∃ s outcomes,
      dispatchAll ⟨ps⟩ (Session.start component atoms) is = (s, .ok outcomes) ∧
      outcomes.map (·.hook) = is.map (·.hook.name) ∧
      ∀ atom, callsFor atom (is.zip outcomes) ≠ [] →
        ∃ n, s.diagram.nodes.filter (·.identity? = some (.shared (.atom atom))) = [n] ∧
          Gathers n (callsFor atom (is.zip outcomes)) := by
  obtain ⟨hregistry, hbuiltin, hcustom⟩ := createRegistry_builtin hsel
  obtain ⟨s, outcomes, hall⟩ := exists_dispatchAll hcustom (Session.start component atoms) is
  obtain ⟨hs, ⟨holder, hcatalogued⟩, hcalls⟩ := dispatchAll_induction hbuiltin (P := KeptAll)
    keptAll_step (sound_start component atoms []) (catalogued_start component atoms [])
    (by simp [KeptAll, callsFor, Session.start]) hall
  refine ⟨hregistry, s, outcomes, hall, hooks_dispatchAll hall, fun atom hne => ?_⟩
  obtain ⟨hkept, hsome⟩ := hcalls atom
  obtain ⟨n, hn, hidentity⟩ := hsome hne
  refine ⟨n, ?_, (hkept n hn hidentity).toGathers⟩
  have hnodup : s.diagram.nodes.Nodup := List.Nodup.of_map _ hs.coherent.ids_nodup
  refine List.perm_singleton.mp ((List.perm_ext_iff_of_nodup (hnodup.filter _) (by simp)).mpr ?_)
  intro n'
  rw [List.mem_filter, List.mem_singleton, decide_eq_true_iff]
  constructor
  · rintro ⟨hn', hidentity'⟩
    exact hcatalogued.eq_of_identity hs hn' hn hidentity' hidentity
  · rintro rfl
    exact ⟨hn, hidentity⟩

/-- A component that counts. -/
def tally : Component := { name := "Tally", framework := some "react" }

/-- A call for an atom that binds the given variables. -/
def atomCall (name : String) (bound : List String) (binding : BindingShape) : Invocation :=
  { hook := { name, bound, binding, arguments := [⟨.identifier, some "countAtom"⟩] } }

/-- Calls that read the atom, write it, and do both, with a variable that has no name. -/
def tallyCalls : List Invocation :=
  [atomCall "useSetAtom" ["setCount"] .identifier, atomCall "useAtom" ["", "reset"] .array,
   atomCall "useAtomValue" ["count"] .identifier, atomCall "useAtom" ["count", "setCount"] .array]

lemma exists_run_tally : ∃ s outcomes,
    dispatchAll ⟨[Jotai.processor, Custom.processor]⟩ (Session.start tally []) tallyCalls =
      (s, .ok outcomes) ∧ callsFor "countAtom" (tallyCalls.zip outcomes) =
        [⟨none, some "setCount"⟩, ⟨some "", some "reset"⟩, ⟨some "count", none⟩,
         ⟨some "count", some "setCount"⟩] := by
  have hselect : ∀ h framework, Registry.select? ⟨[Jotai.processor, Custom.processor]⟩ h framework =
      [Jotai.processor, Custom.processor].find? (·.accepts h framework) :=
    Registry.select?_of_pairwise (by decide)
  refine ⟨_, _, dispatchAll_cons_eq_ok_iff.mpr ⟨Jotai.processor, _, hselect _ _,
    dispatchAll_cons_eq_ok_iff.mpr ⟨Jotai.processor, _, hselect _ _,
      dispatchAll_cons_eq_ok_iff.mpr ⟨Jotai.processor, _, hselect _ _,
        dispatchAll_cons_eq_ok_iff.mpr ⟨Jotai.processor, [], hselect _ _, rfl, rfl⟩, rfl⟩, rfl⟩,
    rfl⟩, ?_⟩
  decide +kernel

/-- All four calls are gathered in one node. -/
theorem dispatchAll_atoms_tally : ∃ s outcomes n,
    dispatchAll ⟨[Jotai.processor, Custom.processor]⟩ (Session.start tally []) tallyCalls =
      (s, .ok outcomes) ∧
    s.diagram.nodes.filter (·.identity? = some (.shared (.atom "countAtom"))) = [n] ∧
    n.metadata.get "read_variables" = .ofNames ["count"] ∧
    n.metadata.get "write_variables" = .ofNames ["setCount", "reset"] ∧
    n.metadata.get "is_read_write_pair" = .bool true := by
  obtain ⟨-, s, outcomes, hall, -, hatoms⟩ :=
    dispatchAll_atoms tally [] jotaiOnly _ discover_jotaiOnly tallyCalls
  obtain ⟨s', outcomes', hall', hcalls⟩ := exists_run_tally
  obtain ⟨rfl, houtcomes⟩ := Prod.mk.inj (hall'.symm.trans hall)
  obtain rfl := Except.ok.inj houtcomes
  obtain ⟨n, hnode, hgathers⟩ := hatoms "countAtom" (by simp [hcalls])
  rw [hcalls] at hgathers
  obtain ⟨b, hget, hpair⟩ := hgathers.pair
  obtain rfl : b = true := hpair.mpr ⟨"count", "setCount", rfl, rfl, by decide +kernel⟩
  exact ⟨s', _, n, hall, hnode, hgathers.readVariables, hgathers.writeVariables, hget⟩

end Analyzer

end ComponentFlow

import ComponentFlow.Value.Json.Reader
import Mathlib.Tactic.Lemma

/-!
# Values of JSON texts

Documents can be written in several formats, and values have more kinds than JSON has. Those that a
JSON text can hold are singled out here (`Value.isJson`): they have no tuples, sets, positions and
times, and the keys of their mappings are texts. The reader gives no others (`Json.isJson_read?`).
-/

namespace ComponentFlow

namespace Value

mutual

/-- Whether a value can be written in JSON: it is made of null, truth values, numbers, texts, lists,
and mappings with texts as keys. -/
def isJson : Value → Bool
  | .null => true
  | .bool _ => true
  | .int _ => true
  | .float _ => true
  | .str _ => true
  | .list items => areJson items
  | .map entries => areJsonEntries entries
  | _ => false
termination_by structural v => v

/-- Whether several values can be written in JSON. -/
def areJson : List Value → Bool
  | [] => true
  | v :: rest => v.isJson && areJson rest
termination_by structural items => items

/-- Whether the entries of a mapping can be written in JSON. -/
def areJsonEntries : List (Value × Value) → Bool
  | [] => true
  | e :: rest => isJsonEntry e && areJsonEntries rest
termination_by structural entries => entries

/-- Whether an entry has a text as its key and a value that can be written in JSON. -/
def isJsonEntry : Value × Value → Bool
  | (.str _, v) => v.isJson
  | _ => false
termination_by structural e => e

end

lemma isJson_of_mem {items : List Value} (h : areJson items = true) {v : Value} (hv : v ∈ items) :
    v.isJson = true := by
  induction items with
  | nil => cases hv
  | cons w rest ih =>
    rw [areJson, Bool.and_eq_true] at h
    obtain rfl | hv := List.mem_cons.mp hv
    · exact h.1
    · exact ih h.2 hv

lemma isJson_field {entries : List (Value × Value)} (h : areJsonEntries entries = true)
    (key : String) : (field key entries).isJson = true := by
  induction entries with
  | nil => rfl
  | cons e rest ih =>
    rw [areJsonEntries, Bool.and_eq_true] at h
    obtain ⟨k, v⟩ := e
    cases k with
    | str k =>
      rw [field, lookup]
      split
      · exact h.1
      · exact ih h.2
    | _ => exact ih h.2

lemma areJsonEntries_insertEntry {entries : List (Value × Value)}
    (h : areJsonEntries entries = true) (key : String) {value : Value}
    (hvalue : value.isJson = true) :
    areJsonEntries (insertEntry (.str key) value entries) = true := by
  induction entries with
  | nil => simp [insertEntry, areJsonEntries, isJsonEntry, hvalue]
  | cons e rest ih =>
    obtain ⟨k, v⟩ := e
    rw [areJsonEntries, Bool.and_eq_true] at h
    rw [insertEntry]
    split
    · rw [areJsonEntries, Bool.and_eq_true]
      refine ⟨?_, h.2⟩
      cases k <;> simp_all [isJsonEntry]
    · rw [areJsonEntries, Bool.and_eq_true]
      exact ⟨h.1, ih h.2⟩

lemma areJsonEntries_ofEntries {entries : List (Value × Value)}
    (h : areJsonEntries entries = true) : areJsonEntries (ofEntries entries) = true := by
  have hfold : ∀ done, areJsonEntries done = true → areJsonEntries
      (entries.foldl (fun done e => insertEntry e.1 e.2 done) done) = true := by
    induction entries with
    | nil => exact fun _ hdone => hdone
    | cons e rest ih =>
      intro done hdone
      rw [areJsonEntries, Bool.and_eq_true] at h
      obtain ⟨k, v⟩ := e
      cases k with
      | str key => exact ih h.2 _ (areJsonEntries_insertEntry hdone key h.1)
      | _ => exact absurd h.1 (by simp [isJsonEntry])
  exact hfold [] rfl

end Value

namespace Json

open Value

lemma isJson_readNumber? {s rest : List Char} {v : Value} (h : readNumber? s = some (v, rest)) :
    v.isJson = true := by
  have hunsigned : ∀ {negative s}, readUnsigned? negative s = some (v, rest) →
      v.isJson = true := by
    intro negative s h
    simp only [readUnsigned?] at h
    split at h
    · cases h
    · split at h
      · obtain ⟨rfl, -⟩ := Prod.mk.inj (Option.some.inj h)
        rfl
      · obtain ⟨rfl, -⟩ := Prod.mk.inj (Option.some.inj h)
        rfl
  unfold readNumber? at h
  split at h
  · split at h
    · obtain ⟨rfl, -⟩ := Prod.mk.inj (Option.some.inj h)
      rfl
    · exact hunsigned h
  · exact hunsigned h

lemma isJson_readWord? {s rest : List Char} {v : Value} (h : readWord? s = some (v, rest)) :
    v.isJson = true := by
  obtain ⟨w, hw, hread⟩ := List.exists_of_findSome?_eq_some h
  obtain ⟨_, -, heq⟩ := Option.map_eq_some_iff.mp hread
  obtain ⟨rfl, -⟩ := Prod.mk.inj heq
  have hwords : words.all (·.2.isJson) = true := rfl
  exact List.all_eq_true.mp hwords w hw

/-- What the readers of values, items and members give with so much fuel can be written in JSON. -/
structure ReadJson (fuel : Nat) : Prop where
  value : ∀ {s v rest}, readValue? fuel s = some (v, rest) → v.isJson = true
  items : ∀ {s items rest}, readItems? fuel s = some (items, rest) → areJson items = true
  members : ∀ {s entries rest}, readMembers? fuel s = some (entries, rest) →
    areJsonEntries entries = true

namespace ReadJson

variable {fuel : Nat} {s rest : List Char}

lemma value_succ (h : ReadJson fuel) {v : Value}
    (hread : readValue? (fuel + 1) s = some (v, rest)) : v.isJson = true := by
  rw [readValue?] at hread
  split at hread
  · obtain ⟨_, -, heq⟩ := Option.map_eq_some_iff.mp hread
    obtain ⟨rfl, -⟩ := Prod.mk.inj heq
    rfl
  · split at hread
    · obtain ⟨rfl, -⟩ := Prod.mk.inj (Option.some.inj hread)
      rfl
    · obtain ⟨_, hitems, heq⟩ := Option.map_eq_some_iff.mp hread
      obtain ⟨rfl, -⟩ := Prod.mk.inj heq
      exact h.items hitems
  · split at hread
    · obtain ⟨rfl, -⟩ := Prod.mk.inj (Option.some.inj hread)
      rfl
    · obtain ⟨_, hmembers, heq⟩ := Option.map_eq_some_iff.mp hread
      obtain ⟨rfl, -⟩ := Prod.mk.inj heq
      exact areJsonEntries_ofEntries (h.members hmembers)
  · split at hread
    · rename_i hword
      exact isJson_readWord? (hword.trans hread)
    · exact isJson_readNumber? hread

lemma items_succ (h : ReadJson fuel) {items : List Value}
    (hread : readItems? (fuel + 1) s = some (items, rest)) : areJson items = true := by
  rw [readItems?] at hread
  simp only [Option.bind_eq_bind, Option.bind_eq_some_iff] at hread
  obtain ⟨⟨v, rest'⟩, hv, hread⟩ := hread
  dsimp only at hread
  split at hread
  · obtain ⟨rfl, -⟩ := Prod.mk.inj (Option.some.inj hread)
    simp [areJson, h.value hv]
  · simp only [Option.bind_eq_some_iff] at hread
    obtain ⟨_, hmore, hread⟩ := hread
    obtain ⟨rfl, -⟩ := Prod.mk.inj (Option.some.inj hread)
    simp [areJson, h.value hv, h.items hmore]
  · cases hread

lemma members_succ (h : ReadJson fuel) {entries : List (Value × Value)}
    (hread : readMembers? (fuel + 1) s = some (entries, rest)) : areJsonEntries entries = true := by
  rw [readMembers?] at hread
  split at hread
  case h_2 => cases hread
  simp only [Option.bind_eq_bind, Option.bind_eq_some_iff] at hread
  obtain ⟨⟨key, rest'⟩, -, hread⟩ := hread
  dsimp only at hread
  split at hread
  case h_2 => cases hread
  simp only [Option.bind_eq_some_iff] at hread
  obtain ⟨⟨v, rest''⟩, hv, hread⟩ := hread
  dsimp only at hread
  split at hread
  · obtain ⟨rfl, -⟩ := Prod.mk.inj (Option.some.inj hread)
    simp [areJsonEntries, isJsonEntry, h.value hv]
  · simp only [Option.bind_eq_some_iff] at hread
    obtain ⟨_, hmore, hread⟩ := hread
    obtain ⟨rfl, -⟩ := Prod.mk.inj (Option.some.inj hread)
    simp [areJsonEntries, isJsonEntry, h.value hv, h.members hmore]
  · cases hread

end ReadJson

/-- The readers call one another with less fuel, so one induction is about all three. -/
lemma readJson (fuel : Nat) : ReadJson fuel := by
  induction fuel with
  | zero => exact ⟨nofun, nofun, nofun⟩
  | succ fuel ih => exact ⟨ih.value_succ, ih.items_succ, ih.members_succ⟩

/-- What is read from a JSON text can be written in JSON. -/
lemma isJson_read? {text : String} {v : Value} (h : read? text = some v) : v.isJson = true := by
  simp only [read?] at h
  split at h
  · rename_i w rest hread
    split at h
    · obtain rfl := Option.some.inj h
      exact (readJson _).value hread
    · cases h
  · cases h

end Json

end ComponentFlow

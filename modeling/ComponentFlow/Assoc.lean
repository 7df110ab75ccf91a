/-!
# Ordered maps

Maps from keys to values as lists of pairs in the order in which the keys were first given. A key
given again keeps its place and takes the new value.
-/

namespace ComponentFlow.Assoc

variable {κ α : Type} [BEq κ]

/-- Puts a value under a key: a key that is there keeps its place. -/
def insert (key : κ) (value : α) : List (κ × α) → List (κ × α)
  | [] => [(key, value)]
  | (k, v) :: rest => if k == key then (k, value) :: rest else (k, v) :: insert key value rest

/-- Puts a value under a key that is not there yet. -/
def insertNew (key : κ) (value : α) (entries : List (κ × α)) : List (κ × α) :=
  match entries.lookup key with
  | some _ => entries
  | none => entries ++ [(key, value)]

/-- Puts several values under their keys, one after the other. -/
def insertAll (entries news : List (κ × α)) : List (κ × α) :=
  news.foldl (fun done e => insert e.1 e.2 done) entries

/-- The map with the given entries. -/
def ofList (entries : List (κ × α)) : List (κ × α) :=
  insertAll [] entries

theorem lookup_insert [LawfulBEq κ] (key k : κ) (value : α) (entries : List (κ × α)) :
    (insert key value entries).lookup k = if k == key then some value else entries.lookup k := by
  induction entries with
  | nil =>
    rw [insert, List.lookup_cons]
    split <;> simp_all
  | cons e rest ih =>
    rw [insert]
    by_cases h : e.1 == key
    · rw [if_pos h, List.lookup_cons, List.lookup_cons, eq_of_beq h]
      split <;> simp_all
    · rw [if_neg h, List.lookup_cons, List.lookup_cons, ih]
      by_cases hk : k == e.1
      · have hne : (k == key) = false := by rw [eq_of_beq hk]; simpa using h
        simp [hk, hne]
      · simp [hk]

theorem mem_insert [LawfulBEq κ] {key : κ} {value : α} {entries : List (κ × α)} {e : κ × α}
    (h : e ∈ insert key value entries) : e = (key, value) ∨ e ∈ entries := by
  induction entries with
  | nil => exact .inl (List.mem_singleton.mp h)
  | cons first rest ih =>
    rw [insert] at h
    split at h
    · rename_i hkey
      rw [eq_of_beq hkey] at h
      exact (List.mem_cons.mp h).imp_right (List.mem_cons_of_mem _)
    · obtain rfl | h := List.mem_cons.mp h
      · exact .inr List.mem_cons_self
      · exact (ih h).imp_right (List.mem_cons_of_mem _)

theorem mem_keys_insert [LawfulBEq κ] {key k : κ} {value : α} {entries : List (κ × α)} :
    k ∈ (insert key value entries).map Prod.fst ↔ k = key ∨ k ∈ entries.map Prod.fst := by
  induction entries with
  | nil => simp [insert]
  | cons e rest ih =>
    rw [insert]
    split
    · rename_i heq
      simp [eq_of_beq heq]
    · simp only [List.map_cons, List.mem_cons, ih]
      exact or_left_comm

theorem nodup_keys_insert [LawfulBEq κ] (key : κ) (value : α) {entries : List (κ × α)}
    (h : (entries.map Prod.fst).Nodup) : ((insert key value entries).map Prod.fst).Nodup := by
  induction entries with
  | nil => simp [insert]
  | cons e rest ih =>
    obtain ⟨hfirst, hrest⟩ := List.nodup_cons.mp h
    rw [insert]
    split
    · exact h
    · rename_i hne
      refine List.nodup_cons.mpr ⟨fun hmem => ?_, ih hrest⟩
      obtain heq | hmem := mem_keys_insert.mp hmem
      · exact hne (beq_iff_eq.mpr heq)
      · exact hfirst hmem

theorem mem_keys_insertAll [LawfulBEq κ] {k : κ} {entries news : List (κ × α)} :
    k ∈ (insertAll entries news).map Prod.fst ↔
      k ∈ entries.map Prod.fst ∨ k ∈ news.map Prod.fst := by
  induction news generalizing entries with
  | nil => simp [insertAll]
  | cons e rest ih =>
    rw [insertAll, List.foldl_cons]
    refine ih.trans ?_
    rw [mem_keys_insert, List.map_cons, List.mem_cons, or_comm (a := k = e.1), or_assoc]

theorem nodup_keys_insertAll [LawfulBEq κ] {entries : List (κ × α)} (news : List (κ × α))
    (h : (entries.map Prod.fst).Nodup) : ((insertAll entries news).map Prod.fst).Nodup := by
  induction news generalizing entries with
  | nil => exact h
  | cons e rest ih => exact ih (nodup_keys_insert e.1 e.2 h)

theorem mem_keys_ofList [LawfulBEq κ] {k : κ} {entries : List (κ × α)} :
    k ∈ (ofList entries).map Prod.fst ↔ k ∈ entries.map Prod.fst := by
  rw [ofList, mem_keys_insertAll]
  simp

/-- Values that are put under different keys replace those that were there. -/
theorem lookup_insertAll [LawfulBEq κ] (entries : List (κ × α)) {news : List (κ × α)}
    (h : (news.map Prod.fst).Nodup) (k : κ) :
    (insertAll entries news).lookup k = (news.lookup k).or (entries.lookup k) := by
  induction news generalizing entries with
  | nil => rfl
  | cons e rest ih =>
    obtain ⟨hfirst, hrest⟩ := List.nodup_cons.mp h
    rw [insertAll, List.foldl_cons]
    refine (ih (insert e.1 e.2 entries) hrest).trans ?_
    rw [lookup_insert, List.lookup_cons]
    by_cases hk : k == e.1
    · have hnone : rest.lookup k = none := by
        rw [List.lookup_eq_none_iff]
        intro p hp
        rw [eq_of_beq hk]
        exact bne_iff_ne.mpr fun heq => hfirst (heq ▸ List.mem_map_of_mem hp)
      simp [hk, hnone]
    · simp [hk]

end ComponentFlow.Assoc

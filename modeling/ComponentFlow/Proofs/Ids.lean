import ComponentFlow.Session
import Mathlib.Data.List.Nodup
import Mathlib.Data.List.TakeWhile
import Mathlib.Tactic.Lemma

/-!
# Ids

A new id is a stem and the number of ids the stem was given before. Two facts make such ids
safe to use as names of nodes. First, the id tells its stem and its number (`idOf_inj`): a
number is written in digits, so the last underscore of an id is the one that was put in.
Second, numbers only go up. So the ids that are drawn between two states of a session, `Draws`,
are exactly those with numbers between the two counts, and ids drawn at different times differ
(`Draws.not_draws`). A list of all of them in which the numbers of each stem go up, `DrawsAll`,
tells their order as well.
-/

namespace ComponentFlow.Session

/-! ## The parts of an id -/

lemma toList_idOf (stem : String) (k : Nat) :
    (idOf stem k).toList = stem.toList ++ '_' :: Nat.toDigits 10 k := by
  have htext : Decimal.intText (k : Int) = String.ofList (Nat.toDigits 10 k) := rfl
  simp [idOf, htext]

lemma underscore_not_mem_toDigits (k : Nat) : '_' ∉ Nat.toDigits 10 k := by
  intro h
  have hdigit := Nat.isDigit_of_mem_toDigits (by decide) (by decide) h
  exact absurd hdigit (by decide)

/-- What stands before the last occurrence of a character is determined. -/
lemma append_cons_inj {c : Char} {xs ys ds es : List Char} (hds : c ∉ ds) (hes : c ∉ es)
    (h : xs ++ c :: ds = ys ++ c :: es) : xs = ys ∧ ds = es := by
  induction xs generalizing ys with
  | nil =>
    cases ys with
    | nil => exact ⟨rfl, by simpa using h⟩
    | cons y ys =>
      -- a second occurrence of the character would have to stand among the digits
      obtain ⟨-, htail⟩ := List.cons.inj h
      exact absurd (by simp [htail] : c ∈ ds) hds
  | cons x xs ih =>
    cases ys with
    | nil =>
      obtain ⟨-, htail⟩ := List.cons.inj h
      exact absurd (by simp [← htail] : c ∈ es) hes
    | cons y ys =>
      obtain ⟨hhead, htail⟩ := List.cons.inj h
      obtain ⟨hxs, htails⟩ := ih htail
      exact ⟨by rw [hhead, hxs], htails⟩

/-- An id tells its stem and its number. -/
lemma idOf_inj {stem stem' : String} {k k' : Nat} :
    idOf stem k = idOf stem' k' ↔ stem = stem' ∧ k = k' := by
  constructor
  · intro h
    have hlist := congrArg String.toList h
    rw [toList_idOf, toList_idOf] at hlist
    obtain ⟨hstem, hdigits⟩ :=
      append_cons_inj (underscore_not_mem_toDigits k) (underscore_not_mem_toDigits k') hlist
    have hnumber := congrArg (fun ds => Nat.ofDigitChars 10 ds 0) hdigits
    simp only [Nat.ofDigitChars_toDigits (by decide : 1 < 10) (by decide : 10 ≤ 10)] at hnumber
    exact ⟨String.toList_inj.mp hstem, hnumber⟩
  · rintro ⟨rfl, rfl⟩
    rfl

/-! ## Drawing one id -/

@[simp] lemma nextId_diagram (s : Session) (stem : String) :
    (s.nextId stem).2.diagram = s.diagram := rfl

@[simp] lemma nextId_component (s : Session) (stem : String) :
    (s.nextId stem).2.component = s.component := rfl

@[simp] lemma nextId_faults (s : Session) (stem : String) :
    (s.nextId stem).2.faults = s.faults := rfl

lemma count_nextId (s : Session) (stem other : String) :
    (s.nextId stem).2.count other = if other = stem then s.count stem + 1 else s.count other := by
  simp only [count, nextId, Assoc.lookup_insert]
  by_cases h : other = stem <;> simp [h]

/-! ## The ids drawn between two sessions -/

/-- No stem was given fewer ids. -/
def CountsLe (s s' : Session) : Prop :=
  ∀ stem, s.count stem ≤ s'.count stem

lemma CountsLe.refl (s : Session) : s.CountsLe s :=
  fun _ => Nat.le_refl _

lemma CountsLe.trans {s s' s'' : Session} (h : s.CountsLe s') (h' : s'.CountsLe s'') :
    s.CountsLe s'' :=
  fun stem => Nat.le_trans (h stem) (h' stem)

lemma countsLe_of_counters_eq {s s' : Session} (h : s'.counters = s.counters) :
    s.CountsLe s' := by
  intro stem
  simp [count, h]

lemma countsLe_nextId (s : Session) (stem : String) : s.CountsLe (s.nextId stem).2 := by
  intro other
  rw [count_nextId]
  split <;> simp_all

/-- An id that is drawn on the way from one session to another. -/
def Draws (s s' : Session) (id : String) : Prop :=
  ∃ stem k, s.count stem ≤ k ∧ k < s'.count stem ∧ id = idOf stem k

lemma not_draws_of_counters_eq {s s' : Session} (h : s'.counters = s.counters) (id : String) :
    ¬ s.Draws s' id := by
  rintro ⟨stem, k, hlow, hhigh, -⟩
  simp only [count, h] at hlow hhigh
  omega

lemma draws_nextId {s : Session} {stem id : String} :
    s.Draws (s.nextId stem).2 id ↔ id = idOf stem (s.count stem) := by
  constructor
  · rintro ⟨other, k, hlow, hhigh, rfl⟩
    rw [count_nextId] at hhigh
    split at hhigh
    · rename_i hstem
      subst hstem
      rw [show k = s.count other by omega]
    · omega
  · rintro rfl
    refine ⟨stem, s.count stem, Nat.le_refl _, ?_, rfl⟩
    rw [count_nextId, if_pos rfl]
    omega

lemma draws_trans {s s' s'' : Session} (h : s.CountsLe s') (h' : s'.CountsLe s'') {id : String} :
    s.Draws s'' id ↔ s.Draws s' id ∨ s'.Draws s'' id := by
  constructor
  · rintro ⟨stem, k, hlow, hhigh, rfl⟩
    by_cases hk : k < s'.count stem
    · exact .inl ⟨stem, k, hlow, hk, rfl⟩
    · exact .inr ⟨stem, k, by omega, hhigh, rfl⟩
  · rintro (⟨stem, k, hlow, hhigh, rfl⟩ | ⟨stem, k, hlow, hhigh, rfl⟩)
    · exact ⟨stem, k, hlow, Nat.lt_of_lt_of_le hhigh (h' stem), rfl⟩
    · exact ⟨stem, k, Nat.le_trans (h stem) hlow, hhigh, rfl⟩

lemma Draws.mono {s s' s'' : Session} {id : String} (h : s.Draws s' id)
    (hle : s'.CountsLe s'') : s.Draws s'' id := by
  obtain ⟨stem, k, hlow, hhigh, rfl⟩ := h
  exact ⟨stem, k, hlow, Nat.lt_of_lt_of_le hhigh (hle stem), rfl⟩

lemma Draws.of_le {s s' s'' : Session} {id : String} (h : s'.Draws s'' id)
    (hle : s.CountsLe s') : s.Draws s'' id := by
  obtain ⟨stem, k, hlow, hhigh, rfl⟩ := h
  exact ⟨stem, k, Nat.le_trans (hle stem) hlow, hhigh, rfl⟩

/-- An id is drawn once. -/
lemma Draws.not_draws {s s' s'' : Session} {id : String} (h : s'.Draws s'' id) :
    ¬ s.Draws s' id := by
  obtain ⟨stem, k, hlow, -, rfl⟩ := h
  rintro ⟨stem', k', -, hhigh, heq⟩
  obtain ⟨rfl, rfl⟩ := idOf_inj.mp heq
  omega

/-- An id that was drawn at some time before. -/
def Issued (s : Session) (id : String) : Prop :=
  ∃ stem k, k < s.count stem ∧ id = idOf stem k

lemma Issued.mono {s s' : Session} (h : s.CountsLe s') {id : String} (hid : s.Issued id) :
    s'.Issued id := by
  obtain ⟨stem, k, hk, rfl⟩ := hid
  exact ⟨stem, k, Nat.lt_of_lt_of_le hk (h stem), rfl⟩

lemma Draws.issued {s s' : Session} {id : String} (h : s.Draws s' id) : s'.Issued id := by
  obtain ⟨stem, k, -, hhigh, rfl⟩ := h
  exact ⟨stem, k, hhigh, rfl⟩

lemma Draws.not_issued {s s' : Session} {id : String} (h : s.Draws s' id) : ¬ s.Issued id := by
  obtain ⟨stem, k, hlow, -, rfl⟩ := h
  rintro ⟨stem', k', hk', heq⟩
  obtain ⟨rfl, rfl⟩ := idOf_inj.mp heq
  omega

/-! ## All ids drawn between two sessions -/

/-- The stem of an id: what stands before its last underscore. -/
def stemOf (id : String) : String :=
  String.ofList ((id.toList.reverse.dropWhile (· != '_')).drop 1).reverse

@[simp] lemma stemOf_idOf (stem : String) (k : Nat) : stemOf (idOf stem k) = stem := by
  have hdigits : ∀ c ∈ (Nat.toDigits 10 k).reverse, (c != '_') = true := by
    intro c hc
    simpa using fun heq : c = '_' =>
      underscore_not_mem_toDigits k (heq ▸ List.mem_reverse.mp hc)
  have hdrop : (Nat.toDigits 10 k).reverse.dropWhile (· != '_') = [] :=
    List.dropWhile_eq_nil_iff.mpr hdigits
  rw [stemOf, toList_idOf, List.reverse_append, List.reverse_cons, List.append_assoc,
    List.dropWhile_append, hdrop]
  simp

/-- The ids that are drawn on the way from one session to another, those of each stem in the order
of their numbers. -/
def DrawsAll (s s' : Session) (ids : List String) : Prop :=
  ∀ stem, ids.filter (stemOf · == stem) =
    (List.range' (s.count stem) (s'.count stem - s.count stem)).map (idOf stem)

lemma drawsAll_of_counters_eq {s s' : Session} (h : s'.counters = s.counters) :
    s.DrawsAll s' [] := by
  intro stem
  simp [count, h]

lemma DrawsAll.congr {s s' s'' : Session} {ids : List String} (h : s.DrawsAll s' ids)
    (hcounters : s''.counters = s'.counters) : s.DrawsAll s'' ids := by
  intro stem
  have hcount : s''.count stem = s'.count stem := by rw [count, hcounters, count]
  rw [h stem, hcount]

lemma drawsAll_nextId (s : Session) (stem : String) :
    s.DrawsAll (s.nextId stem).2 [idOf stem (s.count stem)] := by
  intro other
  rw [count_nextId]
  by_cases h : other = stem
  · subst h
    simp
  · simp [h, Ne.symm h]

lemma DrawsAll.append {s s' s'' : Session} {ids ids' : List String} (h : s.DrawsAll s' ids)
    (h' : s'.DrawsAll s'' ids') (hle : s.CountsLe s') (hle' : s'.CountsLe s'') :
    s.DrawsAll s'' (ids ++ ids') := by
  intro stem
  have hlow := hle stem
  have hhigh := hle' stem
  obtain ⟨m, hm⟩ : ∃ m, s'.count stem = s.count stem + m := ⟨_, (Nat.add_sub_of_le hlow).symm⟩
  obtain ⟨n, hn⟩ : ∃ n, s''.count stem = s.count stem + (m + n) := ⟨s''.count stem - s'.count stem,
    by omega⟩
  rw [List.filter_append, h stem, h' stem, ← List.map_append, hm, hn, Nat.add_sub_cancel_left,
    Nat.add_sub_cancel_left, ← List.range'_append_1]
  congr 3
  omega

/-- Ids are listed exactly if they are drawn. -/
lemma DrawsAll.mem_iff {s s' : Session} {ids : List String} (h : s.DrawsAll s' ids) {id : String} :
    id ∈ ids ↔ s.Draws s' id := by
  have hfilter : id ∈ ids ↔ id ∈ ids.filter (stemOf · == stemOf id) := by simp
  rw [hfilter, h (stemOf id), List.mem_map]
  constructor
  · rintro ⟨k, hk, heq⟩
    rw [List.mem_range'_1] at hk
    exact ⟨stemOf id, k, hk.1, by omega, heq.symm⟩
  · rintro ⟨stem, k, hlow, hhigh, rfl⟩
    rw [stemOf_idOf]
    exact ⟨k, List.mem_range'_1.mpr ⟨hlow, by omega⟩, rfl⟩

/-- No id is listed twice. -/
lemma DrawsAll.nodup {s s' : Session} {ids : List String} (h : s.DrawsAll s' ids) :
    ids.Nodup := by
  rw [List.nodup_iff_count_le_one]
  intro id
  have hstem : (ids.filter (stemOf · == stemOf id)).Nodup := by
    rw [h (stemOf id)]
    exact (List.nodup_range' 1).map fun _ _ heq => (idOf_inj.mp heq).2
  rw [← List.count_filter (p := fun x => stemOf x == stemOf id) (by simp)]
  exact List.nodup_iff_count_le_one.mp hstem id

end ComponentFlow.Session

import ComponentFlow.Diagram.Metadata
import Mathlib.Data.List.Induction
import Mathlib.Tactic.Lemma

/-!
# Values that are merged

A value that is recorded where another one was is merged with it by one of three rules: a list gains
the items it lacks, a mapping is updated, and anything else is replaced. Which rule it is depends on
what is there, and the first merge may change that: a list may now stand where there was nothing, or
a text where there was a list. A second merge finds nothing left to do all the same (`merge_merge`).

Of the equality of values it is only used here that every value is equal to itself. So it does not
matter that a key may lead to the entry of another one that is merely equal to it: an update leads
to the same places when it is made again.
-/

namespace ComponentFlow

lemma Timestamp.same_self (t : Timestamp) : t.same t = true := by
  cases t with
  | day d => exact beq_self_eq_true d
  | moment d c =>
    rw [same]
    cases c.offset <;> simp

namespace Value

/-! ## Values equal themselves -/

mutual

/-- Every value is equal to itself. -/
lemma same_self : ∀ v : Value, v.same v = true
  | .null => rfl
  | .bool b => beq_self_eq_true b
  | .int n => beq_self_eq_true n
  | .float x => by simp [same]
  | .str s => beq_self_eq_true s
  | .list xs => sameItems_self xs
  | .tuple xs => sameItems_self xs
  | .set xs => by
    rw [same, beq_self_eq_true, sameMembers_of_subset xs xs (List.Subset.refl xs), Bool.and_true]
  | .position p => by simp [same]
  | .time t => t.same_self
  | .map es => by
    rw [same, beq_self_eq_true, sameEntries_of_subset es es (List.Subset.refl es), Bool.and_true]

lemma sameItems_self : ∀ xs : List Value, sameItems xs xs = true
  | [] => rfl
  | x :: xs => by rw [sameItems, same_self x, sameItems_self xs, Bool.and_true]

lemma sameMembers_of_subset : ∀ xs ys : List Value, xs ⊆ ys → sameMembers xs ys = true
  | [], _, _ => rfl
  | x :: xs, ys, h => by
    have hfirst : ys.any (same x) = true :=
      List.any_eq_true.mpr ⟨x, h List.mem_cons_self, same_self x⟩
    rw [sameMembers, hfirst, sameMembers_of_subset xs ys (List.subset_of_cons_subset h),
      Bool.and_true]

lemma sameEntries_of_subset : ∀ es gs : List (Value × Value), es ⊆ gs → sameEntries es gs = true
  | [], _, _ => rfl
  | e :: es, gs, h => by
    have hfirst : gs.any (sameEntry e) = true :=
      List.any_eq_true.mpr ⟨e, h List.mem_cons_self, sameEntry_self e⟩
    rw [sameEntries, hfirst, sameEntries_of_subset es gs (List.subset_of_cons_subset h),
      Bool.and_true]

lemma sameEntry_self : ∀ e : Value × Value, sameEntry e e = true
  | (k, v) => by rw [sameEntry, same_self k, same_self v, Bool.and_true]

end

/-! ## Lists that gain items -/

lemma isAmong_of_mem {items : List Value} {v : Value} (h : v ∈ items) : isAmong items v = true :=
  List.any_eq_true.mpr ⟨v, h, same_self v⟩

lemma isAmong_mono {items items' : List Value} (hsub : items ⊆ items') {v : Value}
    (h : isAmong items v = true) : isAmong items' v = true := by
  obtain ⟨w, hw, hsame⟩ := List.any_eq_true.mp h
  exact List.any_eq_true.mpr ⟨w, hsub hw, hsame⟩

lemma gain_append (items news more : List Value) :
    gain items (news ++ more) = gain (gain items news) more :=
  List.foldl_append

/-- A list keeps its items in their places. -/
lemma prefix_gain (items news : List Value) : items <+: gain items news := by
  refine List.foldlRecOn news _ (motive := fun done => items <+: done) List.prefix_rfl ?_
  intro done hdone v _
  split
  · exact hdone
  · exact hdone.trans (List.prefix_append done [v])

/-- A list has all the items that it was to gain. -/
lemma isAmong_gain (items : List Value) {news : List Value} {v : Value} (h : v ∈ news) :
    isAmong (gain items news) v = true := by
  obtain ⟨before, after, rfl⟩ := List.append_of_mem h
  rw [gain_append, ← List.singleton_append, gain_append]
  refine isAmong_mono (prefix_gain _ after).subset ?_
  rw [gain, List.foldl_cons, List.foldl_nil]
  split
  · assumption
  · exact isAmong_of_mem (List.mem_append_right _ List.mem_cons_self)

lemma gain_eq_self_iff {items news : List Value} :
    gain items news = items ↔ ∀ v ∈ news, isAmong items v = true := by
  constructor
  · intro h v hv
    rw [← h]
    exact isAmong_gain items hv
  · intro h
    refine List.foldlRecOn news _ (motive := fun done => done = items) rfl ?_
    intro done hdone v hv
    rw [hdone, if_pos (h v hv)]

/-! ## Mappings that are updated -/

/-- Whether a mapping has a key. -/
def hasKey (entries : List (Value × Value)) (key : Value) : Bool :=
  entries.any fun e => e.1.same key

/-- No key stands before an equal one. -/
def DistinctKeys (entries : List (Value × Value)) : Prop :=
  entries.Pairwise fun e g => e.1.same g.1 = false

section Entries

variable {entries news : List (Value × Value)} {key : Value}

lemma insertEntry_of_not_hasKey (h : hasKey entries key = false) (value : Value) :
    insertEntry key value entries = entries ++ [(key, value)] := by
  induction entries with
  | nil => rfl
  | cons e rest ih =>
    obtain ⟨hfirst, hrest⟩ := Bool.or_eq_false_iff.mp (List.any_cons.symm.trans h)
    rw [insertEntry, if_neg (by simp [hfirst]), ih hrest, List.cons_append]

lemma insertEntry_append_of_hasKey (h : hasKey entries key = true) (value : Value)
    (more : List (Value × Value)) :
    insertEntry key value (entries ++ more) = insertEntry key value entries ++ more := by
  induction entries with
  | nil => cases h
  | cons e rest ih =>
    rw [List.cons_append, insertEntry, insertEntry]
    split
    · rfl
    · rename_i hfirst
      have hrest : hasKey rest key = true := by simpa [hasKey, hfirst] using h
      rw [ih hrest, List.cons_append]

lemma hasKey_insertEntry (h : hasKey entries key = true) (other value : Value) :
    hasKey (insertEntry other value entries) key = true := by
  induction entries with
  | nil => cases h
  | cons e rest ih =>
    rw [insertEntry]
    split
    · exact h
    · rw [hasKey, List.any_cons, Bool.or_eq_true] at h ⊢
      exact h.imp_right ih

lemma hasKey_insertEntry_self (entries : List (Value × Value)) (key value : Value) :
    hasKey (insertEntry key value entries) key = true := by
  cases h : hasKey entries key with
  | true => exact hasKey_insertEntry h key value
  | false =>
    rw [insertEntry_of_not_hasKey h, hasKey, List.any_append]
    simp [same_self]

/-- Of two values under one key the second one counts. -/
lemma insertEntry_twice (entries : List (Value × Value)) (key first second : Value) :
    insertEntry key second (insertEntry key first entries) = insertEntry key second entries := by
  induction entries with
  | nil => rw [insertEntry, insertEntry, insertEntry, if_pos (same_self key)]
  | cons e rest ih =>
    by_cases h : e.1.same key = true
    · rw [insertEntry, if_pos h, insertEntry, if_pos h, insertEntry, if_pos h]
    · rw [insertEntry, if_neg h, insertEntry, if_neg h, insertEntry, if_neg h, ih]

/-- Two keys lead to one place, where the second value counts, or to different places. -/
lemma insertEntry_place (h : hasKey entries key = true) (value other new : Value) :
    insertEntry other new (insertEntry key value entries) = insertEntry other new entries ∨
      insertEntry other new (insertEntry key value entries) =
        insertEntry key value (insertEntry other new entries) := by
  induction entries with
  | nil => cases h
  | cons e rest ih =>
    by_cases hkey : e.1.same key = true <;> by_cases hother : e.1.same other = true
    · left
      simp only [insertEntry, hkey, hother, if_true]
    · right
      simp only [insertEntry, hkey, hother, if_true, if_false, Bool.false_eq_true]
    · right
      simp only [insertEntry, hkey, hother, if_true, if_false, Bool.false_eq_true]
    · have hrest : hasKey rest key = true := by simpa [hasKey, hkey] using h
      simp only [insertEntry, hkey, hother, if_false, Bool.false_eq_true, List.cons.injEq, true_and]
      exact ih hrest

lemma update_concat (entries news : List (Value × Value)) (e : Value × Value) :
    update entries (news ++ [e]) = insertEntry e.1 e.2 (update entries news) :=
  List.foldl_append

lemma hasKey_update (h : hasKey entries key = true) (news : List (Value × Value)) :
    hasKey (update entries news) key = true :=
  List.foldlRecOn news _ (motive := fun done => hasKey done key = true) h
    fun _ h e _ => hasKey_insertEntry h e.1 e.2

lemma hasKey_update_of_mem (entries : List (Value × Value)) {e : Value × Value} (h : e ∈ news) :
    hasKey (update entries news) e.1 = true := by
  obtain ⟨before, after, rfl⟩ := List.append_of_mem h
  rw [update, List.foldl_append, List.foldl_cons]
  exact hasKey_update (hasKey_insertEntry_self _ e.1 e.2) after

/-- A value that is replaced in the end does not matter before. -/
lemma insertEntry_update_insertEntry (h : hasKey entries key = true) (value last : Value)
    (news : List (Value × Value)) :
    insertEntry key last (update (insertEntry key value entries) news) =
      insertEntry key last (update entries news) := by
  induction news generalizing entries with
  | nil => exact insertEntry_twice entries key value last
  | cons e rest ih =>
    rw [update, List.foldl_cons, update, List.foldl_cons]
    obtain hplace | hplace := insertEntry_place h value e.1 e.2
    · rw [hplace]
    · rw [hplace]
      exact ih (hasKey_insertEntry h e.1 e.2)

lemma update_append (h : ∀ e ∈ news, hasKey entries e.1 = true) (more : List (Value × Value)) :
    update (entries ++ more) news = update entries news ++ more := by
  induction news generalizing entries with
  | nil => rfl
  | cons e rest ih =>
    obtain ⟨hfirst, hrest⟩ := List.forall_mem_cons.mp h
    rw [update, List.foldl_cons, insertEntry_append_of_hasKey hfirst]
    exact ih fun g hg => hasKey_insertEntry (hrest g hg) e.1 e.2

/-- Updating a mapping twice is updating it once. -/
lemma update_update (entries news : List (Value × Value)) :
    update (update entries news) news = update entries news := by
  induction news using List.reverseRecOn with
  | nil => rfl
  | append_singleton news e ih =>
    rw [update_concat, update_concat]
    cases h : hasKey (update entries news) e.1 with
    | true => rw [insertEntry_update_insertEntry h, ih]
    | false =>
      -- the last key is new, so the others do not lead to its entry
      have hkeys : ∀ g ∈ news, hasKey (update entries news) g.1 = true :=
        fun g hg => hasKey_update_of_mem entries hg
      rw [insertEntry_of_not_hasKey h, update_append hkeys, ih, ← insertEntry_of_not_hasKey h,
        insertEntry_twice]

lemma update_nil (h : DistinctKeys news) : update [] news = news := by
  induction news using List.reverseRecOn with
  | nil => rfl
  | append_singleton news e ih =>
    obtain ⟨hnews, -, hlast⟩ := List.pairwise_append.mp h
    have hnew : hasKey news e.1 = false := by
      rw [hasKey, List.any_eq_false]
      exact fun g hg => by simpa using hlast g hg e List.mem_cons_self
    rw [update_concat, ih hnews, insertEntry_of_not_hasKey hnew]

/-- An entry stays as it is, or takes the value that is put under its key. -/
lemma mem_insertEntry {e : Value × Value} (he : e ∈ entries) (key value : Value) :
    e ∈ insertEntry key value entries ∨
      e.1.same key = true ∧ (e.1, value) ∈ insertEntry key value entries := by
  induction entries with
  | nil => cases he
  | cons d rest ih =>
    rw [insertEntry]
    split
    · rename_i hkey
      obtain rfl | hrest := List.mem_cons.mp he
      · exact .inr ⟨hkey, List.mem_cons_self⟩
      · exact .inl (List.mem_cons_of_mem _ hrest)
    · obtain rfl | hrest := List.mem_cons.mp he
      · exact .inl List.mem_cons_self
      · exact (ih hrest).imp (List.mem_cons_of_mem _) (And.imp_right (List.mem_cons_of_mem _))

lemma exists_mem_insertEntry_value (entries : List (Value × Value)) (key value : Value) :
    ∃ e ∈ insertEntry key value entries, e.1.same key = true ∧ e.2 = value := by
  induction entries with
  | nil => exact ⟨(key, value), List.mem_cons_self, same_self key, rfl⟩
  | cons d rest ih =>
    rw [insertEntry]
    split
    · exact ⟨(d.1, value), List.mem_cons_self, ‹_›, rfl⟩
    · obtain ⟨e, he, hvalue⟩ := ih
      exact ⟨e, List.mem_cons_of_mem _ he, hvalue⟩

/-- An entry stays if the update does not name its key. -/
lemma mem_update {e : Value × Value} (he : e ∈ entries)
    (hnews : ∀ g ∈ news, e.1.same g.1 = false) : e ∈ update entries news := by
  refine List.foldlRecOn news _ (motive := fun done => e ∈ done) he fun done hdone g hg => ?_
  obtain hkept | ⟨hsame, -⟩ := mem_insertEntry hdone g.1 g.2
  · exact hkept
  · rw [hnews g hg] at hsame
    cases hsame

/-- What an update names is there, with a value that the update gives for it. -/
lemma exists_mem_update_given (entries : List (Value × Value)) {g : Value × Value} (hg : g ∈ news) :
    ∃ e ∈ update entries news, e.1.same g.1 = true ∧
      ∃ given ∈ news, e.1.same given.1 = true ∧ e.2 = given.2 := by
  obtain ⟨before, after, hsplit⟩ := List.append_of_mem hg
  have hafter : ∀ f ∈ after, f ∈ news := fun f hf => by simp [hsplit, hf]
  rw [hsplit, update, List.foldl_append, List.foldl_cons, ← hsplit]
  refine List.foldlRecOn after _ (motive := fun done : List (Value × Value) => ∃ e ∈ done,
    e.1.same g.1 = true ∧ ∃ given ∈ news, e.1.same given.1 = true ∧ e.2 = given.2) ?_ ?_
  · obtain ⟨e, he, hsame, hvalue⟩ := exists_mem_insertEntry_value
      (before.foldl (fun done e => insertEntry e.1 e.2 done) entries) g.1 g.2
    exact ⟨e, he, hsame, g, hg, hsame, hvalue⟩
  · rintro done ⟨e, he, hsame, hgiven⟩ f hf
    obtain hkept | ⟨hplace, hnew⟩ := mem_insertEntry he f.1 f.2
    · exact ⟨e, hkept, hsame, hgiven⟩
    · exact ⟨(e.1, f.2), hnew, hsame, f, hafter f hf, hplace, rfl⟩

end Entries

/-! ## Merging values -/

/-- The items of a list or a tuple. -/
def sequence? : Value → Option (List Value)
  | list items => some items
  | tuple items => some items
  | _ => none

lemma merge_list {new : Value} {news : List Value} (h : new.sequence? = some news)
    (items : List Value) : (list items).merge new = list (gain items news) := by
  cases new with
  | list _ => rw [← Option.some.inj h]; rfl
  | tuple _ => rw [← Option.some.inj h]; rfl
  | _ => cases h

/-- Anything but a list with a list or a tuple, or a mapping with a mapping, is replaced. -/
lemma merge_replaced {old new : Value}
    (hlist : ∀ items news, old = list items → new.sequence? ≠ some news)
    (hmap : ∀ entries news, old = map entries → new ≠ map news) : old.merge new = new := by
  cases old with
  | list items =>
    cases new with
    | list news => exact absurd rfl (hlist items news rfl)
    | tuple news => exact absurd rfl (hlist items news rfl)
    | _ => rfl
  | map entries =>
    cases new with
    | map news => exact absurd rfl (hmap entries news rfl)
    | _ => rfl
  | _ => rfl

/-- Merging gives a list only for a list or a tuple. -/
lemma sequence?_of_merge_eq_list {old new : Value} {items : List Value}
    (h : old.merge new = list items) : ∃ news, new.sequence? = some news := by
  cases new with
  | list news => exact ⟨news, rfl⟩
  | tuple news => exact ⟨news, rfl⟩
  | _ => cases old <;> cases h

/-- A value that is merged with itself stays as it is. -/
lemma merge_self {v : Value} (h : ∀ entries, v = map entries → DistinctKeys entries) :
    v.merge v = v := by
  cases v with
  | list items => exact congrArg list (gain_eq_self_iff.mpr fun _ => isAmong_of_mem)
  | map entries =>
    have hupdate : update entries entries = entries := by
      have htwice := update_update [] entries
      rwa [update_nil (h entries rfl)] at htwice
    exact congrArg map hupdate
  | _ => rfl

/-- What is merged a second time has been taken over already, by whichever rule. -/
lemma merge_merge (old : Value) {new : Value}
    (hnew : ∀ entries, new = map entries → DistinctKeys entries) :
    (old.merge new).merge new = old.merge new := by
  by_cases hlist : ∃ items news, old = list items ∧ new.sequence? = some news
  · obtain ⟨items, news, rfl, hnews⟩ := hlist
    rw [merge_list hnews, merge_list hnews, gain_eq_self_iff.mpr fun _ => isAmong_gain items]
  by_cases hmap : ∃ entries news, old = map entries ∧ new = map news
  · obtain ⟨entries, news, rfl, rfl⟩ := hmap
    exact congrArg map (update_update entries news)
  have hreplaced : old.merge new = new := merge_replaced
    (fun items news hold hseq => hlist ⟨items, news, hold, hseq⟩)
    (fun entries news hold hmaps => hmap ⟨entries, news, hold, hmaps⟩)
  rw [hreplaced, merge_self hnew]

end Value

end ComponentFlow

import ComponentFlow.Text.Blank
import Mathlib.Tactic.Lemma

/-!
# Trimmed texts

Trimming drops the blanks at both ends of a text and nothing else: what is left neither starts nor
ends with a blank (`head?_trim`, `getLast?_trim`), a text of this kind is left as it is
(`trim_eq_self`), and blanks around a text make no difference (`trim_surrounded`).
-/

namespace ComponentFlow.Text

variable {c : Char} {s t blanks : List Char}

/-! ## One end -/

lemma head?_trimStart (s : List Char) : ∀ c ∈ (trimStart s).head?, isBlank c = false := by
  induction s with
  | nil => simp [trimStart]
  | cons c rest ih =>
    by_cases hc : isBlank c = true
    · simpa [trimStart, hc] using ih
    · simp [trimStart, hc]

lemma trimStart_eq_self {s : List Char} (h : ∀ c ∈ s.head?, isBlank c = false) :
    trimStart s = s := by
  cases s with
  | nil => rfl
  | cons c rest => simp [trimStart, h c (by simp)]

lemma trimStart_append (h : ∀ c ∈ blanks, isBlank c = true) (s : List Char) :
    trimStart (blanks ++ s) = trimStart s :=
  List.dropWhile_append_of_pos h

lemma trimEnd_eq_reverse (s : List Char) : trimEnd s = (trimStart s.reverse).reverse := rfl

lemma isPrefix_trimEnd (s : List Char) : trimEnd s <+: s := by
  rw [trimEnd_eq_reverse, ← List.reverse_suffix, List.reverse_reverse]
  exact List.dropWhile_suffix _

lemma trimEnd_append (h : ∀ c ∈ blanks, isBlank c = true) (s : List Char) :
    trimEnd (s ++ blanks) = trimEnd s := by
  have hreverse : ∀ c ∈ blanks.reverse, isBlank c = true :=
    fun c hc => h c (List.mem_reverse.mp hc)
  rw [trimEnd_eq_reverse, List.reverse_append, trimStart_append hreverse, trimEnd_eq_reverse]

/-- Only what follows the last character that is not blank is dropped. -/
lemma trimEnd_append_cons (hc : isBlank c = false) (s t : List Char) :
    trimEnd (s ++ c :: t) = s ++ c :: trimEnd t := by
  rw [trimEnd_eq_reverse, trimEnd_eq_reverse, List.reverse_append, List.reverse_cons, trimStart,
    List.append_assoc, List.dropWhile_append]
  split
  · rename_i hblank
    rw [trimStart, List.isEmpty_iff.mp hblank]
    simp [hc]
  · simp [trimStart]

/-! ## Both ends -/

lemma trim_sublist (s : List Char) : (trim s).Sublist s :=
  (isPrefix_trimEnd _).sublist.trans (List.dropWhile_sublist _)

lemma head?_trim (s : List Char) : ∀ c ∈ (trim s).head?, isBlank c = false := by
  intro c hc
  refine head?_trimStart s c ?_
  -- what is left after the end is trimmed starts as before
  obtain ⟨rest, hrest⟩ := isPrefix_trimEnd (trimStart s)
  rw [trim] at hc
  rw [← hrest, List.head?_append, Option.mem_def.mp hc]
  rfl

lemma getLast?_trim (s : List Char) : ∀ c ∈ (trim s).getLast?, isBlank c = false := by
  rw [trim, trimEnd_eq_reverse, List.getLast?_reverse]
  exact head?_trimStart _

lemma trim_eq_self (hhead : ∀ c ∈ s.head?, isBlank c = false)
    (hlast : ∀ c ∈ s.getLast?, isBlank c = false) : trim s = s := by
  rw [← List.head?_reverse] at hlast
  rw [trim, trimStart_eq_self hhead, trimEnd_eq_reverse, trimStart_eq_self hlast,
    List.reverse_reverse]

/-- Trimming twice is trimming once. -/
lemma trim_trim (s : List Char) : trim (trim s) = trim s :=
  trim_eq_self (head?_trim s) (getLast?_trim s)

lemma trim_cons_of_isBlank (h : isBlank c = true) (s : List Char) : trim (c :: s) = trim s := by
  rw [trim, trimStart, List.dropWhile_cons, if_pos h]
  rfl

/-- Blanks around a text make no difference. -/
lemma trim_surrounded {before after : List Char} (hbefore : ∀ c ∈ before, isBlank c = true)
    (hafter : ∀ c ∈ after, isBlank c = true) (s : List Char) :
    trim (before ++ s ++ after) = trim s := by
  rw [List.append_assoc, trim, trimStart_append hbefore, trimStart, List.dropWhile_append]
  split
  · rename_i hblank
    have hnone : trimStart after = [] := by simpa [trimStart] using trimStart_append hafter []
    rw [trim, ← trimStart, hnone, trimStart, List.isEmpty_iff.mp hblank]
  · rw [trimEnd_append hafter, ← trimStart, trim]

/-- A text is what is left of it with blanks around. -/
lemma exists_eq_append_trim (s : List Char) : ∃ before after, s = before ++ trim s ++ after ∧
    (∀ c ∈ before, isBlank c = true) ∧ ∀ c ∈ after, isBlank c = true := by
  refine ⟨s.takeWhile isBlank, ((trimStart s).reverse.takeWhile isBlank).reverse, ?_, ?_, ?_⟩
  · have hend : trimEnd (trimStart s) ++ ((trimStart s).reverse.takeWhile isBlank).reverse =
        trimStart s := by
      rw [trimEnd, ← List.reverse_append, List.takeWhile_append_dropWhile, List.reverse_reverse]
    rw [List.append_assoc, trim, hend]
    exact List.takeWhile_append_dropWhile.symm
  · exact fun c hc => List.all_eq_true.mp List.all_takeWhile c hc
  · exact fun c hc => List.all_eq_true.mp List.all_takeWhile c (List.mem_reverse.mp hc)

end ComponentFlow.Text

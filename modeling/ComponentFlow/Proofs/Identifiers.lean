import ComponentFlow.Text.Blank
import ComponentFlow.Text.Names
import Mathlib.Tactic.Lemma

/-!
# Identifiers

Types and references are read without a table of the characters that make up an identifier: only
the signs around it matter. So what is proved about them holds for identifiers of all scripts. An
identifier is any text of ASCII letters and digits, underscores, dollar signs and characters outside
of ASCII that are not blank.
-/

namespace ComponentFlow.Text

variable {c d : Char} {s : List Char}

/-- Characters of identifiers, in any script. -/
def isIdentifierPart (c : Char) : Bool :=
  if c.toNat < 128 then c.isAlphanum || c == '_' || c == '$' else !isBlank c

/-- Whether a text is an identifier. -/
structure IsIdentifier (s : List Char) : Prop where
  ne_nil : s ≠ []
  part : ∀ c ∈ s, isIdentifierPart c = true

lemma isIdentifier_iff : IsIdentifier s ↔ s ≠ [] ∧ s.all isIdentifierPart = true := by
  rw [List.all_eq_true]
  exact ⟨fun h => ⟨h.ne_nil, h.part⟩, fun h => ⟨h.1, h.2⟩⟩

instance (s : List Char) : Decidable (IsIdentifier s) := decidable_of_iff _ isIdentifier_iff.symm

/-- An identifier has none of the signs that stand between identifiers. -/
lemma ne_of_isIdentifierPart (hc : isIdentifierPart c = true) (hd : isIdentifierPart d = false) :
    c ≠ d := by
  rintro rfl
  rw [hc] at hd
  cases hd

lemma isBlank_of_isIdentifierPart (h : isIdentifierPart c = true) : isBlank c = false := by
  by_cases hascii : c.toNat < 128
  · have hall : ∀ n < 128, isIdentifierPart (Char.ofNat n) = true →
        isBlank (Char.ofNat n) = false := by decide
    have hc := hall c.toNat hascii
    rw [Char.ofNat_toNat] at hc
    exact hc h
  · simpa [isIdentifierPart, hascii] using h

lemma IsIdentifier.isBlank_eq_false (h : IsIdentifier s) : ∀ c ∈ s, isBlank c = false :=
  fun c hc => isBlank_of_isIdentifierPart (h.part c hc)

/-! ## Names -/

/-- No word character is blank. -/
lemma isBlank_of_isWord (h : isWord c = true) : isBlank c = false := by
  have hapart : ∀ span ∈ blankSpans, ∀ n ∈ List.range' span.1 (span.2 + 1 - span.1),
      isWord (Char.ofNat n) = false := by decide +kernel
  rw [Bool.eq_false_iff]
  intro hblank
  obtain ⟨span, hspan, hbounds⟩ := List.any_eq_true.mp hblank
  obtain ⟨hlow, hhigh⟩ : span.1 ≤ c.toNat ∧ c.toNat ≤ span.2 := by simpa using hbounds
  have hno := hapart span hspan c.toNat (List.mem_range'_1.mpr (by omega))
  rw [Char.ofNat_toNat, h] at hno
  cases hno

lemma isWord_of_isLetter (h : (c.isUpper || c.isLower) = true) : isWord c = true := by
  have hascii : c.toNat < 128 := by
    obtain hupper | hlower := (Bool.or_eq_true _ _).mp h
    · have hle : c.val ≤ 'Z'.val := (of_decide_eq_true hupper).2
      exact Nat.lt_of_le_of_lt (UInt32.le_iff_toNat_le.mp hle) (by decide)
    · have hle : c.val ≤ 'z'.val := of_decide_eq_true ((Bool.and_eq_true _ _).mp hlower).2
      exact Nat.lt_of_le_of_lt (UInt32.le_iff_toNat_le.mp hle) (by decide)
  rw [isWord, if_pos hascii, Char.isAlphanum, show c.isAlpha = true from h]
  rfl

lemma isNamePart_of_isNameStart (h : isNameStart c = true) : isNamePart c = true := by
  rw [isNameStart, Bool.or_eq_true, Bool.or_eq_true, beq_iff_eq, beq_iff_eq] at h
  rcases h with (h | rfl) | rfl
  · rw [isNamePart, isWord_of_isLetter h]
    rfl
  · rfl
  · rfl

end ComponentFlow.Text

import ComponentFlow.Text.Blank
import ComponentFlow.TypeText.Scan

/-!
# Splitting type texts

A type text is split at separators outside of brackets and literals. The parts are trimmed, and
blank parts are dropped.
-/

namespace ComponentFlow.TypeText

/-- The parts of a text between the separators at top level. -/
def splitTopLevel (separators s : List Char) : List (List Char) :=
  ((cut separators.contains .start s).map Text.trim).filter (!·.isEmpty)

theorem length_trim_le (s : List Char) : (Text.trim s).length ≤ s.length := by
  simp only [Text.trim, Text.trimEnd, Text.trimStart, List.length_reverse]
  have h1 := (List.dropWhile_sublist Text.isBlank (l := s)).length_le
  have h2 := (List.dropWhile_sublist Text.isBlank
    (l := (s.dropWhile Text.isBlank).reverse)).length_le
  simp only [List.length_reverse] at h2
  omega

/-- Removes brackets `( )` around the whole text, as often as there are any, and blanks. -/
def stripParens (s : List Char) : List Char :=
  let t := Text.trim s
  if t.head? == some '(' then
    match _h : enclosed? t with
    | some (inner, []) => stripParens inner
    | _ => t
  else t
termination_by s.length
decreasing_by
  exact Nat.lt_of_lt_of_le (length_enclosed?_lt _h) (length_trim_le s)

theorem length_stripParens_le (s : List Char) : (stripParens s).length ≤ s.length := by
  fun_induction stripParens s with
  | case1 s t _ inner hinner ih =>
    exact Nat.le_trans ih
      (Nat.le_of_lt (Nat.lt_of_lt_of_le (length_enclosed?_lt hinner) (length_trim_le s)))
  | case2 s => exact length_trim_le s
  | case3 s => exact length_trim_le s

/-- A part of a text that has several parts is shorter than the text. -/
theorem length_splitTopLevel_lt {separators s p : List Char}
    (h : 2 ≤ (splitTopLevel separators s).length) (hp : p ∈ splitTopLevel separators s) :
    p.length < s.length := by
  have hcut : 2 ≤ (cut separators.contains .start s).length := by
    have h1 := List.length_filter_le (!·.isEmpty)
      ((cut separators.contains .start s).map Text.trim)
    simp only [splitTopLevel] at h
    simp only [List.length_map] at h1
    omega
  simp only [splitTopLevel, List.mem_filter, List.mem_map] at hp
  obtain ⟨⟨q, hq, rfl⟩, -⟩ := hp
  have h1 := length_trim_le q
  have h2 := length_cut_piece_lt _ _ _ hcut q hq
  omega

end ComponentFlow.TypeText

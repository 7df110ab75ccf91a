/-!
# Cutting

Cutting a list of characters at a separator. Cutting never drops a piece: the pieces of a text with
the separator between them give the text back.
-/

namespace ComponentFlow.Text

/-- The text before the first occurrence of `sep`; the whole text if there is none. -/
def before (sep : Char) (s : List Char) : List Char :=
  s.takeWhile (· != sep)

/-- The text after the first occurrence of `sep`. -/
def after? (sep : Char) : List Char → Option (List Char)
  | [] => none
  | c :: rest => if c == sep then some rest else after? sep rest

theorem after?_eq_none {c : Char} {s : List Char} (h : c ∉ s) : after? c s = none := by
  induction s with
  | nil => rfl
  | cons d s ih =>
    rw [List.mem_cons, not_or] at h
    rw [after?, if_neg (by simpa using Ne.symm h.1)]
    exact ih h.2

theorem after?_append {c : Char} {s rest : List Char} (h : c ∉ s) :
    after? c (s ++ c :: rest) = some rest := by
  induction s with
  | nil => simp [after?]
  | cons d s ih =>
    rw [List.mem_cons, not_or] at h
    rw [List.cons_append, after?, if_neg (by simpa using Ne.symm h.1)]
    exact ih h.2

/-- The pieces between the occurrences of `sep`, empty ones included. -/
def pieces (sep : Char) : List Char → List (List Char)
  | [] => [[]]
  | c :: rest =>
    if c == sep then [] :: pieces sep rest
    else
      match pieces sep rest with
      | [] => [[c]]
      | piece :: more => (c :: piece) :: more

theorem pieces_ne_nil (c : Char) (s : List Char) : pieces c s ≠ [] := by
  fun_cases pieces c s <;> simp

theorem pieces_eq_single {c : Char} {s : List Char} (h : c ∉ s) : pieces c s = [s] := by
  induction s with
  | nil => rfl
  | cons d s ih =>
    rw [List.mem_cons, not_or] at h
    rw [pieces, if_neg (by simpa using Ne.symm h.1), ih h.2]

/-- The pieces of two texts, with a separator between them. -/
theorem pieces_append_cons (c : Char) (s rest : List Char) :
    pieces c (s ++ c :: rest) = pieces c s ++ pieces c rest := by
  induction s with
  | nil => simp [pieces]
  | cons d s ih =>
    rw [List.cons_append, pieces, pieces, ih]
    split
    · rfl
    · cases hpieces : pieces c s with
      | nil => exact absurd hpieces (pieces_ne_nil c s)
      | cons piece more => rfl

/-- The rest of `s` after the text `start`, if `s` starts with it. -/
def afterStart? : (start s : List Char) → Option (List Char)
  | [], s => some s
  | _ :: _, [] => none
  | a :: start, c :: s => if a == c then afterStart? start s else none

theorem afterStart?_eq_some_iff {start s rest : List Char} :
    afterStart? start s = some rest ↔ s = start ++ rest := by
  induction start generalizing s with
  | nil => simp [afterStart?]
  | cons a start ih =>
    cases s with
    | nil => simp [afterStart?]
    | cons c s =>
      rw [afterStart?, List.cons_append, List.cons.injEq]
      by_cases hac : a = c
      · simp [hac, ih]
      · simp [hac, Ne.symm hac]

/-- The rest of `s` before the text `tail`, if `s` ends with it. -/
def beforeEnd? (tail s : List Char) : Option (List Char) :=
  (afterStart? tail.reverse s.reverse).map List.reverse

/-- Whether `s` starts with `start`. -/
def startsWith (s start : String) : Bool :=
  (afterStart? start.toList s.toList).isSome

/-- Whether `s` ends with `tail`. -/
def endsWith (s tail : String) : Bool :=
  (beforeEnd? tail.toList s.toList).isSome

/-- The text without one line break at its very end. -/
def withoutFinalBreak (s : List Char) : List Char :=
  match s.reverse with
  | '\n' :: rest => rest.reverse
  | _ => s

end ComponentFlow.Text

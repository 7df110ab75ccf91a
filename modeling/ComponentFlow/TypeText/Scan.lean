/-!
# Scanning type texts

Types are known as texts only and are never parsed. All questions about them are answered by one
scan that tells, for each character, whether it stands outside string literals and how deep it is
nested in brackets there. Brackets of all kinds count alike, and the `>` of an arrow `=>` is not a
bracket.
-/

namespace ComponentFlow.TypeText

/-- Whether a character opens a bracket. -/
def isOpener (c : Char) : Bool :=
  c == '\x7b' || c == '<' || c == '(' || c == '['

/-- Whether a character looks like a closing bracket. -/
def isCloser (c : Char) : Bool :=
  c == '\x7d' || c == '>' || c == ')' || c == ']'

/-- Whether a character opens a string literal. -/
def isQuote (c : Char) : Bool :=
  c == '"' || c == '\'' || c == '\x60'

/-- Where the scan stands inside a string literal. -/
inductive Literal where
  /-- Outside of literals. -/
  | outside
  /-- Inside a literal that ends with the given quote. -/
  | inside (quote : Char)
  /-- Inside a literal, after a backslash: the next character has no meaning. -/
  | escaped (quote : Char)
  deriving Repr, DecidableEq, Inhabited

/-- The state of the scan before a character. -/
structure State where
  depth : Nat := 0
  literal : Literal := .outside
  previous : Option Char := none
  deriving Repr, DecidableEq, Inhabited

/-- The state at the start of a text. -/
def State.start : State := {}

/-- Whether a character closes a bracket: a closer that is not the end of an arrow. -/
def State.closes (st : State) (c : Char) : Bool :=
  isCloser c && !(c == '>' && st.previous == some '=')

/-- The state after a character. -/
def State.step (st : State) (c : Char) : State :=
  match st.literal with
  | .escaped quote => { st with literal := .inside quote, previous := some c }
  | .inside quote =>
    if c == '\\' then { st with literal := .escaped quote, previous := some c }
    else if c == quote then { st with literal := .outside, previous := some c }
    else { st with previous := some c }
  | .outside =>
    if isQuote c then { st with literal := .inside c, previous := some c }
    else if isOpener c then { st with depth := st.depth + 1, previous := some c }
    else if st.closes c then { st with depth := st.depth - 1, previous := some c }
    else { st with previous := some c }

/-- Whether a character is seen: outside of literals and not a quote. -/
def State.sees (st : State) (c : Char) : Bool :=
  st.literal == .outside && !isQuote c

/-- The state after a whole text. -/
def State.run (st : State) (s : List Char) : State :=
  s.foldl State.step st

/-- The pieces between the characters that are seen at depth zero and satisfy `isSep`. -/
def cut (isSep : Char → Bool) (st : State) : List Char → List (List Char)
  | [] => [[]]
  | c :: rest =>
    let more := cut isSep (st.step c) rest
    if st.sees c && st.depth == 0 && isSep c then [] :: more
    else
      match more with
      | [] => [[c]]
      | piece :: others => (c :: piece) :: others

/-- The text before the first closing bracket that is seen at depth one, and the text after it. -/
def untilClose? (st : State) : List Char → Option (List Char × List Char)
  | [] => none
  | c :: rest =>
    if st.sees c && st.depth == 1 && st.closes c then some ([], rest)
    else (untilClose? (st.step c) rest).map fun (inner, rest) => (c :: inner, rest)

/-- For a text that starts with a bracket, the text inside it and the text after it. -/
def enclosed? : List Char → Option (List Char × List Char)
  | [] => none
  | c :: rest => untilClose? (State.start.step c) rest

/-! ## Lengths

A piece is no longer than the text it is cut from, and shorter if there are several. -/

theorem length_cut_piece_le (isSep : Char → Bool) (st : State) (s : List Char) :
    ∀ p ∈ cut isSep st s, p.length ≤ s.length := by
  fun_induction cut isSep st s with
  | case1 => simp
  | case2 st c rest more hsep ih =>
    intro p hp
    simp only [List.mem_cons] at hp
    rcases hp with rfl | hp
    · simp
    · have := ih p hp
      simp only [List.length_cons]
      omega
  | case3 st c rest more hsep hmore ih =>
    simp
  | case4 st c rest more hsep piece others hmore ih =>
    intro p hp
    simp only [List.mem_cons] at hp
    rcases hp with rfl | hp
    · have := ih piece (by simp [more] at hmore; rw [hmore]; simp)
      simp only [List.length_cons]
      omega
    · have := ih p (by simp [more] at hmore; rw [hmore]; simp [hp])
      simp only [List.length_cons]
      omega

theorem length_cut_piece_lt (isSep : Char → Bool) (st : State) (s : List Char)
    (h : 2 ≤ (cut isSep st s).length) : ∀ p ∈ cut isSep st s, p.length < s.length := by
  fun_induction cut isSep st s with
  | case1 => simp at h
  | case2 st c rest more hsep ih =>
    intro p hp
    simp only [List.mem_cons] at hp
    rcases hp with rfl | hp
    · simp
    · have := length_cut_piece_le isSep (st.step c) rest p hp
      simp only [List.length_cons]
      omega
  | case3 st c rest more hsep hmore ih => simp at h
  | case4 st c rest more hsep piece others hmore ih =>
    simp only [more] at hmore
    have h' : 2 ≤ (cut isSep (st.step c) rest).length := by rw [hmore]; simpa using h
    intro p hp
    simp only [List.mem_cons] at hp
    rcases hp with rfl | hp
    · have := ih h' piece (by rw [hmore]; simp)
      simp only [List.length_cons]
      omega
    · have := ih h' p (by rw [hmore]; simp [hp])
      simp only [List.length_cons]
      omega

theorem length_untilClose?_lt {st : State} {s inner rest : List Char}
    (h : untilClose? st s = some (inner, rest)) : inner.length < s.length := by
  induction s generalizing st inner with
  | nil => simp [untilClose?] at h
  | cons c s ih =>
    simp only [untilClose?] at h
    split at h
    · simp only [Option.some.injEq, Prod.mk.injEq] at h
      simp [← h.1]
    · simp only [Option.map_eq_some_iff, Prod.mk.injEq, Prod.exists] at h
      obtain ⟨i, r, hi, rfl, rfl⟩ := h
      have := ih hi
      simp only [List.length_cons]
      omega

theorem length_enclosed?_lt {s inner rest : List Char} (h : enclosed? s = some (inner, rest)) :
    inner.length < s.length := by
  cases s with
  | nil => simp [enclosed?] at h
  | cons c s =>
    have := length_untilClose?_lt h
    simp only [List.length_cons]
    omega

end ComponentFlow.TypeText

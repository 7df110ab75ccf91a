import ComponentFlow.Proofs.Trimming
import ComponentFlow.TypeText.Split

/-!
# Scans of closed texts

A type text is scanned character by character, and what the scan sees depends on where it stands:
how deep it is in brackets, whether it is inside a literal, and whether an `=` came right before. A
text is `Closed` if its literals are closed and its brackets match. Such a text is scanned alike
wherever it stands: the scan at some depth and the scan from the start keep seeing the same, as far
apart as they were (`State.Below.run`). Outside of brackets and literals the scan goes on as from
the start of a text, whatever came before (`State.Outer`), so closed texts can be put together
(`Closed.append`).

So the closing bracket that belongs to an opening one is found behind a closed text
(`enclosed?_closed`), and a text that is not divided at top level goes to one piece as a whole
(`cut_append`).
-/

namespace ComponentFlow.TypeText

/-! ## Closed texts -/

/-- Whether a character closes a bracket although none is open. -/
def State.overcloses (st : State) (c : Char) : Bool :=
  st.sees c && st.closes c && st.depth == 0

/-- Whether no bracket is closed although none is open. -/
def State.nests (st : State) : List Char → Bool
  | [] => true
  | c :: rest => !st.overcloses c && (st.step c).nests rest

/-- Whether a text ends outside of literals and closes the brackets that it opens, and no others. -/
structure Closed (s : List Char) : Prop where
  nests : State.start.nests s = true
  level : (State.start.run s).depth = 0
  outside : (State.start.run s).literal = .outside

lemma closed_iff {s : List Char} : Closed s ↔ State.start.nests s = true ∧
    (State.start.run s).depth = 0 ∧ (State.start.run s).literal = .outside :=
  ⟨fun h => ⟨h.nests, h.level, h.outside⟩, fun h => ⟨h.1, h.2.1, h.2.2⟩⟩

instance (s : List Char) : Decidable (Closed s) :=
  decidable_of_iff _ closed_iff.symm

/-- Whether a character divides the text: it is seen outside of brackets and is a separator. -/
def State.divides (isSep : Char → Bool) (st : State) (c : Char) : Bool :=
  st.sees c && st.depth == 0 && isSep c

/-- Whether no character divides the text. -/
def State.undivided (isSep : Char → Bool) (st : State) : List Char → Bool
  | [] => true
  | c :: rest => !st.divides isSep c && (st.step c).undivided isSep rest

variable {st st' : State} {c : Char} {d : Nat} {s t : List Char} {isSep : Char → Bool}

lemma State.run_cons (st : State) (c : Char) (s : List Char) :
    st.run (c :: s) = (st.step c).run s := rfl

lemma State.run_append (st : State) (s t : List Char) : st.run (s ++ t) = (st.run s).run t :=
  List.foldl_append

lemma State.nests_cons_iff : st.nests (c :: s) = true ↔
    st.overcloses c = false ∧ (st.step c).nests s = true := by
  simp [nests]

lemma State.undivided_cons_iff : st.undivided isSep (c :: s) = true ↔
    st.divides isSep c = false ∧ (st.step c).undivided isSep s = true := by
  simp [undivided]

lemma State.nests_append (st : State) (s t : List Char) :
    st.nests (s ++ t) = (st.nests s && (st.run s).nests t) := by
  induction s generalizing st with
  | nil => rfl
  | cons c s ih => simp only [List.cons_append, nests, run_cons, ih, Bool.and_assoc]

lemma State.undivided_append (st : State) (s t : List Char) :
    st.undivided isSep (s ++ t) = (st.undivided isSep s && (st.run s).undivided isSep t) := by
  induction s generalizing st with
  | nil => rfl
  | cons c s ih => simp only [List.cons_append, undivided, run_cons, ih, Bool.and_assoc]

/-! ## Characters outside of literals -/

lemma isOpener_apart (h : isOpener c = true) : isQuote c = false ∧ isCloser c = false := by
  simp only [isOpener, Bool.or_eq_true, beq_iff_eq] at h
  obtain ((rfl | rfl) | rfl) | rfl := h <;> exact ⟨rfl, rfl⟩

lemma isCloser_apart (h : isCloser c = true) : isQuote c = false ∧ isOpener c = false := by
  simp only [isCloser, Bool.or_eq_true, beq_iff_eq] at h
  obtain ((rfl | rfl) | rfl) | rfl := h <;> exact ⟨rfl, rfl⟩

/-- Whether a character is neither a quote nor a bracket. -/
def isNeutral (c : Char) : Bool :=
  !isQuote c && !isOpener c && !isCloser c

lemma isNeutral_iff :
    isNeutral c = true ↔ isQuote c = false ∧ isOpener c = false ∧ isCloser c = false := by
  simp [isNeutral, and_assoc]

/-- A class of characters without quotes and brackets has neutral characters only. -/
lemma isNeutral_of_class {p : Char → Bool} (h : p c = true)
    (hp : ['"', '\'', '\x60', '\x7b', '<', '(', '[', '\x7d', '>', ')', ']'].all (!p ·) = true) :
    isNeutral c = true := by
  have hne : ∀ d ∈ ['"', '\'', '\x60', '\x7b', '<', '(', '[', '\x7d', '>', ')', ']'], c ≠ d := by
    rintro d hd rfl
    have hno := List.all_eq_true.mp hp c hd
    rw [h] at hno
    cases hno
  simp only [List.forall_mem_cons] at hne
  simp [isNeutral, isQuote, isOpener, isCloser, hne]

lemma isNeutral_of_isBlank (h : Text.isBlank c = true) : isNeutral c = true :=
  isNeutral_of_class h (by decide)

lemma State.sees_outside (h : st.literal = .outside) (hc : isQuote c = false) :
    st.sees c = true := by
  simp [sees, h, hc]

lemma State.step_opener (h : st.literal = .outside) (hc : isOpener c = true) :
    st.step c = { depth := st.depth + 1, literal := .outside, previous := some c } := by
  simp [step, h, (isOpener_apart hc).1, hc]

lemma State.step_closer (h : st.literal = .outside) (hc : isCloser c = true)
    (hcloses : st.closes c = true) :
    st.step c = { depth := st.depth - 1, literal := .outside, previous := some c } := by
  obtain ⟨hquote, hopener⟩ := isCloser_apart hc
  simp [step, h, hquote, hopener, hcloses]

/-- All other characters, and the end of an arrow, leave the depth as it is. -/
lemma State.step_other (h : st.literal = .outside) (hquote : isQuote c = false)
    (hopener : isOpener c = false) (hcloses : st.closes c = false) :
    st.step c = { depth := st.depth, literal := .outside, previous := some c } := by
  simp [step, h, hquote, hopener, hcloses]

/-! ## Outside of brackets and literals -/

/-- Whether the scan stands outside of brackets and literals, as at the start of a text. -/
structure State.Outer (st : State) : Prop where
  depth : st.depth = 0
  literal : st.literal = .outside

lemma State.outer_iff : st.Outer ↔ st.depth = 0 ∧ st.literal = .outside :=
  ⟨fun h => ⟨h.depth, h.literal⟩, fun h => ⟨h.1, h.2⟩⟩

instance (st : State) : Decidable st.Outer := decidable_of_iff _ State.outer_iff.symm

namespace State.Outer

lemma start : State.start.Outer := ⟨rfl, rfl⟩

/-- From here on the text is scanned as from its start. Even the end of an arrow and a bracket that
closes nothing lead to the same state, since no bracket is open. -/
lemma step (h : st.Outer) (c : Char) : st.step c = State.start.step c := by
  obtain ⟨hdepth, hliteral⟩ := h
  have hstart : State.start.literal = .outside := rfl
  simp only [State.step, hliteral, hstart, hdepth]
  by_cases hquote : isQuote c = true
  · rw [if_pos hquote, if_pos hquote]
    rfl
  by_cases hopener : isOpener c = true
  · rw [if_neg hquote, if_neg hquote, if_pos hopener, if_pos hopener]
    rfl
  rw [if_neg hquote, if_neg hquote, if_neg hopener, if_neg hopener]
  split <;> split <;> rfl

lemma step_neutral (h : st.Outer) (hc : isNeutral c = true) : (st.step c).Outer := by
  obtain ⟨hquote, hopener, hcloser⟩ := isNeutral_iff.mp hc
  rw [step_other h.literal hquote hopener (by simp [closes, hcloser])]
  exact ⟨h.depth, rfl⟩

lemma run (h : st.Outer) (hs : (State.start.run s).Outer) : (st.run s).Outer := by
  cases s with
  | nil => exact h
  | cons c s => rwa [run_cons, h.step, ← run_cons]

lemma divides (h : st.Outer) (c : Char) : st.divides isSep c = (!isQuote c && isSep c) := by
  simp [State.divides, sees, h.depth, h.literal]

lemma undivided (h : st.Outer) (s : List Char) :
    st.undivided isSep s = State.start.undivided isSep s := by
  cases s with
  | nil => rfl
  | cons c s => rw [State.undivided, State.undivided, h.divides, start.divides, h.step]

/-- A text that nests does not start with a closing bracket, so what came before it is no matter. -/
lemma nests (h : st.Outer) (hs : State.start.nests s = true) : st.nests s = true := by
  cases s with
  | nil => rfl
  | cons c s =>
    obtain ⟨hc, hrest⟩ := nests_cons_iff.mp hs
    refine nests_cons_iff.mpr ⟨?_, by rwa [h.step]⟩
    have hkept : State.start.overcloses c = (!isQuote c && isCloser c) := by
      simp [overcloses, sees, closes, State.start]
    rw [hkept] at hc
    rw [overcloses, sees, closes, h.literal]
    cases hquote : isQuote c with
    | true => simp
    | false =>
      rw [hquote, Bool.not_false, Bool.true_and] at hc
      simp [hc]

end State.Outer

lemma Closed.outer (hs : Closed s) : (State.start.run s).Outer := ⟨hs.level, hs.outside⟩

/-- Closed texts that are put together make a closed text. -/
lemma Closed.append (hs : Closed s) (ht : Closed t) : Closed (s ++ t) := by
  have hend : (State.start.run (s ++ t)).Outer := by
    rw [State.run_append]
    exact hs.outer.run ht.outer
  refine ⟨?_, hend.depth, hend.literal⟩
  rw [State.nests_append, hs.nests, hs.outer.nests ht.nests]
  rfl

/-- Texts without brackets and quotes are closed. -/
lemma closed_of_neutral (hs : ∀ c ∈ s, isNeutral c = true) : Closed s := by
  induction s with
  | nil => exact ⟨rfl, rfl, rfl⟩
  | cons c s ih =>
    obtain ⟨hc, hrest⟩ := List.forall_mem_cons.mp hs
    have hend : (State.start.run [c]).Outer := State.Outer.start.step_neutral hc
    have hkept : State.start.overcloses c = false := by
      simp [State.overcloses, State.closes, (isNeutral_iff.mp hc).2.2]
    have hsingle : Closed [c] :=
      ⟨State.nests_cons_iff.mpr ⟨hkept, rfl⟩, hend.depth, hend.literal⟩
    exact hsingle.append (ih hrest)

/-! ## Scanning at another depth -/

/-- A state that is some levels deeper than another one and apart from that sees the same. -/
structure State.Below (d : Nat) (st st' : State) : Prop where
  depth : st'.depth = st.depth + d
  literal : st'.literal = st.literal
  arrow : (st'.previous == some '=') = (st.previous == some '=')

namespace State.Below

lemma sees (h : Below d st st') (c : Char) : st'.sees c = st.sees c := by
  rw [State.sees, State.sees, h.literal]

lemma closes (h : Below d st st') (c : Char) : st'.closes c = st.closes c := by
  rw [State.closes, State.closes, h.arrow]

/-- A character leads to states that are as far apart, unless it closes a bracket that is open in
one of them only. -/
lemma step (h : Below d st st') (hc : st.overcloses c = false) :
    Below d (st.step c) (st'.step c) := by
  have hcloses := h.closes c
  obtain ⟨hdepth, hliteral, -⟩ := h
  simp only [State.step, hliteral]
  cases houtside : st.literal with
  | escaped quote => exact ⟨hdepth, rfl, rfl⟩
  | inside quote =>
    dsimp only
    split
    · exact ⟨hdepth, rfl, rfl⟩
    split
    · exact ⟨hdepth, rfl, rfl⟩
    · exact ⟨hdepth, rfl, rfl⟩
  | outside =>
    dsimp only
    rw [hcloses]
    split
    · exact ⟨hdepth, rfl, rfl⟩
    split
    · exact ⟨by dsimp only; omega, rfl, rfl⟩
    split
    · rename_i hquote _ hshut
      refine ⟨?_, rfl, rfl⟩
      have hopen : st.depth ≠ 0 := by
        intro hzero
        rw [overcloses, State.sees_outside houtside (Bool.eq_false_iff.mpr hquote), hshut, hzero]
          at hc
        cases hc
      dsimp only
      omega
    · exact ⟨hdepth, rfl, rfl⟩

lemma run (h : Below d st st') (hs : st.nests s = true) :
    Below d (st.run s) (st'.run s) := by
  induction s generalizing st st' with
  | nil => exact h
  | cons c s ih =>
    obtain ⟨hc, hrest⟩ := nests_cons_iff.mp hs
    exact ih (h.step hc) hrest

/-- What nests at one depth nests further down. -/
lemma nests (h : Below d st st') (hs : st.nests s = true) : st'.nests s = true := by
  induction s generalizing st st' with
  | nil => rfl
  | cons c s ih =>
    obtain ⟨hc, hrest⟩ := State.nests_cons_iff.mp hs
    have hkept : st'.overcloses c = false := by
      simp only [overcloses, Bool.and_eq_false_iff, beq_eq_false_iff_ne] at hc ⊢
      rw [h.sees, h.closes, h.depth]
      exact hc.imp_right fun hdepth => by omega
    exact nests_cons_iff.mpr ⟨hkept, ih (h.step hc) hrest⟩

end State.Below

/-! ## Brackets that belong together -/

/-- Inside of a bracket, a text that nests is passed over in the search for the closing one. -/
lemma untilClose?_append (h : State.Below (d + 1) st st') (hs : st.nests s = true) :
    untilClose? st' (s ++ t) = (untilClose? (st'.run s) t).map fun r => (s ++ r.1, r.2) := by
  induction s generalizing st st' with
  | nil =>
    change untilClose? st' t = (untilClose? st' t).map id
    rw [Option.map_id]
    rfl
  | cons c s ih =>
    obtain ⟨hc, hrest⟩ := State.nests_cons_iff.mp hs
    have hkept : ¬ (st'.sees c && st'.depth == 1 && st'.closes c) = true := by
      rw [h.sees, h.closes, h.depth]
      simp only [State.overcloses, Bool.and_eq_false_iff, beq_eq_false_iff_ne] at hc
      simp only [Bool.and_eq_true, beq_iff_eq]
      rintro ⟨⟨hsees, hdepth⟩, hcloses⟩
      simp only [hsees, hcloses, reduceCtorEq, false_or] at hc
      omega
    rw [List.cons_append, untilClose?, if_neg hkept, ih (h.step hc) hrest, Option.map_map]
    rfl

/-- Behind a bracket at the start of a text the scan is one level down. -/
lemma State.below_opener {o : Char} (ho : isOpener o = true) :
    Below (0 + 1) .start (State.start.step o) := by
  rw [step_opener rfl ho]
  refine ⟨rfl, rfl, beq_eq_false_iff_ne.mpr fun heq => ?_⟩
  rw [Option.some.inj heq] at ho
  cases ho

/-- Behind a bracket and a closed text the scan is still one level down, and the bracket can be
closed. -/
lemma State.closes_opener {o : Char} (ho : isOpener o = true) (hs : Closed s)
    (hc : isCloser c = true) (hne : c ≠ '>') :
    ((start.step o).run s).depth = 1 ∧ ((start.step o).run s).literal = .outside ∧
      ((start.step o).run s).sees c = true ∧ ((start.step o).run s).closes c = true := by
  obtain ⟨hdepth, hliteral, -⟩ := (below_opener ho).run hs.nests
  have houtside := hliteral.trans hs.outside
  refine ⟨by rw [hdepth, hs.level], houtside, sees_outside houtside (isCloser_apart hc).1, ?_⟩
  simp [closes, hc, hne]

/-- The closing bracket for an opening one stands behind the closed text that follows. -/
lemma enclosed?_closed {o : Char} (hs : Closed s) (ho : isOpener o = true) (hc : isCloser c = true)
    (hne : c ≠ '>') : enclosed? (o :: (s ++ c :: t)) = some (s, t) := by
  obtain ⟨hdepth, -, hsees, hcloses⟩ := State.closes_opener ho hs hc hne
  rw [enclosed?, untilClose?_append (State.below_opener ho) hs.nests, untilClose?, hsees, hdepth,
    hcloses]
  simp

/-- Brackets around a closed text make a closed text. -/
lemma Closed.brackets {o : Char} (hs : Closed s) (ho : isOpener o = true) (hc : isCloser c = true)
    (hne : c ≠ '>') : Closed (o :: (s ++ [c])) := by
  obtain ⟨hdepth, houtside, hsees, hcloses⟩ := State.closes_opener ho hs hc hne
  have hopen : State.start.overcloses o = false := by
    simp [State.overcloses, State.closes, (isOpener_apart ho).2]
  have hclose : ((State.start.step o).run s).step c = ⟨0, .outside, some c⟩ := by
    rw [State.step_closer houtside hc hcloses, hdepth]
  refine ⟨?_, ?_, ?_⟩
  · rw [State.nests, hopen, State.nests_append, (State.below_opener ho).nests hs.nests]
    simp [State.nests, State.overcloses, hdepth]
  · rw [State.run_cons, State.run_append, State.run_cons, hclose]
    rfl
  · rw [State.run_cons, State.run_append, State.run_cons, hclose]
    rfl

/-- Outside of the brackets that are open, only a closing bracket leads. -/
lemma State.depth_step_pos (hdepth : 1 ≤ st.depth)
    (h : ¬ (st.sees c && st.depth == 1 && st.closes c) = true) : 1 ≤ (st.step c).depth := by
  cases hliteral : st.literal with
  | escaped quote => simpa [step, hliteral] using hdepth
  | inside quote =>
    simp only [step, hliteral]
    split
    · exact hdepth
    · split <;> exact hdepth
  | outside =>
    simp only [step, hliteral]
    split
    · exact hdepth
    split
    · exact Nat.le_add_left _ _
    split
    · rename_i hquote _ hcloses
      rw [sees_outside hliteral (Bool.eq_false_iff.mpr hquote), hcloses] at h
      simp only [Bool.true_and, Bool.and_true, beq_iff_eq] at h
      dsimp only
      omega
    · exact hdepth

/-- A text that leaves the brackets around it closes them. -/
lemma exists_untilClose? (hdepth : 1 ≤ st.depth) (hleft : (st.run s).depth = 0) :
    ∃ inner rest, untilClose? st s = some (inner, rest) := by
  induction s generalizing st with
  | nil => exact absurd hleft (Nat.ne_of_gt hdepth)
  | cons c s ih =>
    rw [untilClose?]
    split
    · exact ⟨[], s, rfl⟩
    · rename_i hopen
      obtain ⟨inner, rest, hclose⟩ := ih (State.depth_step_pos hdepth hopen) hleft
      exact ⟨c :: inner, rest, by rw [hclose, Option.map_some]⟩

lemma untilClose?_append_of_eq_some {inner rest : List Char}
    (h : untilClose? st s = some (inner, rest)) (t : List Char) :
    untilClose? st (s ++ t) = some (inner, rest ++ t) := by
  induction s generalizing st inner with
  | nil => cases h
  | cons c s ih =>
    rw [untilClose?] at h
    rw [List.cons_append, untilClose?]
    split at h
    · rename_i hclose
      obtain ⟨rfl, rfl⟩ := Prod.mk.inj (Option.some.inj h)
      rw [if_pos hclose]
    · rename_i hopen
      obtain ⟨⟨inner', rest'⟩, hinner, heq⟩ := Option.map_eq_some_iff.mp h
      obtain ⟨rfl, rfl⟩ := Prod.mk.inj heq
      rw [if_neg hopen, ih hinner, Option.map_some]

/-- In a closed text that starts with a bracket this bracket is closed, whatever follows. -/
lemma exists_enclosed?_append {o : Char} (hs : Closed (o :: s)) (ho : isOpener o = true)
    (t : List Char) : ∃ inner rest, enclosed? (o :: s ++ t) = some (inner, rest ++ t) := by
  have hopen : State.start.step o = ⟨1, .outside, some o⟩ := State.step_opener rfl ho
  obtain ⟨inner, rest, hclose⟩ : ∃ inner rest,
      untilClose? (State.start.step o) s = some (inner, rest) :=
    exists_untilClose? (by simp [hopen]) hs.level
  exact ⟨inner, rest, untilClose?_append_of_eq_some hclose t⟩

/-! ## Pieces -/

lemma cut_ne_nil (isSep : Char → Bool) (st : State) (s : List Char) : cut isSep st s ≠ [] := by
  fun_cases cut isSep st s <;> simp

lemma cut_cons (isSep : Char → Bool) (st : State) (c : Char) (s : List Char) :
    cut isSep st (c :: s) =
      if st.divides isSep c then [] :: cut isSep (st.step c) s
      else (cut isSep (st.step c) s).modifyHead (c :: ·) := by
  rw [cut]
  cases hcut : cut isSep (st.step c) s with
  | nil => exact absurd hcut (cut_ne_nil isSep _ s)
  | cons piece others => rfl

lemma State.Outer.cut (h : st.Outer) (s : List Char) :
    TypeText.cut isSep st s = TypeText.cut isSep .start s := by
  cases s with
  | nil => rfl
  | cons c s => rw [cut_cons, cut_cons, h.divides, start.divides, h.step]

/-- What is not divided stands before the first piece of what follows. -/
lemma cut_append (hs : st.undivided isSep s = true) (t : List Char) :
    cut isSep st (s ++ t) = (cut isSep (st.run s) t).modifyHead (s ++ ·) := by
  induction s generalizing st with
  | nil =>
    change cut isSep st t = (cut isSep st t).modifyHead id
    rw [List.modifyHead_id]
    rfl
  | cons c s ih =>
    obtain ⟨hc, hrest⟩ := State.undivided_cons_iff.mp hs
    rw [List.cons_append, cut_cons, hc, if_neg Bool.false_ne_true, ih hrest,
      List.modifyHead_modifyHead]
    rfl

lemma cut_of_undivided (hs : st.undivided isSep s = true) : cut isSep st s = [s] := by
  have happend := cut_append hs []
  rw [List.append_nil] at happend
  rw [happend, cut, List.modifyHead_cons, List.append_nil]

/-- The first piece ends where the text is divided. -/
lemma cut_append_cons (hs : st.undivided isSep s = true)
    (hc : (st.run s).divides isSep c = true) (t : List Char) :
    cut isSep st (s ++ c :: t) = s :: cut isSep ((st.run s).step c) t := by
  rw [cut_append hs, cut_cons, if_pos hc, List.modifyHead_cons, List.append_nil]

/-- The first piece is not divided. -/
lemma undivided_of_cut {piece : List Char} {others : List (List Char)}
    (h : cut isSep st s = piece :: others) : st.undivided isSep piece = true := by
  induction s generalizing st piece with
  | nil =>
    obtain ⟨rfl, -⟩ := List.cons.inj h
    rfl
  | cons c s ih =>
    rw [cut_cons] at h
    split at h
    · obtain ⟨rfl, -⟩ := List.cons.inj h
      rfl
    · rename_i hc
      cases hcut : cut isSep (st.step c) s with
      | nil => exact absurd hcut (cut_ne_nil isSep _ s)
      | cons first rest =>
        rw [hcut, List.modifyHead_cons] at h
        obtain ⟨rfl, rfl⟩ := List.cons.inj h
        exact State.undivided_cons_iff.mpr ⟨Bool.eq_false_iff.mpr hc, ih hcut⟩

/-- What does not divide the text goes to its last piece when it is put at the end. -/
lemma exists_cut_append (ht : (st.run s).undivided isSep t = true) :
    ∃ front last, cut isSep st s = front ++ [last] ∧
      cut isSep st (s ++ t) = front ++ [last ++ t] := by
  induction s generalizing st with
  | nil => exact ⟨[], [], rfl, cut_of_undivided ht⟩
  | cons c s ih =>
    obtain ⟨front, last, hcut, happend⟩ := ih ht
    rw [List.cons_append, cut_cons, cut_cons, hcut, happend]
    split
    · exact ⟨[] :: front, last, rfl, rfl⟩
    · cases front with
      | nil => exact ⟨[], c :: last, rfl, rfl⟩
      | cons first front => exact ⟨(c :: first) :: front, last, rfl, rfl⟩

namespace State.Below

/-- Inside of a bracket nothing divides a text that nests. -/
lemma undivided_of_nests (h : Below (d + 1) st st') (hs : st.nests s = true) :
    st'.undivided isSep s = true := by
  induction s generalizing st st' with
  | nil => rfl
  | cons c s ih =>
    obtain ⟨hc, hrest⟩ := State.nests_cons_iff.mp hs
    have hdeep : st'.divides isSep c = false := by simp [State.divides, h.depth]
    exact undivided_cons_iff.mpr ⟨hdeep, ih (h.step hc) hrest⟩

end State.Below

/-! ## Blanks -/

/-- Blanks around a closed text leave it closed. -/
lemma Closed.surrounded {before after : List Char} (hs : Closed s)
    (hbefore : ∀ c ∈ before, Text.isBlank c = true) (hafter : ∀ c ∈ after, Text.isBlank c = true) :
    Closed (before ++ s ++ after) := by
  have hneutral {blanks : List Char} (hblanks : ∀ c ∈ blanks, Text.isBlank c = true) :
      Closed blanks :=
    closed_of_neutral fun c hc => isNeutral_of_isBlank (hblanks c hc)
  exact ((hneutral hbefore).append hs).append (hneutral hafter)

lemma State.undivided_of_forall (st : State) (hs : ∀ c ∈ s, isSep c = false) :
    st.undivided isSep s = true := by
  induction s generalizing st with
  | nil => rfl
  | cons c rest ih =>
    obtain ⟨hc, hrest⟩ := List.forall_mem_cons.mp hs
    simp [undivided, divides, hc, ih _ hrest]

/-! ## Parts -/

section

variable {separators : List Char}

/-- Blanks around a text make no difference to its parts, unless they are separators. -/
lemma splitTopLevel_surrounded {before after : List Char}
    (hbefore : ∀ c ∈ before, Text.isBlank c = true) (hafter : ∀ c ∈ after, Text.isBlank c = true)
    (hseparators : ∀ c ∈ separators, Text.isBlank c = false) (s : List Char) :
    splitTopLevel separators (before ++ s ++ after) = splitTopLevel separators s := by
  have hsep {blanks : List Char} (hblanks : ∀ c ∈ blanks, Text.isBlank c = true) :
      ∀ c ∈ blanks, separators.contains c = false := by
    intro c hc
    refine Bool.eq_false_iff.mpr fun hmem => ?_
    have hvisible := hseparators c (List.contains_iff_mem.mp hmem)
    rw [hblanks c hc] at hvisible
    cases hvisible
  have hstart : (State.start.run before).Outer :=
    (closed_of_neutral fun c hc => isNeutral_of_isBlank (hbefore c hc)).outer
  have hundivided := State.undivided_of_forall (State.start.run s) (hsep hafter)
  obtain ⟨front, last, hcut, happend⟩ := exists_cut_append hundivided
  rw [splitTopLevel, splitTopLevel, List.append_assoc,
    cut_append (State.undivided_of_forall .start (hsep hbefore)), hstart.cut, happend, hcut]
  cases front with
  | nil =>
    have hboth := Text.trim_surrounded hbefore hafter last
    rw [List.append_assoc] at hboth
    simp [hboth]
  | cons first front =>
    have hfirst := Text.trim_surrounded hbefore (List.forall_mem_nil _) first
    have hlast := Text.trim_surrounded (List.forall_mem_nil _) hafter last
    rw [List.append_nil] at hfirst
    rw [List.nil_append] at hlast
    simp [hfirst, hlast]

lemma splitTopLevel_trim (hseparators : ∀ c ∈ separators, Text.isBlank c = false) (s : List Char) :
    splitTopLevel separators (Text.trim s) = splitTopLevel separators s := by
  obtain ⟨before, after, heq, hbefore, hafter⟩ := Text.exists_eq_append_trim s
  have hsurrounded := splitTopLevel_surrounded hbefore hafter hseparators (Text.trim s)
  rw [← heq] at hsurrounded
  exact hsurrounded.symm

/-- A text that is not divided is its only part. -/
lemma splitTopLevel_of_undivided (hs : State.start.undivided separators.contains s = true)
    (hne : Text.trim s ≠ []) : splitTopLevel separators s = [Text.trim s] := by
  rw [splitTopLevel, cut_of_undivided hs]
  simp [hne]

/-- The first part ends at a separator that comes after a text that is not divided and leaves
neither a bracket nor a literal open. -/
lemma splitTopLevel_append_cons (hs : State.start.undivided separators.contains s = true)
    (hne : Text.trim s ≠ []) (houter : (State.start.run s).Outer) (hc : c ∈ separators)
    (hneutral : isNeutral c = true) (t : List Char) :
    splitTopLevel separators (s ++ c :: t) = Text.trim s :: splitTopLevel separators t := by
  have hdivides : (State.start.run s).divides separators.contains c = true := by
    rw [houter.divides, (isNeutral_iff.mp hneutral).1]
    simpa using hc
  rw [splitTopLevel, cut_append_cons hs hdivides, (houter.step_neutral hneutral).cut, List.map_cons,
    List.filter_cons_of_pos (by simpa using hne)]
  rfl

end

/-! ## Brackets around a whole text -/

lemma stripParens_eq (s : List Char) : stripParens s =
    if (Text.trim s).head? == some '(' then
      match enclosed? (Text.trim s) with
      | some (inner, []) => stripParens inner
      | _ => Text.trim s
    else Text.trim s := by
  rw [stripParens]
  split
  · split <;> simp_all
  · rfl

lemma stripParens_congr (h : Text.trim s = Text.trim t) : stripParens s = stripParens t := by
  rw [stripParens_eq s, stripParens_eq t, h]

/-- Brackets around a closed text are removed. -/
lemma stripParens_brackets (hs : Closed s) : stripParens ('(' :: (s ++ [')'])) = stripParens s := by
  have htrim : Text.trim ('(' :: (s ++ [')'])) = '(' :: (s ++ [')']) := by
    refine Text.trim_eq_self (fun c hc => Option.some.inj hc ▸ rfl) fun c hc => ?_
    rw [← List.cons_append, List.getLast?_concat] at hc
    exact Option.some.inj hc ▸ rfl
  rw [stripParens_eq, htrim, enclosed?_closed hs rfl rfl (by decide)]
  rfl

/-- A bracket at the start is not around the whole text if the text goes on behind a closed one. -/
lemma stripParens_append (hs : Closed s) (hne : s ≠ []) (ht : t ≠ [])
    (htrim : Text.trim (s ++ t) = s ++ t) : stripParens (s ++ t) = s ++ t := by
  rw [stripParens_eq, htrim]
  split
  · rename_i hhead
    cases s with
    | nil => exact absurd rfl hne
    | cons o s =>
      obtain rfl : o = '(' := by simpa using hhead
      obtain ⟨inner, rest, hclose⟩ := exists_enclosed?_append hs rfl t
      rw [hclose]
      split
      · rename_i heq
        have hnil := (Prod.mk.inj (Option.some.inj heq)).2
        exact absurd (List.append_eq_nil_iff.mp hnil).2 ht
      · rfl
  · rfl

end ComponentFlow.TypeText

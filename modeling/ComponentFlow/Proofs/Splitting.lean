import ComponentFlow.Proofs.Scans

/-!
# Splitting and joining

Splitting a text at top level undoes joining. Segments that are closed on their own come back as the
parts of the text that they make with separators between them, whichever separators these are
(`splitTopLevel_joined`). And whatever is split, a part is not split again: this needs neither
closed brackets nor closed literals, since a text is only cut where the scan stands outside of both,
and from there on it goes as from the start of a text (`State.Outer.cut`).

Separators are neutral characters. The sign `=` may be one, although a `>` that follows it is read
as the end of an arrow: outside of brackets that makes no difference.
-/

namespace ComponentFlow.TypeText

variable {separators s t : List Char} {isSep : Char → Bool} {st : State}

/-! ## Segments -/

/-- A text that can stand between separators: not empty, without blanks at its ends, outside of
brackets and literals at its end, and not divided. Brackets may be closed that were not opened. -/
structure IsSegment (separators s : List Char) : Prop where
  ne_nil : s ≠ []
  trimmed : Text.trim s = s
  outer : (State.start.run s).Outer
  undivided : State.start.undivided separators.contains s = true

lemma isSegment_iff : IsSegment separators s ↔ s ≠ [] ∧ Text.trim s = s ∧
    (State.start.run s).Outer ∧ State.start.undivided separators.contains s = true :=
  ⟨fun h => ⟨h.ne_nil, h.trimmed, h.outer, h.undivided⟩, fun h => ⟨h.1, h.2.1, h.2.2.1, h.2.2.2⟩⟩

instance (separators s : List Char) : Decidable (IsSegment separators s) :=
  decidable_of_iff _ isSegment_iff.symm

/-- The first segment, and the others with a separator before each. -/
def joined (first : List Char) (others : List (Char × List Char)) : List Char :=
  first ++ others.flatMap fun p => p.1 :: p.2

lemma joined_cons (first segment : List Char) (c : Char) (others : List (Char × List Char)) :
    joined first ((c, segment) :: others) = first ++ c :: joined segment others := by
  simp [joined]

lemma IsSegment.splitTopLevel_eq (h : IsSegment separators s) :
    splitTopLevel separators s = [s] := by
  have hpart := splitTopLevel_of_undivided h.undivided (by rw [h.trimmed]; exact h.ne_nil)
  rwa [h.trimmed] at hpart

/-- The parts of joined segments are the segments. -/
lemma splitTopLevel_joined (hneutral : ∀ c ∈ separators, isNeutral c = true) {first : List Char}
    {others : List (Char × List Char)} (hfirst : IsSegment separators first)
    (hothers : ∀ p ∈ others, p.1 ∈ separators ∧ IsSegment separators p.2) :
    splitTopLevel separators (joined first others) = first :: others.map Prod.snd := by
  induction others generalizing first with
  | nil =>
    rw [joined, List.flatMap_nil, List.append_nil]
    exact hfirst.splitTopLevel_eq
  | cons p others ih =>
    obtain ⟨c, segment⟩ := p
    obtain ⟨⟨hc, hsegment⟩, hrest⟩ := List.forall_mem_cons.mp hothers
    have hne : Text.trim first ≠ [] := by
      rw [hfirst.trimmed]
      exact hfirst.ne_nil
    rw [joined_cons, splitTopLevel_append_cons hfirst.undivided hne hfirst.outer hc (hneutral c hc),
      ih hsegment hrest, hfirst.trimmed]
    rfl

/-! ## Parts -/

/-- All pieces but the first are not divided, as texts of their own. -/
lemma undivided_of_mem_cut (hneutral : ∀ c, isSep c = true → isNeutral c = true) {piece : List Char}
    {others : List (List Char)} (h : cut isSep st s = piece :: others) :
    ∀ p ∈ others, State.start.undivided isSep p = true := by
  induction s generalizing st piece others with
  | nil =>
    obtain ⟨-, rfl⟩ := List.cons.inj h
    exact List.forall_mem_nil _
  | cons c s ih =>
    obtain ⟨first, rest, hcut⟩ := List.exists_cons_of_ne_nil (cut_ne_nil isSep (st.step c) s)
    have hrest := ih hcut
    rw [cut_cons, hcut] at h
    by_cases hc : st.divides isSep c = true
    · -- the next piece starts behind the separator, outside of brackets and literals
      rw [if_pos hc] at h
      obtain ⟨-, rfl⟩ := List.cons.inj h
      simp only [State.divides, State.sees, Bool.and_eq_true, beq_iff_eq] at hc
      obtain ⟨⟨⟨hliteral, -⟩, hdepth⟩, hsep⟩ := hc
      have houter : (st.step c).Outer :=
        State.Outer.step_neutral ⟨hdepth, hliteral⟩ (hneutral c hsep)
      have hfirst := undivided_of_cut hcut
      rw [houter.undivided] at hfirst
      exact List.forall_mem_cons.mpr ⟨hfirst, hrest⟩
    · rw [if_neg hc, List.modifyHead_cons] at h
      obtain ⟨-, rfl⟩ := List.cons.inj h
      exact hrest

/-- What is not divided is not divided without the blanks around it. -/
lemma undivided_trim (h : State.start.undivided isSep s = true) :
    State.start.undivided isSep (Text.trim s) = true := by
  obtain ⟨before, after, heq, hbefore, -⟩ := Text.exists_eq_append_trim s
  have houter : (State.start.run before).Outer :=
    (closed_of_neutral fun c hc => isNeutral_of_isBlank (hbefore c hc)).outer
  rw [heq, State.undivided_append, State.undivided_append, Bool.and_eq_true, Bool.and_eq_true,
    houter.undivided] at h
  exact h.1.2

/-- A part has itself as its only part. -/
lemma splitTopLevel_of_mem (hneutral : ∀ c ∈ separators, isNeutral c = true)
    (h : t ∈ splitTopLevel separators s) : splitTopLevel separators t = [t] := by
  rw [splitTopLevel, List.mem_filter, List.mem_map] at h
  obtain ⟨⟨piece, hpiece, rfl⟩, hne⟩ := h
  obtain ⟨first, others, hcut⟩ :=
    List.exists_cons_of_ne_nil (cut_ne_nil separators.contains .start s)
  have hundivided : State.start.undivided separators.contains piece = true := by
    rw [hcut] at hpiece
    rcases List.mem_cons.mp hpiece with rfl | hpiece
    · exact undivided_of_cut hcut
    · refine undivided_of_mem_cut (fun c hc => hneutral c ?_) hcut piece hpiece
      exact List.contains_iff_mem.mp hc
  have hpart := splitTopLevel_of_undivided (undivided_trim hundivided)
  rw [Text.trim_trim] at hpart
  exact hpart (by simpa using hne)

/-- **Splitting and joining.** For separators that are neither brackets nor quotes, segments joined
by separators, the same or different ones, are split into these segments. The parts of any text,
however malformed, are not split any further. -/
theorem splitTopLevel_retracts (separators : List Char)
    (hneutral : ∀ c ∈ separators, isNeutral c = true) :
    splitTopLevel separators [] = [] ∧
    (∀ first others, IsSegment separators first →
      (∀ p ∈ others, p.1 ∈ separators ∧ IsSegment separators p.2) →
        splitTopLevel separators (joined first others) = first :: others.map Prod.snd) ∧
    ∀ text, ∀ part ∈ splitTopLevel separators text, splitTopLevel separators part = [part] :=
  ⟨rfl, fun _ _ hfirst hothers => splitTopLevel_joined hneutral hfirst hothers,
    fun _ _ hpart => splitTopLevel_of_mem hneutral hpart⟩

/-- A literal with a bar, a bracket that closes nothing behind an `=`, and a text whose last part
leaves a bracket and a literal open. -/
theorem splitTopLevel_retracts_malformed :
    IsSegment ['|', '='] "\x7b a: 1 | 2 \x7d".toList ∧ IsSegment ['|', '='] "'x|y'".toList ∧
      IsSegment ['|', '='] "> b".toList ∧
      splitTopLevel ['|', '='] "\x7b a: 1 | 2 \x7d|'x|y'=> b".toList =
        ["\x7b a: 1 | 2 \x7d".toList, "'x|y'".toList, "> b".toList] ∧
      "(b | 'c".toList ∈ splitTopLevel ['|', '='] "a) | (b | 'c ".toList ∧
      splitTopLevel ['|', '='] "(b | 'c".toList = ["(b | 'c".toList] := by
  have hneutral : ∀ c ∈ ['|', '='], isNeutral c = true := List.all_eq_true.mp rfl
  obtain ⟨-, hjoined, hparts⟩ := splitTopLevel_retracts ['|', '='] hneutral
  have hobject : IsSegment ['|', '='] "\x7b a: 1 | 2 \x7d".toList := by decide
  have hliteral : IsSegment ['|', '='] "'x|y'".toList := by decide
  have hloose : IsSegment ['|', '='] "> b".toList := by decide
  have hopen : "(b | 'c".toList ∈ splitTopLevel ['|', '='] "a) | (b | 'c ".toList := by decide
  refine ⟨hobject, hliteral, hloose, ?_, hopen, hparts _ _ hopen⟩
  refine hjoined _ [('|', "'x|y'".toList), ('=', "> b".toList)] hobject ?_
  exact List.forall_mem_cons.mpr ⟨⟨by decide, hliteral⟩,
    List.forall_mem_singleton.mpr ⟨by decide, hloose⟩⟩

end ComponentFlow.TypeText

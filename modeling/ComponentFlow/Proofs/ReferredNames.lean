import ComponentFlow.Proofs.Identifiers
import Mathlib.Logic.Basic

/-!
# Names in conditions

A name in an expression is found by the characters around it: it starts where no blocking character
stands before it, and goes on as far as it can (`mem_namesAfter_iff`). A quote blocks, so the first
word of a string literal is not taken for a name. The further words of a literal are: nothing but
the character before them is looked at.

So a comparison with a string literal refers to what is compared, and to the words inside of the
literal that stand behind a blank, or behind any other sign but a point
(`referredNames_compared_iff`).
-/

namespace ComponentFlow.Text

variable {c : Char} {n s t : List Char} {previous : Option Char}

/-! ## Where names stand -/

lemma namesAfter_cons (previous : Option Char) (c : Char) (s : List Char) :
    namesAfter previous (c :: s) =
      (if isNameStart c && !previous.any blocksName then [c :: s.takeWhile isNamePart] else []) ++
        namesAfter (some c) s := by
  rw [namesAfter]
  split <;> rfl

lemma namesAfter_cons_of_not_start (hc : isNameStart c = false) (previous : Option Char)
    (s : List Char) : namesAfter previous (c :: s) = namesAfter (some c) s := by
  rw [namesAfter_cons, hc]
  rfl

/-- The character before what follows a text. -/
lemma getLast?_cons_or (c : Char) (s : List Char) (previous : Option Char) :
    (c :: s).getLast?.or previous = s.getLast?.or (some c) := by
  rw [List.getLast?_cons]
  cases s.getLast? <;> rfl

lemma takeWhile_of_head? {p : Char → Bool} (h : ∀ c ∈ s.head?, p c = false) :
    s.takeWhile p = [] := by
  cases s with
  | nil => rfl
  | cons c s => rw [List.takeWhile_cons, h c rfl, if_neg Bool.false_ne_true]

/-- The names of two texts, with a character between them that is not part of a name. -/
lemma namesAfter_append_cons (hc : isNamePart c = false) :
    namesAfter previous (s ++ c :: t) = namesAfter previous s ++ namesAfter (some c) t := by
  induction s generalizing previous with
  | nil =>
    refine namesAfter_cons_of_not_start (Bool.eq_false_iff.mpr fun hstart => ?_) previous t
    rw [isNamePart_of_isNameStart hstart] at hc
    cases hc
  | cons d s ih =>
    have hend : (s ++ c :: t).takeWhile isNamePart = s.takeWhile isNamePart := by
      rw [List.takeWhile_append, List.takeWhile_cons, hc, if_neg Bool.false_ne_true,
        List.append_nil]
      split
      · rename_i hlength
        exact ((List.takeWhile_prefix isNamePart).eq_of_length hlength).symm
      · rfl
    rw [List.cons_append, namesAfter_cons, namesAfter_cons, hend, ih, List.append_assoc]

/-- Whether a name stands at some place of a text, given the character before the text. -/
def StandsIn (previous : Option Char) (n s : List Char) : Prop :=
  ∃ before after, s = before ++ (n ++ after) ∧ isName n = true ∧
    (∀ c ∈ before.getLast?.or previous, blocksName c = false) ∧
    ∀ c ∈ after.head?, isNamePart c = false

/-- A name stands at the first place of a text, or at a later one. -/
lemma standsIn_cons_iff : StandsIn previous n (c :: s) ↔
    (n = c :: s.takeWhile isNamePart ∧ isNameStart c = true ∧
      ∀ d ∈ previous, blocksName d = false) ∨ StandsIn (some c) n s := by
  constructor
  · rintro ⟨before, after, heq, hname, hbefore, hafter⟩
    cases before with
    | nil =>
      left
      cases n with
      | nil => cases hname
      | cons d n =>
        rw [List.nil_append, List.cons_append] at heq
        obtain ⟨rfl, rfl⟩ := List.cons.inj heq
        obtain ⟨hstart, hparts⟩ := (Bool.and_eq_true _ _).mp hname
        refine ⟨?_, hstart, hbefore⟩
        rw [List.takeWhile_append_of_pos (List.all_eq_true.mp hparts), takeWhile_of_head? hafter,
          List.append_nil]
    | cons d before =>
      right
      obtain ⟨rfl, rfl⟩ := List.cons.inj heq
      rw [getLast?_cons_or] at hbefore
      exact ⟨before, after, rfl, hname, hbefore, hafter⟩
  · rintro (⟨rfl, hstart, hprevious⟩ | ⟨before, after, rfl, hname, hbefore, hafter⟩)
    · refine ⟨[], s.dropWhile isNamePart, ?_, ?_, hprevious, ?_⟩
      · rw [List.nil_append, List.cons_append, List.takeWhile_append_dropWhile]
      · rw [isName, hstart, List.all_takeWhile]
        rfl
      · intro d hd
        have hne := List.head?_dropWhile_not isNamePart s
        rw [Option.mem_def.mp hd] at hne
        simpa using hne
    · rw [← getLast?_cons_or c before previous] at hbefore
      exact ⟨c :: before, after, rfl, hname, hbefore, hafter⟩

/-- The names that are found are those that stand in the text. -/
lemma mem_namesAfter_iff : n ∈ namesAfter previous s ↔ StandsIn previous n s := by
  induction s generalizing previous with
  | nil =>
    refine iff_of_false List.not_mem_nil ?_
    rintro ⟨before, after, heq, hname, -, -⟩
    have hempty := (List.append_eq_nil_iff.mp heq.symm).2
    rw [(List.append_eq_nil_iff.mp hempty).1] at hname
    cases hname
  | cons c s ih =>
    have hblocked : (!previous.any blocksName) = true ↔ ∀ d ∈ previous, blocksName d = false := by
      cases previous <;> simp
    rw [namesAfter_cons, List.mem_append, ih, standsIn_cons_iff]
    refine or_congr_left ?_
    rw [← hblocked, ← Bool.and_eq_true]
    split <;> simp_all

/-! ## Comparisons with string literals -/

/-- Whether a name stands inside of a text, behind a character that does not block it. -/
def IsInnerName (n s : List Char) : Prop :=
  ∃ before c after, s = before ++ c :: (n ++ after) ∧ isName n = true ∧ blocksName c = false ∧
    ∀ d ∈ after.head?, isNamePart d = false

/-- Behind a quote, a name stands inside of the text and not at its start. -/
lemma standsIn_quote_iff : StandsIn (some '\'') n s ↔ IsInnerName n s := by
  constructor
  · rintro ⟨before, after, rfl, hname, hbefore, hafter⟩
    rcases List.eq_nil_or_concat before with rfl | ⟨front, c, rfl⟩
    · exact absurd (hbefore '\'' rfl) (by decide)
    · refine ⟨front, c, after, by simp, hname, hbefore c ?_, hafter⟩
      rw [List.concat_eq_append, List.getLast?_concat]
      rfl
  · rintro ⟨before, c, after, rfl, hname, hc, hafter⟩
    refine ⟨before ++ [c], after, by simp, hname, ?_, hafter⟩
    rw [List.getLast?_concat]
    exact fun d hd => Option.some.inj hd ▸ hc

/-- In a text of blocking characters no name stands inside. -/
lemma not_isInnerName (hs : ∀ c ∈ s, blocksName c = true) : ¬ IsInnerName n s := by
  rintro ⟨before, c, after, rfl, -, hc, -⟩
  have hblocks := hs c (List.mem_append_right before List.mem_cons_self)
  rw [hc] at hblocks
  cases hblocks

/-- The text of a comparison with a string literal. -/
def compared (e s : String) : String := e ++ " === '" ++ s ++ "'"

/-- A comparison has the names of what is compared, and those inside of the literal. -/
lemma namesAfter_compared (e s : String) : namesAfter none (compared e s).toList =
    namesAfter none e.toList ++ namesAfter (some '\'') s.toList := by
  have htext : (compared e s).toList =
      e.toList ++ ' ' :: '=' :: '=' :: '=' :: ' ' :: '\'' :: (s.toList ++ ['\'']) := by
    simp [compared]
  have hoperator (rest : List Char) :
      namesAfter (some ' ') ('=' :: '=' :: '=' :: ' ' :: '\'' :: rest) =
        namesAfter (some '\'') rest := rfl
  rw [htext, namesAfter_append_cons (by decide), hoperator, namesAfter_append_cons (by decide),
    namesAfter, List.append_nil]

lemma distinct_append {α : Type} [BEq α] [LawfulBEq α] (items others : List α) :
    distinct (items ++ others) = distinct items ++ distinct (others.removeAll items) := by
  rw [distinct_eq_eraseDups, distinct_eq_eraseDups, distinct_eq_eraseDups, List.eraseDups_append]

/-- Items that are there already add nothing, and others do. -/
lemma distinct_append_eq_iff {α : Type} [BEq α] [LawfulBEq α] {items others : List α} :
    distinct (items ++ others) = distinct items ↔ ∀ x ∈ others, x ∈ items := by
  have hnil : distinct (others.removeAll items) = [] ↔ ∀ x ∈ others, x ∈ items := by
    rw [List.eq_nil_iff_forall_not_mem]
    simp only [mem_distinct, List.removeAll, List.mem_filter]
    simp
  rw [distinct_append, List.append_right_eq_self, hnil]

/-- The names that stand in a text and do not stand for values. -/
def namesIn (previous : Option Char) (s : List Char) : List String :=
  ((namesAfter previous s).map String.ofList).filter fun name => !literalWords.contains name

lemma mem_namesIn {n : String} :
    n ∈ namesIn previous s ↔ StandsIn previous n.toList s ∧ n ∉ literalWords := by
  rw [← mem_namesAfter_iff, namesIn, List.mem_filter, List.mem_map]
  refine and_congr ⟨?_, fun h => ⟨n.toList, h, String.ofList_toList⟩⟩ (by simp)
  rintro ⟨name, hname, rfl⟩
  rwa [String.toList_ofList]

lemma referredNames_eq (e : String) : referredNames e = distinct (namesIn none e.toList) := rfl

lemma referredNames_compared (e s : String) : referredNames (compared e s) =
    distinct (namesIn none e.toList ++ namesIn (some '\'') s.toList) := by
  rw [referredNames_eq, namesIn, namesAfter_compared, List.map_append, List.filter_append]
  rfl

/-- **Comparisons.** A comparison with a string literal refers to all that the compared expression
refers to. A literal without characters that separate words adds nothing to that. In general, it
adds nothing exactly if every name inside of the literal stands for a value or is referred to by the
compared expression as well. -/
theorem referredNames_compared_iff (e s : String) :
    referredNames e <+: referredNames (compared e s) ∧
    ((∀ c ∈ s.toList, blocksName c = true) → referredNames (compared e s) = referredNames e) ∧
    (referredNames (compared e s) = referredNames e ↔
      ∀ n : String, IsInnerName n.toList s.toList → n ∈ literalWords ∨ n ∈ referredNames e) := by
  have hadded : referredNames (compared e s) = referredNames e ↔
      ∀ n : String, IsInnerName n.toList s.toList → n ∈ literalWords ∨ n ∈ referredNames e := by
    rw [referredNames_compared, referredNames_eq, distinct_append_eq_iff]
    simp only [mem_distinct, mem_namesIn, standsIn_quote_iff, and_imp]
    refine forall_congr' fun n => forall_congr' fun _ => ?_
    rw [or_iff_not_imp_left]
  refine ⟨?_, fun hs => hadded.mpr fun n hn => absurd hn (not_isInnerName hs), hadded⟩
  rw [referredNames_compared, distinct_append, referredNames_eq]
  exact List.prefix_append _ _

/-- A literal of one word adds nothing, and one of two words adds the second. -/
theorem referredNames_compared_iff_inProgress :
    referredNames "status === 'done'" = ["status"] ∧
      referredNames "status === 'in progress'" = ["status", "progress"] ∧
      referredNames "status === 'in progress'" ≠ referredNames "status" := by
  have hstatus : referredNames "status" = ["status"] := by decide +kernel
  have hword := (referredNames_compared_iff "status" "done").2.1 (List.all_eq_true.mp rfl)
  have hwords := (referredNames_compared_iff "status" "in progress").2.2
  have hinner : IsInnerName "progress".toList "in progress".toList :=
    ⟨"in".toList, ' ', [], rfl, by decide, by decide, by simp⟩
  refine ⟨hword.trans hstatus, by decide +kernel, fun heq => ?_⟩
  rw [hstatus] at hwords
  exact absurd (hwords.mp heq "progress" hinner) (by decide)

end ComponentFlow.Text

import ComponentFlow.Proofs.Scans
import ComponentFlow.TypeText.Callable
import Mathlib.Logic.Basic

/-!
# Callable types

Whether a type text describes something callable can be read off its parts. A union of closed texts
is callable if one of its members counts and all that count are callable, and brackets and blanks
around a closed text make no difference (`isFunctionType_compositional`). The members may be of any
form, since a closed text is scanned alike wherever it stands.

Arrows are not part of this: an arrow with a return type that is a union is taken for a union, whose
first member is the arrow. So it is callable only if the other members of the return type are, or
stand for a missing value (`isFunctionType_arrow_iff`).
-/

namespace ComponentFlow.TypeText

variable {s t : List Char}

/-! ## The decision -/

lemma isCallable_congr (h : stripParens s = stripParens t) : isCallable s = isCallable t := by
  rw [isCallable, isCallable.eq_1 t, h]

/-- A text with several members is callable if one of them counts and all that count are. -/
lemma isCallable_of_members (h : 2 ≤ (splitTopLevel ['|'] (stripParens s)).length) :
    isCallable s = true ↔ (∃ m ∈ splitTopLevel ['|'] (stripParens s), m ∉ nullish) ∧
      ∀ m ∈ splitTopLevel ['|'] (stripParens s), m ∉ nullish → isCallable m = true := by
  have hne : (stripParens s).isEmpty = false := by
    rw [Bool.eq_false_iff]
    intro hempty
    rw [List.isEmpty_iff.mp hempty] at h
    revert h
    decide
  rw [isCallable, hne]
  simp [h, or_iff_not_imp_left]

lemma isCallable_of_single (hne : stripParens s ≠ [])
    (h : (splitTopLevel ['|'] (stripParens s)).length < 2) :
    isCallable s = isCallableMember (stripParens s) := by
  rw [isCallable, if_neg (by simpa using hne), dif_neg (Nat.not_le.mpr h)]

/-! ## Unions -/

lemma isBlank_bar : ∀ c ∈ ['|'], Text.isBlank c = false := List.forall_mem_singleton.mpr rfl

/-- A text that can be a member of a union: closed, not blank, without blanks at its ends, and not
divided by a bar outside of brackets and literals. -/
structure IsMember (m : List Char) : Prop where
  closed : Closed m
  visible : ∃ c ∈ m, Text.isBlank c = false
  trimmed : Text.trim m = m
  undivided : State.start.undivided ['|'].contains m = true

lemma isMember_iff {m : List Char} : IsMember m ↔ Closed m ∧ m.any (!Text.isBlank ·) = true ∧
    Text.trim m = m ∧ State.start.undivided ['|'].contains m = true := by
  have hvisible : m.any (!Text.isBlank ·) = true ↔ ∃ c ∈ m, Text.isBlank c = false := by simp
  rw [hvisible]
  exact ⟨fun h => ⟨h.closed, h.visible, h.trimmed, h.undivided⟩,
    fun h => ⟨h.1, h.2.1, h.2.2.1, h.2.2.2⟩⟩

instance (m : List Char) : Decidable (IsMember m) := decidable_of_iff _ isMember_iff.symm

namespace IsMember

variable {m : List Char}

lemma ne_nil (h : IsMember m) : m ≠ [] := by
  obtain ⟨c, hc, -⟩ := h.visible
  exact List.ne_nil_of_mem hc

lemma head?_visible (h : IsMember m) : ∀ c ∈ m.head?, Text.isBlank c = false :=
  h.trimmed ▸ Text.head?_trim m

lemma getLast?_visible (h : IsMember m) : ∀ c ∈ m.getLast?, Text.isBlank c = false :=
  h.trimmed ▸ Text.getLast?_trim m

/-- A member that is followed by a bar is the first part. -/
lemma splitTopLevel_bar (h : IsMember m) (t : List Char) :
    splitTopLevel ['|'] (m ++ ' ' :: '|' :: ' ' :: t) = m :: splitTopLevel ['|'] t := by
  have hclosed : Closed (m ++ [' ']) := h.closed.append (by decide)
  have htrim : Text.trim (m ++ [' ']) = m := by
    have hsurrounded := Text.trim_surrounded (List.forall_mem_nil _)
      (List.forall_mem_singleton.mpr (by decide : Text.isBlank ' ' = true)) m
    rwa [List.nil_append, h.trimmed] at hsurrounded
  have hundivided : State.start.undivided ['|'].contains (m ++ [' ']) = true := by
    rw [State.undivided_append, h.undivided]
    exact State.undivided_of_forall _ (List.forall_mem_singleton.mpr rfl)
  have hrest : splitTopLevel ['|'] (' ' :: t) = splitTopLevel ['|'] t := by
    have hsurrounded : splitTopLevel ['|'] ([' '] ++ t ++ []) = splitTopLevel ['|'] t :=
      splitTopLevel_surrounded (List.forall_mem_singleton.mpr (by decide))
        (List.forall_mem_nil _) isBlank_bar t
    rwa [List.append_nil] at hsurrounded
  have hsplit := splitTopLevel_append_cons (c := '|') hundivided (by rw [htrim]; exact h.ne_nil)
    hclosed.outer (List.mem_singleton_self _) rfl (' ' :: t)
  rw [htrim, hrest, List.append_assoc] at hsplit
  exact hsplit

end IsMember

/-- The text of a union. -/
def union (members : List (List Char)) : List Char := [' ', '|', ' '].intercalate members

lemma union_cons_cons (m n : List Char) (members : List (List Char)) :
    union (m :: n :: members) = m ++ ' ' :: '|' :: ' ' :: union (n :: members) := by
  simp [union, List.intercalate_cons_cons]

/-- The members of a union are its parts. -/
lemma splitTopLevel_union {members : List (List Char)} (hne : members ≠ [])
    (hmembers : ∀ m ∈ members, IsMember m) : splitTopLevel ['|'] (union members) = members := by
  induction members with
  | nil => exact absurd rfl hne
  | cons m rest ih =>
    obtain ⟨hm, hrest⟩ := List.forall_mem_cons.mp hmembers
    cases rest with
    | nil =>
      rw [union, List.intercalate_singleton, splitTopLevel_of_undivided hm.undivided, hm.trimmed]
      rw [hm.trimmed]
      exact hm.ne_nil
    | cons n rest => rw [union_cons_cons, hm.splitTopLevel_bar, ih (by simp) hrest]

lemma getLast?_union {members : List (List Char)} (hne : members ≠ [])
    (hmembers : ∀ m ∈ members, IsMember m) :
    union members ≠ [] ∧ ∀ c ∈ (union members).getLast?, Text.isBlank c = false := by
  induction members with
  | nil => exact absurd rfl hne
  | cons m rest ih =>
    obtain ⟨hm, hrest⟩ := List.forall_mem_cons.mp hmembers
    cases rest with
    | nil =>
      rw [union, List.intercalate_singleton]
      exact ⟨hm.ne_nil, hm.getLast?_visible⟩
    | cons n rest =>
      obtain ⟨hnil, hlast⟩ := ih (by simp) hrest
      have heq : union (m :: n :: rest) = (m ++ [' ', '|', ' ']) ++ union (n :: rest) := by
        simp [union_cons_cons]
      rw [heq, List.getLast?_append, Option.or_of_isSome (by simpa using hnil)]
      exact ⟨by simp, hlast⟩

/-- A union starts with its first member, and no bracket is around the whole of it. -/
lemma stripParens_union {m n : List Char} {rest : List (List Char)}
    (hmembers : ∀ k ∈ m :: n :: rest, IsMember k) :
    stripParens (union (m :: n :: rest)) = union (m :: n :: rest) := by
  have hm := hmembers m List.mem_cons_self
  have hhead : ∀ c ∈ (union (m :: n :: rest)).head?, Text.isBlank c = false := by
    rw [union_cons_cons, List.head?_append, Option.or_of_isSome (by simpa using hm.ne_nil)]
    exact hm.head?_visible
  have htrim := Text.trim_eq_self hhead (getLast?_union (by simp) hmembers).2
  rw [union_cons_cons] at htrim ⊢
  exact stripParens_append hm.closed hm.ne_nil (by simp) htrim

lemma isCallable_union {members : List (List Char)} (hlength : 2 ≤ members.length)
    (hmembers : ∀ m ∈ members, IsMember m) : isCallable (union members) = true ↔
      (∃ m ∈ members, m ∉ nullish) ∧ ∀ m ∈ members, m ∉ nullish → isCallable m = true := by
  obtain ⟨m, n, rest, rfl⟩ : ∃ m n rest, members = m :: n :: rest := by
    rcases members with _ | ⟨m, _ | ⟨n, rest⟩⟩
    · exact absurd hlength (by decide)
    · exact absurd hlength (by simp)
    · exact ⟨m, n, rest, rfl⟩
  have hparts := splitTopLevel_union (by simp) hmembers
  have hcallable := isCallable_of_members (s := union (m :: n :: rest))
  rw [stripParens_union hmembers, hparts] at hcallable
  exact hcallable hlength

/-! ## Brackets and blanks around a text -/

/-- A text with brackets and blanks around it, any number of times. -/
inductive Wraps (t : List Char) : List Char → Prop where
  | bare : Wraps t t
  | blanks {w before after : List Char} (h : Wraps t w)
      (hbefore : ∀ c ∈ before, Text.isBlank c = true)
      (hafter : ∀ c ∈ after, Text.isBlank c = true) : Wraps t (before ++ w ++ after)
  | brackets {w : List Char} (h : Wraps t w) : Wraps t ('(' :: (w ++ [')']))

/-- What is around a closed text is removed, and a closed text comes of it in between. -/
lemma Wraps.stripParens_eq {w : List Char} (h : Wraps t w) (ht : Closed t) :
    Closed w ∧ stripParens w = stripParens t := by
  induction h with
  | bare => exact ⟨ht, rfl⟩
  | blanks _ hbefore hafter ih =>
    refine ⟨ih.1.surrounded hbefore hafter, Eq.trans ?_ ih.2⟩
    exact stripParens_congr (Text.trim_surrounded hbefore hafter _)
  | brackets _ ih =>
    exact ⟨ih.1.brackets rfl rfl (by decide), (stripParens_brackets ih.1).trans ih.2⟩

lemma toList_mem_nullish {m : String} :
    m.toList ∈ nullish ↔ m ∈ ["null", "undefined", "void"] := by
  have hwords : nullish = ["null", "undefined", "void"].map String.toList := rfl
  rw [hwords]
  constructor
  · intro h
    obtain ⟨word, hword, heq⟩ := List.mem_map.mp h
    rwa [← String.toList_inj.mp heq]
  · exact List.mem_map_of_mem

/-- **Compositionality.** A union of two or more members is callable exactly if one of its members
does not stand for a missing value and all of those are callable. Brackets and blanks around a
closed text, any number of times, make no difference. -/
theorem isFunctionType_compositional :
    (∀ members : List String, 2 ≤ members.length → (∀ m ∈ members, IsMember m.toList) →
      (isFunctionType (" | ".intercalate members) = true ↔
        (∃ m ∈ members, m ∉ ["null", "undefined", "void"]) ∧
          ∀ m ∈ members, m ∉ ["null", "undefined", "void"] → isFunctionType m = true)) ∧
    ∀ t w : String, Closed t.toList → Wraps t.toList w.toList →
      isFunctionType w = isFunctionType t := by
  refine ⟨fun members hlength hmembers => ?_, fun t w ht hw => ?_⟩
  · have hunion : (" | ".intercalate members).toList = union (members.map String.toList) :=
      String.toList_intercalate
    have hall : ∀ m ∈ members.map String.toList, IsMember m := List.forall_mem_map.mpr hmembers
    rw [isFunctionType, hunion, isCallable_union (by rwa [List.length_map]) hall]
    simp only [List.mem_map, exists_exists_and_eq_and, forall_exists_index, and_imp,
      forall_apply_eq_imp_iff₂, toList_mem_nullish]
    rfl
  · exact isCallable_congr (hw.stripParens_eq ht).2

/-- An optional callback with a bar among its parameters, and a dispatcher in brackets. -/
theorem isFunctionType_compositional_optional :
    (∀ m ∈ ["((v: 'a|b') => Promise<void>)", "undefined"], IsMember m.toList) ∧
      isFunctionType "((v: 'a|b') => Promise<void>) | undefined" = true ∧
      Closed "Dispatch<A>".toList ∧
      isFunctionType " ( (Dispatch<A>))" = isFunctionType "Dispatch<A>" := by
  have hmembers : ∀ m ∈ ["((v: 'a|b') => Promise<void>)", "undefined"], IsMember m.toList := by
    decide
  have hclosed : Closed "Dispatch<A>".toList := by decide
  have hblank : ∀ c ∈ [' '], Text.isBlank c = true := List.forall_mem_singleton.mpr (by decide)
  have hwraps : Wraps "Dispatch<A>".toList " ( (Dispatch<A>))".toList :=
    .blanks (.brackets (.blanks (.brackets .bare) hblank (List.forall_mem_nil _))) hblank
      (List.forall_mem_nil _)
  obtain ⟨hunion, hwrapped⟩ := isFunctionType_compositional
  refine ⟨hmembers, (hunion _ (by decide) hmembers).mpr ⟨?_, ?_⟩, hclosed,
    hwrapped _ _ hclosed hwraps⟩
  · exact ⟨_, List.mem_cons_self, by decide⟩
  · decide +kernel

/-! ## Arrows -/

section

variable {parameters : List Char}

/-- The parameters of an arrow, and the arrow. -/
def arrowHead (parameters : List Char) : List Char :=
  '(' :: (parameters ++ [')', ' ', '=', '>', ' '])

/-- The members of a return type that follow its first bar outside of brackets and literals. -/
def laterMembers (returned : List Char) : List (List Char) :=
  ((cut ['|'].contains .start returned).tail.map Text.trim).filter (!·.isEmpty)

/-- Behind the arrow the scan stands as at the start of a text, and nothing has divided the text. -/
lemma outer_arrowHead (h : Closed parameters) :
    (State.start.run (arrowHead parameters)).Outer ∧
      State.start.undivided ['|'].contains (arrowHead parameters) = true := by
  obtain ⟨hdepth, houtside, -, hcloses⟩ :=
    State.closes_opener (o := '(') (c := ')') rfl h rfl (by decide)
  have hclose : ((State.start.step '(').run parameters).step ')' = ⟨0, .outside, some ')'⟩ := by
    rw [State.step_closer houtside rfl hcloses, hdepth]
  have hundivided : ((State.start.step '(').run parameters).undivided ['|'].contains
      [')', ' ', '=', '>', ' '] = true := by
    rw [State.undivided_cons_iff, hclose]
    exact ⟨by simp [State.divides, hdepth], by decide⟩
  constructor
  · rw [arrowHead, State.run_cons, State.run_append, State.run_cons, hclose]
    exact ⟨rfl, rfl⟩
  · rw [arrowHead, State.undivided_cons_iff, State.undivided_append,
      (State.below_opener rfl).undivided_of_nests h.nests, hundivided]
    exact ⟨by decide, rfl⟩

lemma trim_arrow (parameters returned : List Char) : Text.trim (arrowHead parameters ++ returned) =
    '(' :: (parameters ++ ')' :: ' ' :: '=' :: '>' :: Text.trimEnd (' ' :: returned)) := by
  have hsplit : arrowHead parameters ++ returned =
      ('(' :: (parameters ++ [')', ' ', '='])) ++ '>' :: ' ' :: returned := by
    simp [arrowHead]
  rw [Text.trim, Text.trimStart_eq_self (by simp [arrowHead]; rfl), hsplit,
    Text.trimEnd_append_cons (by decide)]
  simp

/-- No bracket is around an arrow as a whole. -/
lemma stripParens_arrow (h : Closed parameters) (returned : List Char) :
    stripParens (arrowHead parameters ++ returned) =
      Text.trim (arrowHead parameters ++ returned) := by
  rw [stripParens_eq, trim_arrow, enclosed?_closed h rfl rfl (by decide)]
  rfl

lemma isArrow_arrow (h : Closed parameters) (returned : List Char) :
    isArrow (Text.trim (arrowHead parameters ++ returned)) = true := by
  have hopen (rest : List Char) : afterTypeParameters? ('(' :: rest) = some ('(' :: rest) := rfl
  rw [trim_arrow, isArrow, hopen]
  simp only [enclosed?_closed h (o := '(') (c := ')') rfl rfl (by decide)]
  rfl

/-- The parts of an arrow: the arrow with the first member of its return type, and the others. -/
lemma splitTopLevel_arrow (h : Closed parameters) {returned first : List Char}
    {others : List (List Char)} (hcut : cut ['|'].contains .start returned = first :: others) :
    splitTopLevel ['|'] (stripParens (arrowHead parameters ++ returned)) =
      Text.trim (arrowHead parameters ++ first) :: laterMembers returned := by
  obtain ⟨houter, hundivided⟩ := outer_arrowHead h
  rw [stripParens_arrow h, splitTopLevel_trim isBlank_bar, splitTopLevel, laterMembers,
    cut_append hundivided, houter.cut, hcut, List.modifyHead_cons, List.map_cons,
    List.filter_cons_of_pos (by simp [trim_arrow])]
  rfl

/-- An arrow is callable if no further member follows the first one of its return type. -/
lemma isCallable_arrow_of_single (h : Closed parameters) {returned : List Char}
    (hlater : laterMembers returned = []) :
    isCallable (arrowHead parameters ++ returned) = true := by
  obtain ⟨first, others, hcut⟩ :=
    List.exists_cons_of_ne_nil (cut_ne_nil ['|'].contains .start returned)
  have hparts := splitTopLevel_arrow h hcut
  have hne : stripParens (arrowHead parameters ++ returned) ≠ [] := by
    rw [stripParens_arrow h, trim_arrow]
    exact List.cons_ne_nil _ _
  rw [isCallable_of_single hne (by simp [hparts, hlater]), stripParens_arrow h, isCallableMember,
    isArrow_arrow h]
  rfl

lemma laterMembers_of_undivided {returned : List Char}
    (h : State.start.undivided ['|'].contains returned = true) : laterMembers returned = [] := by
  rw [laterMembers, cut_of_undivided h]
  rfl

/-- An arrow is callable if the later members of its return type that count are. -/
lemma isCallable_arrow_iff (h : Closed parameters) (returned : List Char) :
    isCallable (arrowHead parameters ++ returned) = true ↔
      ∀ m ∈ laterMembers returned, m ∉ nullish → isCallable m = true := by
  cases hlater : laterMembers returned with
  | nil => simp [isCallable_arrow_of_single h hlater]
  | cons second more =>
    obtain ⟨first, others, hcut⟩ :=
      List.exists_cons_of_ne_nil (cut_ne_nil ['|'].contains .start returned)
    have hparts := splitTopLevel_arrow h hcut
    have hfirst : isCallable (Text.trim (arrowHead parameters ++ first)) = true := by
      rw [isCallable_congr (stripParens_congr (Text.trim_trim _))]
      exact isCallable_arrow_of_single h (laterMembers_of_undivided (undivided_of_cut hcut))
    have hcounts : Text.trim (arrowHead parameters ++ first) ∉ nullish := by
      simp [trim_arrow, nullish]
    rw [hlater] at hparts
    rw [isCallable_of_members (by simp [hparts]), hparts]
    constructor
    · exact fun hall m hm => hall.2 m (List.mem_cons_of_mem _ hm)
    · exact fun hall => ⟨⟨_, List.mem_cons_self, hcounts⟩,
        List.forall_mem_cons.mpr ⟨fun _ => hfirst, hall⟩⟩

end

/-- **Arrows.** An arrow signature is callable if its return type has no bar outside of brackets and
literals. With such a bar it is taken for a union: it is callable exactly if all members of the
return type that follow the bar, and do not stand for a missing value, are callable themselves. -/
theorem isFunctionType_arrow_iff (parameters returned : String) (h : Closed parameters.toList) :
    (State.start.undivided ['|'].contains returned.toList = true →
      isFunctionType ("(" ++ parameters ++ ") => " ++ returned) = true) ∧
    (isFunctionType ("(" ++ parameters ++ ") => " ++ returned) = true ↔
      ∀ m ∈ laterMembers returned.toList, m ∉ nullish → isCallable m = true) := by
  have hchars : ("(" ++ parameters ++ ") => " ++ returned).toList =
      arrowHead parameters.toList ++ returned.toList := by
    simp [arrowHead, String.toList_append]
  rw [isFunctionType, hchars]
  exact ⟨fun hreturned => isCallable_arrow_of_single h (laterMembers_of_undivided hreturned),
    isCallable_arrow_iff h _⟩

/-- A return type of two members, the second of which is not callable, makes an arrow that is not
callable. In brackets the same return type does no harm. -/
theorem isFunctionType_arrow_iff_union :
    Closed "x: string".toList ∧
      isFunctionType "(x: string) => string | number" = false ∧
      isFunctionType "(x: string) => (string | number)" = true := by
  have hclosed : Closed "x: string".toList := by decide
  have hunion := (isFunctionType_arrow_iff "x: string" "string | number" hclosed).2
  have hbrackets := (isFunctionType_arrow_iff "x: string" "(string | number)" hclosed).1
  refine ⟨hclosed, Bool.eq_false_iff.mpr (mt hunion.mp ?_), hbrackets (by decide)⟩
  decide +kernel

end ComponentFlow.TypeText

import ComponentFlow.Assembly.Reference
import ComponentFlow.Proofs.Identifiers
import ComponentFlow.Proofs.Trimming

/-!
# Accesses in references

A reference is an identifier with any number of accesses behind it: to members, by name, and to
indexes, in brackets. Splitting it always gives the identifier at its head. The member that goes
with it should be the first one that is accessed by name, and it is, as long as no index before it
has brackets inside (`splitReference_text`).

An index is taken to end at its first closing bracket, and what is left of it is read as further
names. For an index whose brackets match, that is nothing if it has none inside, and at least the
last bracket if it has (`Access.first?_eq_name?_iff`): each bracket that opens hides one that
closes, and one more closes behind the first than opens there.
-/

namespace ComponentFlow

/-! ## References -/

/-- Texts whose square brackets match. -/
inductive BracketsMatch : List Char → Prop where
  | nil : BracketsMatch []
  | cons {c : Char} {s : List Char} (hopen : c ≠ '[') (hclose : c ≠ ']') (h : BracketsMatch s) :
      BracketsMatch (c :: s)
  | brackets {s t : List Char} (hs : BracketsMatch s) (ht : BracketsMatch t) :
      BracketsMatch ('[' :: (s ++ ']' :: t))

/-- What stands before the point of an access by name. -/
inductive AccessMark where
  | none
  | optional
  | asserted

def AccessMark.text : AccessMark → List Char
  | none => []
  | optional => ['?']
  | asserted => ['!']

/-- One access in a reference. -/
inductive Access where
  | member (mark : AccessMark) (name : List Char) (hname : Text.IsIdentifier name)
  | index (isOptional : Bool) (inner : List Char) (hinner : BracketsMatch inner)

namespace Access

def text : Access → List Char
  | member mark name _ => mark.text ++ '.' :: name
  | index isOptional inner _ => (if isOptional then ['?', '.'] else []) ++ '[' :: (inner ++ [']'])

/-- The name of the member, if one is accessed by name. -/
def name? : Access → Option (List Char)
  | member _ name _ => some name
  | index _ _ _ => none

/-- Whether this is an index with brackets inside. -/
def isNested : Access → Bool
  | member _ _ _ => false
  | index _ inner _ => inner.contains ']'

end Access

/-- An identifier and the accesses behind it. -/
structure AccessPath where
  head : List Char
  isIdentifier : Text.IsIdentifier head
  accesses : List Access

namespace AccessPath

def text (p : AccessPath) : String := String.ofList (p.head ++ p.accesses.flatMap Access.text)

/-- The first member that is accessed by name. -/
def member? (p : AccessPath) : Option (List Char) := p.accesses.findSome? Access.name?

/-- Whether no index before the first access by name has brackets inside. -/
def IsPlain (p : AccessPath) : Prop :=
  ∀ a ∈ p.accesses.takeWhile (·.name?.isNone), a.isNested = false

end AccessPath

/-! ## Normal forms of accesses -/

/-- What is left of an index behind its first closing bracket, the last bracket included. -/
def leftover (inner : List Char) : List Char := (Text.after? ']' (inner ++ [']'])).getD []

variable {s t inner : List Char}

lemma leftover_of_not_mem (h : ']' ∉ inner) : leftover inner = [] := by
  rw [leftover, Text.after?_append h]
  rfl

lemma leftover_append (h : ']' ∉ s) (t : List Char) : leftover (s ++ ']' :: t) = t ++ [']'] := by
  rw [leftover, List.append_assoc, List.cons_append, Text.after?_append h]
  rfl

lemma normalizeAccess_identifier (h : ∀ c ∈ s, Text.isIdentifierPart c = true) (t : List Char) :
    normalizeAccess false (s ++ t) = s ++ normalizeAccess false t := by
  induction s with
  | nil => rfl
  | cons c s ih =>
    obtain ⟨hc, hrest⟩ := List.forall_mem_cons.mp h
    have hoptional : c ≠ '?' := Text.ne_of_isIdentifierPart hc rfl
    have hasserted : c ≠ '!' := Text.ne_of_isIdentifierPart hc rfl
    have hopen : c ≠ '[' := Text.ne_of_isIdentifierPart hc rfl
    simp [normalizeAccess, hoptional, hasserted, hopen, ih hrest]

lemma normalizeAccess_skipping (h : ']' ∉ s) (t : List Char) :
    normalizeAccess true (s ++ ']' :: t) = normalizeAccess false t := by
  induction s with
  | nil => rfl
  | cons c s ih =>
    rw [List.mem_cons, not_or] at h
    have hc : (c != ']') = true := by simpa using Ne.symm h.1
    rw [List.cons_append, normalizeAccess, if_pos rfl, hc, ih h.2]

/-- Nothing reaches over a closing bracket. -/
lemma normalizeAccess_append (skipping : Bool) (s t : List Char) :
    normalizeAccess skipping (s ++ ']' :: t) =
      normalizeAccess skipping (s ++ [']']) ++ normalizeAccess false t := by
  induction s generalizing skipping with
  | nil => cases skipping <;> rfl
  | cons c s ih =>
    have hhead : (s ++ ']' :: t).head? = (s ++ [']']).head? := by cases s <;> rfl
    have hcontains (u : List Char) : (s ++ ']' :: u).contains ']' = true := by simp
    rw [List.cons_append, List.cons_append, normalizeAccess, normalizeAccess, hhead, hcontains t,
      hcontains []]
    simp only [ih]
    split
    · rfl
    split
    · rfl
    split <;> rfl

/-- An index is read up to its first closing bracket, and what is left of it is read on. -/
lemma normalizeAccess_index (inner t : List Char) :
    normalizeAccess true (inner ++ ']' :: t) =
      normalizeAccess false (leftover inner) ++ normalizeAccess false t := by
  by_cases h : ']' ∈ inner
  · obtain ⟨before, after, rfl, hbefore⟩ := List.eq_append_cons_of_mem h
    rw [leftover_append hbefore, ← normalizeAccess_append, List.append_assoc, List.cons_append,
      normalizeAccess_skipping hbefore]
  · rw [leftover_of_not_mem h, normalizeAccess_skipping h]
    rfl

namespace Access

/-- What the normal form of an access has behind its first point. -/
def remainder : Access → List Char
  | member _ name _ => name
  | index isOptional inner _ =>
    (if isOptional then ['.'] else []) ++ normalizeAccess false (leftover inner)

lemma normalizeAccess_text (a : Access) (t : List Char) :
    normalizeAccess false (a.text ++ t) = '.' :: (a.remainder ++ normalizeAccess false t) := by
  cases a with
  | member mark name hname =>
    have hname (t : List Char) := normalizeAccess_identifier hname.part t
    cases mark <;> simp [text, AccessMark.text, remainder, normalizeAccess, hname]
  | index isOptional inner _ =>
    have hindex := normalizeAccess_index inner t
    cases isOptional <;> simp [text, remainder, normalizeAccess, hindex]

end Access

/-! ## Names in normal forms -/

lemma partsOf_append_cons (s t : List Char) : partsOf (s ++ '.' :: t) = partsOf s ++ partsOf t := by
  rw [partsOf, Text.pieces_append_cons, List.filter_append]
  rfl

lemma partsOf_identifier (h : Text.IsIdentifier s) : partsOf s = [s] := by
  have hpoint : '.' ∉ s := fun hmem => Text.ne_of_isIdentifierPart (h.part '.' hmem) rfl rfl
  rw [partsOf, Text.pieces_eq_single hpoint]
  simp [h.ne_nil]

lemma partsOf_ne_nil {c : Char} (hc : c ∈ s) (hne : c ≠ '.') : partsOf s ≠ [] := by
  induction s with
  | nil => cases hc
  | cons d s ih =>
    by_cases hd : d = '.'
    · subst hd
      have hrest : partsOf ('.' :: s) = partsOf s := partsOf_append_cons [] s
      rw [hrest]
      exact ih ((List.mem_cons.mp hc).resolve_left hne)
    · obtain ⟨piece, more, hpieces⟩ := List.exists_cons_of_ne_nil (Text.pieces_ne_nil '.' s)
      rw [partsOf, Text.pieces, if_neg (by simpa using hd), hpieces]
      simp

/-- The names that an access leaves. -/
def Access.parts (a : Access) : List (List Char) := partsOf a.remainder

lemma partsOf_accesses (s : List Char) (accesses : List Access) :
    partsOf (s ++ normalizeAccess false (accesses.flatMap Access.text)) =
      partsOf s ++ accesses.flatMap Access.parts := by
  induction accesses generalizing s with
  | nil => simp [normalizeAccess]
  | cons a accesses ih =>
    rw [List.flatMap_cons, a.normalizeAccess_text, partsOf_append_cons, ih, List.flatMap_cons]
    rfl

/-! ## Brackets inside of indexes -/

/-- Each opening bracket hides at most one that closes, and so does the bracket that is open. -/
lemma count_normalizeAccess (skipping : Bool) (s : List Char) :
    s.count ']' ≤ (normalizeAccess skipping s).count ']' + s.count '[' + skipping.toNat := by
  induction s generalizing skipping with
  | nil => simp
  | cons c s ih =>
    have hread := ih false
    have hskip := ih true
    rw [Bool.toNat_false] at hread
    rw [Bool.toNat_true] at hskip
    rw [normalizeAccess]
    by_cases hclose : c = ']'
    · -- it is dropped exactly if an index is open, which it closes
      subst hclose
      cases skipping <;> grind
    by_cases hopen : c = '['
    · -- an index that is never closed is no index, and inside of one no other is opened
      subst hopen
      cases skipping <;> grind
    · -- any other character counts on neither side
      cases skipping <;> grind

lemma BracketsMatch.count_eq (h : BracketsMatch s) : s.count '[' = s.count ']' := by
  induction h with
  | nil => rfl
  | cons hopen hclose _ ih => simp [hopen, hclose, ih]
  | brackets _ _ ihs iht =>
    rw [List.count_cons_self, List.count_append, List.count_cons_of_ne (by decide),
      List.count_cons_of_ne (by decide), List.count_append, List.count_cons_self, ihs, iht]
    omega

/-- Behind the first closing bracket at least as many brackets close as open. -/
lemma BracketsMatch.count_after (h : BracketsMatch (s ++ ']' :: t)) (hs : ']' ∉ s) :
    t.count '[' ≤ t.count ']' := by
  generalize htext : s ++ ']' :: t = text at h
  induction h generalizing s t with
  | nil => exact absurd htext (by simp)
  | @cons c text _ hclose _ ih =>
    cases s with
    | nil => exact absurd (List.cons.inj htext).1.symm hclose
    | cons d s =>
      rw [List.mem_cons, not_or] at hs
      exact ih hs.2 (List.cons.inj htext).2
  | @brackets u w hu hw ihu ihw =>
    cases s with
    | nil => exact absurd (List.cons.inj htext).1 (by decide)
    | cons d s =>
      rw [List.mem_cons, not_or] at hs
      have hrest : s ++ ']' :: t = u ++ ']' :: w := (List.cons.inj htext).2
      -- the first closing bracket stands inside of these brackets or is the second of them
      by_cases hmem : ']' ∈ u
      · obtain ⟨before, after, rfl, hbefore⟩ := List.eq_append_cons_of_mem hmem
        have hafter := ihu hbefore rfl
        have hsame : Text.after? ']' (s ++ ']' :: t) = some t := Text.after?_append hs.2
        rw [hrest, List.append_assoc, List.cons_append, Text.after?_append hbefore] at hsame
        obtain rfl := Option.some.inj hsame
        have hw := hw.count_eq
        rw [List.count_append, List.count_append, List.count_cons_self,
          List.count_cons_of_ne (by decide)]
        omega
      · have hsame : Text.after? ']' (s ++ ']' :: t) = some t := Text.after?_append hs.2
        rw [hrest, Text.after?_append hmem] at hsame
        obtain rfl := Option.some.inj hsame
        exact Nat.le_of_eq hw.count_eq

/-- An index leaves names exactly if it has brackets inside. -/
lemma partsOf_leftover_eq_nil_iff (h : BracketsMatch inner) :
    partsOf (normalizeAccess false (leftover inner)) = [] ↔ ']' ∉ inner := by
  refine ⟨fun hnil hmem => ?_, fun hmem => by rw [leftover_of_not_mem hmem]; rfl⟩
  obtain ⟨before, after, rfl, hbefore⟩ := List.eq_append_cons_of_mem hmem
  have hafter := h.count_after hbefore
  have hcount := count_normalizeAccess false (after ++ [']'])
  rw [leftover_append hbefore] at hnil
  have hkept : ']' ∈ normalizeAccess false (after ++ [']']) := by
    rw [← List.count_pos_iff]
    simp only [List.count_append, Bool.toNat_false] at hcount
    have hone : [']'].count ']' = 1 := rfl
    have hnone : [']'].count '[' = 0 := rfl
    omega
  exact partsOf_ne_nil hkept (by decide) hnil

namespace Access

/-- The first name that is read from an access. -/
def first? (a : Access) : Option (List Char) := a.parts.head?

lemma parts_index (isOptional : Bool) (inner : List Char) (h : BracketsMatch inner) :
    (index isOptional inner h).parts = partsOf (normalizeAccess false (leftover inner)) := by
  cases isOptional with
  | true => exact partsOf_append_cons [] _
  | false => rfl

lemma parts_member (mark : AccessMark) (name : List Char) (h : Text.IsIdentifier name) :
    (member mark name h).parts = [name] := partsOf_identifier h

/-- An access is read as it is meant unless it is an index with brackets inside. -/
lemma first?_eq_name?_iff (a : Access) : a.first? = a.name? ↔ a.isNested = false := by
  cases a with
  | member mark name h =>
    rw [first?, parts_member]
    exact iff_of_true rfl rfl
  | index isOptional inner h =>
    rw [first?, parts_index, name?, List.head?_eq_none_iff, partsOf_leftover_eq_nil_iff h, isNested,
      Bool.eq_false_iff, ne_eq, List.contains_iff_mem]

end Access

/-! ## Splitting references -/

namespace AccessPath

lemma getLast?_append_accesses {s : List Char} (hne : s ≠ [])
    (hs : ∀ c ∈ s.getLast?, Text.isBlank c = false) (accesses : List Access) :
    ∀ c ∈ (s ++ accesses.flatMap Access.text).getLast?, Text.isBlank c = false := by
  induction accesses generalizing s with
  | nil => rwa [List.flatMap_nil, List.append_nil]
  | cons a accesses ih =>
    rw [List.flatMap_cons, ← List.append_assoc]
    refine ih (List.append_ne_nil_of_left_ne_nil hne _) ?_
    cases a with
    | member mark name hname =>
      obtain ⟨front, last, rfl⟩ : ∃ front last, name = front ++ [last] :=
        ⟨_, _, (List.dropLast_concat_getLast hname.ne_nil).symm⟩
      have hlast := hname.isBlank_eq_false last (by simp)
      have heq : s ++ (Access.member mark (front ++ [last]) hname).text =
          s ++ mark.text ++ '.' :: front ++ [last] := by simp [Access.text]
      rw [heq, List.getLast?_concat]
      exact fun c hc => Option.some.inj hc ▸ hlast
    | index isOptional inner h =>
      have heq : s ++ (Access.index isOptional inner h).text =
          s ++ (if isOptional then ['?', '.'] else []) ++ '[' :: inner ++ [']'] := by
        simp [Access.text]
      rw [heq, List.getLast?_concat]
      exact fun c hc => Option.some.inj hc ▸ rfl

/-- A reference neither starts nor ends with a blank. -/
lemma trim_text (p : AccessPath) : Text.trim p.text.toList = p.text.toList := by
  have hvisible := p.isIdentifier.isBlank_eq_false
  rw [text, String.toList_ofList]
  refine Text.trim_eq_self ?_ (getLast?_append_accesses p.isIdentifier.ne_nil
    (fun c hc => hvisible c (List.mem_of_getLast? hc)) p.accesses)
  obtain ⟨first, rest, hhead⟩ := List.exists_cons_of_ne_nil p.isIdentifier.ne_nil
  rw [hhead, List.cons_append, List.head?_cons]
  exact fun c hc => Option.some.inj hc ▸ hvisible first (hhead ▸ List.mem_cons_self)

lemma referenceParts_text (p : AccessPath) :
    referenceParts p.text = p.head :: p.accesses.flatMap Access.parts := by
  have hparts := partsOf_accesses p.head p.accesses
  rw [partsOf_identifier p.isIdentifier, ← normalizeAccess_identifier p.isIdentifier.part] at hparts
  rw [referenceParts, p.trim_text, text, String.toList_ofList]
  exact hparts

/-- A reference is split into its head and the first name that is read from its accesses. -/
lemma splitReference_eq (p : AccessPath) : splitReference p.text =
    (String.ofList p.head, (p.accesses.findSome? Access.first?).map String.ofList) := by
  have hfirst : (p.accesses.flatMap Access.parts).head? = p.accesses.findSome? Access.first? :=
    List.head?_flatMap
  rw [splitReference, p.referenceParts_text, ← hfirst]
  cases p.accesses.flatMap Access.parts <;> rfl

end AccessPath

/-- Up to the first access by name, all that counts is that no index has brackets inside. -/
lemma findSome?_first? {accesses : List Access}
    (h : ∀ a ∈ accesses.takeWhile (·.name?.isNone), a.isNested = false) :
    accesses.findSome? Access.first? = accesses.findSome? Access.name? := by
  induction accesses with
  | nil => rfl
  | cons a accesses ih =>
    rw [List.findSome?_cons, List.findSome?_cons]
    cases a with
    | member mark name hname =>
      rw [(Access.first?_eq_name?_iff _).mpr rfl]
      rfl
    | index isOptional inner hinner =>
      have hnone : ((Access.index isOptional inner hinner).name?.isNone) = true := rfl
      rw [List.takeWhile_cons, if_pos hnone, List.forall_mem_cons] at h
      rw [(Access.first?_eq_name?_iff _).mpr h.1]
      exact ih h.2

/-- **References.** A reference is split into the identifier at its head and the first name that is
read from its accesses. From an access, what is accessed is read, and nothing from an index, exactly
if it is not an index with brackets inside. So if none of these comes first, the second part is the
first member that is accessed by name, if there is any. -/
theorem splitReference_text (p : AccessPath) :
    splitReference p.text =
      (String.ofList p.head, (p.accesses.findSome? Access.first?).map String.ofList) ∧
    (∀ a ∈ p.accesses, a.first? = a.name? ↔ a.isNested = false) ∧
    (p.IsPlain → splitReference p.text = (String.ofList p.head, p.member?.map String.ofList)) := by
  refine ⟨p.splitReference_eq, fun a _ => a.first?_eq_name?_iff, fun hplain => ?_⟩
  rw [p.splitReference_eq, findSome?_first? hplain]
  rfl

lemma BracketsMatch.of_not_mem (hopen : '[' ∉ s) (hclose : ']' ∉ s) : BracketsMatch s := by
  induction s with
  | nil => exact .nil
  | cons c s ih =>
    rw [List.mem_cons, not_or] at hopen hclose
    exact .cons (Ne.symm hopen.1) (Ne.symm hclose.1) (ih hopen.2 hclose.2)

/-- An index with brackets inside takes the place of the member, unless it comes later. -/
theorem splitReference_text_nested :
    splitReference "items[row[0]].label" = ("items", some "]") ∧
      splitReference "items?.[i.row]!.label[row[0]]" = ("items", some "label") := by
  have hitems : Text.IsIdentifier "items".toList := by decide
  have hlabel : Text.IsIdentifier "label".toList := by decide
  have hplain : BracketsMatch "i.row".toList := .of_not_mem (by decide) (by decide)
  have hzero : BracketsMatch ['0'] := .of_not_mem (by decide) (by decide)
  have hnested : BracketsMatch "row[0]".toList :=
    .cons (by decide) (by decide) (.cons (by decide) (by decide)
      (.cons (by decide) (by decide) (.brackets hzero .nil)))
  constructor
  · have hsplit :=
      splitReference_text ⟨_, hitems, [.index false _ hnested, .member .none _ hlabel]⟩
    exact hsplit.1.trans rfl
  · have hsplit := splitReference_text
      ⟨_, hitems, [.index true _ hplain, .member .asserted _ hlabel, .index false _ hnested]⟩
    exact hsplit.2.2 (List.forall_mem_singleton.mpr rfl)

end ComponentFlow

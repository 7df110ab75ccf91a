import ComponentFlow.Proofs.Identifiers
import ComponentFlow.Proofs.Scans
import ComponentFlow.TypeText.Members

/-!
# Printed object types

Reading the member names of an object type undoes printing it (`memberNames_printObject`). A
declaration carries what its text needs: its name is an identifier, or stands in quotes that it does
not close itself, and its type is closed and has no separator outside of brackets and literals.

The text is scanned three times: for the closing brace, for the separators, and in each declaration
for the end of its name. All three scans agree since declarations are closed: the brace at the end
belongs to the one at the start, each declaration is one part, and its name ends at its colon.
-/

namespace ComponentFlow.TypeText

variable {st : State} {c q : Char} {s t : List Char} {isSep : Char → Bool}

/-! ## Declarations -/

/-- The name of a member as it is declared. -/
inductive DeclaredName where
  | identifier (name : List Char) (hname : Text.IsIdentifier name)
  | quoted (quote : Char) (name : List Char) (hquote : isQuote quote = true) (hne : name ≠ [])
      (hname : ∀ c ∈ name, c ≠ quote ∧ c ≠ '\\')

namespace DeclaredName

/-- The name itself, without quotes. -/
def name : DeclaredName → List Char
  | identifier name _ => name
  | quoted _ name _ _ _ => name

def text : DeclaredName → List Char
  | identifier name _ => name
  | quoted quote name _ _ _ => quote :: (name ++ [quote])

end DeclaredName

/-- The characters between the members of an object type. -/
inductive Separator where
  | semicolon
  | comma

def Separator.char : Separator → Char
  | semicolon => ';'
  | comma => ','

/-- The declaration of a member with a type that can stand between separators. -/
structure Declaration where
  isReadonly : Bool
  label : DeclaredName
  isOptional : Bool
  type : List Char
  closed : Closed type
  undivided : State.start.undivided [';', ','].contains type = true

namespace Declaration

/-- What stands before the name. -/
def modifier (d : Declaration) : List Char :=
  if d.isReadonly then "readonly ".toList else []

/-- The name as it is declared, with a mark if the member is optional. -/
def head (d : Declaration) : List Char :=
  d.label.text ++ if d.isOptional then ['?'] else []

def text (d : Declaration) : List Char :=
  d.modifier ++ (d.head ++ ':' :: ' ' :: d.type)

end Declaration

/-- The declarations with separators between them: the given ones in order, and semicolons where
these do not suffice. -/
def printMembers : List Declaration → List Separator → List Char
  | [], _ => []
  | [d], _ => d.text
  | d :: e :: others, separators =>
    d.text ++ (separators.headD .semicolon).char :: ' ' ::
      printMembers (e :: others) separators.tail

/-- What stands after the last declaration: nothing, or a separator, with or without a blank. -/
inductive Ending where
  | bare
  | separator (s : Separator)
  | spaced (s : Separator)

def Ending.text : Ending → List Char
  | bare => []
  | separator s => [s.char]
  | spaced s => [s.char, ' ']

/-- The text of an object type. -/
def printObject (declarations : List Declaration) (separators : List Separator)
    (ending : Ending) : String :=
  String.ofList ('\x7b' :: (' ' :: (printMembers declarations separators ++ ending.text ++ [' '])
    ++ ['\x7d']))

/-! ## Names are closed -/

/-- Inside of a literal nothing is seen. -/
lemma State.run_inside (isSep : Char → Bool) (h : st.literal = .inside q)
    (hs : ∀ c ∈ s, c ≠ q ∧ c ≠ '\\') :
    (st.run s).literal = .inside q ∧ (st.run s).depth = st.depth ∧ st.nests s = true ∧
      st.undivided isSep s = true := by
  induction s generalizing st with
  | nil => exact ⟨h, rfl, rfl, rfl⟩
  | cons c s ih =>
    obtain ⟨⟨hquote, hescape⟩, hrest⟩ := List.forall_mem_cons.mp hs
    have hstep : st.step c = { st with previous := some c } := by
      simp [step, h, hquote, hescape]
    have hunseen : st.sees c = false := by simp [sees, h]
    have hinside : (st.step c).literal = .inside q := by rw [hstep, h]
    obtain ⟨hliteral, hdepth, hnests, hundivided⟩ := ih hinside hrest
    refine ⟨hliteral, by rw [run_cons, hdepth, hstep], nests_cons_iff.mpr ⟨?_, hnests⟩,
      undivided_cons_iff.mpr ⟨?_, hundivided⟩⟩
    · simp [overcloses, hunseen]
    · simp [divides, hunseen]

lemma State.step_quote (h : st.literal = .inside q) (hq : isQuote q = true) :
    st.step q = { st with literal := .outside, previous := some q } := by
  have hne : q ≠ '\\' := by
    rintro rfl
    cases hq
  simp [step, h, hne]

/-- A literal is closed, and nothing divides it. -/
lemma closed_literal (hq : isQuote q = true) (hs : ∀ c ∈ s, c ≠ q ∧ c ≠ '\\') :
    Closed (q :: (s ++ [q])) ∧ State.start.undivided isSep (q :: (s ++ [q])) = true := by
  have hopen : State.start.step q = ⟨0, .inside q, some q⟩ := by simp [State.step, State.start, hq]
  have hinside : (State.start.step q).literal = .inside q := by rw [hopen]
  obtain ⟨hliteral, hdepth, hnests, hundivided⟩ := State.run_inside isSep hinside hs
  have hunseen : State.start.sees q = false := by simp [State.sees, hq]
  have hhidden : ((State.start.step q).run s).sees q = false := by simp [State.sees, hliteral]
  have hend : (State.start.run (q :: (s ++ [q]))).Outer := by
    rw [State.run_cons, State.run_append, State.run_cons, State.step_quote hliteral hq]
    exact ⟨hdepth.trans (by rw [hopen]), rfl⟩
  refine ⟨⟨?_, hend.depth, hend.literal⟩, ?_⟩
  · simp [State.nests, State.nests_append, hnests, State.overcloses, hunseen, hhidden]
  · simp [State.undivided, State.undivided_append, hundivided, State.divides, hunseen, hhidden]

lemma isNeutral_of_isIdentifierPart (h : Text.isIdentifierPart c = true) : isNeutral c = true :=
  isNeutral_of_class h (by decide)

/-- Names are closed, and no sign that is not part of an identifier divides them. -/
lemma DeclaredName.closed_text (n : DeclaredName)
    (hsep : ∀ c, isSep c = true → Text.isIdentifierPart c = false) :
    Closed n.text ∧ State.start.undivided isSep n.text = true := by
  cases n with
  | identifier name hname =>
    refine ⟨closed_of_neutral fun c hc => isNeutral_of_isIdentifierPart (hname.part c hc),
      State.undivided_of_forall _ fun c hc => Bool.eq_false_iff.mpr fun hc' => ?_⟩
    exact Text.ne_of_isIdentifierPart (hname.part c hc) (hsep c hc') rfl
  | quoted quote name hquote _ hname => exact closed_literal hquote hname

/-! ## Declarations are closed -/

lemma Closed.undivided_append (hs : Closed s) (hus : State.start.undivided isSep s = true)
    (hut : State.start.undivided isSep t = true) :
    State.start.undivided isSep (s ++ t) = true := by
  rw [State.undivided_append, hus, hs.outer.undivided, hut]
  rfl

namespace Declaration

lemma closed_head (d : Declaration) (hsep : ∀ c, isSep c = true → Text.isIdentifierPart c = false)
    (hmark : isSep '?' = false) :
    Closed d.head ∧ State.start.undivided isSep d.head = true := by
  obtain ⟨hclosed, hundivided⟩ := d.label.closed_text hsep
  rw [head]
  split
  · refine ⟨hclosed.append (by decide), hclosed.undivided_append hundivided ?_⟩
    exact State.undivided_of_forall _ (List.forall_mem_singleton.mpr hmark)
  · rw [List.append_nil]
    exact ⟨hclosed, hundivided⟩

lemma closed_modifier (d : Declaration) :
    Closed d.modifier ∧ State.start.undivided [';', ','].contains d.modifier = true := by
  rw [modifier]
  split <;> decide +kernel

/-- A declaration is closed, and no separator divides it. -/
lemma closed_text (d : Declaration) :
    Closed d.text ∧ State.start.undivided [';', ','].contains d.text = true := by
  have hsep : ∀ c, [';', ','].contains c = true → Text.isIdentifierPart c = false := by
    intro c hc
    have hmem := List.contains_iff_mem.mp hc
    simp only [List.mem_cons, List.not_mem_nil, or_false] at hmem
    rcases hmem with rfl | rfl <;> rfl
  obtain ⟨hhead, hheadUndivided⟩ := d.closed_head hsep rfl
  obtain ⟨hmodifier, hmodifierUndivided⟩ := d.closed_modifier
  have hcolon : Closed [':', ' '] := by decide
  have hcolonUndivided : State.start.undivided [';', ','].contains [':', ' '] = true := by decide
  have heq : d.text = d.modifier ++ (d.head ++ ([':', ' '] ++ d.type)) := by simp [text]
  rw [heq]
  refine ⟨hmodifier.append (hhead.append (hcolon.append d.closed)), ?_⟩
  exact hmodifier.undivided_append hmodifierUndivided (hhead.undivided_append hheadUndivided
    (hcolon.undivided_append hcolonUndivided d.undivided))

end Declaration

/-! ## The name of a declaration -/

/-- Whether a character can be the first or the last one of a declared name. -/
def isNameEnd (c : Char) : Bool := Text.isIdentifierPart c || isQuote c

lemma isBlank_of_isNameEnd (h : isNameEnd c = true) : Text.isBlank c = false := by
  rcases Bool.or_eq_true_iff.mp h with h | h
  · exact Text.isBlank_of_isIdentifierPart h
  · refine Bool.eq_false_iff.mpr fun hblank => ?_
    rw [(isNeutral_iff.mp (isNeutral_of_isBlank hblank)).1] at h
    cases h

lemma DeclaredName.isNameEnd_text (n : DeclaredName) : ∃ front last rest first,
    n.text = front ++ [last] ∧ n.text = first :: rest ∧ isNameEnd last = true ∧
      isNameEnd first = true := by
  cases n with
  | identifier name hname =>
    obtain ⟨first, rest, hfirst⟩ := List.exists_cons_of_ne_nil hname.ne_nil
    refine ⟨name.dropLast, name.getLast hname.ne_nil, rest, first,
      (List.dropLast_concat_getLast hname.ne_nil).symm, hfirst, ?_, ?_⟩
    · rw [isNameEnd, hname.part _ (List.getLast_mem _)]
      rfl
    · rw [isNameEnd, hname.part first (hfirst ▸ List.mem_cons_self)]
      rfl
  | quoted quote name hquote _ _ =>
    exact ⟨quote :: name, quote, name ++ [quote], quote, rfl, rfl, by simp [isNameEnd, hquote],
      by simp [isNameEnd, hquote]⟩

/-- A name is what is left of its text without quotes. -/
lemma unquote_text (n : DeclaredName) : unquote n.text = n.name := by
  cases n with
  | identifier name hname =>
    obtain ⟨first, rest, hfirst⟩ := List.exists_cons_of_ne_nil hname.ne_nil
    have hneutral := isNeutral_of_isIdentifierPart (hname.part first (hfirst ▸ List.mem_cons_self))
    obtain ⟨hquote, -⟩ := isNeutral_iff.mp hneutral
    rw [DeclaredName.text, DeclaredName.name, unquote]
    split
    · rename_i c last hhead _
      rw [hfirst, List.head?_cons, Option.some.injEq] at hhead
      rw [← hhead, hquote]
      simp
    · rfl
  | quoted quote name hquote _ _ =>
    have hlast : (quote :: (name ++ [quote])).getLast? = some quote := by
      rw [← List.cons_append, List.getLast?_concat]
    simp [DeclaredName.text, DeclaredName.name, unquote, hlast, hquote]

/-- The head of a declaration ends at the first character that is seen and ends it. -/
lemma headBefore_append_cons (hs : st.undivided isSep s = true)
    (hc : (st.run s).divides isSep c = true) (t : List Char) :
    headBefore isSep st (s ++ c :: t) = s := by
  induction s generalizing st with
  | nil => exact if_pos hc
  | cons a s ih =>
    obtain ⟨ha, hrest⟩ := State.undivided_cons_iff.mp hs
    rw [State.divides] at ha
    rw [List.cons_append, headBefore, ha, ih hrest hc]
    rfl

/-- The text of a declaration without a modifier. -/
def unmodified (s : List Char) : List Char :=
  match Text.afterStart? "readonly ".toList s with
  | some rest => Text.trimStart rest
  | none => s

lemma memberName?_eq (declaration : List Char) : memberName? declaration =
    let s := unmodified (Text.trim declaration)
    if s.head? == some '[' || s.head? == some '(' then none
    else
      let head := headBefore [':', '(', '<'].contains .start s
      let name := unquote (Text.trim (trimEndOf '?' (Text.trim head)))
      if name.isEmpty then none else some name := rfl

lemma trimEndOf_concat (s : List Char) (c : Char) : trimEndOf c (s ++ [c]) = trimEndOf c s := by
  simp [trimEndOf]

lemma trimEndOf_eq_self {a : Char} (h : a ≠ c) (s : List Char) :
    trimEndOf c (s ++ [a]) = s ++ [a] := by
  simp [trimEndOf, h]

namespace Declaration

lemma head_eq_cons (d : Declaration) :
    ∃ first rest, d.head = first :: rest ∧ isNameEnd first = true := by
  obtain ⟨-, -, rest, first, -, htext, -, hfirst⟩ := d.label.isNameEnd_text
  exact ⟨first, _, by rw [head, htext, List.cons_append], hfirst⟩

/-- The name is what is left of the head without blanks, marks and quotes. -/
lemma unquote_head (d : Declaration) :
    unquote (Text.trim (trimEndOf '?' (Text.trim d.head))) = d.label.name := by
  obtain ⟨front, last, rest, first, hlast, hfirst, hlastEnd, hfirstEnd⟩ := d.label.isNameEnd_text
  have hmark : isNameEnd '?' = false := rfl
  have hne : last ≠ '?' := by
    rintro rfl
    rw [hmark] at hlastEnd
    cases hlastEnd
  have hstart (t : List Char) : ∀ c ∈ (d.label.text ++ t).head?, Text.isBlank c = false := by
    rw [hfirst, List.cons_append, List.head?_cons]
    exact fun c hc => Option.some.inj hc ▸ isBlank_of_isNameEnd hfirstEnd
  have htext : Text.trim d.label.text = d.label.text := by
    refine Text.trim_eq_self (by simpa using hstart []) fun c hc => ?_
    rw [hlast, List.getLast?_concat] at hc
    exact Option.some.inj hc ▸ isBlank_of_isNameEnd hlastEnd
  have hhead : Text.trim d.head = d.head := by
    rw [head]
    split
    · refine Text.trim_eq_self (hstart _) fun c hc => ?_
      rw [List.getLast?_concat] at hc
      exact Option.some.inj hc ▸ rfl
    · rw [List.append_nil, htext]
  have hunmarked : trimEndOf '?' d.head = d.label.text := by
    have hself : trimEndOf '?' d.label.text = d.label.text := by
      rw [hlast]
      exact trimEndOf_eq_self hne front
    rw [head]
    split
    · rw [trimEndOf_concat, hself]
    · rw [List.append_nil, hself]
  rw [hhead, hunmarked, htext, unquote_text]

/-- Trimming does not reach the colon. -/
lemma trim_text (d : Declaration) :
    Text.trim d.text = d.modifier ++ (d.head ++ ':' :: Text.trimEnd (' ' :: d.type)) := by
  obtain ⟨first, rest, hhead, hfirst⟩ := d.head_eq_cons
  have hvisible : ∀ c ∈ d.text.head?, Text.isBlank c = false := by
    rw [text, modifier]
    split
    · exact fun c hc => Option.some.inj hc ▸ rfl
    · rw [hhead]
      exact fun c hc => Option.some.inj hc ▸ isBlank_of_isNameEnd hfirst
  rw [Text.trim, Text.trimStart_eq_self hvisible, text, ← List.append_assoc,
    Text.trimEnd_append_cons (by decide), List.append_assoc]

/-- The first sign in a head with a colon behind it that is not part of an identifier is a quote,
the mark or the colon, and so it is not a blank. -/
lemma find?_head (d : Declaration) (rest : List Char) :
    (d.head ++ ':' :: rest).find? (!Text.isIdentifierPart ·) ≠ some ' ' := by
  rw [head]
  cases d.label with
  | identifier name hname =>
    have hnone : name.find? (!Text.isIdentifierPart ·) = none := by
      rw [List.find?_eq_none]
      intro c hc
      rw [hname.part c hc]
      decide
    rw [DeclaredName.text, List.append_assoc, List.find?_append, hnone, Option.none_or]
    split <;> exact fun heq => absurd (Option.some.inj heq) (by decide)
  | quoted quote name hquote _ _ =>
    have hpart : Text.isIdentifierPart quote = false := by
      refine Bool.eq_false_iff.mpr fun hpart => ?_
      rw [(isNeutral_iff.mp (isNeutral_of_isIdentifierPart hpart)).1] at hquote
      cases hquote
    rw [DeclaredName.text, List.cons_append, List.cons_append,
      List.find?_cons_of_pos (by simp [hpart])]
    intro heq
    rw [Option.some.inj heq] at hquote
    cases hquote

/-- Without the modifier a declaration starts with its head. -/
lemma unmodified_trim_text (d : Declaration) :
    unmodified (Text.trim d.text) = d.head ++ ':' :: Text.trimEnd (' ' :: d.type) := by
  rw [trim_text, modifier, unmodified]
  cases d.isReadonly with
  | true =>
    obtain ⟨first, rest, hhead, hfirst⟩ := d.head_eq_cons
    rw [if_pos rfl, Text.afterStart?_eq_some_iff.mpr rfl]
    refine Text.trimStart_eq_self ?_
    rw [hhead]
    exact fun c hc => Option.some.inj hc ▸ isBlank_of_isNameEnd hfirst
  | false =>
    rw [if_neg Bool.false_ne_true, List.nil_append]
    split
    · rename_i rest hrest
      have hblank := d.find?_head (Text.trimEnd (' ' :: d.type))
      rw [Text.afterStart?_eq_some_iff.mp hrest] at hblank
      exact absurd rfl hblank
    · rfl

/-- The name of a declaration is read from its text. -/
lemma memberName?_trim_text (d : Declaration) :
    memberName? (Text.trim d.text) = some d.label.name := by
  have hsep : ∀ c, [':', '(', '<'].contains c = true → Text.isIdentifierPart c = false := by
    intro c hc
    have hmem := List.contains_iff_mem.mp hc
    simp only [List.mem_cons, List.not_mem_nil, or_false] at hmem
    rcases hmem with rfl | rfl | rfl <;> rfl
  obtain ⟨hclosed, hundivided⟩ := d.closed_head hsep rfl
  have hcolon : (State.start.run d.head).divides [':', '(', '<'].contains ':' = true :=
    (hclosed.outer.divides ':').trans rfl
  obtain ⟨first, rest, hhead, hfirst⟩ := d.head_eq_cons
  have hsignature (b : Char) (hb : isNameEnd b = false) (t : List Char) :
      ((d.head ++ t).head? == some b) = false := by
    rw [hhead, List.cons_append, List.head?_cons, beq_eq_false_iff_ne]
    rintro heq
    rw [Option.some.inj heq, hb] at hfirst
    cases hfirst
  have hname : d.label.name ≠ [] := by
    cases d.label with
    | identifier _ h => exact h.ne_nil
    | quoted _ _ _ h _ => exact h
  rw [memberName?_eq, Text.trim_trim, d.unmodified_trim_text]
  dsimp only
  rw [hsignature '[' rfl, hsignature '(' rfl,
    headBefore_append_cons hundivided hcolon, d.unquote_head]
  simp [hname]

end Declaration

/-! ## Printed members -/

lemma Separator.mem_char (sep : Separator) : sep.char ∈ [';', ','] ∧ isNeutral sep.char = true := by
  cases sep <;> decide

/-- A declaration before a separator is the first part. -/
lemma Declaration.splitTopLevel_text (d : Declaration) (sep : Separator) (t : List Char) :
    splitTopLevel [';', ','] (' ' :: d.text ++ sep.char :: t) =
      Text.trim d.text :: splitTopLevel [';', ','] t := by
  obtain ⟨hclosed, hundivided⟩ := d.closed_text
  have hblank : Closed [' '] := by decide
  have hafter : Closed (' ' :: d.text) := hblank.append hclosed
  have hafterUndivided : State.start.undivided [';', ','].contains (' ' :: d.text) = true :=
    hblank.undivided_append (by decide) hundivided
  have htrim : Text.trim (' ' :: d.text) = Text.trim d.text :=
    Text.trim_cons_of_isBlank (by decide) d.text
  have hne : Text.trim (' ' :: d.text) ≠ [] := by simp [htrim, d.trim_text]
  rw [splitTopLevel_append_cons hafterUndivided hne hafter.outer sep.mem_char.1 sep.mem_char.2,
    htrim]

/-- A declaration with blanks around it is the only part. -/
lemma Declaration.splitTopLevel_text_blank (d : Declaration) :
    splitTopLevel [';', ','] (' ' :: (d.text ++ [' '])) = [Text.trim d.text] := by
  have hspace : ∀ c ∈ [' '], Text.isBlank c = true := List.forall_mem_singleton.mpr (by decide)
  have hseparators : ∀ c ∈ [';', ','], Text.isBlank c = false := List.forall_mem_cons.mpr
    ⟨by decide, List.forall_mem_singleton.mpr (by decide)⟩
  have hsurrounded := splitTopLevel_surrounded hspace hspace hseparators d.text
  have hne : Text.trim d.text ≠ [] := by simp [d.trim_text]
  rw [splitTopLevel_of_undivided d.closed_text.2 hne] at hsurrounded
  exact hsurrounded

lemma closed_printMembers (declarations : List Declaration) (separators : List Separator) :
    Closed (printMembers declarations separators) := by
  fun_induction printMembers declarations separators with
  | case1 => decide
  | case2 d => exact d.closed_text.1
  | case3 d e others separators ih =>
    have hsep : Closed [(separators.headD .semicolon).char, ' '] := by
      cases separators.headD .semicolon <;> decide
    exact d.closed_text.1.append (hsep.append ih)

lemma Ending.closed_text (ending : Ending) : Closed ending.text := by
  rcases ending with _ | sep | sep
  · decide
  · cases sep <;> decide
  · cases sep <;> decide

/-- Blanks and separators alone have no parts. -/
lemma Ending.splitTopLevel_text (ending : Ending) :
    splitTopLevel [';', ','] (' ' :: (ending.text ++ [' '])) = [] := by
  rcases ending with _ | sep | sep
  · decide
  · cases sep <;> decide
  · cases sep <;> decide

/-- The parts of printed members are the declarations. -/
lemma splitTopLevel_printMembers (declarations : List Declaration) (separators : List Separator)
    (ending : Ending) :
    splitTopLevel [';', ','] (' ' :: (printMembers declarations separators ++ ending.text ++ [' ']))
      = declarations.map fun d => Text.trim d.text := by
  fun_induction printMembers declarations separators with
  | case1 => exact ending.splitTopLevel_text
  | case2 d =>
    rcases ending with _ | sep | sep
    · rw [Ending.text, List.append_nil]
      exact d.splitTopLevel_text_blank
    · have hsplit := d.splitTopLevel_text sep [' ']
      rw [Ending.text, List.append_assoc]
      exact hsplit
    · have hsplit := d.splitTopLevel_text sep [' ', ' ']
      rw [Ending.text, List.append_assoc]
      exact hsplit
  | case3 d e others separators ih =>
    have heq : ' ' :: (d.text ++ (separators.headD .semicolon).char :: ' ' ::
        printMembers (e :: others) separators.tail ++ ending.text ++ [' ']) =
        ' ' :: d.text ++ (separators.headD .semicolon).char :: ' ' ::
          (printMembers (e :: others) separators.tail ++ ending.text ++ [' ']) := by simp
    rw [heq, d.splitTopLevel_text, ih]
    rfl

/-- The brace at the end of a printed object type belongs to the one at its start. -/
lemma objectBody?_of_closed {body : List Char} (h : Closed body) :
    objectBody? ('\x7b' :: (body ++ ['\x7d'])) = some body := by
  have hlast : ('\x7b' :: (body ++ ['\x7d'])).getLast? = some '\x7d' := by
    rw [← List.cons_append, List.getLast?_concat]
  have htrim : Text.trim ('\x7b' :: (body ++ ['\x7d'])) = '\x7b' :: (body ++ ['\x7d']) := by
    refine Text.trim_eq_self (fun c hc => Option.some.inj hc ▸ rfl) fun c hc => ?_
    rw [hlast] at hc
    exact Option.some.inj hc ▸ rfl
  rw [objectBody?, htrim]
  simp only [enclosed?_closed h (o := '\x7b') (c := '\x7d') rfl rfl (by decide), hlast]
  rfl

/-- **Reading undoes printing.** The member names of a printed object type are the names of its
declarations without quotes, in their order, and each at its first place only. -/
theorem memberNames_printObject (declarations : List Declaration) (separators : List Separator)
    (ending : Ending) :
    memberNames (printObject declarations separators ending) =
      (declarations.map fun d => d.label.name).eraseDups.map String.ofList := by
  have hblank : Closed [' '] := by decide
  have hclosed : Closed (' ' :: (printMembers declarations separators ++ ending.text ++ [' '])) :=
    hblank.append (((closed_printMembers _ _).append ending.closed_text).append hblank)
  have hnames : (declarations.map fun d => Text.trim d.text).filterMap memberName? =
      declarations.map fun d => d.label.name := by
    have hsome : (memberName? ∘ fun d : Declaration => Text.trim d.text) =
        some ∘ fun d => d.label.name := by
      funext d
      rw [Function.comp_apply, Function.comp_apply, d.memberName?_trim_text]
    rw [List.filterMap_map, hsome, List.filterMap_eq_map]
  rw [memberNames, printObject, String.toList_ofList, objectBody?_of_closed hclosed]
  dsimp only
  rw [splitTopLevel_printMembers, hnames, Text.distinct_eq_eraseDups]

example :
    printObject
      [⟨false, .quoted '\'' "a;b".toList rfl (by decide) (by simp), false, "string".toList,
          by decide, by decide⟩,
        ⟨true, .identifier "step".toList (by decide), true, "Set<\x7b id: number; \x7d>".toList,
          by decide, by decide⟩]
      [.comma] (.separator .semicolon) =
    "\x7b 'a;b': string, readonly step?: Set<\x7b id: number; \x7d>; \x7d" := rfl

end ComponentFlow.TypeText

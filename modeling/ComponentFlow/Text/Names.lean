import ComponentFlow.Text.Cut
import ComponentFlow.Text.Word

/-!
# Names in expressions

Which texts are names, and which names an expression refers to. Both work on characters alone: no
expression is parsed.
-/

namespace ComponentFlow.Text

/-- Whether the characters form a name. -/
def isName : List Char → Bool
  | [] => false
  | c :: rest => isNameStart c && rest.all isNamePart

/-- Whether the text is one name or several names joined by points. A line break at the very end is
overlooked. -/
def isDottedName (s : String) : Bool :=
  (pieces '.' (withoutFinalBreak s.toList)).all isName

/-- Words that look like names and stand for values. -/
def literalWords : List String := ["true", "false", "null", "undefined"]

/-- Whether a name cannot start after the given character: it belongs to a longer name, is a member
of something, or stands in a string. -/
def blocksName (c : Char) : Bool :=
  isNamePart c || c == '.' || c == '\'' || c == '"'

/-- The names at the start of which nothing blocks them, given the character before the text. -/
def namesAfter (previous : Option Char) : List Char → List (List Char)
  | [] => []
  | c :: rest =>
    if isNameStart c && !previous.any blocksName then
      (c :: rest.takeWhile isNamePart) :: namesAfter (some c) rest
    else namesAfter (some c) rest

/-- Each item once, at its first place. -/
def distinct {α : Type} [BEq α] (items : List α) : List α :=
  items.foldl (fun done x => if done.contains x then done else done ++ [x]) []

theorem distinct_concat {α : Type} [BEq α] (items : List α) (x : α) :
    distinct (items ++ [x]) =
      if (distinct items).contains x then distinct items else distinct items ++ [x] := by
  rw [distinct, List.foldl_append]
  rfl

/-- What is dropped are the later ones of equal items. -/
theorem distinct_eq_eraseDups {α : Type} [BEq α] [LawfulBEq α] (items : List α) :
    distinct items = items.eraseDups := by
  induction h : items.length generalizing items with
  | zero =>
    rw [List.eq_nil_of_length_eq_zero h]
    rfl
  | succ n ih =>
    obtain ⟨front, x, rfl⟩ : ∃ front x, items = front ++ [x] :=
      ⟨_, _, (List.dropLast_concat_getLast (List.ne_nil_of_length_eq_add_one h)).symm⟩
    rw [distinct_concat, ih front (by simpa using h), List.eraseDups_append]
    by_cases hx : x ∈ front
    · simp [hx, List.removeAll]
    · simp [hx, List.removeAll, List.eraseDups_cons]

theorem mem_distinct {α : Type} [BEq α] [LawfulBEq α] {items : List α} {x : α} :
    x ∈ distinct items ↔ x ∈ items := by
  rw [distinct_eq_eraseDups, List.mem_eraseDups]

/-- The names that an expression refers to, each once. -/
def referredNames (expression : String) : List String :=
  distinct (((namesAfter none expression.toList).map String.ofList).filter
    fun name => !literalWords.contains name)

end ComponentFlow.Text

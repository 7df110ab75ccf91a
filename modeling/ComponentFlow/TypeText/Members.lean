import ComponentFlow.Text.Names
import ComponentFlow.TypeText.Split

/-!
# Members of object types

The names of the members of an object type, as in `{ count: number; readonly step?: number }`. A
type that is not an object type has none.
-/

namespace ComponentFlow.TypeText

/-- The text before the first character that is seen at depth zero and satisfies `isEnd`. -/
def headBefore (isEnd : Char → Bool) (st : State) : List Char → List Char
  | [] => []
  | c :: rest =>
    if st.sees c && st.depth == 0 && isEnd c then []
    else c :: headBefore isEnd (st.step c) rest

/-- Drops the given character at the end, as often as it stands there. -/
def trimEndOf (c : Char) (s : List Char) : List Char :=
  (s.reverse.dropWhile (· == c)).reverse

/-- A quoted name without its quotes. -/
def unquote (name : List Char) : List Char :=
  match name.head?, name.getLast? with
  | some first, some last =>
    if 2 ≤ name.length && isQuote first && last == first then (name.drop 1).dropLast else name
  | _, _ => name

/-- The name of a declared member. Index signatures and call signatures have none. -/
def memberName? (declaration : List Char) : Option (List Char) :=
  let s := Text.trim declaration
  let s := match Text.afterStart? "readonly ".toList s with
    | some rest => Text.trimStart rest
    | none => s
  if s.head? == some '[' || s.head? == some '(' then none
  else
    let head := headBefore [':', '(', '<'].contains .start s
    let name := unquote (Text.trim (trimEndOf '?' (Text.trim head)))
    if name.isEmpty then none else some name

/-- The text between the braces of an object type. -/
def objectBody? (s : List Char) : Option (List Char) :=
  match Text.trim s with
  | '\x7b' :: rest =>
    match enclosed? ('\x7b' :: rest) with
    | some (inner, []) => if (Text.trim s).getLast? == some '\x7d' then some inner else none
    | _ => none
  | _ => none

/-- The member names of an object type, each once. -/
def memberNames (type : String) : List String :=
  match objectBody? type.toList with
  | some body =>
    (Text.distinct ((splitTopLevel [';', ','] body).filterMap memberName?)).map String.ofList
  | none => []

end ComponentFlow.TypeText

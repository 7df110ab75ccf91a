import ComponentFlow.Text.Cut
import ComponentFlow.Text.Word
import ComponentFlow.TypeText.Split

/-!
# Callable types

Which type texts describe something that can be called: arrow signatures, the type `Function` and
function signatures, names that end in `Handler` or `Callback`, and dispatchers. A union is callable
if all its members are, apart from those that stand for a missing value, so that the type of an
optional callback counts.
-/

namespace ComponentFlow.TypeText

/-- Members of a union that stand for a missing value. -/
def nullish : List (List Char) :=
  ["null".toList, "undefined".toList, "void".toList]

/-- The text after type parameters, if the text starts with any. -/
def afterTypeParameters? (s : List Char) : Option (List Char) :=
  match s with
  | '<' :: _ => (enclosed? s).map fun (_, rest) => Text.trimStart rest
  | _ => some s

/-- Whether the text is an arrow signature: parameters in brackets and then an arrow. -/
def isArrow (s : List Char) : Bool :=
  match afterTypeParameters? s with
  | some ('(' :: rest) =>
    match enclosed? ('(' :: rest) with
    | some (_, rest) => (Text.afterStart? ['=', '>'] (Text.trimStart rest)).isSome
    | none => false
  | _ => false

/-- Whether the text starts with the word `function` and a bracket. -/
def isFunctionKeyword (s : List Char) : Bool :=
  match Text.afterStart? "function".toList s with
  | some rest => (Text.trimStart rest).head? == some '('
  | none => false

/-- Whether the name of the type, without type arguments, ends like that of a handler. A line break
at the end of the name is overlooked. -/
def isHandlerName (s : List Char) : Bool :=
  let name := Text.withoutFinalBreak (Text.before '<' s)
  (Text.beforeEnd? "Handler".toList name).isSome || (Text.beforeEnd? "Callback".toList name).isSome

/-- Whether the text starts with the given word, and the word ends there. -/
def startsWithWord (word s : List Char) : Bool :=
  match Text.afterStart? word s with
  | some rest => !rest.head?.any Text.isWord
  | none => false

/-- Whether the text starts with the name of a dispatcher. -/
def isDispatcher (s : List Char) : Bool :=
  startsWithWord "EventDispatcher".toList s || startsWithWord "Dispatch".toList s

/-- Whether a text that is not a union describes something callable. -/
def isCallableMember (s : List Char) : Bool :=
  isArrow s || isFunctionKeyword s || s == "Function".toList || isHandlerName s || isDispatcher s

/-- Whether a type text describes something callable. -/
def isCallable (s : List Char) : Bool :=
  let t := stripParens s
  if t.isEmpty then false
  else
    if _h : 2 ≤ (splitTopLevel ['|'] t).length then
      let members := (splitTopLevel ['|'] t).attach.filter fun m => !nullish.contains m.1
      !members.isEmpty && members.all fun m => isCallable m.1
    else isCallableMember t
termination_by s.length
decreasing_by
  exact Nat.lt_of_lt_of_le (length_splitTopLevel_lt _h m.2) (length_stripParens_le s)

/-- Whether a type describes something callable. -/
def isFunctionType (type : String) : Bool :=
  isCallable type.toList

end ComponentFlow.TypeText

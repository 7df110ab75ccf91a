import ComponentFlow.Text.Blank

/-!
# Labels of conditional groups

The group of a branch is labelled with its condition in braces. The negation of a condition that
starts with a negation sign is the condition without it.
-/

namespace ComponentFlow

/-- The opposite of a condition. -/
def negateCondition (s : List Char) : List Char :=
  match s with
  | '!' :: '=' :: _ => '!' :: s
  | '!' :: rest => rest
  | _ => '!' :: s

/-- The label of the branch of a condition, or of the opposite branch. -/
def conditionLabel (expression : String) (negated : Bool) : String :=
  let s := Text.trim expression.toList
  let s := if negated then negateCondition s else s
  String.ofList ('\x7b' :: s ++ ['\x7d'])

end ComponentFlow

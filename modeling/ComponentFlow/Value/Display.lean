import ComponentFlow.Decimal.Format
import ComponentFlow.Text.Cut
import ComponentFlow.Text.Quoted
import ComponentFlow.Value.Basic

/-!
# Displayed values

The text of a value in messages and labels. A string is displayed as itself and a timestamp in its
usual notation; every other value is displayed as it is inspected, and the parts of a list or
mapping are always inspected, so texts inside them are quoted.
-/

namespace ComponentFlow.Value

/-- A truth value in messages. -/
def boolText (b : Bool) : String :=
  if b then "True" else "False"

/-- A column in messages. -/
def columnText : Column → String
  | .number n => Decimal.intText n
  | .flag b => boolText b

/-- A position in messages. -/
def positionText (p : Position) : String :=
  "SourcePosition(line=" ++ Decimal.intText p.line ++ ", column=" ++ columnText p.column ++ ")"

mutual

/-- The inspected form of a value. -/
def inspect : Value → String
  | null => "None"
  | bool b => boolText b
  | int n => Decimal.intText n
  | float x => Decimal.floatText x
  | str s => Text.quoted s
  | list items => "[" ++ ", ".intercalate (inspectAll items) ++ "]"
  | tuple [item] => "(" ++ inspect item ++ ",)"
  | tuple items => "(" ++ ", ".intercalate (inspectAll items) ++ ")"
  | set [] => "set()"
  | set items => "\x7b" ++ ", ".intercalate (inspectAll items) ++ "\x7d"
  | position p => positionText p
  | time t => t.inspected
  | map entries => "\x7b" ++ ", ".intercalate (inspectEntries entries) ++ "\x7d"
termination_by structural v => v

/-- The inspected forms of several values. -/
def inspectAll : List Value → List String
  | [] => []
  | v :: rest => inspect v :: inspectAll rest
termination_by structural items => items

/-- The inspected forms of the entries of a mapping. -/
def inspectEntries : List (Value × Value) → List String
  | [] => []
  | entry :: rest => inspectEntry entry :: inspectEntries rest
termination_by structural entries => entries

/-- The inspected form of one entry. -/
def inspectEntry : Value × Value → String
  | (k, v) => inspect k ++ ": " ++ inspect v
termination_by structural entry => entry

end

/-- The displayed form of a value. -/
def display : Value → String
  | str s => s
  | time t => t.text
  | v => inspect v

/-- The text of a string or number; nothing for any other kind of value. -/
def scalarText? : Value → Option String
  | str s => some s
  | int n => some (Decimal.intText n)
  | float x => some (Decimal.floatText x)
  | _ => none

end ComponentFlow.Value

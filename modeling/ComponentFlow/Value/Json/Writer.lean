import ComponentFlow.Decimal.Format
import ComponentFlow.Text.Cut
import ComponentFlow.Text.Quoted
import ComponentFlow.Value.Display

/-!
# Writing JSON

Values as JSON texts in ASCII: everything outside the printable ASCII characters is escaped, with
characters beyond the basic plane as surrogate pairs. A text is written on one line or with each
item on a line of its own; empty lists and mappings always stay on one line. Sets are written as
lists in order, tuples as lists, and keys as texts.
-/

namespace ComponentFlow.Json

/-- The escape of one unit. -/
def unitEscape (n : Nat) : List Char :=
  '\\' :: 'u' :: Text.hexDigits 4 n

/-- One character of a JSON string. -/
def stringChar (c : Char) : List Char :=
  let n := c.toNat
  if c == '"' then ['\\', '"']
  else if c == '\\' then ['\\', '\\']
  else if c == '\n' then ['\\', 'n']
  else if c == '\r' then ['\\', 'r']
  else if c == '\t' then ['\\', 't']
  else if n == 8 then ['\\', 'b']
  else if n == 12 then ['\\', 'f']
  else if 32 ≤ n && n < 127 then [c]
  else if n < 0x10000 then unitEscape n
  else unitEscape (0xD800 + (n - 0x10000) / 0x400) ++ unitEscape (0xDC00 + (n - 0x10000) % 0x400)

/-- A JSON string. -/
def stringText (s : String) : String :=
  String.ofList ('"' :: s.toList.flatMap stringChar ++ ['"'])

/-- A double; infinities and the value that is no number have words. -/
def floatText (x : Float) : String :=
  if x.isNaN then "NaN"
  else if x.isFinite then Decimal.floatText x
  else if x < 0 then "-Infinity" else "Infinity"

/-- How items are set apart: on one line, or each on its own line behind `indent` blanks a level. -/
inductive Style where
  | oneLine
  | lines (indent : Nat)
  deriving Repr, DecidableEq

/-- The break before an item at the given depth. -/
def Style.lineBreak (style : Style) (depth : Nat) : String :=
  match style with
  | .oneLine => ""
  | .lines indent => String.ofList ('\n' :: List.replicate (indent * depth) ' ')

/-- What stands between two items at the given depth. -/
def Style.separator (style : Style) (depth : Nat) : String :=
  match style with
  | .oneLine => ", "
  | .lines _ => "," ++ style.lineBreak depth

/-- Items between brackets. -/
def Style.enclose (style : Style) (opening closing : String) (depth : Nat) (items : List String) :
    String :=
  match items with
  | [] => opening ++ closing
  | _ =>
    opening ++ style.lineBreak (depth + 1) ++ (style.separator (depth + 1)).intercalate items ++
      style.lineBreak depth ++ closing

mutual

/-- A value at the given depth. -/
def writeAt (style : Style) : (depth : Nat) → Value → String
  | _, .null => "null"
  | _, .bool b => if b then "true" else "false"
  | _, .int n => Decimal.intText n
  | _, .float x => floatText x
  | _, .str s => stringText s
  | depth, .list items => style.enclose "[" "]" depth (writeItems style (depth + 1) items)
  | depth, .tuple items => style.enclose "[" "]" depth (writeItems style (depth + 1) items)
  | depth, .set items => style.enclose "[" "]" depth (writeItems style (depth + 1) items)
  | _, .position p => stringText (Value.positionText p)
  | _, .time t => stringText t.text
  | depth, .map entries =>
    style.enclose "\x7b" "\x7d" depth (writeEntries style (depth + 1) entries)
termination_by structural _ v => v

/-- Several values at the given depth. -/
def writeItems (style : Style) : (depth : Nat) → List Value → List String
  | _, [] => []
  | depth, v :: rest => writeAt style depth v :: writeItems style depth rest
termination_by structural _ items => items

/-- The entries of a mapping at the given depth. -/
def writeEntries (style : Style) : (depth : Nat) → List (Value × Value) → List String
  | _, [] => []
  | depth, entry :: rest => writeEntry style depth entry :: writeEntries style depth rest
termination_by structural _ entries => entries

/-- One entry of a mapping at the given depth. -/
def writeEntry (style : Style) : (depth : Nat) → Value × Value → String
  | depth, (k, v) => stringText k.display ++ ": " ++ writeAt style depth v
termination_by structural _ entry => entry

end

/-- A value as a JSON text. -/
def write (style : Style) (v : Value) : String :=
  writeAt style 0 v

end ComponentFlow.Json

import ComponentFlow.Decimal.Read
import ComponentFlow.Text.Cut
import ComponentFlow.Value.Basic

/-!
# Reading JSON

A reader for JSON texts. Numbers with a fraction or an exponent are doubles and all others are
integers of any size. Besides the numbers of the standard the words `NaN`, `Infinity` and
`-Infinity` are accepted. A key given twice keeps its first place and its last value.

Each reader takes the characters still to be read and returns what it read with what is left.
-/

namespace ComponentFlow.Json

/-- The blanks between tokens. -/
def isSpace (c : Char) : Bool :=
  c == ' ' || c == '\t' || c == '\n' || c == '\r'

/-- Drops blanks. -/
def skipSpace (s : List Char) : List Char :=
  s.dropWhile isSpace

/-- The value of a hexadecimal digit. -/
def hexValue? (c : Char) : Option Nat :=
  if c.isDigit then some (c.toNat - 48)
  else if 'a' ≤ c && c ≤ 'f' then some (c.toNat - 87)
  else if 'A' ≤ c && c ≤ 'F' then some (c.toNat - 55)
  else none

/-- Four hexadecimal digits. -/
def readUnit? : List Char → Option (Nat × List Char)
  | a :: b :: c :: d :: rest => do
    let a ← hexValue? a
    let b ← hexValue? b
    let c ← hexValue? c
    let d ← hexValue? d
    some (((a * 16 + b) * 16 + c) * 16 + d, rest)
  | _ => none

/-- The character of an escape after `\u`: one unit, or the two units of a surrogate pair. -/
def readEscapedUnit? (s : List Char) : Option (Char × List Char) := do
  let (high, rest) ← readUnit? s
  if 0xD800 ≤ high && high < 0xDC00 then
    match rest with
    | '\\' :: 'u' :: more =>
      match readUnit? more with
      | some (low, rest') =>
        if 0xDC00 ≤ low && low < 0xE000 then
          some (Char.ofNat (0x10000 + (high - 0xD800) * 0x400 + (low - 0xDC00)), rest')
        else some (Char.ofNat 0xFFFD, rest)
      | none => some (Char.ofNat 0xFFFD, rest)
    | _ => some (Char.ofNat 0xFFFD, rest)
  else if 0xDC00 ≤ high && high < 0xE000 then some (Char.ofNat 0xFFFD, rest)
  else some (Char.ofNat high, rest)

/-- The character of a one-letter escape. -/
def simpleEscape? : Char → Option Char
  | '"' => some '"'
  | '\\' => some '\\'
  | '/' => some '/'
  | 'b' => some (Char.ofNat 8)
  | 'f' => some (Char.ofNat 12)
  | 'n' => some '\n'
  | 'r' => some '\r'
  | 't' => some '\t'
  | _ => none

/-- The rest of a string after its opening quote. Control characters have to be escaped. -/
def readString? : (fuel : Nat) → List Char → Option (List Char × List Char)
  | 0, _ => none
  | _, [] => none
  | _ + 1, '"' :: rest => some ([], rest)
  | fuel + 1, '\\' :: 'u' :: rest => do
    let (c, rest) ← readEscapedUnit? rest
    let (cs, rest) ← readString? fuel rest
    some (c :: cs, rest)
  | _ + 1, ['\\'] => none
  | fuel + 1, '\\' :: e :: rest => do
    let c ← simpleEscape? e
    let (cs, rest) ← readString? fuel rest
    some (c :: cs, rest)
  | fuel + 1, c :: rest =>
    if c.toNat < 32 then none
    else (readString? fuel rest).map fun (cs, rest) => (c :: cs, rest)

/-- The digits at the start. -/
def digits (s : List Char) : List Char × List Char :=
  (s.takeWhile Char.isDigit, s.dropWhile Char.isDigit)

/-- The number written by decimal digits. -/
def digitsNumber (ds : List Char) : Nat :=
  Decimal.digitsValue (ds.map fun c => c.toNat - 48)

/-- The digits of a fraction, if one follows. -/
def fraction (s : List Char) : List Char × List Char :=
  match s with
  | '.' :: rest =>
    match digits rest with
    | ([], _) => ([], s)
    | found => found
  | _ => ([], s)

/-- The exponent, if one follows. -/
def exponent? (s : List Char) : Option Int × List Char :=
  match s with
  | e :: rest =>
    if e == 'e' || e == 'E' then
      let (negative, rest) := Decimal.readSign rest
      match digits rest with
      | ([], _) => (none, s)
      | (ds, rest) =>
        let n : Int := digitsNumber ds
        (some (if negative then -n else n), rest)
    else (none, s)
  | [] => (none, s)

/-- A number without its sign. -/
def readUnsigned? (negative : Bool) (s : List Char) : Option (Value × List Char) :=
  let whole := match s with
    | '0' :: rest => (['0'], rest)
    | _ => digits s
  match whole with
  | ([], _) => none
  | (ds, rest) =>
    let (fs, rest) := fraction rest
    let (power, rest) := exponent? rest
    if fs.isEmpty && power.isNone then
      let n : Int := digitsNumber ds
      some (.int (if negative then -n else n), rest)
    else
      let x := Decimal.nearest (digitsNumber (ds ++ fs)) (power.getD 0 - fs.length)
      some (.float (if negative then -x else x), rest)

/-- A number, or one of the words for infinities and for no number. -/
def readNumber? (s : List Char) : Option (Value × List Char) :=
  match s with
  | '-' :: rest =>
    match Text.afterStart? "Infinity".toList rest with
    | some rest => some (.float (-1.0 / 0.0), rest)
    | none => readUnsigned? true rest
  | _ => readUnsigned? false s

/-- A fixed word and the value it stands for. -/
def words : List (String × Value) :=
  [("null", .null), ("true", .bool true), ("false", .bool false), ("NaN", .float (0.0 / 0.0)),
   ("Infinity", .float (1.0 / 0.0))]

/-- One of the fixed words. -/
def readWord? (s : List Char) : Option (Value × List Char) :=
  words.findSome? fun w => (Text.afterStart? w.1.toList s).map fun rest => (w.2, rest)

mutual

/-- A value; `fuel` bounds the number of nested readers and is never used up by a text that is no
longer than it. -/
def readValue? : (fuel : Nat) → List Char → Option (Value × List Char)
  | 0, _ => none
  | fuel + 1, s =>
    match skipSpace s with
    | '"' :: rest => (readString? fuel rest).map fun (cs, rest) =>
        (.str (String.ofList cs), rest)
    | '[' :: rest =>
      match skipSpace rest with
      | ']' :: rest => some (.list [], rest)
      | rest => (readItems? fuel rest).map fun (items, rest) => (.list items, rest)
    | '\x7b' :: rest =>
      match skipSpace rest with
      | '\x7d' :: rest => some (.map [], rest)
      | rest => (readMembers? fuel rest).map fun (entries, rest) =>
          (.map (Value.ofEntries entries), rest)
    | rest =>
      match readWord? rest with
      | some found => some found
      | none => readNumber? rest

/-- The items of a list up to its closing bracket. -/
def readItems? : (fuel : Nat) → List Char → Option (List Value × List Char)
  | 0, _ => none
  | fuel + 1, s => do
    let (v, rest) ← readValue? fuel s
    match skipSpace rest with
    | ']' :: rest => some ([v], rest)
    | ',' :: rest =>
      let (more, rest) ← readItems? fuel rest
      some (v :: more, rest)
    | _ => none

/-- The entries of a mapping up to its closing brace. -/
def readMembers? : (fuel : Nat) → List Char → Option (List (Value × Value) × List Char)
  | 0, _ => none
  | fuel + 1, s =>
    match skipSpace s with
    | '"' :: rest => do
      let (key, rest) ← readString? fuel rest
      match skipSpace rest with
      | ':' :: rest =>
        let (v, rest) ← readValue? fuel rest
        let entry := (Value.str (String.ofList key), v)
        match skipSpace rest with
        | '\x7d' :: rest => some ([entry], rest)
        | ',' :: rest =>
          let (more, rest) ← readMembers? fuel rest
          some (entry :: more, rest)
        | _ => none
      | _ => none
    | _ => none

end

/-- The value of a JSON text; `none` if the text is not JSON. -/
def read? (text : String) : Option Value :=
  let s := text.toList
  match readValue? (2 * s.length + 2) s with
  | some (v, rest) => if (skipSpace rest).isEmpty then some v else none
  | none => none

end ComponentFlow.Json

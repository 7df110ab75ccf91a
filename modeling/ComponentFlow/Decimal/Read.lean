import ComponentFlow.Text.Blank
import ComponentFlow.Text.Digit

/-!
# Reading numbers

Numbers in settings may be given as text: blanks around them, a sign, digits of any script and
single underscores between digits are accepted.
-/

namespace ComponentFlow.Decimal

/-- The double nearest to `mantissa · 10 ^ exponent`. -/
def nearest (mantissa : Nat) (exponent : Int) : Float :=
  if mantissa == 0 then 0.0
  else
    let size := ((Nat.toDigits 10 mantissa).length : Int) + exponent
    if 310 < size then 1.0 / 0.0
    else if size < -330 then 0.0
    else Float.ofScientific mantissa (exponent < 0) exponent.natAbs

/-- The value of digits of any script, most significant first. -/
def digitsValue (digits : List Nat) : Nat :=
  digits.foldl (fun total d => 10 * total + d) 0

/-- Digits with single underscores allowed between them, and the rest. `after` tells whether a digit
has just been read; `none` means that an underscore stands at a wrong place. -/
def readDigits : (after : Bool) → List Char → Option (List Nat × List Char)
  | _, [] => some ([], [])
  | after, '_' :: c :: rest =>
    if after && (Text.digitValue? c).isSome then readDigits false (c :: rest) else none
  | after, c :: rest =>
    match Text.digitValue? c with
    | some d => (readDigits true rest).map fun (ds, rest) => (d :: ds, rest)
    | none => if c == '_' && after then none else some ([], c :: rest)

/-- An optional sign: whether it is a minus, and the rest. -/
def readSign : List Char → Bool × List Char
  | '-' :: rest => (true, rest)
  | '+' :: rest => (false, rest)
  | s => (false, s)

/-- An integer written in decimal. -/
def readInt? (text : String) : Option Int :=
  let (negative, rest) := readSign (Text.trim text.toList)
  match readDigits false rest with
  | some (d :: ds, []) =>
    let n : Int := digitsValue (d :: ds)
    some (if negative then -n else n)
  | _ => none

/-- The exponent after the digits of a decimal: zero if there is none. -/
def readExponent? : List Char → Option Int
  | [] => some 0
  | c :: rest =>
    if c == 'e' || c == 'E' then
      let (negative, rest) := readSign rest
      match readDigits false rest with
      | some (d :: ds, []) =>
        let n : Int := digitsValue (d :: ds)
        some (if negative then -n else n)
      | _ => none
    else none

/-- The digits after a point, if there is one, and the rest. -/
def readFraction? : List Char → Option (List Nat × List Char)
  | '.' :: rest => readDigits false rest
  | rest => some ([], rest)

/-- A decimal without sign. -/
def readDecimal? (s : List Char) : Option Float := do
  let (whole, rest) ← readDigits false s
  let (fraction, rest) ← readFraction? rest
  let exponent ← readExponent? rest
  if whole.isEmpty && fraction.isEmpty then none
  else some (nearest (digitsValue (whole ++ fraction)) (exponent - fraction.length))

/-- A double written in decimal, or one of the words for infinity and for no number. -/
def readFloat? (text : String) : Option Float :=
  let (negative, rest) := readSign (Text.trim text.toList)
  let word := String.ofList (rest.map Char.toLower)
  let size : Option Float :=
    if word == "inf" || word == "infinity" then some (1.0 / 0.0)
    else if word == "nan" then some (0.0 / 0.0)
    else readDecimal? rest
  size.map fun x => if negative then -x else x

end ComponentFlow.Decimal

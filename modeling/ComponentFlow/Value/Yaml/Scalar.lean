import ComponentFlow.Decimal.Read
import ComponentFlow.Text.Cut
import ComponentFlow.Value.Basic

/-!
# Plain scalars

What a scalar without quotes stands for in YAML 1.1: null, a truth value, an integer in one of five
notations, a double, a timestamp, or a text. A text that reads as anything else has to be quoted
when it is written. A scalar can be written as a number or timestamp and yet have no value, as a day
that is not in the calendar.
-/

namespace ComponentFlow.Yaml

/-- What a plain scalar stands for. -/
inductive PlainKind where
  | text
  | null
  | bool
  | int
  | float
  | timestamp
  /-- A mark that is only meaningful as a key or inside a mapping. -/
  | mark
  deriving Repr, DecidableEq

/-- Words for true. -/
def trueWords : List String :=
  ["yes", "Yes", "YES", "true", "True", "TRUE", "on", "On", "ON"]

/-- Words for false. -/
def falseWords : List String :=
  ["no", "No", "NO", "false", "False", "FALSE", "off", "Off", "OFF"]

/-- Words for null; the empty scalar is one. -/
def nullWords : List String := ["", "~", "null", "Null", "NULL"]

/-- Whether a run of characters is not empty and in a class. -/
def isRun (p : Char → Bool) (s : List Char) : Bool :=
  !s.isEmpty && s.all p

/-- Digits and underscores. -/
def isSpacedDigit (c : Char) : Bool := c.isDigit || c == '_'

/-- Hexadecimal digits and underscores. -/
def isSpacedHex (c : Char) : Bool :=
  isSpacedDigit c || ('a' ≤ c && c ≤ 'f') || ('A' ≤ c && c ≤ 'F')

/-- Octal digits and underscores. -/
def isSpacedOctal (c : Char) : Bool := ('0' ≤ c && c ≤ '7') || c == '_'

/-- Binary digits and underscores. -/
def isSpacedBinary (c : Char) : Bool := c == '0' || c == '1' || c == '_'

/-- A number below sixty in one or two digits. -/
def isSixtieth (s : List Char) : Bool :=
  match s with
  | [c] => c.isDigit
  | [c, d] => '0' ≤ c && c ≤ '5' && d.isDigit
  | _ => false

/-- A digit from one on, followed by digits and underscores. -/
def isPositive (s : List Char) : Bool :=
  match s with
  | c :: rest => c.isDigit && c != '0' && rest.all isSpacedDigit
  | [] => false

/-- A digit, followed by digits and underscores. -/
def isWhole (s : List Char) : Bool :=
  match s with
  | c :: rest => c.isDigit && rest.all isSpacedDigit
  | [] => false

/-- A number in base sixty, with the given test for its first part. -/
def isBaseSixty (first : List Char → Bool) (s : List Char) : Bool :=
  match Text.pieces ':' s with
  | head :: rest => first head && !rest.isEmpty && rest.all isSixtieth
  | [] => false

/-- An integer without sign. -/
def isUnsignedInt (s : List Char) : Bool :=
  match s with
  | ['0'] => true
  | '0' :: 'b' :: rest => isRun isSpacedBinary rest
  | '0' :: 'x' :: rest => isRun isSpacedHex rest
  | '0' :: rest => isRun isSpacedOctal rest
  | _ => isPositive s || isBaseSixty isPositive s

/-- An exponent with its sign, or nothing. -/
def isExponent (s : List Char) : Bool :=
  match s with
  | [] => true
  | e :: sign :: digits =>
    (e == 'e' || e == 'E') && (sign == '+' || sign == '-') && isRun Char.isDigit digits
  | _ => false

/-- The digits after a point, with an exponent that may follow. -/
def isFraction (s : List Char) : Bool :=
  isExponent (s.dropWhile isSpacedDigit)

/-- A double without sign that starts with a digit. -/
def isUnsignedFloat (s : List Char) : Bool :=
  match Text.after? '.' s with
  | some tail =>
    let whole := Text.before '.' s
    (isWhole whole && isFraction tail) || (isBaseSixty isWhole whole && tail.all isSpacedDigit)
  | none => false

/-- Words for infinity, after the point. -/
def infinityWords : List (List Char) := ["inf", "Inf", "INF"].map String.toList

/-- Words for the double that is no number, after the point. -/
def nanWords : List (List Char) := ["nan", "NaN", "NAN"].map String.toList

/-- The scalar without a sign at its start. -/
def withoutSign (s : List Char) : List Char := (Decimal.readSign s).2

/-- Whether a scalar is a double. -/
def isFloat (s : List Char) : Bool :=
  match s with
  | '.' :: c :: rest =>
    (c.isDigit && isFraction rest) || infinityWords.contains (c :: rest) ||
      nanWords.contains (c :: rest)
  | _ =>
    match withoutSign s with
    | '.' :: word => infinityWords.contains word
    | unsigned => isUnsignedFloat unsigned

/-- The value of digits in a base. -/
def digitsIn (base : Nat) (s : List Char) : Nat :=
  s.foldl (fun total c =>
    let n := c.toNat
    let d := if c.isDigit then n - 48 else if 'a' ≤ c then n - 87 else n - 55
    base * total + d) 0

/-! ## Timestamps -/

/-- Whether a run of digits has the given length. -/
def isDigits (length : Nat) (s : List Char) : Bool :=
  s.length == length && s.all Char.isDigit

/-- Whether a run of digits has one or two of them. -/
def isOneOrTwo (s : List Char) : Bool := isDigits 1 s || isDigits 2 s

/-- Blanks inside a line. -/
def isLineBlank (c : Char) : Bool := c == ' ' || c == '\t'

/-- The minutes of an offset in hours, or in hours and minutes. -/
def offset? (s : List Char) : Option Nat :=
  match Text.pieces ':' s with
  | [hours] => if isOneOrTwo hours then some (60 * digitsIn 10 hours) else none
  | [hours, minutes] =>
    if isOneOrTwo hours && isDigits 2 minutes then
      some (60 * digitsIn 10 hours + digitsIn 10 minutes)
    else none
  | _ => none

/-- The zone of a time, as its distance from universal time: nothing, a letter, or an offset. -/
def zone? (s : List Char) : Option (Option Int) :=
  match s.dropWhile isLineBlank with
  | [] => if s.isEmpty then some none else none
  | ['Z'] => some (some 0)
  | '+' :: rest => (offset? rest).map fun (minutes : Nat) => some (minutes : Int)
  | '-' :: rest => (offset? rest).map fun (minutes : Nat) => some (-(minutes : Int))
  | _ => none

/-- The microseconds in the digits behind the point of a second. -/
def microseconds (fraction : List Char) : Nat :=
  digitsIn 10 ((fraction ++ List.replicate 6 '0').take 6)

/-- A time of day with a zone. -/
def clock? (s : List Char) : Option Clock :=
  let (hours, rest) := s.span Char.isDigit
  match rest with
  | ':' :: a :: b :: ':' :: c :: d :: rest =>
    if isOneOrTwo hours && [a, b, c, d].all Char.isDigit then
      let (fraction, rest) := match rest with
        | '.' :: rest => rest.span Char.isDigit
        | rest => ([], rest)
      (zone? rest).map fun offset =>
        ⟨digitsIn 10 hours, digitsIn 10 [a, b], digitsIn 10 [c, d], microseconds fraction, offset⟩
    else none
  | _ => none

/-- A time of day behind what separates it from a day. -/
def clockAfterDay? (s : List Char) : Option Clock :=
  match s with
  | 'T' :: rest => clock? rest
  | 't' :: rest => clock? rest
  | c :: rest => if isLineBlank c then clock? (rest.dropWhile isLineBlank) else none
  | [] => none

/-- The timestamp that a scalar is written as, whether there is such a time or not. A day alone is
written with all its digits. -/
def timestamp? (s : List Char) : Option Timestamp :=
  let (front, rest) := s.span fun c => c.isDigit || c == '-'
  match Text.pieces '-' front with
  | [year, month, day] =>
    if isDigits 4 year && isOneOrTwo month && isOneOrTwo day then
      let d : Day := ⟨digitsIn 10 year, digitsIn 10 month, digitsIn 10 day⟩
      if rest.isEmpty then
        if isDigits 2 month && isDigits 2 day then some (.day d) else none
      else (clockAfterDay? rest).map (.moment d)
    else none
  | _ => none

/-! ## Values -/

/-- What a plain scalar stands for. -/
def plainKind (text : String) : PlainKind :=
  let s := text.toList
  if nullWords.contains text then .null
  else if trueWords.contains text || falseWords.contains text then .bool
  else if text == "=" || text == "<<" then .mark
  else if isUnsignedInt (withoutSign s) then .int
  else if isFloat s then .float
  else if (timestamp? s).isSome then .timestamp
  else .text

/-- Why a plain scalar has no value. -/
inductive ScalarFault where
  /-- It is a mark that is only meaningful as a key. -/
  | mark
  /-- It is an integer in the given base without any digit. -/
  | noDigits (base : Nat)
  /-- It is a number in base sixty with more places than doubles have room for. -/
  | tooManyPlaces
  /-- There is no such time. -/
  | timestamp (cause : TimestampFault)
  deriving Repr, DecidableEq, Inhabited

/-- The message for a fault. -/
def ScalarFault.message : ScalarFault → String
  | mark => "a mark is no value"
  | noDigits base => "invalid literal for int() with base " ++ Decimal.intText base ++ ": ''"
  | tooManyPlaces => "int too large to convert to float"
  | timestamp cause => cause.message

/-- The value of digits in a base, of which there has to be one. -/
def digitsValue (base : Nat) (s : List Char) : Except ScalarFault Nat :=
  if s.isEmpty then .error (.noDigits base) else .ok (digitsIn base s)

/-- The value of an integer without sign and underscores. -/
def unsignedInt (s : List Char) : Except ScalarFault Nat :=
  match s with
  | '0' :: 'b' :: rest => digitsValue 2 rest
  | '0' :: 'x' :: rest => digitsValue 16 rest
  | '0' :: rest => .ok (digitsIn 8 rest)
  | _ => .ok ((Text.pieces ':' s).foldl (fun total part => 60 * total + digitsIn 10 part) 0)

/-- The value of an integer. -/
def intValue (s : List Char) : Except ScalarFault Int :=
  let (negative, rest) := Decimal.readSign (s.filter (· != '_'))
  (unsignedInt rest).map fun (n : Nat) => if negative then -(n : Int) else n

/-- Adds parts in base sixty to a sum, the least one first, each one scaled before it is added.
Every step is rounded, so the order of the steps shows in the last digits. -/
def addSixtieths : (unit : Nat) → (sum : Float) → (parts : List Float) → Except ScalarFault Float
  | _, sum, [] => .ok sum
  | unit, sum, part :: rest =>
    let scale := Decimal.nearest unit 0
    if scale.isInf then .error .tooManyPlaces
    else addSixtieths (60 * unit) (sum + part * scale) rest

/-- The value of a double without sign and underscores. -/
def unsignedFloat (s : List Char) : Except ScalarFault Float :=
  match s with
  | '.' :: c :: rest =>
    if infinityWords.contains (c :: rest) then .ok (1.0 / 0.0)
    else if nanWords.contains (c :: rest) then .ok (0.0 / 0.0)
    else .ok ((Decimal.readFloat? (String.ofList s)).getD 0.0)
  | _ =>
    let parts := (Text.pieces ':' s).map fun part =>
      (Decimal.readFloat? (String.ofList part)).getD 0.0
    addSixtieths 1 0.0 parts.reverse

/-- The value of a double. -/
def floatValue (s : List Char) : Except ScalarFault Float :=
  let (negative, rest) := Decimal.readSign (s.filter (· != '_'))
  (unsignedFloat rest).map fun x => if negative then -x else x

/-- The value of a timestamp, if there is such a time. -/
def timestampValue (t : Timestamp) : Except ScalarFault Value :=
  match t.fault? with
  | some cause => .error (.timestamp cause)
  | none => .ok (.time t)

/-- The value of a plain scalar. -/
def plainValue (text : String) : Except ScalarFault Value :=
  match plainKind text with
  | .text => .ok (.str text)
  | .timestamp => ((timestamp? text.toList).map timestampValue).getD (.ok (.str text))
  | .null => .ok .null
  | .bool => .ok (.bool (trueWords.contains text))
  | .int => (intValue text.toList).map .int
  | .float => (floatValue text.toList).map .float
  | .mark => .error .mark

end ComponentFlow.Yaml

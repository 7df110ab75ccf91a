/-!
# Shortest decimals

A finite double is `m · 2 ^ q`. Every real number in an interval around it reads back as that
double, and the shortest decimal of the double is the one with the fewest digits in the interval,
the nearest of those. The search tries one digit, two digits and so on; on each decimal grid only
the two neighbours of the value have to be tested. All arithmetic is exact.
-/

namespace ComponentFlow.Decimal

/-- A finite double as sign, mantissa and binary exponent. -/
structure Binary where
  negative : Bool
  mantissa : Nat
  exponent : Int
  deriving Repr, DecidableEq

/-- Decimal digits `digits` of the number `0.digits · 10 ^ point`. -/
structure Digits where
  digits : List Char
  point : Int
  deriving Repr, DecidableEq

/-- The parts of a finite double; `none` for infinities and for the values that are no number. -/
def Binary.ofFloat? (x : Float) : Option Binary :=
  let bits : Nat := x.toBits.toNat
  let negative := bits / Nat.pow 2 63 == 1
  let biased : Nat := bits / Nat.pow 2 52 % Nat.pow 2 11
  let fraction : Nat := bits % Nat.pow 2 52
  if biased == 2047 then none
  else if biased == 0 then some ⟨negative, fraction, -1074⟩
  else some ⟨negative, Nat.pow 2 52 + fraction, (biased : Int) - 1075⟩

/-- The value as a fraction, sign left out. -/
def Binary.ratio (b : Binary) : Nat × Nat :=
  if 0 ≤ b.exponent then (b.mantissa * Nat.pow 2 b.exponent.toNat, 1)
  else (b.mantissa, Nat.pow 2 (-b.exponent).toNat)

/-- Least `j` below the bound with `den ≤ num · 10 ^ (j + 1)`. -/
def leadingZeros (num den : Nat) : (fuel : Nat) → Nat
  | 0 => 0
  | fuel + 1 => if den ≤ num * 10 then 0 else leadingZeros (num * 10) den fuel + 1

/-- The place of the decimal point: `10 ^ (point - 1) ≤ num / den < 10 ^ point`. -/
def pointOf (num den : Nat) : Int :=
  if den ≤ num then ((Nat.toDigits 10 (num / den)).length : Int)
  else -(leadingZeros num den 400 : Int)

/-- Whether `a / b ≤ c / d`, or `a / b < c / d` when the end does not count. -/
def below (closed : Bool) (a b c d : Nat) : Bool :=
  if closed then a * d ≤ c * b else a * d < c * b

/-- The interval of reals that read back as the double, as two numerators over the denominator
`4 · den`, and whether its ends belong to it. -/
def Binary.interval (b : Binary) : Nat × Nat × Nat × Bool :=
  let unit := Binary.ratio { b with mantissa := 1 }
  let lower := if b.mantissa == Nat.pow 2 52 && b.exponent != -1074 then 4 * b.mantissa - 1
    else 4 * b.mantissa - 2
  (lower * unit.1, (4 * b.mantissa + 2) * unit.1, 4 * unit.2, b.mantissa % 2 == 0)

/-- The digits on the grid with `count` digits that lie in the interval, nearest first choice. -/
def Binary.onGrid? (b : Binary) (point : Int) (count : Nat) : Option Nat :=
  let value := b.ratio
  let (low, high, den, closed) := b.interval
  -- the grid is the multiples of `10 ^ (point - count)`, kept as `up / down`
  let scale := point - count
  let up := Nat.pow 10 scale.toNat
  let down := Nat.pow 10 (-scale).toNat
  let floor := value.1 * down / (value.2 * up)
  let inside (d : Nat) : Bool :=
    below closed low den (d * up) down && below closed (d * up) down high den
  let lowGap := value.1 * down - floor * value.2 * up
  let highGap := (floor + 1) * value.2 * up - value.1 * down
  match inside floor, inside (floor + 1) with
  | true, true =>
    if lowGap < highGap then some floor
    else if highGap < lowGap then some (floor + 1)
    else if floor % 2 == 0 then some floor else some (floor + 1)
  | true, false => some floor
  | false, true => some (floor + 1)
  | false, false => none

/-- Searches the grids with `count`, `count + 1`, .. digits. -/
def Binary.search (b : Binary) (point : Int) (count : Nat) : (fuel : Nat) → Nat × Nat
  | 0 => (0, count)
  | fuel + 1 =>
    match b.onGrid? point count with
    | some d => (d, count)
    | none => b.search point (count + 1) fuel

/-- Zeros at the end of a digit string carry no information. -/
def stripZeros (digits : List Char) : List Char :=
  (digits.reverse.dropWhile (· == '0')).reverse

/-- The shortest decimal of a double that is not zero. -/
def Binary.shortest (b : Binary) : Digits :=
  let value := b.ratio
  let point := pointOf value.1 value.2
  let (d, count) := b.search point 1 20
  let text := Nat.toDigits 10 d
  -- rounding up may give one digit more than the grid has, as in 9.96 -> 10.
  ⟨stripZeros text, point + ((text.length : Int) - count)⟩

end ComponentFlow.Decimal

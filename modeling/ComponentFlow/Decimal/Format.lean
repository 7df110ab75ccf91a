import ComponentFlow.Decimal.Shortest

/-!
# Written numbers

How numbers are written: integers in decimal, doubles with the fewest digits that read back. A
double is written positionally while its decimal exponent lies from -4 to 15, always with a point,
and with an exponent of at least two digits otherwise.
-/

namespace ComponentFlow.Decimal

/-- The decimal exponents that are written positionally. -/
structure PositionalRange where
  /-- The least of them. -/
  least : Int
  /-- The greatest of them. -/
  greatest : Int

/-- The range of all written doubles. -/
def standard : PositionalRange := ⟨-4, 15⟩

/-- An integer in decimal. -/
def intText (n : Int) : String :=
  match n with
  | .ofNat m => String.ofList (Nat.toDigits 10 m)
  | .negSucc m => String.ofList ('-' :: Nat.toDigits 10 (m + 1))

/-- Digits written positionally, with at least one digit on each side of the point. -/
def positional (d : Digits) : List Char :=
  let count := d.digits.length
  if d.point ≤ 0 then
    '0' :: '.' :: List.replicate (-d.point).toNat '0' ++ d.digits
  else if count ≤ d.point.toNat then
    d.digits ++ List.replicate (d.point.toNat - count) '0' ++ ['.', '0']
  else
    d.digits.take d.point.toNat ++ '.' :: d.digits.drop d.point.toNat

/-- Digits written with an exponent. -/
def scientific (d : Digits) : List Char :=
  let exponent := d.point - 1
  let size := Nat.toDigits 10 exponent.natAbs
  let size := if size.length < 2 then '0' :: size else size
  let fraction := match d.digits.drop 1 with
    | [] => []
    | rest => '.' :: rest
  d.digits.take 1 ++ fraction ++ 'e' :: (if exponent < 0 then '-' else '+') :: size

/-- A double, sign included. -/
def floatText (x : Float) : String :=
  match Binary.ofFloat? x with
  | none => if x.isNaN then "nan" else if x < 0 then "-inf" else "inf"
  | some b =>
    let sign := if b.negative then ['-'] else []
    let body :=
      if b.mantissa == 0 then ['0', '.', '0']
      else
        let d := b.shortest
        let exponent := d.point - 1
        if standard.least ≤ exponent && exponent ≤ standard.greatest then positional d
        else scientific d
    String.ofList (sign ++ body)

/-- A quotient rounded to the nearest integer, a half to the even neighbour. -/
def roundDiv (num den : Nat) : Nat :=
  let q := num / den
  let r := num % den
  if 2 * r < den then q
  else if den < 2 * r then q + 1
  else if q % 2 == 0 then q else q + 1

/-- A double with two digits after the point. -/
def twoPlaces (x : Float) : String :=
  match Binary.ofFloat? x with
  | none => if x.isNaN then "nan" else if x < 0 then "-inf" else "inf"
  | some b =>
    let value := b.ratio
    let cents := roundDiv (value.1 * 100) value.2
    let tail := Nat.toDigits 10 (cents % 100)
    let tail := if tail.length < 2 then '0' :: tail else tail
    let sign := if b.negative then ['-'] else []
    String.ofList (sign ++ Nat.toDigits 10 (cents / 100) ++ '.' :: tail)

end ComponentFlow.Decimal

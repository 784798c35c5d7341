import Understudy.Decimal.Binary

/-!
# The shortest decimal that reads back

A float is written with the fewest digits that still read back as the same
float, and of those with the digits nearest to its exact value. The search is
exact: the reals that round to a float form an interval with known ends, and for
each number of digits only the two neighbours of the value on that decimal grid
can lie in it.

## Main definitions

* `Interval`: the reals that round to a float, over one denominator.
* `shortest`: the digits and the power of ten of the shortest decimal.
* `Style`: the choices a written form makes beyond its digits.
* `render`: the written form of a float.
-/

namespace Understudy.Decimal

/-- The value of a positive float and the ends of the interval of reals that
round to it, as numerators over one denominator. The ends belong to the interval
iff `closed`. -/
structure Interval where
  low : Nat
  value : Nat
  high : Nat
  denominator : Nat
  closed : Bool

/-- The interval of `significand * 2 ^ exponent`, counted in quarters of the last
binary place. Below a power of two the neighbour is half as far away, except at
the lowest exponent. -/
def Interval.of (significand : Nat) (exponent : Int) : Interval :=
  let scale := Nat.pow 2 (exponent - 2).toNat
  let below := if significand = Nat.pow 2 52 ∧ exponent ≠ -1074 then 1 else 2
  { low := (4 * significand - below) * scale
    value := 4 * significand * scale
    high := (4 * significand + 2) * scale
    denominator := Nat.pow 2 (2 - exponent).toNat
    closed := significand % 2 = 0 }

/-- Whether `numerator` over the interval's denominator lies in it, both scaled by
`factor`. -/
def Interval.holds (i : Interval) (numerator factor : Nat) : Bool :=
  if i.closed then i.low * factor ≤ numerator && numerator ≤ i.high * factor
  else i.low * factor < numerator && numerator < i.high * factor

/-- The number of decimal digits of a positive whole number. -/
def digitCount (n : Nat) : Nat := (Nat.toDigits 10 n).length

/-- The power of ten just at or below `numerator / denominator`. -/
def magnitude (numerator denominator : Nat) : Int :=
  if denominator ≤ numerator then
    Int.ofNat (digitCount (numerator / denominator)) - 1
  else
    -- The first power of ten that brings the quotient to one or more is off by
    -- at most one from the difference of the digit counts.
    let guess := digitCount denominator - digitCount numerator
    if denominator ≤ numerator * Nat.pow 10 guess then -Int.ofNat guess
    else -Int.ofNat (guess + 1)

/-- The grid point of `places` digits nearest to the value, if one of the value's
two neighbours on that grid lies in the interval. A tie goes to the even digit. -/
def Interval.onGrid? (i : Interval) (power : Int) (places : Nat) : Option (Nat × Int) :=
  let unit : Int := power - Int.ofNat places + 1
  -- The grid point `d` stands for `d * 10 ^ unit`.
  let up := Nat.pow 10 (-unit).toNat
  let down := Nat.pow 10 unit.toNat
  let step := i.denominator * down
  let floor := i.value * up / step
  let rest := i.value * up % step
  let lower := i.holds (floor * step) up
  let upper := i.holds ((floor + 1) * step) up
  match lower, upper with
  | false, false => none
  | true, false => some (floor, unit)
  | false, true => some (floor + 1, unit)
  | true, true =>
    if 2 * rest < step ∨ (2 * rest = step ∧ floor % 2 = 0) then some (floor, unit)
    else some (floor + 1, unit)

/-- Seventeen digits always suffice, so the search ends on a grid. -/
def Interval.search (i : Interval) (power : Int) : Nat → Nat → Nat × Int
  | 0, places => (i.onGrid? power places).getD (0, power)
  | more + 1, places =>
    match i.onGrid? power places with
    | some found => found
    | none => i.search power more (places + 1)

/-- Drops the zeros that a carry leaves at the end of the digits. -/
def trimZeros : Nat → Nat → Int → Nat × Int
  | 0, digits, unit => (digits, unit)
  | fuel + 1, digits, unit =>
    if digits ≠ 0 ∧ digits % 10 = 0 then trimZeros fuel (digits / 10) (unit + 1)
    else (digits, unit)

/-- The digits `d` and the power `p` of the shortest decimal `d * 10 ^ p` that
reads back as the positive float `significand * 2 ^ exponent`. -/
def shortest (significand : Nat) (exponent : Int) : Nat × Int :=
  let i := Interval.of significand exponent
  let found := i.search (magnitude i.value i.denominator) 16 1
  trimZeros 20 found.1 found.2

/-! ## Written forms

The digits are the same for every reader; where the point goes, and when an
exponent takes over, is the choice of a notation.
-/

/-- Choices of a written form: the powers of ten of the leading digit that are
written with a point and no exponent, the least number of digits of an exponent,
the words for what is no number, and the sign of an exponent that is not negative. -/
structure Style where
  leastPositional : Int
  mostPositional : Int
  exponentDigits : Nat
  infinity : String
  notANumber : String
  positiveSign : String := "+"

/-- Floats are written with a point from `1e-4` up to below `1e16`, and otherwise
with an exponent of two digits or more. -/
def plain : Style := ⟨-4, 15, 2, "inf", "nan", "+"⟩

/-- Zeros in front, up to a width. -/
def padLeft (width : Nat) (digits : String) : String :=
  String.ofList (List.replicate (width - digits.length) '0') ++ digits

/-- A nonzero decimal, given its digits and the power of ten of the last one. -/
def Style.positive (style : Style) (digits : Nat) (unit : Int) : String :=
  let text := toString digits
  let count : Int := text.length
  -- The power of ten of the leading digit.
  let power := unit + count - 1
  if style.leastPositional ≤ power ∧ power ≤ style.mostPositional then
    if 0 ≤ unit then
      text ++ String.ofList (List.replicate unit.toNat '0') ++ ".0"
    else if 0 ≤ power then
      let whole := (power + 1).toNat
      String.ofList (text.toList.take whole) ++ "." ++ String.ofList (text.toList.drop whole)
    else
      "0." ++ String.ofList (List.replicate (-power - 1).toNat '0') ++ text
  else
    let mantissa := match text.toList with
      | [] => ""
      | [d] => String.ofList [d]
      | d :: rest => String.ofList (d :: '.' :: rest)
    let sign := if power < 0 then "-" else style.positiveSign
    mantissa ++ "e" ++ sign ++ padLeft style.exponentDigits (toString power.natAbs)

/-- The written form of a float. Zero keeps its sign. -/
def Style.render (style : Style) (parts : Parts) : String :=
  match parts with
  | .nan => style.notANumber
  | .infinite negative => (if negative then "-" else "") ++ style.infinity
  | .finite negative significand exponent =>
    (if negative then "-" else "") ++
      (if significand = 0 then "0.0"
       else
        let found := shortest significand exponent
        style.positive found.1 found.2)

/-- A float as it is shown wherever a value is shown. -/
def render (x : Float) : String := plain.render (Parts.ofFloat x)

end Understudy.Decimal

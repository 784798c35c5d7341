import Understudy.Decimal.Fixed
import Understudy.Decimal.Read
import Understudy.Text.Quoted

/-!
# Quotients of floats and of whole numbers

What is left over of a division of floats is itself a float, and is computed from the
whole numbers that the two stand for. A quotient of whole numbers is rounded once, to
the nearest float.

## Main definitions

* `Parts.toFloat`: the float of its parts.
* `remainder`: what is left over of a division, with the sign of the dividend.
* `floorDivide`: the whole quotient not above the exact one, and what is left over then.
* `quotient?`: the float nearest to a quotient of whole numbers.
* `ratio?`, `wholeNear`, `roundedTo?`: a float as a fraction, and rounded.
-/

namespace Understudy.Decimal

/-- The float of its parts. -/
def Parts.toFloat : Parts → Float
  | .nan => 0.0 / 0.0
  | .infinite negative => if negative then -1.0 / 0.0 else 1.0 / 0.0
  | .finite negative significand exponent =>
    let size := (Float.ofNat significand).scaleB exponent
    if negative then -size else size

/-- Whether a float carries a negative sign. -/
def isNegative (x : Float) : Bool := x.toBits.toNat / Nat.pow 2 63 = 1

/-- A zero with the sign of a float. -/
def zeroLike (x : Float) : Float := if isNegative x then -0.0 else 0.0

/-- What is left over of a division, with the sign of the dividend. -/
def remainder (x y : Float) : Float :=
  match Parts.ofFloat x, Parts.ofFloat y with
  | .finite negative m e, .finite _ n f =>
    if n = 0 then 0.0 / 0.0
    else
      let least := min e f
      let left := (m * Nat.pow 2 (e - least).toNat) % (n * Nat.pow 2 (f - least).toNat)
      Parts.toFloat (.finite negative left least)
  | .finite _ _ _, .infinite _ => x
  | _, _ => 0.0 / 0.0

/-- The whole quotient not above the exact one, and what is left over then, with the sign
of the divisor. -/
def floorDivide (x y : Float) : Float × Float :=
  let left := remainder x y
  let quotient := (x - left) / y
  let (left, quotient) :=
    if left == 0.0 then (zeroLike y, quotient)
    else if (y < 0.0) != (left < 0.0) then (left + y, quotient - 1.0)
    else (left, quotient)
  if quotient == 0.0 then (zeroLike (x / y), left)
  else
    let whole := quotient.floor
    (if quotient - whole > 0.5 then whole + 1.0 else whole, left)

/-- The float nearest to a quotient of whole numbers, if it is not beyond the floats. Bits
beyond those that are rounded matter only in so far as there are any. -/
def quotient? (a b : Int) : Option Float :=
  let n := a.natAbs
  let d := b.natAbs
  let shift : Int := 66 + Int.ofNat d.log2 - Int.ofNat n.log2
  let scaled := n * Nat.pow 2 shift.toNat
  let divisor := d * Nat.pow 2 (-shift).toNat
  let whole := scaled / divisor
  let sticky := if scaled % divisor = 0 then whole else whole ||| 1
  let size := (Float.ofNat sticky).scaleB (-shift)
  if n = 0 then some (if b < 0 then -0.0 else 0.0)
  else if size.isInf then none
  else some (if (a < 0) != (b < 0) then -size else size)

/-- A finite float as a fraction in lowest terms. -/
def ratio? : Parts → Option (Int × Nat)
  | .finite negative significand exponent =>
    let n := significand * Nat.pow 2 exponent.toNat
    let d := Nat.pow 2 (-exponent).toNat
    let common := n.gcd d
    let top := Int.ofNat (n / common)
    some (if negative then -top else top, d / common)
  | _ => none

/-- The whole number nearest to a finite float; a tie goes to the even one. -/
def wholeNear (negative : Bool) (significand : Nat) (exponent : Int) : Int :=
  let size := Int.ofNat
    (roundEven (significand * Nat.pow 2 exponent.toNat) (Nat.pow 2 (-exponent).toNat))
  if negative then -size else size

/-- A float rounded to a number of places, which may be below zero; nothing, if it is then
beyond the floats. -/
def roundedTo? (places : Int) (x : Float) : Option Float :=
  match Parts.ofFloat x with
  | .finite negative significand exponent =>
    if 323 < places then some x
    else if places < -308 then some (zeroLike x)
    else
      let units := roundEven
        (significand * Nat.pow 2 exponent.toNat * Nat.pow 10 places.toNat)
        (Nat.pow 2 (-exponent).toNat * Nat.pow 10 (-places).toNat)
      let size := Spelling.toFloat (.number false units (-places))
      if size.isInf then none else some (if negative then -size else size)
  | _ => some x

/-- The text of a float in hexadecimal digits. -/
def hexadecimal (x : Float) : String :=
  let sign := if isNegative x then "-" else ""
  match Parts.ofFloat x with
  | .nan => plain.notANumber
  | .infinite _ => sign ++ plain.infinity
  | .finite _ 0 _ => sign ++ "0x0.0p+0"
  | .finite _ significand exponent =>
    let power := exponent + 52
    let leading := significand / Nat.pow 2 52
    sign ++ "0x" ++ toString leading ++ "." ++
      String.ofList (Text.hex 13 (significand % Nat.pow 2 52)) ++ "p" ++
      (if power < 0 then "" else "+") ++ toString power

end Understudy.Decimal

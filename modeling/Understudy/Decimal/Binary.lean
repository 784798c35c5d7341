/-!
# Floats as exact binary fractions

A float is taken apart once, here, into a sign, a whole significand and a power
of two. Every text a float is written as is then computed from these whole
numbers, so that no rounding is left to a printing routine.

## Main definitions

* `Parts`: what a float is, a number among them as `negative`, `significand`
  and `exponent`.
* `Parts.ofFloat`: the parts of a float.
* `floatOfInt?`: the nearest float of a whole number, if there is one.
-/

namespace Understudy.Decimal

/-- What a float stands for. A finite one is `± significand * 2 ^ exponent`. -/
inductive Parts where
  | nan
  | infinite (negative : Bool)
  | finite (negative : Bool) (significand : Nat) (exponent : Int)
  deriving Repr, DecidableEq

/-- The parts that 64 bits stand for: a sign bit, eleven bits of exponent and
fifty-two of fraction. The lowest exponent carries no hidden leading bit. -/
def Parts.ofBits (bits : UInt64) : Parts :=
  let word := bits.toNat
  let negative := Nat.pow 2 63 ≤ word
  let field := word / Nat.pow 2 52 % Nat.pow 2 11
  let fraction := word % Nat.pow 2 52
  if field = 2047 then
    if fraction = 0 then .infinite negative else .nan
  else if field = 0 then .finite negative fraction (-1074)
  else .finite negative (Nat.pow 2 52 + fraction) (Int.ofNat field - 1075)

/-- The parts of a float, read off its bits. -/
def Parts.ofFloat (x : Float) : Parts := Parts.ofBits x.toBits

/-- Whether a number is zero or less. What is no number is not. -/
def Parts.atMostZero : Parts → Bool
  | .nan => false
  | .infinite negative => negative
  | .finite negative significand _ => negative || significand == 0

/-- The float nearest to a whole number, or none where the number lies beyond
the finite floats. -/
def floatOfInt? (n : Int) : Option Float :=
  let x := Float.ofInt n
  if x.isInf then none else some x

end Understudy.Decimal

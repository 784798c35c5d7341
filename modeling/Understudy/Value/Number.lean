import Understudy.Value
import Understudy.Decimal.Binary

/-!
# Numbers among the values

Truth values, whole numbers and floats all stand for numbers: a truth value counts
as one or zero. Numbers are compared exactly, whatever their types, and what is no
number is neither equal to anything nor before it.

## Main definitions

* `Decimal.Parts.equal`, `Decimal.Parts.atMost`: the exact comparisons.
* `Decimal.Parts.digest`: a number in short.
* `Value.number?`: the number a value stands for.
* `Value.float?`: the float a value stands for.
* `Value.more`: a number with a whole number added.
-/

namespace Understudy

namespace Decimal.Parts

/-- The scale factor of a power of two that is not below another. -/
def scaledBy (significand : Nat) (exponent least : Int) : Nat :=
  significand * Nat.pow 2 (exponent - least).toNat

/-- The sign and size of a number, in units of a power of two that is not above its
own. -/
def units (negative : Bool) (significand : Nat) (exponent least : Int) : Int :=
  let size := Int.ofNat (scaledBy significand exponent least)
  if negative then -size else size

/-- Whether the parts of two floats stand for the same number. The two zeros do,
and what is no number is not equal to itself. -/
def equal : Parts → Parts → Bool
  | .infinite a, .infinite b => a == b
  | .finite n m e, .finite n' m' e' => units n m e (min e e') == units n' m' e' (min e e')
  | _, _ => false

/-- Whether a number is at most another one. -/
def atMost : Parts → Parts → Bool
  | .nan, _ | _, .nan => false
  | .infinite true, _ => true
  | .infinite false, .infinite negative => !negative
  | .infinite false, .finite _ _ _ => false
  | .finite _ _ _, .infinite negative => !negative
  | .finite n m e, .finite n' m' e' => units n m e (min e e') ≤ units n' m' e' (min e e')

/-- The parts of a whole number. -/
def ofInt (n : Int) : Parts := .finite (n < 0) n.natAbs 0

/-- The prime that digests are taken by, one below a power of two. -/
def digestPrime : Nat := Nat.pow 2 61 - 1

/-- A number in short, which is the same for all that are equal to it. Doubling comes round
to one after as many steps as the prime has digits. -/
def digest : Parts → Int
  | .nan => 0
  | .infinite negative => if negative then -314159 else 314159
  | .finite negative significand exponent =>
    let size := significand * Nat.pow 2 (exponent.fmod 61).toNat % digestPrime
    let signed := if negative then -Int.ofNat size else Int.ofNat size
    if signed = -1 then -2 else signed

end Decimal.Parts

namespace Value

/-- The number a value stands for, if it stands for one. -/
def number? : Value → Option Decimal.Parts
  | .bool b => some (.ofInt (if b then 1 else 0))
  | .int _ n => some (.ofInt n)
  | .float _ x => some (.ofFloat x)
  | _ => Option.none

/-- A value as a whole number, if it stands for one by its type. -/
def whole? : Value → Option Int
  | .bool b => some (if b then 1 else 0)
  | .int _ n => some n
  | _ => Option.none

/-- A value as a float, if it is a number. A whole number beyond the floats has no
float. -/
def float? : Value → Option (Option Float)
  | .float _ x => some (some x)
  | v => v.whole?.map Decimal.floatOfInt?

/-- A number with a whole number added; it stays a float if it is one. -/
def more (v : Value) (n : Int) : Option Value :=
  match v with
  | .float _ x => some (.ofFloat (x + Float.ofInt n))
  | v => v.whole?.map fun m => .ofInt (m + n)

end Value

end Understudy

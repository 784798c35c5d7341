import Understudy.Decimal.Shortest

/-!
# Decimals with a fixed number of places

Delays are logged with a fixed number of places. The exact binary value is
rounded once, and a tie goes to the even neighbour.

## Main definitions

* `roundEven`: a quotient rounded to the nearest whole number.
* `fixed`: a float with a fixed number of places.
-/

namespace Understudy.Decimal

/-- The whole number nearest to `numerator / denominator`; a tie goes to the even
one. -/
def roundEven (numerator denominator : Nat) : Nat :=
  let floor := numerator / denominator
  let rest := numerator % denominator
  if 2 * rest < denominator ∨ (2 * rest = denominator ∧ floor % 2 = 0) then floor
  else floor + 1

/-- Both neighbours of a quotient are within half a unit of what is rounded to. -/
theorem roundEven_bounds (n d : Nat) (hd : 0 < d) :
    2 * n ≤ 2 * (roundEven n d * d) + d ∧ 2 * (roundEven n d * d) ≤ 2 * n + d := by
  have hdiv := Nat.div_add_mod n d
  have hlt := Nat.mod_lt n hd
  have hc : n / d * d = d * (n / d) := Nat.mul_comm _ _
  have hs : (n / d + 1) * d = d * (n / d) + d := by rw [Nat.add_mul, Nat.one_mul, hc]
  unfold roundEven
  simp only
  split <;> rename_i h <;> omega

/-- A float with `places` digits after the point. What is no number is written as
a word, and a negative sign stays even where all digits are zero. -/
def fixed (places : Nat) (x : Float) : String :=
  match Parts.ofFloat x with
  | .nan => plain.notANumber
  | .infinite negative => (if negative then "-" else "") ++ plain.infinity
  | .finite negative significand exponent =>
    let units := roundEven (significand * Nat.pow 2 exponent.toNat * Nat.pow 10 places)
      (Nat.pow 2 (-exponent).toNat)
    let digits := padLeft (places + 1) (toString units)
    let whole := digits.length - places
    (if negative then "-" else "") ++ String.ofList (digits.toList.take whole) ++
      (if places = 0 then "" else "." ++ String.ofList (digits.toList.drop whole))

end Understudy.Decimal

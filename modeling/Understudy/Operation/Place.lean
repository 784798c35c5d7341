import Understudy.Asking

/-!
# Places as arguments

Requests to sequences take places among the items: one place, or the two ends of a
range. A place below zero counts from the end.

## Main definitions

* `needPlace`, `needSmall`, `needEnd`, `needBound`: the whole number that an argument
  stands for.
* `clampedPlace`: the place that a number stands for, no further than the items go.
-/

namespace Understudy

/-- The place that an argument stands for. -/
def needPlace (v : Value) : Action Int := do
  match v.whole? with
  | some n => if World.fitsWord n then return n else throw (.beyondWord "ssize_t")
  | none =>
    throw (.operationArguments
      ("'" ++ (← get).fullTypeName v ++ "' object cannot be interpreted as an integer"))

/-- The number of at most 32 bits that an argument stands for. -/
def needSmall (v : Value) : Action Int := do
  match v.whole? with
  | some n =>
    if -2147483648 ≤ n ∧ n < 2147483648 then return n else throw (.beyondWord "int")
  | none =>
    throw (.operationArguments
      ("'" ++ (← get).fullTypeName v ++ "' object cannot be interpreted as an integer"))

/-- How often something is repeated, given how large it is. -/
def needTimes (size : Nat) (v : Value) : Action Nat := do
  match v.whole? with
  | some n =>
    if !World.fitsWord n then throw (.resultRange World.placeTooLarge)
    -- More than this is kept nowhere.
    if Nat.pow 2 36 < size * n.toNat then throw .exhausted
    return n.toNat
  | none =>
    throw (.operationArguments
      ("'" ++ (← get).fullTypeName v ++ "' object cannot be interpreted as an integer"))

/-- The end of a range of places that an argument stands for. -/
def needEnd (v : Value) : Action Int := do
  match v.whole? with
  | some n => return n
  | none =>
    throw (.operationArguments "slice indices must be integers or have an __index__ method")

/-- The same, where an end may be left out. -/
def needBound (v : Value) : Action (Option Int) := do
  match v, v.whole? with
  | .none, _ => return none
  | _, some n => return some n
  | _, none =>
    throw (.operationArguments
      "slice indices must be integers or None or have an __index__ method")

/-- The place that a number stands for among items, the ends being as far as it goes. -/
def clampedPlace (length : Nat) (n : Int) : Nat :=
  if 0 ≤ n then min n.toNat length else length - n.natAbs

end Understudy

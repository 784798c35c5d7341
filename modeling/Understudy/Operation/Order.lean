import Understudy.Asking
import Understudy.Sorting

/-!
# Which value comes first

Numbers, texts and times come before one another in their usual orders, a sequence
comes before another one by the first items in which they differ, and a set before
those that it is a proper part of. All other values have no order.

## Main definitions

* `World.compare?`: what a comparison says of two values that have an order.
* `World.precedes`: whether a value comes before another one.
* `World.sorted`: values in order.
-/

namespace Understudy

namespace Comparison

/-- What a comparison says, given whether the first operand is at most the second one,
and the other way round. -/
def decides (c : Comparison) (atMost atLeast : Bool) : Bool :=
  match c with
  | .less => atMost && !atLeast
  | .atMost => atMost
  | .greater => atLeast && !atMost
  | .atLeast => atLeast

end Comparison

/-- Whether a time is not after another one. -/
def Moment.atMost (a b : Moment) : Bool :=
  let parts := fun m : Moment =>
    [m.date.year, m.date.month, m.date.day, m.hour, m.minute, m.second, m.microsecond]
  !(parts b).lex (parts a) fun i j => decide (i < j)

namespace World

/-- What a comparison says of two sequences: what it says of the first items in which they
differ, or else of their lengths. -/
def compareSequences (c : Comparison) (differ : Value → Value → Bool)
    (compare : Value → Value → Except Fault Bool) :
    List Value → List Value → Except Fault Bool
  | x :: xs, y :: ys =>
    if differ x y then compare x y else compareSequences c differ compare xs ys
  | xs, ys => .ok (c.decides xs.isEmpty ys.isEmpty)

/-- What a comparison says of two values by themselves, given how their items are compared;
nothing, if neither comes before the other. -/
def compareBy? (w : World) (c : Comparison) (compare : Value → Value → Except Fault Bool)
    (a b : Value) : Option (Except Fault Bool) :=
  let ofItems := compareSequences c (fun x y => !w.matched x y) compare
  match a, b with
  | .list l, .list m => some (ofItems (w.items l) (w.items m))
  | .tuple _ xs, .tuple _ ys => some (ofItems xs ys)
  | .moment _ m, .moment _ n => some (.ok (c.decides (m.atMost n) (n.atMost m)))
  | a, b =>
    match a.number?, b.number? with
    | some p, some q => some (.ok (c.decides (p.atMost q) (q.atMost p)))
    | _, _ =>
      match a.text?, b.text? with
      | some s, some t => some (.ok (c.decides (decide (s ≤ t)) (decide (t ≤ s))))
      | _, _ =>
        match w.setItems? a, w.setItems? b with
        | some xs, some ys =>
          some (.ok (c.decides (allAmong w.matched xs ys) (allAmong w.matched ys xs)))
        | _, _ => none

/-- What a comparison says of two values, down to a depth. -/
def compareWithin (w : World) (c : Comparison) : Nat → Value → Value → Except Fault Bool
  | 0, _, _ => .error .tooDeep
  | depth + 1, a, b =>
    (w.compareBy? c (w.compareWithin c depth) a b).getD
      (.error (.noOrder c.sign (w.fullTypeName a) (w.fullTypeName b)))

/-- What a comparison says of two values, if they have an order. -/
def compare? (w : World) (c : Comparison) (a b : Value) : Option (Except Fault Bool) :=
  w.compareBy? c (w.compareWithin c depthLimit) a b

/-- Whether a value comes before another one. -/
def precedes (w : World) (a b : Value) : Except Fault Bool :=
  w.compareWithin .less depthLimit a b

/-- Values in order, as far as they have one. -/
def sorted (w : World) (items : List Value) : List Value × Option Fault :=
  Sorting.sort w.precedes items

end World

end Understudy

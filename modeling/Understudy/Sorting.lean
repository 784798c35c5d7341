/-!
# Sorting by insertion

Items are put in order by a comparison that may fail. The run at the beginning that is
in order already, or in strictly falling order, is taken as it stands; every other item
goes to its place among those before it, behind those that it does not come before. A
comparison that fails ends the work, and what is in order by then stays so.

## Main definitions

* `Sorting.place`: where an item goes among items in order.
* `Sorting.sort`: the items in order, with the fault that ended the work, if any.
-/

namespace Understudy.Sorting

variable {α ε : Type}

/-- Where an item goes among items in order, between two places. The middle is looked at
first. -/
def place (less : α → α → Except ε Bool) (x : α) (sorted : List α) (low high : Nat) :
    Except ε Nat :=
  if low < high then
    let middle := low + (high - low) / 2
    match sorted[middle]? with
    | none => .ok low
    | some y =>
      match less x y with
      | .error fault => .error fault
      | .ok true => place less x sorted low middle
      | .ok false => place less x sorted (middle + 1) high
  else .ok low
termination_by high - low

/-- How many items follow one another in the same sense, after a given one. -/
def runLength (less : α → α → Except ε Bool) (falling : Bool) (previous : α) :
    List α → Except ε Nat
  | [] => .ok 0
  | x :: rest => do
    if (← less x previous) == falling then return (← runLength less falling x rest) + 1
    else return 0

/-- Puts items one by one among those in order. -/
def insertAll (less : α → α → Except ε Bool) : List α → List α → List α × Option ε
  | sorted, [] => (sorted, none)
  | sorted, x :: rest =>
    match place less x sorted 0 sorted.length with
    | .error fault => (sorted ++ x :: rest, some fault)
    | .ok i => insertAll less (sorted.take i ++ x :: sorted.drop i) rest

/-- The items in order, with the fault that ended the work, if any. -/
def sort (less : α → α → Except ε Bool) : List α → List α × Option ε
  | [] => ([], none)
  | [x] => ([x], none)
  | x :: y :: rest =>
    let run : Except ε (Nat × Bool) := do
      let falling ← less y x
      return ((← runLength less falling y rest) + 2, falling)
    match run with
    | .error fault => (x :: y :: rest, some fault)
    | .ok (n, falling) =>
      let items := x :: y :: rest
      insertAll less (if falling then (items.take n).reverse else items.take n) (items.drop n)

end Understudy.Sorting

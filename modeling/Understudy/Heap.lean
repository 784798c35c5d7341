/-!
# Heaps

A heap keeps items in a row in which every item stands at a node of a binary tree: those
below the item at place `i` are at the places `2 * i + 1` and `2 * i + 2`. Where the
comparison is an order, the first item is a least one; where it is not, the places are
still what the steps below make of them.

## Main definitions

* `Heap.push`: a row with one more item.
* `Heap.pop`: a row without its first item.
-/

namespace Understudy.Heap

variable {α : Type}

/-- Moves the item at a place up, as long as it comes before the one above it. -/
def rise (less : α → α → Bool) (items : Array α) (place : Nat) : Array α :=
  if place = 0 then items
  else
    let above := (place - 1) / 2
    match items[place]?, items[above]? with
    | some x, some y =>
      if less x y then rise less (items.swapIfInBounds place above) above else items
    | _, _ => items
termination_by place
decreasing_by omega

/-- The place of the lesser of the two items below a place; the second one of two of which
neither comes before the other. -/
def below (less : α → α → Bool) (items : Array α) (place : Nat) : Nat :=
  match items[2 * place + 1]?, items[2 * place + 2]? with
  | some x, some y => if less x y then 2 * place + 1 else 2 * place + 2
  | _, _ => 2 * place + 1

theorem lt_below (less : α → α → Bool) (items : Array α) (place : Nat) :
    place < below less items place := by
  unfold below
  split
  · split <;> omega
  · omega

/-- Moves the item at a place down to the end, past the lesser of the two below it, and
returns where it got to. -/
def sink (less : α → α → Bool) (items : Array α) (place : Nat) : Array α × Nat :=
  if _h : 2 * place + 1 < items.size then
    sink less (items.swapIfInBounds place (below less items place)) (below less items place)
  else (items, place)
termination_by items.size - place
decreasing_by
  have := lt_below less items place
  rw [Array.size_swapIfInBounds]
  omega

/-- A row with one more item. -/
def push (less : α → α → Bool) (items : Array α) (x : α) : Array α :=
  rise less (items.push x) items.size

/-- A row without its first item. The last one takes its place, sinks to the end and rises
again. -/
def pop (less : α → α → Bool) (items : Array α) : Array α :=
  let (sunk, place) := sink less (items.swapIfInBounds 0 (items.size - 1)).pop 0
  rise less sunk place

end Understudy.Heap

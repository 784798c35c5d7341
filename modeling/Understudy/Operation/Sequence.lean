import Understudy.Operation.Order
import Understudy.Operation.Place

/-!
# Requests to lists and tuples

A list changes where it is kept, and whoever refers to it sees the change. A tuple only
tells about its items.

## Main definitions

* `operateList`, `operateTuple`: what comes of a request.
-/

namespace Understudy

/-- The place of the first equal item between two places. -/
def placeOf? (w : World) (item : Value) (items : List Value) (start stop : Nat) : Option Nat :=
  ((items.take stop).drop start |>.findIdx? (w.matched · item)).map (· + start)

/-- The place of an item, between two places if they are given. -/
def indexAmong (items : List Value) (missing : Action String) (args : List Value) :
    Action Value := do
  let place := fun (i : Nat) (other : Nat) =>
    match args[i]? with
    | some v => do return clampedPlace items.length (← needEnd v)
    | none => (pure other : Action Nat)
  let start ← place 1 0
  let stop ← place 2 items.length
  match placeOf? (← get) (args.headD .none) items start stop with
  | some i => return .ofInt i
  | none => throw (.missingItem (← missing))

/-- The keys by which items are put in order: the items themselves, or what comes of
calling something with each of them. -/
def sortKeys (call : Caller) (key : Value) (items : List Value) : Action (List Value) :=
  if key.isNone then return items else items.mapM fun item => call key [item]

/-- Puts the items of a list in order. With the order reversed, equal items still stay in
their order. What is in order by the time a comparison fails stays so. -/
def sortList (call : Caller) (l : ListRef) (key reversed : Value) : Action Unit := do
  let w ← get
  let backwards := (← needSmall reversed) != 0
  let turned := fun (items : List Value) => if backwards then items.reverse else items
  let items := w.items l
  let keys ← sortKeys call key items
  let w ← get
  let pairs := (turned items).zip (turned keys)
  let (arranged, fault?) := Sorting.sort (fun a b => w.precedes a.2 b.2) pairs
  set (w.withItems l (turned (arranged.map Prod.fst)))
  match fault? with
  | some fault => throw fault
  | none => return ()

/-- Items, a number of times. -/
def repeated (times : Nat) (items : List Value) : List Value :=
  (List.replicate times items).flatten

/-- What comes of a request to a list. -/
def operateList (call : Caller) (l : ListRef) (op : Operation) (args : List Value) :
    Action Value := do
  let w ← get
  let items := w.items l
  let become := fun (items : List Value) => set (w.withItems l items)
  match op, args with
  | .append, [item] =>
    become (items ++ [item])
    return .none
  | .clear, _ =>
    become []
    return .none
  | .copy, _ => newList items
  | .count, [item] => return .ofInt (items.countP (w.matched · item))
  | .extend, [more] =>
    let added ← iterate more
    modify fun w => w.withItems l (w.items l ++ added)
    return .none
  | .index, item :: _ => indexAmong items (return (← quotedText item) ++ " is not in list") args
  | .insert, [place, item] =>
    let i := clampedPlace items.length (← needPlace place)
    become (items.take i ++ item :: items.drop i)
    return .none
  | .pop, args =>
    let place ← match args with
      | [place] => needPlace place
      | _ => pure (-1)
    if items.isEmpty then throw (.placeRange "pop from empty list")
    match World.itemAt? items place with
    | some item =>
      let i := if 0 ≤ place then place.toNat else items.length - place.natAbs
      become (items.eraseIdx i)
      return item
    | none => throw (.placeRange "pop index out of range")
  | .remove, [item] =>
    match placeOf? w item items 0 items.length with
    | some i =>
      become (items.eraseIdx i)
      return .none
    | none => throw (.missingItem "list.remove(x): x not in list")
  | .reverse, _ =>
    become items.reverse
    return .none
  | .sort, [key, reversed] =>
    sortList call l key reversed
    return .none
  | .setItem, [key, v] =>
    setItem (.list l) key v
    return .none
  | .deleteItem, [key] =>
    removePlace l key
    return .none
  | .combined .add .own, [more] =>
    let added ← iterate more
    modify fun w => w.withItems l (w.items l ++ added)
    return .list l
  | .combined .add _, [other] =>
    match other with
    | .list m => newList (items ++ w.items m)
    | _ => throw (.noConcatenation "list" (w.fullTypeName other))
  | .combined .multiply .own, [times] =>
    become (repeated (← needTimes items.length times) items)
    return .list l
  | .combined .multiply _, [times] =>
    newList (repeated (← needTimes items.length times) items)
  | _, _ => return .none

/-- What comes of a request to a tuple, which is left as it is if nothing is added to it. -/
def operateTuple (owner : Value) (items : List Value) (op : Operation) (args : List Value) :
    Action Value := do
  let w ← get
  match op, args with
  | .count, [item] => return .ofInt (items.countP (w.matched · item))
  | .index, _ => indexAmong items (pure "tuple.index(x): x not in tuple") args
  | .combined .add _, [other] =>
    match other with
    | .tuple _ more =>
      if more.isEmpty then return owner
      else if items.isEmpty then return other
      else hold (.tuple 0 (items ++ more))
    | _ => throw (.noConcatenation "tuple" (w.fullTypeName other))
  | .combined .multiply _, [times] =>
    let times ← needTimes items.length times
    if times = 1 then return owner else hold (.tuple 0 (repeated times items))
  | _, _ => return .none

end Understudy

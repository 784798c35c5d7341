import Understudy.Operation.Place

/-!
# Requests to sets

A set never changes, and hands out other sets. What it is compared with may be anything
with items that are fit for keys.

## Main definitions

* `distinct`: items, each once.
* `operateSet`, `operateAspect`: what comes of a request to a set, or to what is like one.
-/

namespace Understudy

/-- Items, each once, behind those that are there already. -/
def distinct (known : List Value) (items : List Value) : List Value :=
  items.foldl (fun found v => if found.any (· == v) then found else found ++ [v]) known

/-- The items of a value, each once. They have to be fit for keys. -/
def members (v : Value) : Action (List Value) := do
  let items ← iterate v
  for item in items do needKey item
  return distinct [] items

/-- The items of a set that are among others, or that are not. -/
def selected (among : Bool) (items others : List Value) : List Value :=
  items.filter fun v => others.any (· == v) == among

/-- The items that an operator makes of those of two sets. -/
def combineItems (o : Operator) (items others : List Value) : List Value :=
  match o with
  | .both => selected true items others
  | .either => distinct items others
  | .subtract => selected false items others
  | _ => selected false items others ++ selected false others items

/-- The items that an operator makes of a set and another one, which may stand before it. -/
def combineOnSide (o : Operator) (side : Side) (items others : List Value) : List Value :=
  if side = .right then combineItems o others items else combineItems o items others

/-- What comes of a request to a set. -/
def operateSet (owner : Value) (items : List Value) (op : Operation) (args : List Value) :
    Action Value := do
  match op, args with
  | .copy, _ => return owner
  | .union, others =>
    let added ← others.mapM members
    hold (.set 0 (added.foldl distinct items))
  | .difference, others =>
    let removed ← others.mapM members
    hold (.set 0 (removed.foldl (selected false) items))
  | .intersection, others =>
    let kept ← others.mapM members
    hold (.set 0 (kept.foldl (selected true) items))
  | .symmetricDifference, [other] =>
    let others ← members other
    hold (.set 0 (combineItems .oneOf items others))
  | .isDisjoint, [other] => return .bool (selected true items (← members other)).isEmpty
  | .isSubset, [other] => return .bool (selected false items (← members other)).isEmpty
  | .isSuperset, [other] => return .bool (selected false (← members other) items).isEmpty
  | .combined o side, [.set _ others] => hold (.set 0 (combineOnSide o side items others))
  | .combined _ _, _ => return .undecided
  | _, _ => return .none

/-- What comes of a request to the keys or the pairs of a dictionary. What an operator makes
of them is a set that can be changed. -/
def operateAspect (owner : Value) (items : List Value) (op : Operation) (args : List Value) :
    Action Value := do
  match op, args with
  | .combined o side, [other] =>
    let found := combineOnSide o side items (← members other)
    if found.isEmpty then return .thing "set" "set()"
    else return .thing "set" (Value.bracketed "\x7b" "\x7d" (← found.mapM quotedText))
  | op, args => operateSet owner items op args

end Understudy

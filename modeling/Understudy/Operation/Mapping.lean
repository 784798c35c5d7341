import Understudy.Operation.Place

/-!
# Requests to dictionaries

A dictionary changes where it is kept. A view of it shows its keys, its values or its
pairs as they are at any time.

## Main definitions

* `readDict`: what comes of a request that leaves a dictionary as it is.
* `operateDict`: what comes of a request to a dictionary.
-/

namespace Understudy

/-- Writes pairs over those of a dictionary. -/
def overwrite (d : DictRef) (others : List (Value × Value)) : Action Unit :=
  modify fun w => w.withPairs d (others.foldl (fun d (key, v) => d.put key v) (w.pairs d))

/-- Writes items that come in twos over the pairs of a dictionary, one after the other.
Those before one that cannot be written stay. -/
def overwriteItems (d : DictRef) : Nat → List Value → Action Unit
  | _, [] => return ()
  | place, v :: rest => do
    let element := "dictionary update sequence element #" ++ toString place
    match (← get).items? v with
    | some [key, item] =>
      needKey key
      overwrite d [(key, item)]
      overwriteItems d (place + 1) rest
    | some items =>
      throw (.itemCount (element ++ " has length " ++ toString items.length ++
        "; 2 is required"))
    | none => throw (.operationArguments ("cannot convert " ++ element ++ " to a sequence"))

/-- Writes what a value holds over the pairs of a dictionary: the pairs of another one, or
items that come in twos. -/
def overwriteWith (d : DictRef) (other : Value) : Action Unit := do
  match (← get).pairsOf? other with
  | some given => overwrite d given.toList
  | none => overwriteItems d 0 (← iterate other)

/-- The pairs of two dictionaries, those of the second written over those of the first. -/
def merged (first second : Dict) : Dict :=
  second.toList.foldl (fun d (key, v) => d.put key v) first

/-- A new dictionary with the pairs of two, of which the other one may stand before it. -/
def uniteDict (pairs : Dict) (side : Side) (other : Option Dict) : Option (Action Value) :=
  other.map fun others =>
    newDict (if side = .right then merged others pairs else merged pairs others)

/-- A new dictionary with one value under every one of some keys. -/
def dictOfKeys (keys : List Value) (v : Value) : Action Value := do
  for key in keys do needKey key
  newDict (keys.foldl (fun d key => d.put key v) .empty)

/-- What comes of a request that leaves a dictionary as it is. -/
def readDict (owner : Value) (op : Operation) (args : List Value) : Action Value := do
  let d := ((← get).pairsOf? owner).getD .empty
  match op, args with
  | .copy, _ => newDict d
  | .get, key :: rest =>
    needKey key
    return (d.get? key).getD (rest.headD .none)
  | .items, _ => hold (.aspect 0 .items owner)
  | .keys, _ => hold (.aspect 0 .keys owner)
  | .values, _ => hold (.aspect 0 .values owner)
  | .fromKeys, keys :: rest => dictOfKeys (← iterate keys) (rest.headD .none)
  | .combined .either .own, _ =>
    throw (.operationArguments "'|=' is not supported by mappingproxy; use '|' instead")
  | .combined .either side, [other] =>
    let w ← get
    match uniteDict d side (w.pairsOf? other) with
    | some union => union
    | none =>
      let type := w.fullTypeName other
      throw (if side = .right then .noSum "|" type "dict" else .noSum "|" "dict" type)
  | _, _ => return .none

/-- What comes of a request to a dictionary. -/
def operateDict (d : DictRef) (op : Operation) (args : List Value)
    (named : List (String × Value)) : Action Value := do
  let w ← get
  let pairs := w.pairs d
  match op, args with
  | .clear, _ =>
    set (w.withPairs d .empty)
    return .none
  | .pop, key :: rest =>
    -- Where there is nothing to find, the key is not looked at.
    unless pairs.toList.isEmpty do needKey key
    match pairs.get? key, rest with
    | some v, _ =>
      set (w.withPairs d (pairs.erase key))
      return v
    | none, fallback :: _ => return fallback
    | none, [] => throw (.missingKey (← quotedText key))
  | .popItem, _ =>
    match pairs.toList.getLast? with
    | some (key, v) =>
      set (w.withPairs d ⟨pairs.toList.dropLast⟩)
      hold (.tuple 0 [key, v])
    | none => throw (.missingKey (Text.quoted "popitem(): dictionary is empty"))
  | .setDefault, key :: rest =>
    needKey key
    match pairs.get? key with
    | some v => return v
    | none =>
      let v := rest.headD .none
      set (w.withPairs d (pairs.put key v))
      return v
  | .setItem, [key, v] =>
    setItem (.dict d) key v
    return .none
  | .deleteItem, [key] =>
    removeItem (.dict d) key
    return .none
  | .update, args =>
    match args with
    | [] => pure ()
    | other :: _ => overwriteWith d other
    overwrite d (named.map fun (name, v) => (.ofText name, v))
    return .none
  | .combined .either .own, [other] =>
    overwriteWith d other
    return .dict d
  | .combined .either side, [other] =>
    let others? := match other with
      | .dict e => some (w.pairs e)
      | _ => none
    (uniteDict pairs side others?).getD (pure .undecided)
  | op, args => readDict (.dict d) op args

end Understudy

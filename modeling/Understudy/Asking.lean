import Understudy.Description

/-!
# Asking values

Much of what is handed around can be of any kind, and is asked for what is wanted of
it: for what it holds under a name, for its items, for one of them, or for the result
of a request. A thing of the kind that usually takes a request answers it by itself.
Anything else is looked at, and what it holds under the request's name is called.

## Main definitions

* `readAttribute`: what a value holds under a name.
* `request`: what comes of a request to a value.
* `iterate`, `subscript`, `unpackPair`, `contains`: the items of a value.
* `appendTo`, `setItem`: changes of the items of a value.
* `World.increment`, `World.ordered`: numbers counted on, and compared.

## Main statements

* `request_of_taker`: a thing that takes a request answers it by itself.
-/

namespace Understudy

/-! ## Texts -/

/-- The displayed text of a value. -/
def shown (v : Value) : Action String := do orFail ((← get).display v)

/-- The quoted text of a value. -/
def quotedText (v : Value) : Action String := do orFail ((← get).quoted v)

/-! ## Keys -/

/-- Fails if a value cannot be a key. -/
def needKey (v : Value) : Action Unit :=
  match v.unhashable? with
  | some type => throw (.unhashable type)
  | none => pure ()

/-! ## Items -/

namespace World

/-- The items of a value, if it has any to go through. A dictionary has its keys. -/
def items? (w : World) : Value → Option (List Value)
  | .list l => some (w.items l)
  | .tuple _ items => some items
  | .text _ s => some (s.toList.map fun c => .ofText c.toString)
  | .field f => some (f.word.toList.map fun c => .ofText c.toString)
  | .set _ items => some items
  | .aspect _ what source => some (w.aspectItems what source)
  | .object ⟨.settings, i⟩ =>
    some ((w.settings.get i).toPairs.map fun (name, v) => .tuple 0 [.ofText name, v])
  | v => (w.pairsOf? v).map OrderedMap.keys

/-- The item at a place, counted from the end if it is below zero. -/
def itemAt? (items : List Value) (place : Int) : Option Value :=
  if 0 ≤ place then items[place.toNat]?
  else if place.natAbs ≤ items.length then items[items.length - place.natAbs]?
  else none

/-- Whether a whole number fits into a word of 64 bits. -/
def fitsWord (n : Int) : Bool :=
  decide (-9223372036854775808 ≤ n ∧ n < 9223372036854775808)

/-- How it reads that a place is beyond any list. -/
def placeTooLarge : String := "cannot fit 'int' into an index-sized integer"

/-- Whether an item is among others: the very same, or an equal one. -/
def among (w : World) (item : Value) (items : List Value) : Bool := items.any (w.matched · item)

end World

/-- The items of a value. The characters of a text are made anew. -/
def iterate (v : Value) : Action (List Value) := do
  let w ← get
  match v, w.items? v with
  | .text _ _, some items | .field _, some items => items.mapM renew
  | _, some items => return items
  | _, none => throw (.notIterable (w.fullTypeName v))

/-- The item of a value under a place or a key. -/
def subscript (v key : Value) : Action Value := do
  let w ← get
  match v with
  | .list _ | .tuple _ _ | .text _ _ | .field _ =>
    let (items, container) := match v with
      | .list l => (w.items l, "list")
      | .tuple _ items => (items, "tuple")
      | v => ((w.items? v).getD [], "string")
    match key.whole? with
    | some place =>
      if !World.fitsWord place then throw (.placeRange World.placeTooLarge)
      match World.itemAt? items place with
      | some item => return item
      | none => throw (.placeRange (container ++ " index out of range"))
    | none => throw (.placeType container (w.fullTypeName key))
  | v =>
    match w.pairsOf? v with
    | some pairs =>
      needKey key
      match pairs.get? key with
      | some found => return found
      | none => throw (.missingKey (← quotedText key))
    | none => throw (.notSubscriptable (w.fullTypeName v))

/-- The two items of a value. -/
def unpackPair (v : Value) : Action (Value × Value) := do
  let w ← get
  match w.items? v with
  | some [a, b] => return (a, b)
  | some items =>
    throw (if items.length < 2 then .tooFewItems 2 items.length else .tooManyItems 2)
  | none => throw (.notUnpackable (w.fullTypeName v))

/-- Writes to an item of a value. -/
def setItem (target key v : Value) : Action Unit := do
  let w ← get
  match target with
  | .list l =>
    match key.whole? with
    | some place =>
      let items := w.items l
      let index := if 0 ≤ place then place.toNat else items.length - place.natAbs
      if !World.fitsWord place then
        throw (.placeRange World.placeTooLarge)
      else if (World.itemAt? items place).isSome then
        set (w.withItems l (items.set index v))
      else throw (.placeRange "list assignment index out of range")
    | none => throw (.placeType "list" (w.fullTypeName key))
  | .dict d =>
    needKey key
    set (w.withPairs d ((w.pairs d).put key v))
  | other => throw (.noItems (w.fullTypeName other))

/-- Takes an item out of a list. -/
def removePlace (l : ListRef) (key : Value) : Action Unit := do
  let w ← get
  let items := w.items l
  match key.whole? with
  | none => throw (.placeType "list" (w.fullTypeName key))
  | some place =>
    if !World.fitsWord place then throw (.placeRange World.placeTooLarge)
    if (World.itemAt? items place).isNone then
      throw (.placeRange "list assignment index out of range")
    let i := if 0 ≤ place then place.toNat else items.length - place.natAbs
    set (w.withItems l (items.eraseIdx i))

/-- Takes an item out of a value. -/
def removeItem (target key : Value) : Action Unit := do
  let w ← get
  match target with
  | .list l => removePlace l key
  | .dict d =>
    needKey key
    if ((w.pairs d).get? key).isNone then throw (.missingKey (← quotedText key))
    set (w.withPairs d ((w.pairs d).erase key))
  | other => throw (.noDeletion (w.fullTypeName other))

/-! ## Numbers -/

namespace World

/-- What comes of adding a whole number to a value, where a value grows by what is
added to it. -/
def increment (w : World) (v : Value) (n : Int) : Except Fault Value :=
  match v.more n with
  | some sum => .ok sum
  | none =>
    match v with
    | .text _ _ | .field _ => .error (.noConcatenation "str" "int")
    | .tuple _ _ => .error (.noConcatenation "tuple" "int")
    | .list _ => .error (.notIterable "int")
    | other => .error (.noSum "+=" (w.fullTypeName other) "int")

/-- Whether a number is at most another one. Texts come before each other as well, in
the order of their characters. -/
def ordered (w : World) (operator : String) (a b : Value) : Except Fault Bool :=
  match a.number?, b.number? with
  | some p, some q => .ok (p.atMost q)
  | _, _ =>
    match a.text?, b.text? with
    | some s, some t => .ok (decide (s ≤ t))
    | _, _ => .error (.noOrder operator (w.fullTypeName a) (w.fullTypeName b))

@[simp] theorem increment_int (w : World) (serial : Nat) (m n : Int) :
    w.increment (.int serial m) n = .ok (.ofInt (m + n)) := rfl

end World

/-- What comes of adding a whole number to a value, as a number made just now. -/
def incremented (v : Value) (n : Int) : Action Value := do
  renew (← orFail ((← get).increment v n))

/-! ## Attributes -/

namespace World

/-- The thing that takes a request by itself: one of the kind that usually does, unless
something else was assigned to it under the name of the request. -/
def taker? (w : World) (kind : Kind) (target : Value) (m : Method) : Option (Ref kind) :=
  (target.ref? kind).filter fun r =>
    (w.methods r.object).contains m && (w.assigned? r.object m.word).isNone

/-- The entries of a registry, or whatever was put in their place. -/
def entriesOf (w : World) (r : Ref .registry) : Value :=
  (w.assigned? r.object "_entries").getD (.dict (.entries r))

/-- The captures of a registry, or whatever was put in their place. -/
def capturesOf (w : World) (r : Ref .registry) : Value :=
  (w.assigned? r.object "_originals").getD (.dict (.captures r))

end World

/-- Fails if what guards a thing against others was replaced by something that cannot. -/
def enter (o : Object) : Action Unit := do
  let w ← get
  match w.assigned? o lockName with
  | none | some (.thing "lock" _) | some (.thing "RLock" _) => return ()
  | some v => throw (.noGuard (w.fullTypeName v))

/-- The entries of a registry, for whoever may look at them. -/
def enterEntries (r : Ref .registry) : Action Value := do
  enter r.object
  return (← get).entriesOf r

/-- The captures of a registry, for whoever may look at them. -/
def enterCaptures (r : Ref .registry) : Action Value := do
  enter r.object
  return (← get).capturesOf r

/-- What is found under a key, or the absent value. Whatever is no dictionary is asked for
it, given how values are read. -/
def getFrom (read : Value → String → Action Value) (call : Caller) (container key : Value) :
    Action Value := do
  match container with
  | .dict d =>
    needKey key
    return (((← get).pairs d).get? key).getD .none
  | other => call (← read other Operation.get.word) [key]

/-- What a value holds under a name, through at most `depth` installers, each of which
asks its registry for the captured service. -/
def readWithin (call : Caller) : Nat → Value → String → Action Value
  | 0, _, _ => throw .tooDeep
  | depth + 1, v, name => do
    match ← orFail ((← get).look v name) with
    | .held found => return found
    | .made found => hold found
    | .captured i =>
      let installer ← fetch i
      let capture ← match (← get).taker? .registry installer.registry .captured with
        | some r => getFrom (readWithin call depth) call (← enterCaptures r) installer.contractId
        | none =>
          let callee ← readWithin call depth installer.registry Method.captured.word
          call callee [installer.contractId]
      if capture.isNone then return .none else subscript capture (.ofInt 1)

/-- What a value holds under a name. -/
def readAttribute (call : Caller) : Value → String → Action Value := readWithin call depthLimit

/-- What is held is read, and nothing else happens. -/
theorem run_readAttribute_held {w : World} {v found : Value} {name : String} (call : Caller)
    (h : w.look v name = .ok (.held found)) :
    (readAttribute call v name).run.run w = (.ok found, w) := by
  show (readWithin call (999 + 1) v name).run.run w = _
  rw [readWithin, run_get_bind, h]
  rfl

/-! ## Requests -/

/-- What comes of a request to a value. A thing that takes the request answers by
itself; any other value is looked at, and what it holds under the name of the request
is called. -/
def request {kind : Kind} (call : Caller) (target : Value) (m : Method) (args : List Value)
    (answer : Ref kind → Action Value) : Action Value := do
  match (← get).taker? kind target m with
  | some r => answer r
  | none =>
    let callee ← readAttribute call target m.word
    call callee args

/-- A thing that takes a request answers it by itself. -/
theorem request_of_taker {kind : Kind} {w : World} {target : Value} {m : Method} {r : Ref kind}
    (call : Caller) (args : List Value) (answer : Ref kind → Action Value)
    (h : w.taker? kind target m = some r) :
    (request call target m args answer).run.run w = (answer r).run.run w := by
  rw [request, run_get_bind, h]

/-- What is found under a key of a value, or the absent value. -/
def getItem (call : Caller) : Value → Value → Action Value := getFrom (readAttribute call) call

/-- What a registry captured for a contract, as a value. -/
def captured (call : Caller) (r : Ref .registry) (contractId : Value) : Action Value := do
  getItem call (← enterCaptures r) contractId

/-- Adds an item to a list, or to whatever else takes items. -/
def appendTo (call : Caller) (target item : Value) : Action Unit := do
  match target with
  | .list l => modify fun w => w.withItems l (w.items l ++ [item])
  | other =>
    let callee ← readAttribute call other Operation.append.word
    let _ ← call callee [item]

/-- Forgets the items of a list, or of whatever else has items. -/
def clearAll (call : Caller) (target : Value) : Action Unit := do
  match target with
  | .list l => modify fun w => w.withItems l []
  | other =>
    let callee ← readAttribute call other Operation.clear.word
    let _ ← call callee []

/-- The number of the items of a value. -/
def lengthOf (v : Value) : Action Nat := do
  let w ← get
  match w.length? v with
  | some n => return n
  | none => throw (.noLength (w.fullTypeName v))

/-- Whether something is among the items of a value that is no registry. -/
def holds (target item : Value) : Action Bool := do
  let w ← get
  match target with
  | .list _ | .tuple _ _ | .object ⟨.settings, _⟩ | .aspect _ .values _ =>
    return w.among item ((w.items? target).getD [])
  | .text _ _ | .field _ =>
    match item.text? with
    | some part => return ((target.text?).getD "").contains part
    | none => throw (.withinText (w.fullTypeName item))
  | .set _ items =>
    needKey item
    return items.any fun v => item == v
  | .dict _ | .view _ =>
    needKey item
    return (((w.pairsOf? target).getD .empty).get? item).isSome
  | .aspect _ .keys source =>
    needKey item
    return (((w.pairsOf? source).getD .empty).get? item).isSome
  | .aspect _ .items source =>
    match item with
    | .tuple _ [key, v] =>
      needKey key
      return (((w.pairsOf? source).getD .empty).get? key).any (w.matched · v)
    | _ => return false
  | other => throw (.noContainer (w.fullTypeName other))

/-- Whether a contract has an entry in a registry. -/
def isRegistered (r : Ref .registry) (contractId : Value) : Action Bool := do
  holds (← enterEntries r) contractId

/-- What a registry says of something that may be a contract with an entry. What is no text
is none. -/
def includes (call : Caller) (r : Ref .registry) (item : Value) : Action Value := do
  match item.text? with
  | none => return .bool false
  | some _ =>
    request call (.ofRef r) .isRegistered [item] fun (r : Ref .registry) =>
      return .bool (← isRegistered r item)

/-- Whether something is among the items of a value. In a registry these are the
contracts with an entry. -/
def contains (call : Caller) (target item : Value) : Action Bool := do
  match target with
  | .object ⟨.registry, i⟩ =>
    let answer ← includes call ⟨i⟩ item
    return (← get).truthy answer
  | other => holds other item

end Understudy

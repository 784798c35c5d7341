import Understudy.OrderedMap
import Understudy.Value.Key

/-!
# The registry of services

A registry holds one entry per contract id: the provider that serves the contract.
Registering again replaces the entry. Besides, it remembers for a contract the
service that was first captured for it, with the entry it came from, and never
captures again.

A contract is known by any value that can be a key, in practice by a text.

## Main definitions

* `Entry`: a provider registered under a contract id.
* `Capture`: an entry with the service it gave when it was captured.
* `Registry`: the entries and the captures.
* `Registry.register`, `Registry.unregister`, `Registry.capture`: the changes.

## Main statements

* `Registry.entryOf?_register`, `Registry.entryOf?_unregister`: a change of one contract
  is a change of that contract only.
-/

namespace Understudy

/-- A provider registered under a contract id. Entries never change; the serial
number tells two entries with equal content apart. -/
structure Entry where
  serial : Nat
  classId : Value
  description : Value
  contractId : Value
  provider : Value

/-- An entry as a value. -/
def Entry.toValue (e : Entry) : Value :=
  .record .entry e.serial [e.classId, e.description, e.contractId, e.provider]

/-- The entry that a value is, if it is one. -/
def Entry.ofValue? : Value → Option Entry
  | .record .entry serial [classId, description, contractId, provider] =>
    some ⟨serial, classId, description, contractId, provider⟩
  | _ => none

@[simp] theorem Entry.ofValue?_toValue (e : Entry) : Entry.ofValue? e.toValue = some e := rfl

theorem Entry.toValue_injective {e e' : Entry} (h : e.toValue = e'.toValue) : e = e' :=
  Option.some.inj (congrArg Entry.ofValue? h)

/-- An entry with the service it gave when it was captured. The two are kept together
as one pair with a serial number of its own. -/
structure Capture where
  serial : Nat
  entry : Value
  service : Value

/-- A capture as a value. -/
def Capture.toValue (c : Capture) : Value := .tuple c.serial [c.entry, c.service]

/-- The capture that a value is, if it is one. -/
def Capture.ofValue? : Value → Option Capture
  | .tuple serial [entry, service] => some ⟨serial, entry, service⟩
  | _ => none

@[simp] theorem Capture.ofValue?_toValue (c : Capture) : Capture.ofValue? c.toValue = some c := rfl

theorem Capture.toValue_injective {c c' : Capture} (h : c.toValue = c'.toValue) : c = c' :=
  Option.some.inj (congrArg Capture.ofValue? h)

/-- Captures of entries that are one value have one entry, and one service. -/
theorem Capture.eq_of_toValue {serial serial' : Nat} {e e' : Entry} {service service' : Value}
    (h : Capture.toValue ⟨serial, e.toValue, service⟩ =
      Capture.toValue ⟨serial', e'.toValue, service'⟩) : e = e' ∧ service = service' :=
  have hcapture := Capture.toValue_injective h
  ⟨Entry.toValue_injective (congrArg Capture.entry hcapture), congrArg Capture.service hcapture⟩

/-- Pairs of a key and a value, as a dictionary has them. -/
abbrev Dict := OrderedMap Value Value

/-- The entries by contract id, and the captures by contract id. Both are open to
whoever asks for them, so they may hold anything. -/
structure Registry where
  entries : Dict := .empty
  captures : Dict := .empty
  deriving Inhabited

namespace Registry

/-- The entry of a contract. -/
def entryOf? (r : Registry) (contract : Value) : Option Value := r.entries.get? contract

/-- The capture of a contract. -/
def captureOf? (r : Registry) (contract : Value) : Option Value := r.captures.get? contract

/-- Puts an entry in place of the one of its contract. -/
def register (r : Registry) (e : Entry) : Registry :=
  { r with entries := r.entries.put e.contractId e.toValue }

/-- Removes the entry of a contract. -/
def unregister (r : Registry) (contract : Value) : Registry :=
  { r with entries := r.entries.erase contract }

/-- Remembers a capture. -/
def capture (r : Registry) (contract : Value) (c : Capture) : Registry :=
  { r with captures := r.captures.put contract c.toValue }

/-- Whether a contract id comes before another one, or is the same, where both are
texts. -/
def contractAtMost (a b : Value) : Bool :=
  match a.text?, b.text? with
  | some s, some t => s ≤ t
  | none, some _ => false
  | _, none => true

/-- The registered contract ids in ascending order, where all of them are texts. -/
def contractIds (r : Registry) : List Value := r.entries.keys.mergeSort contractAtMost

/-! ## What a change leaves alone -/

@[simp] theorem entryOf?_register (r : Registry) (e : Entry) (contract : Value) :
    (r.register e).entryOf? contract =
      if e.contractId == contract then some e.toValue else r.entryOf? contract := by
  simp [register, entryOf?, OrderedMap.get?_put]

@[simp] theorem entryOf?_unregister (r : Registry) (removed contract : Value) :
    (r.unregister removed).entryOf? contract =
      if removed == contract then none else r.entryOf? contract := by
  simp [unregister, entryOf?, OrderedMap.get?_erase]

@[simp] theorem captureOf?_capture (r : Registry) (captured contract : Value) (c : Capture) :
    (r.capture captured c).captureOf? contract =
      if captured == contract then some c.toValue else r.captureOf? contract := by
  simp [capture, captureOf?, OrderedMap.get?_put]

@[simp] theorem captureOf?_register (r : Registry) (e : Entry) (contract : Value) :
    (r.register e).captureOf? contract = r.captureOf? contract := rfl

@[simp] theorem captureOf?_unregister (r : Registry) (removed contract : Value) :
    (r.unregister removed).captureOf? contract = r.captureOf? contract := rfl

end Registry

end Understudy

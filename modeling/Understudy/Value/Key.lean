import Understudy.Value.Number

/-!
# Values as keys

A dictionary finds its values by keys that never change. What can change cannot be
a key, and neither can a tuple or a record that holds it. Two keys are the same one
when they are made of the same atoms: numbers go by what they stand for, a field by
its word, and things by their identity.

## Main definitions

* `Atom`: what keys are made of.
* `Value.atoms?`: the atoms of a key.
* `Value.unhashable?`: the type for which a value cannot be a key.

## Main statements

* `Value.beq_of_text?`, `Value.text?_of_beq`: a text is the same key as itself only.
* `Value.text_beq_text`: texts are the same key when they are equal.
* `PartialEquivBEq Value`: being the same key is symmetric and transitive.
-/

namespace Understudy

/-- What keys are made of. A compound one begins with its kind and its size. -/
inductive Atom where
  | none
  /-- `numerator / 2 ^ halvings`, in lowest terms. -/
  | number (numerator : Int) (halvings : Nat)
  | infinite (negative : Bool)
  /-- What is no number is the same key as itself only. -/
  | nan (serial : Nat)
  | text (s : String)
  | capability (c : Capability)
  | moment (m : Moment)
  | object (o : Object)
  | handle (timeline : Ref .timeline) (seq : Nat)
  | function (serial : Nat) (f : Function)
  | expiry (bank : Ref .bank) (serial : Nat)
  | type (path : String)
  | operation (serial : Nat)
  | thing (type text : String)
  | tuple (size : Nat)
  | record (kind : RecordKind)
  | set (size : Nat)
  deriving Repr, DecidableEq

/-- A fraction over a power of two in lowest terms. -/
def Atom.reduced (negative : Bool) : Nat → Nat → Atom
  | significand, 0 => .number (if negative then -Int.ofNat significand else significand) 0
  | significand, halvings + 1 =>
    if significand % 2 = 0 then reduced negative (significand / 2) halvings
    else .number (if negative then -Int.ofNat significand else significand) (halvings + 1)

/-- The atom of a number. What is no number is no key that could be found again. -/
def Atom.ofNumber? : Decimal.Parts → Option Atom
  | .nan => Option.none
  | .infinite negative => some (.infinite negative)
  | .finite negative significand exponent =>
    some (Atom.reduced negative (significand * Nat.pow 2 exponent.toNat) (-exponent).toNat)

/-- The atom of a float with a serial number. -/
def Atom.ofFloat? (serial : Nat) (x : Float) : Option Atom :=
  match Atom.ofNumber? (.ofFloat x) with
  | some a => some a
  | Option.none => if serial = 0 then Option.none else some (.nan serial)

/-- A fraction is a number. -/
theorem Atom.reduced_ne_text (negative : Bool) (significand halvings : Nat) (s : String) :
    Atom.reduced negative significand halvings ≠ .text s := by
  fun_induction Atom.reduced negative significand halvings with
  | case1 => exact fun h => nomatch h
  | case2 significand halvings heven ih => exact ih
  | case3 => exact fun h => nomatch h

theorem Atom.ofFloat?_ne_text (serial : Nat) (x : Float) (s : String) :
    Atom.ofFloat? serial x ≠ some (.text s) := by
  intro h
  unfold Atom.ofFloat? at h
  split at h
  · rename_i a ha
    obtain rfl := Option.some.inj h
    unfold Atom.ofNumber? at ha
    split at ha
    · cases ha
    · cases ha
    · exact Atom.reduced_ne_text _ _ _ s (Option.some.inj ha)
  · split at h <;> cases h

namespace Value

mutual

/-- The atoms of a key. What has none is the same key as nothing. -/
def atoms? : Value → Option (List Atom)
  | .none => some [.none]
  | .bool b => some [.number (if b then 1 else 0) 0]
  | .int _ n => some [.number n 0]
  | .float serial x => (Atom.ofFloat? serial x).map fun a => [a]
  | .text _ s => some [.text s]
  | .field f => some [.text f.word]
  | .capability c => some [.capability c]
  | .moment _ m => some [.moment m]
  | .object o => some [.object o]
  | .handle t seq => some [.handle t seq]
  | .function serial f =>
    match f with
    | .callback _ | .clock => some [.function serial f]
    | f => some [.function 0 f]
  | .expiry bank serial _ => some [.expiry bank serial]
  | .tuple _ items => (allAtoms? items).map fun atoms => .tuple items.length :: atoms
  | .record kind _ fields => (allAtoms? fields).map fun atoms => .record kind :: atoms
  | .set _ items => (allAtoms? items).map fun atoms => .set items.length :: atoms
  | .typeNamed path _ => some [.type path]
  | .operation serial _ _ => if serial = 0 then Option.none else some [.operation serial]
  | .thing type shown => some [.thing type shown]
  | .list _ | .dict _ | .view _ | .aspect _ _ _ => Option.none

/-- The atoms of several keys, one after the other. -/
def allAtoms? : List Value → Option (List Atom)
  | [] => some []
  | v :: rest => do return (← atoms? v) ++ (← allAtoms? rest)

end

mutual

/-- The type, if any, for which a value cannot be a key. -/
def unhashable? : Value → Option String
  | .list _ => some "list"
  | .dict _ => some "dict"
  | .view _ => some "mappingproxy"
  | .object o =>
    match o.kind with
    | .settings => some "Settings"
    | .context => some "ShimContext"
    | _ => Option.none
  | .tuple _ items => unhashableAmong? items
  | .record _ _ fields => unhashableAmong? fields
  | .aspect _ .keys _ => some "dict_keys"
  | .aspect _ .items _ => some "dict_items"
  | .thing "set" _ => some "set"
  | _ => Option.none

/-- The first type among values for which they cannot be a key. -/
def unhashableAmong? : List Value → Option String
  | [] => Option.none
  | v :: rest => v.unhashable?.or (unhashableAmong? rest)

end

/-- Keys are the same when they are made of the same atoms. -/
instance : BEq Value where
  beq a b :=
    match a.atoms?, b.atoms? with
    | some p, some q => p == q
    | _, _ => false

/-- Two values are the same key exactly when both have the same atoms. -/
theorem beq_iff {a b : Value} :
    (a == b) = true ↔ ∃ atoms, a.atoms? = some atoms ∧ b.atoms? = some atoms := by
  show (match a.atoms?, b.atoms? with
    | some p, some q => p == q
    | _, _ => false) = true ↔ _
  cases a.atoms? with
  | none => simp
  | some p =>
    cases b.atoms? with
    | none => simp
    | some q =>
      refine ⟨fun h => ⟨p, rfl, ?_⟩, ?_⟩
      · rw [eq_of_beq h]
      · rintro ⟨atoms, hp, hq⟩
        rw [Option.some.inj hp, Option.some.inj hq]
        exact beq_self_eq_true atoms

instance : PartialEquivBEq Value where
  symm h := by
    obtain ⟨atoms, ha, hb⟩ := beq_iff.1 h
    exact beq_iff.2 ⟨atoms, hb, ha⟩
  trans h k := by
    obtain ⟨p, ha, hb⟩ := beq_iff.1 h
    obtain ⟨q, hb', hc⟩ := beq_iff.1 k
    rw [hb, Option.some.injEq] at hb'
    exact beq_iff.2 ⟨p, ha, hb' ▸ hc⟩

/-- A text is one atom. -/
theorem atoms?_of_text? {v : Value} {s : String} (h : v.text? = some s) :
    v.atoms? = some [.text s] := by
  cases v with
  | text i t =>
    obtain rfl := Option.some.inj h
    rfl
  | field f =>
    obtain rfl := Option.some.inj h
    rfl
  | _ => cases h

/-- Nothing but a text has the atom of one. -/
theorem text?_of_atoms? {v : Value} {s : String} (h : v.atoms? = some [.text s]) :
    v.text? = some s := by
  cases v with
  | text i t =>
    rw [atoms?] at h
    cases h
    rfl
  | field f =>
    rw [atoms?] at h
    cases h
    rfl
  | float serial x =>
    rw [atoms?, Option.map_eq_some_iff] at h
    obtain ⟨a, ha, heq⟩ := h
    cases heq
    exact absurd ha (Atom.ofFloat?_ne_text serial x s)
  | function serial f => cases f <;> simp [atoms?] at h
  | operation serial owner name =>
    rw [atoms?] at h
    split at h <;> cases h
  | tuple | record | set => simp [atoms?] at h
  | _ => rw [atoms?] at h; cases h

/-- Two texts are the same key when they are one text. -/
theorem beq_of_text? {a b : Value} {s : String} (ha : a.text? = some s) (hb : b.text? = some s) :
    (a == b) = true :=
  beq_iff.2 ⟨_, atoms?_of_text? ha, atoms?_of_text? hb⟩

/-- What is the same key as a text is that text. -/
theorem text?_of_beq {a b : Value} {s : String} (h : (a == b) = true) (ha : a.text? = some s) :
    b.text? = some s := by
  obtain ⟨atoms, hatoms, hb⟩ := beq_iff.1 h
  obtain rfl := Option.some.inj ((atoms?_of_text? ha).symm.trans hatoms)
  exact text?_of_atoms? hb

/-- A text can be a key. -/
theorem unhashable?_of_text? {v : Value} {s : String} (h : v.text? = some s) :
    v.unhashable? = Option.none := by
  cases v with
  | text => rfl
  | field => rfl
  | _ => cases h

/-- Texts are the same key exactly when they are the same text. -/
@[simp] theorem text_beq_text (i j : Nat) (s t : String) :
    (Value.text i s == Value.text j t) = (s == t) := by
  rw [Bool.eq_iff_iff, beq_iff, beq_iff_eq]
  constructor
  · rintro ⟨atoms, hs, ht⟩
    have h : [Atom.text s] = [Atom.text t] := (Option.some.inj hs).trans (Option.some.inj ht).symm
    simpa using h
  · rintro rfl
    exact ⟨[.text s], rfl, rfl⟩

end Value

end Understudy

import Understudy.Proofs.RegistryQueries

/-!
# Guises

Two runs of the same requests may give out different serial numbers, since one of them may make a
value more than the other. The guise of a state is what is left of it without serial numbers and
without its log, where moreover a sample identity looks like the identity of the machine, with a
flag in the place of its count, and a provider that counts looks like one that does not.

A guise is a state again, and whatever is written to a state is written to its guise.

## Main definitions

* `Value.unstamped`: a value without its serial numbers.
* `Value.Simple`: a value that holds nothing else.
* `Component.guise`, `Provider.guise`, `World.guise`: the guises.
* `Guised`: the kinds of things whose rows have a guise.

## Main statements

* `World.guise_row`, `World.guise_withRow`: the rows of a guise are the guises of the rows.
* `OrderedMap.get?_unstamped`: what a dictionary holds under a text.
-/

namespace Understudy

/-! ## Values without serial numbers -/

namespace Value

mutual

/-- A value without its serial numbers. -/
def unstamped : Value → Value
  | .int _ n => .int 0 n
  | .float _ x => .float 0 x
  | .text _ s => .text 0 s
  | .tuple _ items => .tuple 0 (allUnstamped items)
  | .aspect _ what source => .aspect 0 what source.unstamped
  | .set _ items => .set 0 (allUnstamped items)
  | .moment _ m => .moment 0 m
  | .function _ f => .function 0 f
  | .operation _ owner name => .operation 0 owner.unstamped name
  | .expiry bank _ callback => .expiry bank 0 callback.unstamped
  | .record kind _ fields => .record kind 0 (allUnstamped fields)
  | v => v

/-- Values without their serial numbers. -/
def allUnstamped : List Value → List Value
  | [] => []
  | v :: rest => v.unstamped :: allUnstamped rest

end

@[simp] theorem unstamped_ofRef {kind : Kind} (r : Ref kind) :
    (ofRef r).unstamped = ofRef r := by
  rw [ofRef, unstamped]
  all_goals simp

@[simp] theorem text?_unstamped (v : Value) : v.unstamped.text? = v.text? := by
  cases v <;> simp [unstamped, text?]

@[simp] theorem isNone_unstamped (v : Value) : v.unstamped.isNone = v.isNone := by
  cases v <;> simp [unstamped, isNone]

@[simp] theorem ref?_unstamped (kind : Kind) (v : Value) :
    v.unstamped.ref? kind = v.ref? kind := by
  cases v <;> simp [unstamped, ref?]

/-- What is made just now differs in its serial number only. -/
@[simp] theorem unstamped_renewed (serial : Nat) (v : Value) :
    (v.renewed serial).unstamped = v.unstamped := by
  cases v <;> simp only [renewed] <;> split <;> rfl

/-- A value that holds nothing else, and so is told of in the same way wherever it is. -/
def Simple : Value → Prop
  | .none | .bool _ | .int _ _ | .float _ _ | .text _ _ | .capability _ | .field _ | .moment _ _ =>
    True
  | _ => False

/-- Whether a flag is set, or a count is above zero. -/
def positive : Value → Bool
  | .bool b => b
  | .int _ n => 0 < n
  | _ => false

end Value

/-! ## Tables and dictionaries -/

namespace Table

variable {α : Type} [Inhabited α] {f : α → α}

/-- A table with every row changed in the same way. -/
def map (f : α → α) (t : Table α) : Table α := ⟨t.rows.map f⟩

omit [Inhabited α] in
@[simp] theorem size_map (t : Table α) : (t.map f).size = t.size := by
  simp [size, map]

theorem get_map (hf : f default = default) (t : Table α) (i : Nat) :
    (t.map f).get i = f (t.get i) := by
  simp only [get, map, List.getD_eq_getElem?_getD, List.getElem?_map]
  cases t.rows[i]? with
  | none => exact hf.symm
  | some a => rfl

theorem map_set (hf : f default = default) (t : Table α) (i : Nat) (a : α) :
    (t.set i a).map f = (t.map f).set i (f a) := by
  obtain ⟨rows⟩ := t
  simp only [set, map, mk.injEq]
  induction rows generalizing i with
  | nil =>
    induction i with
    | zero => rfl
    | succ i ih => simpa [write, hf] using ih
  | cons b rest ih =>
    cases i with
    | zero => rfl
    | succ i => simp only [write, List.map_cons, ih]

/-- To write a row as it is changes nothing. -/
theorem set_get {t : Table α} {i : Nat} (h : i < t.size) : t.set i (t.get i) = t := by
  obtain ⟨rows⟩ := t
  simp only [set, get, mk.injEq]
  induction rows generalizing i with
  | nil => cases h
  | cons a rest ih =>
    cases i with
    | zero => rfl
    | succ i => exact congrArg (a :: ·) (ih (Nat.lt_of_succ_lt_succ h))

omit [Inhabited α] in
theorem map_push (t : Table α) (a : α) : (t.push a).map f = (t.map f).push (f a) := by
  simp [push, map]

end Table

namespace OrderedMap

/-- A dictionary without serial numbers. -/
def unstamped (d : OrderedMap Value Value) : OrderedMap Value Value :=
  ⟨d.toList.map fun (key, v) => (key.unstamped, v.unstamped)⟩

/-- A key counts as a text wherever it comes from. -/
theorem unstamped_beq {key : Value} {s : String} (h : key.text? = some s) (k : Value) :
    (k.unstamped == key.unstamped) = (k == key) := by
  have hkey : key.unstamped.text? = some s := (Value.text?_unstamped key).trans h
  rw [Bool.eq_iff_iff, BEq.comm (a := k.unstamped), BEq.comm (a := k),
    Value.beq_iff_of_text? hkey, Value.beq_iff_of_text? h, Value.text?_unstamped]

variable (d : OrderedMap Value Value) {key : Value} {s : String} (h : key.text? = some s)
include h

/-- What is found under a text has the guise of what was found. -/
theorem get?_unstamped :
    d.unstamped.get? key.unstamped = (d.get? key).map Value.unstamped := by
  obtain ⟨pairs⟩ := d
  simp only [get?, unstamped]
  induction pairs with
  | nil => rfl
  | cons pair rest ih =>
    obtain ⟨k, v⟩ := pair
    simp only [List.map_cons, find?, unstamped_beq h, ih]
    split <;> rfl

theorem unstamped_put (v : Value) :
    (d.put key v).unstamped = d.unstamped.put key.unstamped v.unstamped := by
  obtain ⟨pairs⟩ := d
  simp only [put, unstamped, mk.injEq]
  induction pairs with
  | nil => rfl
  | cons pair rest ih =>
    obtain ⟨k, x⟩ := pair
    simp only [List.map_cons, write, unstamped_beq h]
    split
    · rfl
    · rw [List.map_cons, ih]

theorem unstamped_erase : (d.erase key).unstamped = d.unstamped.erase key.unstamped := by
  obtain ⟨pairs⟩ := d
  simp only [erase, unstamped, mk.injEq, List.filter_map]
  congr 1
  refine List.filter_congr fun pair _ => ?_
  simp only [Function.comp_apply, unstamped_beq h]

end OrderedMap

/-! ## Rows -/

/-- The guise of a registry. -/
def Registry.guise (reg : Registry) : Registry := ⟨reg.entries.unstamped, reg.captures.unstamped⟩

/-- What can be told of facts by asking for fields. -/
def Facts.guise (facts : Facts) : Facts := ⟨fun f => (facts.answer f).unstamped, .empty⟩

/-- The guise of an overlay. -/
def Overlay.guise (layer : Overlay) : Overlay where
  overrides := ⟨layer.overrides.toList.map fun (f, v) => (f, v.unstamped)⟩
  fallback := layer.fallback.unstamped
  annotations := layer.annotations.unstamped

/-- The guise of a component. A sample identity looks like the identity of the machine, and its
caches are invalid once they were invalidated. -/
def Component.guise : Component → Component
  | .host facts invalidated => .host facts.guise (.bool invalidated.positive)
  | .sample facts invalidations => .host facts.guise (.bool invalidations.positive)
  | .overlay layer => .overlay layer.guise
  | .plain _ capabilities => .plain 0 (capabilities.map Value.unstamped)
  | .reporter _ capabilities notes fails =>
    .reporter 0 (capabilities.map Value.unstamped) notes.unstamped fails.unstamped

/-- The guise of a provider. One that counts looks like one that does not. -/
def Provider.guise : Provider → Provider
  | .host identity | .counted identity _ => .host identity.unstamped
  | .overlay identity => .overlay identity.unstamped
  | .flaky component calls failures =>
    .flaky component.unstamped calls.unstamped failures.unstamped

/-- The guise of an installer. -/
def Installer.guise (i : Installer) : Installer where
  registry := i.registry.unstamped
  contractId := i.contractId.unstamped
  classId := i.classId.unstamped
  current := i.current.unstamped

/-- The guise of a policy. -/
def Policy.guise (p : Policy) : Policy := ⟨0, p.arm.unstamped, p.cancel.unstamped⟩

/-- The guise of what happens when a timer fires. -/
def Alarm.guise : Alarm → Alarm
  | .banked bank callback => .banked bank callback.unstamped
  | .direct callback => .direct callback.unstamped

/-- The guise of a timer. -/
def Timer.guise (t : Timer) : Timer := { t with alarm := t.alarm.guise }

/-- The guise of a timeline. -/
def Timeline.guise (t : Timeline) : Timeline := { t with timers := t.timers.map Timer.guise }

/-- The guise of a bank. -/
def Bank.guise (b : Bank) : Bank where
  timeline := b.timeline.unstamped
  active := b.active.map Value.unstamped
  learned := b.learned

/-- The guise of a session. -/
def Session.guise (s : Session) : Session where
  registry := s.registry.unstamped
  timers := s.timers.unstamped
  interval := s.interval.unstamped
  clock := s.clock.unstamped
  sessionId := s.sessionId.unstamped
  collections := s.collections.map Value.unstamped
  running := s.running.unstamped
  policy := s.policy.unstamped
  handle := s.handle.unstamped

/-- The guise of a recorder. -/
def Recorder.guise (r : Recorder) : Recorder where
  arms := r.arms.map Value.unstamped
  cancels := r.cancels.map Value.unstamped
  lastHandle := r.lastHandle.unstamped

/-! ## States -/

/-- The guise of a state: what is left of it without serial numbers, without its log, and without
the difference between sample identities and the identity of the machine. -/
def World.guise (w : World) : World :=
  { w with
    registries := w.registries.map Registry.guise
    components := w.components.map Component.guise
    providers := w.providers.map Provider.guise
    installers := w.installers.map Installer.guise
    policies := w.policies.map Policy.guise
    timelines := w.timelines.map Timeline.guise
    banks := w.banks.map Bank.guise
    sessions := w.sessions.map Session.guise
    recorders := w.recorders.map Recorder.guise
    lists := w.lists.map (List.map Value.unstamped)
    dicts := w.dicts.map OrderedMap.unstamped
    log := {}
    clockSerial := 0
    nextSerial := 0 }

/-- The kinds of things whose rows have a guise. -/
class Guised (kind : Kind) (α : outParam Type) [Inhabited α] [Stored kind α] where
  guise : α → α
  guise_default : guise default = default
  table_guise (w : World) : Stored.table kind w.guise = (Stored.table kind w).map guise
  guise_withTable (w : World) (t : Table α) :
    (Stored.withTable kind w t).guise = Stored.withTable kind w.guise (t.map guise)
  withTable_table (w : World) : Stored.withTable kind w (Stored.table kind w) = w

instance : Guised .registry Registry :=
  ⟨Registry.guise, rfl, fun _ => rfl, fun _ _ => rfl, fun _ => rfl⟩

instance : Guised .component Component :=
  ⟨Component.guise, rfl, fun _ => rfl, fun _ _ => rfl, fun _ => rfl⟩

instance : Guised .provider Provider :=
  ⟨Provider.guise, rfl, fun _ => rfl, fun _ _ => rfl, fun _ => rfl⟩

instance : Guised .installer Installer :=
  ⟨Installer.guise, rfl, fun _ => rfl, fun _ _ => rfl, fun _ => rfl⟩

instance : Guised .policy Policy :=
  ⟨Policy.guise, rfl, fun _ => rfl, fun _ _ => rfl, fun _ => rfl⟩

instance : Guised .timeline Timeline :=
  ⟨Timeline.guise, rfl, fun _ => rfl, fun _ _ => rfl, fun _ => rfl⟩

instance : Guised .bank Bank :=
  ⟨Bank.guise, rfl, fun _ => rfl, fun _ _ => rfl, fun _ => rfl⟩

instance : Guised .session Session :=
  ⟨Session.guise, rfl, fun _ => rfl, fun _ _ => rfl, fun _ => rfl⟩

instance : Guised .recorder Recorder :=
  ⟨Recorder.guise, rfl, fun _ => rfl, fun _ _ => rfl, fun _ => rfl⟩


namespace World

variable {kind : Kind} {α : Type} [Inhabited α] [Stored kind α] [Guised kind α] (w : World)

/-- The rows of a guise are the guises of the rows. -/
theorem guise_row (r : Ref kind) : w.guise.row r = Guised.guise kind (w.row r) := by
  rw [row, Guised.table_guise, Table.get_map Guised.guise_default]
  rfl

/-- What is written to a state is written to its guise. -/
theorem guise_withRow (r : Ref kind) (a : α) :
    (w.withRow r a).guise = w.guise.withRow r (Guised.guise kind a) := by
  rw [withRow, Guised.guise_withTable, Table.map_set Guised.guise_default, withRow,
    Guised.table_guise]

/-- What looks like the row that was there before is not seen. -/
theorem guise_withRow_of_eq {r : Ref kind} {a : α} (hr : r.index < (Stored.table kind w).size)
    (ha : Guised.guise kind a = Guised.guise kind (w.row r)) : (w.withRow r a).guise = w.guise := by
  have hset : (Stored.table kind w.guise).set r.index (w.guise.row r) =
      Stored.table kind w.guise := by
    refine Table.set_get ?_
    rwa [Guised.table_guise, Table.size_map]
  rw [guise_withRow, ha, ← guise_row, withRow, hset, Guised.withTable_table]

/-- What is added to a state is added to its guise. -/
theorem guise_push (a : α) :
    (Stored.withTable kind w ((Stored.table kind w).push a)).guise =
      Stored.withTable kind w.guise ((Stored.table kind w.guise).push (Guised.guise kind a)) := by
  rw [Guised.guise_withTable, Table.map_push, Guised.table_guise]

omit [Guised kind α] [Stored kind α] [Inhabited α] in
theorem guise_pushList (items : List Value) :
    guise { w with lists := w.lists.push items } =
      { w.guise with lists := w.guise.lists.push (items.map Value.unstamped) } := by
  have hpush : (w.lists.push items).map (List.map Value.unstamped) =
      (w.lists.map (List.map Value.unstamped)).push (items.map Value.unstamped) :=
    Table.map_push w.lists items
  show { w.guise with lists := (w.lists.push items).map (List.map Value.unstamped) } = _
  rw [hpush]
  rfl

omit [Guised kind α] [Stored kind α] [Inhabited α] in
theorem guise_pushDict (pairs : Dict) :
    guise { w with dicts := w.dicts.push pairs } =
      { w.guise with dicts := w.guise.dicts.push pairs.unstamped } := by
  have hpush : (w.dicts.push pairs).map OrderedMap.unstamped =
      (w.dicts.map OrderedMap.unstamped).push pairs.unstamped :=
    Table.map_push w.dicts pairs
  show { w.guise with dicts := (w.dicts.push pairs).map OrderedMap.unstamped } = _
  rw [hpush]
  rfl

end World

end Understudy

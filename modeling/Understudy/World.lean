import Understudy.Component
import Understudy.Fault
import Understudy.Logging
import Understudy.Registry
import Understudy.Settings.Source
import Understudy.Table
import Understudy.Timeline

/-!
# The state of a test environment

Everything that has an identity of its own is a row of a table, and the state of a
test environment is all the tables together, with the log, the clock and what the
program found around it. An operation is an action on that state. It may fail, and
what it changed before it failed stays changed.

## Main definitions

* `Policy`, `Injector`, `Recorder`, `Probe`, `Holder`, `Bank`, `Installer`, `Session`,
  `Context`: the rows of the tables.
* `World`: the state.
* `Action`: an operation that may fail.
* `Stored`: where the things of a kind are kept, with `fetch`, `store` and `update`.

## Main statements

* `World.row_withRow`: a write of one row is a write of that row only.
-/

namespace Understudy

/-! ## Rows -/

/-- A pair of hooks: one arms a timer, the other cancels it. They are kept and
replaced together, as one pair with a serial number of its own. -/
structure Policy where
  serial : Nat := 0
  arm : Value := .function 0 .idleArm
  cancel : Value := .function 0 .idleCancel
  deriving Inhabited

/-- A pair of hooks as a value. -/
def Policy.toValue (p : Policy) : Value := .tuple p.serial [p.arm, p.cancel]

/-- Replaces the hooks of an owner's policy. -/
structure Injector where
  owner : Value := .none
  deriving Inhabited

/-- Hooks that keep a record of their calls instead of starting timers. -/
structure Recorder where
  arms : List Value := []
  cancels : List Value := []
  lastHandle : Value := .ofInt 0
  deriving Inhabited

/-- A hook that notes its calls, fails if it is told to, and may call its second
argument at once for as long as its budget lasts. -/
structure Probe where
  name : Value := .ofText ""
  budget : Value := .ofInt 0
  fails : Value := .bool false
  handle : Value := .none
  calls : List Value := []
  deriving Inhabited

/-- An owner that holds whatever policy it is given. -/
structure Holder where
  policy : Value := .none
  deriving Inhabited

/-- Arms timers on a line and keeps track of those that wait. On a line of another kind
it learns the handle of a timer only once the timer is armed. -/
structure Bank where
  timeline : Value := .none
  active : List Value := []
  learned : OrderedMap Nat Value := .empty
  deriving Inhabited

/-- Puts stand-in identities in a registry, under one contract. -/
structure Installer where
  registry : Value := .none
  contractId : Value := .none
  classId : Value := .none
  current : Value := .none
  deriving Inhabited

/-- One run of the daily task: which one it was, the delay until the next, and what
the application said it was. -/
structure Collection where
  serial : Nat
  sequence : Nat
  delay : Value
  appId : Value
  appVersion : Value
  os : Value

/-- A collection as a value. -/
def Collection.toValue (c : Collection) : Value :=
  .record .collection c.serial [.ofInt c.sequence, c.delay, c.appId, c.appVersion, c.os]

/-- A subsystem with a daily task. -/
structure Session where
  registry : Value := .none
  timers : Value := .none
  interval : Value := .none
  clock : Value := .function 0 .clock
  sessionId : Value := .none
  collections : List Value := []
  running : Value := .bool false
  policy : Value := .none
  handle : Value := .none
  deriving Inhabited

/-- The host platform, as far as a registry shows it. -/
structure Platform where
  serial : Nat
  windows : Bool
  mac : Bool
  android : Bool
  gonk : Bool
  deriving Repr, DecidableEq, Inhabited

/-- A platform as a value. -/
def Platform.toValue (p : Platform) : Value :=
  .record .platform p.serial [.bool p.windows, .bool p.mac, .bool p.android, .bool p.gonk]

/-- All that a test needs to control its environment. -/
structure Context where
  settings : Value := .none
  registry : Value := .none
  hostAppInfo : Value := .none
  identities : Value := .none
  session : Value := .none
  hooks : Value := .none
  platform : Value := .none
  deriving Inhabited

/-! ## The state -/

/-- What values can be assigned to under any name. -/
inductive Bearer where
  | thing (o : Object)
  | timer (timeline : Ref .timeline) (seq : Nat)
  | function (serial : Nat) (f : Function)
  | capability (c : Capability)
  | field (f : Field)
  deriving Repr, DecidableEq

/-- The state of a test environment. -/
structure World where
  registries : Table Registry := .empty
  components : Table Component := .empty
  providers : Table Provider := .empty
  installers : Table Installer := .empty
  policies : Table Policy := .empty
  injectors : Table Injector := .empty
  timelines : Table Timeline := .empty
  banks : Table Bank := .empty
  sessions : Table Session := .empty
  recorders : Table Recorder := .empty
  probes : Table Probe := .empty
  holders : Table Holder := .empty
  settings : Table Configuration := .empty
  contexts : Table Context := .empty
  /-- The lists and dictionaries that belong to no thing. -/
  lists : Table (List Value) := .empty
  dicts : Table Dict := .empty
  /-- What was assigned to things under names that their kind does not provide for. -/
  assigned : OrderedMap (Bearer × String) Value := .empty
  log : Logging := {}
  clock : Moment := default
  /-- The serial number of the time that the clock shows. -/
  clockSerial : Nat := 1
  surroundings : Surroundings := {}
  /-- How many session ids were given out. -/
  issued : Nat := 0
  /-- The serial number of the next value that has one. The first two are taken. -/
  nextSerial : Nat := 2
  /-- The callbacks that ran, by their names. -/
  fired : List String := []
  deriving Inhabited

/-- An operation on the state that may fail. Changes made before a failure stay. -/
abbrev Action := ExceptT Fault (StateM World)

/-- Calls a value with arguments. -/
abbrev Caller := Value → List Value → Action Value

/-- Where the things of a kind are kept. What is put there is found there. -/
class Stored (kind : Kind) (α : outParam Type) where
  table : World → Table α
  withTable : World → Table α → World
  table_withTable : ∀ (w : World) (t : Table α), table (withTable w t) = t := by intros; rfl

instance : Stored .registry Registry where
  table := World.registries
  withTable w t := { w with registries := t }

instance : Stored .component Component where
  table := World.components
  withTable w t := { w with components := t }

instance : Stored .provider Provider where
  table := World.providers
  withTable w t := { w with providers := t }

instance : Stored .installer Installer where
  table := World.installers
  withTable w t := { w with installers := t }

instance : Stored .policy Policy where
  table := World.policies
  withTable w t := { w with policies := t }

instance : Stored .injector Injector where
  table := World.injectors
  withTable w t := { w with injectors := t }

instance : Stored .timeline Timeline where
  table := World.timelines
  withTable w t := { w with timelines := t }

instance : Stored .bank Bank where
  table := World.banks
  withTable w t := { w with banks := t }

instance : Stored .session Session where
  table := World.sessions
  withTable w t := { w with sessions := t }

instance : Stored .recorder Recorder where
  table := World.recorders
  withTable w t := { w with recorders := t }

instance : Stored .probe Probe where
  table := World.probes
  withTable w t := { w with probes := t }

instance : Stored .holder Holder where
  table := World.holders
  withTable w t := { w with holders := t }

instance : Stored .settings Configuration where
  table := World.settings
  withTable w t := { w with settings := t }

instance : Stored .context Context where
  table := World.contexts
  withTable w t := { w with contexts := t }

namespace World

/-- What was assigned to a thing under a name that its kind does not provide for, or in
place of what it provides. -/
def assigned? (w : World) (o : Object) (name : String) : Option Value :=
  w.assigned.get? (.thing o, name)

/-- The state after an assignment that is kept apart from the thing itself. -/
def withAssigned (w : World) (bearer : Bearer) (name : String) (v : Value) : World :=
  { w with assigned := w.assigned.put (bearer, name) v }

/-- The state after an assignment was taken back. -/
def withoutAssigned (w : World) (o : Object) (name : String) : World :=
  { w with assigned := w.assigned.erase (.thing o, name) }

variable {kind : Kind} {α : Type} [Inhabited α] [Stored kind α]

/-- The row that a reference stands for. -/
def row (w : World) (r : Ref kind) : α := (Stored.table kind w).get r.index

/-- The state with a row written. -/
def withRow (w : World) (r : Ref kind) (a : α) : World :=
  Stored.withTable kind w ((Stored.table kind w).set r.index a)

/-- A row that was written is read under its own reference, and every other row of its
kind is as before. -/
theorem row_withRow (w : World) (r other : Ref kind) (a : α) :
    (w.withRow r a).row other = if other = r then a else w.row other := by
  obtain ⟨i⟩ := r
  obtain ⟨j⟩ := other
  simp only [row, withRow, Stored.table_withTable, Table.get_set, Ref.mk.injEq]

@[simp] theorem row_withRow_self (w : World) (r : Ref kind) (a : α) :
    (w.withRow r a).row r = a := by
  simp [row_withRow]

/-- A component that is more than an empty row is there. -/
theorem lt_size_of_row {w : World} {c : Ref .component} (h : (w.row c : Component) ≠ .plain 0 []) :
    c.index < w.components.size := by
  rcases Nat.lt_or_ge c.index w.components.size with hlt | hge
  · exact hlt
  · exact absurd (Table.get_of_size_le _ hge) h

end World

section

variable {kind : Kind} {α : Type} [Inhabited α] [Stored kind α]

/-- Reads a row. -/
def fetch (r : Ref kind) : Action α := return (← get).row r

/-- Writes a row. -/
def put (r : Ref kind) (a : α) : Action Unit := modify fun w => w.withRow r a

/-- Changes a row. -/
def update (r : Ref kind) (f : α → α) : Action Unit := modify fun w => w.withRow r (f (w.row r))

/-- Adds a row and returns the reference to it. -/
def store (kind : Kind) {α : Type} [Stored kind α] (a : α) : Action (Ref kind) := do
  let w ← get
  let table := Stored.table kind w
  set (Stored.withTable kind w (table.push a))
  return ⟨table.size⟩

/-! What the four do to the state. -/

@[simp] theorem run_fetch (r : Ref kind) (w : World) :
    (fetch r : Action α).run.run w = (.ok (w.row r), w) := rfl

@[simp] theorem run_put (r : Ref kind) (a : α) (w : World) :
    (put r a).run.run w = (.ok (), w.withRow r a) := rfl

@[simp] theorem run_update (r : Ref kind) (f : α → α) (w : World) :
    (update r f).run.run w = (.ok (), w.withRow r (f (w.row r))) := rfl

/-- What is done with the state is done with the state there is. -/
theorem run_get_bind {β : Type} (f : World → Action β) (w : World) :
    (get >>= f : Action β).run.run w = (f w).run.run w := rfl

end

/-! ## Small actions -/

/-- Fails unless there is a result. -/
def orFail {α : Type} : Except Fault α → Action α
  | .ok a => return a
  | .error fault => throw fault

/-- Runs an action and gives back how it ended, so that something can be done in
either case. -/
def attempt {α : Type} (action : Action α) : Action (Except Fault α) := fun w =>
  let (result, w') := action.run w
  (.ok result, w')

/-- A fresh serial number. -/
def freshSerial : Action Nat :=
  modifyGet fun w => (w.nextSerial, { w with nextSerial := w.nextSerial + 1 })

/-- Holds on to a value. -/
def hold (v : Value) : Action Value := return v.stamped (← freshSerial)

/-- A text or a number that is made just now. -/
def renew (v : Value) : Action Value := return v.renewed (← freshSerial)

/-- A new list. -/
def newList (items : List Value) : Action Value :=
  modifyGet fun w => (.list (.loose w.lists.size), { w with lists := w.lists.push items })

/-- A new dictionary. -/
def newDict (pairs : Dict) : Action Value :=
  modifyGet fun w => (.dict (.loose w.dicts.size), { w with dicts := w.dicts.push pairs })

/-- Logs a record. -/
def emit (severity : Int) (logger message : String) (fault : Option String := none) :
    Action Unit :=
  modify fun w =>
    { w with
      log := w.log.emit
        { severity := severity, logger := logger, message := message, fault := fault } }

/-- Logs for those who look for defects. -/
def debug (logger message : String) : Action Unit := emit 10 logger message

/-- Logs what everyone may know. -/
def info (logger message : String) : Action Unit := emit 20 logger message

/-- Logs what is surprising. -/
def warn (logger message : String) : Action Unit := emit 30 logger message

end Understudy

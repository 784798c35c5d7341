import Mathlib.Data.List.Forall2
import Understudy.Proofs.Firing
import Understudy.Proofs.Guises
import Understudy.Proofs.Layers
import Understudy.Proofs.HostStandIns

/-!
# States that mirror each other

Two states mirror each other if everything in them holds what it was made to hold, and both have the
same guise. What is read from the one is then what is read from the other, but for serial numbers,
and they go on mirroring each other if the same is written to both.

## Main definitions

* `Value.Alike`: values that differ in their serial numbers at most.
* `World.Regular`: a state in which everything holds what it was made to hold.
* `World.Mirrors`: two regular states with the same guise.

## Main statements

* `World.Mirrors.withRow`: what is written to both may differ in its serial numbers.
* `World.Mirrors.push`: so may what is added to both.
-/

namespace Understudy

/-- Where one search finds a value, the other one finds a value with the same image, if their
results have the same images. -/
theorem found_cases {α β : Type} {f : α → β} {x y : Option α} (h : x.map f = y.map f) :
    (x = none ∧ y = none) ∨ ∃ a b, x = some a ∧ y = some b ∧ f a = f b := by
  cases x <;> cases y
  · exact .inl ⟨rfl, rfl⟩
  · cases h
  · cases h
  · exact .inr ⟨_, _, rfl, rfl, Option.some.inj h⟩

/-! ## Values -/

namespace Value

/-- Two values that differ in their serial numbers at most. -/
def Alike (x y : Value) : Prop := x.unstamped = y.unstamped

/-- A value that refers to a thing of a kind, or to nothing. -/
def Names (kind : Kind) (v : Value) : Prop := v = .none ∨ ∃ r : Ref kind, v = .ofRef r

/-- A whole number. -/
def Whole (v : Value) : Prop := ∃ serial n, v = .int serial n

/-- What a session holds of its timer: nothing, a timer, or a number that stands for one. -/
def Grip : Value → Prop
  | .none | .handle _ _ | .int _ _ => True
  | _ => False

namespace Alike

variable {x y : Value}

theorem refl (x : Value) : x.Alike x := rfl

theorem symm (h : x.Alike y) : y.Alike x := Eq.symm h

variable (h : x.Alike y)
include h

theorem text? : y.text? = x.text? := by
  rw [← text?_unstamped y, ← h, text?_unstamped]

theorem isNone : y.isNone = x.isNone := by
  rw [← isNone_unstamped y, ← h, isNone_unstamped]

theorem ref? (kind : Kind) : y.ref? kind = x.ref? kind := by
  rw [← ref?_unstamped kind y, ← h, ref?_unstamped]

/-- What is like nothing is nothing. -/
theorem eq_none (hx : x = .none) : y = .none := by
  have hnone := h.isNone
  subst hx
  cases y with
  | none => rfl
  | _ => cases hnone

/-- What refers to a thing has no serial number. -/
theorem eq_of_names {kind : Kind} (hx : x.Names kind) : y = x := by
  rcases hx with rfl | ⟨r, rfl⟩
  · exact h.eq_none rfl
  · exact eq_ofRef_of_ref? ((h.ref? kind).trans (ref?_ofRef r))

end Alike

/-- Values that are alike one by one are the same without their serial numbers. -/
theorem map_unstamped_of_alike {xs ys : List Value} (h : List.Forall₂ Alike xs ys) :
    xs.map unstamped = ys.map unstamped := by
  induction h with
  | nil => rfl
  | cons hxy _ ih => rw [List.map_cons, List.map_cons, hxy, ih]

/-- The same thing of a kind. -/
def One (kind : Kind) (x y : Value) : Prop := ∃ r : Ref kind, x = .ofRef r ∧ y = .ofRef r

theorem One.alike {kind : Kind} {x y : Value} (h : One kind x y) : x.Alike y := by
  obtain ⟨r, rfl, rfl⟩ := h
  exact .refl _

theorem names_ofRef {kind : Kind} (r : Ref kind) : (ofRef r).Names kind := .inr ⟨r, rfl⟩

end Value

/-! ### Simple values -/

namespace World

theorem quotedWithin_of_simple (w : World) (depth : Nat) {z : Value} (hz : z.Simple) :
    w.quotedWithin (depth + 1) [] z = .ok ((z.quotedLeaf?).getD "") := by
  cases z <;> first | (cases hz; done) | simp [quotedWithin]

/-- The quoted text of a simple value is its own. -/
theorem quoted_of_simple (w : World) {z : Value} (hz : z.Simple) :
    w.quoted z = .ok ((z.quotedLeaf?).getD "") := w.quotedWithin_of_simple 999 hz

/-- A simple value is displayed the same way in every state. -/
theorem display_of_simple (w v : World) {z : Value} (hz : z.Simple) :
    ∃ t, w.display z = .ok t ∧ v.display z.unstamped = .ok t := by
  have hquoted := w.quoted_of_simple hz
  cases z with
  | none | bool | int | float => exact ⟨_, hquoted, v.quoted_of_simple (z := _) hz⟩
  | text | capability | field | moment => exact ⟨_, rfl, rfl⟩
  | _ => cases hz

end World

/-- Simple values that differ in their serial numbers at most. -/
structure Value.Agree (x y : Value) : Prop where
  simple : x.Simple
  alike : x.Alike y

/-- What is made of them just now agrees as well. -/
theorem Value.Agree.renewed {x y : Value} (h : x.Agree y) (i j : Nat) :
    (x.renewed i).Agree (y.renewed j) := by
  refine ⟨?_, ?_⟩
  · have hsimple := h.simple
    cases x <;> simp only [Value.renewed] <;> split <;> exact hsimple
  · rw [Alike, unstamped_renewed, unstamped_renewed, h.alike]

namespace Value.Simple

variable {x y : Value}

theorem unstamped_iff (x : Value) : x.unstamped.Simple ↔ x.Simple := by
  cases x <;> simp [unstamped, Simple]

theorem alike (hx : x.Simple) (h : x.Alike y) : y.Simple :=
  (unstamped_iff y).1 (h ▸ (unstamped_iff x).2 hx)

/-- What depends neither on the state nor on serial numbers is the same for values that are
alike. -/
theorem congr {α : Type} {f : World → Value → α} (hx : x.Simple) (h : x.Alike y)
    (hf : ∀ (w v : World) (z : Value), z.Simple → f w z = f v z.unstamped) (w v : World) :
    f w x = f v y := by
  rw [hf w v x hx, h, ← hf v v y (hx.alike h)]

/-- Simple values that are alike are displayed by the same text. -/
theorem display (hx : x.Simple) (h : x.Alike y) (w v : World) :
    ∃ t, w.display x = .ok t ∧ v.display y = .ok t := by
  obtain ⟨t, hleft, hright⟩ := w.display_of_simple v hx
  obtain ⟨t', hleft', hright'⟩ := v.display_of_simple v (hx.alike h)
  rw [← h, hright] at hright'
  cases hright'
  exact ⟨t, hleft, hleft'⟩

theorem truthy (hx : x.Simple) (h : x.Alike y) (w v : World) : w.truthy x = v.truthy y :=
  hx.congr (f := World.truthy) h (fun _ _ z hz => by cases z <;> first | rfl | cases hz) w v

theorem fixedText (hx : x.Simple) (h : x.Alike y) (w v : World) (places : Nat) :
    fixedText w places x = Understudy.fixedText v places y :=
  hx.congr (f := (Understudy.fixedText · places ·)) h
    (fun _ _ z hz => by cases z <;> first | rfl | cases hz) w v

theorem dueAfter (hx : x.Simple) (h : x.Alike y) (w v : World) (now : Float) :
    dueAfter w now x = Understudy.dueAfter v now y :=
  hx.congr (f := (Understudy.dueAfter · now ·)) h
    (fun _ _ z hz => by cases z <;> first | rfl | cases hz) w v

theorem fullTypeName (hx : x.Simple) (h : x.Alike y) (w v : World) :
    w.fullTypeName x = v.fullTypeName y :=
  hx.congr (f := World.fullTypeName) h (fun _ _ z hz => by cases z <;> first | rfl | cases hz) w v

end Value.Simple

/-! ## Callbacks, hooks and clocks -/

/-- The callbacks of timers: a session's, one that notes its name, or none. -/
inductive Value.Rings : Value → Prop
  | none : Rings .none
  | session (serial : Nat) (s : Ref .session) :
    Rings (.function serial (.method s.object .dailyTimeout))
  | note (serial : Nat) (name : String) : Rings (.function serial (.callback name))

/-- What timers are armed with: nothing, a bank, or a recorder. -/
inductive Value.Arms : Value → Prop
  | idle (serial : Nat) : Arms (.function serial .idleArm)
  | bank (serial : Nat) (b : Ref .bank) : Arms (.function serial (.method b.object .arm))
  | recorder (serial : Nat) (r : Ref .recorder) :
    Arms (.function serial (.method r.object .arm))

/-- What timers are cancelled with. -/
inductive Value.Cancels : Value → Prop
  | idle (serial : Nat) : Cancels (.function serial .idleCancel)
  | bank (serial : Nat) (b : Ref .bank) : Cancels (.function serial (.method b.object .cancel))
  | recorder (serial : Nat) (r : Ref .recorder) :
    Cancels (.function serial (.method r.object .cancel))

/-- What tells the time. -/
inductive Value.Clock : Value → Prop
  | scenario (serial : Nat) : Clock (.function serial .clock)
  | wall (serial : Nat) : Clock (.function serial .wallClock)

/-- A function is known but for its serial number. -/
theorem Value.Alike.function {serial : Nat} {f : Function} {y : Value}
    (h : (Value.function serial f).Alike y) : ∃ other, y = .function other f := by
  cases y with
  | function other g =>
    obtain rfl : f = g := (Value.function.inj h).2
    exact ⟨other, rfl⟩
  | _ => cases h

/-- Whole numbers that are alike are equal. -/
theorem Value.Alike.int {i : Nat} {n : Int} {y : Value} (h : (Value.int i n).Alike y) :
    ∃ j, y = .int j n := by
  cases y with
  | int j m =>
    obtain rfl : n = m := (Value.int.inj h).2
    exact ⟨j, rfl⟩
  | _ => cases h

/-! ## Regular states -/

/-- What the identities of the machine and the samples were built with: simple answers. -/
def Facts.Regular (facts : Facts) : Prop := ∀ f, (facts.answer f).Simple

/-- A component that declares capabilities and answers by simple values. An overlay is put over an
earlier component. -/
def Component.Regular (c : Ref .component) : Component → Prop
  | .host facts invalidated => facts.Regular ∧ ∃ b, invalidated = .bool b
  | .sample facts invalidations => facts.Regular ∧ ∃ serial n, 0 ≤ n ∧ invalidations = .int serial n
  | .overlay layer =>
    (∀ f v, layer.overrides.get? f = some v → v.Simple) ∧
      ∃ under : Ref .component, layer.fallback = .ofRef under ∧ under.index < c.index
  | .plain _ declared => ∀ v ∈ declared, ∃ capability, v = .capability capability
  | .reporter _ declared _ fails =>
    (∀ v ∈ declared, ∃ capability, v = .capability capability) ∧ ∃ b, fails = .bool b

/-- A provider that hands out a component, and counts in whole numbers. -/
def Provider.Regular : Provider → Prop
  | .host component | .overlay component => component.Names .component
  | .counted component calls => component.Names .component ∧ calls.Whole
  | .flaky component calls failures =>
    component.Names .component ∧ calls.Whole ∧ failures.Whole

/-- A registry whose entries and captures are proper, in a state with a number of components. -/
structure Registry.Regular (components : Nat) (reg : Registry) : Prop where
  sound : reg.Sound
  keyed : reg.Keyed
  service (contract : Value) (capture : Capture) (c : Ref .component)
    (h : reg.captureOf? contract = some capture.toValue) (hc : capture.service = .ofRef c) :
    c.index < components

/-- An installer over a registry, or over none. -/
structure Installer.Regular (i : Installer) : Prop where
  registry : i.registry.Names .registry
  classId : i.registry ≠ .none → ∃ s, i.classId.text? = some s
  contractId : i.registry ≠ .none → ∃ s, i.contractId.text? = some s

/-- A policy with hooks that are known. -/
structure Policy.Regular (p : Policy) : Prop where
  arm : p.arm.Arms
  cancel : p.cancel.Cancels

/-- A session of which every part is of its kind. -/
structure Session.Regular (s : Session) : Prop where
  registry : s.registry.Names .registry
  timers : s.timers.Names .bank
  interval : s.interval.Simple
  clock : s.clock.Clock
  sessionId : s.sessionId.Simple
  running : ∃ b, s.running = .bool b
  policy : s.policy.Names .policy
  handle : s.handle.Grip

/-- A timeline whose timers call what is known. -/
def Timeline.Regular (t : Timeline) : Prop := ∀ timer ∈ t.timers, timer.callback.Rings

/-- A bank that arms on a timeline, if at all, and keeps track of its timers. -/
structure Bank.Regular (b : Bank) : Prop where
  timeline : b.timeline.Names .timeline
  active : ∀ v ∈ b.active, ∃ t seq, v = .handle t seq

/-- A recorder that counts in whole numbers, and whose last callback can be called. -/
structure Recorder.Regular (r : Recorder) : Prop where
  lastHandle : r.lastHandle.Whole
  arms : ∀ v ∈ r.arms, ∃ serial delay callback, v = .tuple serial [delay, callback] ∧ callback.Rings

/-- A state in which everything holds what it was made to hold. Nothing but other names was
assigned, and simple answers. -/
structure World.Regular (w : World) : Prop where
  intact : w.Intact
  capability (c : Capability) : w.assigned.get? (.capability c, "name") = none
  own (o : Object) (name : String)
    (h : name ∈ ["arm_calls", "cancel_calls", "subsystem_name", "invalidate_requested",
      "invalidate_call_count"]) : w.assigned? o name = none
  answer (o : Object) (f : Field) (v : Value) (h : w.assigned? o f.word = some v) : v.Simple
  registry (r : Ref .registry) : (w.row r : Registry).Regular w.components.size
  component (c : Ref .component) : (w.row c : Component).Regular c
  provider (p : Ref .provider) : (w.row p : Provider).Regular
  installer (i : Ref .installer) : (w.row i : Installer).Regular
  policy (p : Ref .policy) : (w.row p : Policy).Regular
  timeline (t : Ref .timeline) : (w.row t : Timeline).Regular
  bank (b : Ref .bank) : (w.row b : Bank).Regular
  session (s : Ref .session) : (w.row s : Session).Regular
  recorder (r : Ref .recorder) : (w.row r : Recorder).Regular

theorem Registry.Regular.mono {reg : Registry} {m n : Nat} (h : reg.Regular m) (hle : m ≤ n) :
    reg.Regular n :=
  { h with service := fun contract capture c hf hc =>
      Nat.lt_of_lt_of_le (h.service contract capture c hf hc) hle }

namespace World

section

variable {kind : Kind} {α : Type} [Inhabited α] [Stored kind α] {w : World}
  {P : Ref kind → α → Prop} (h : ∀ r, P r (w.row r))
include h

/-- What holds of every row, and of what is written, holds of every row afterwards. -/
theorem forall_withRow {r : Ref kind} {a : α} (ha : P r a) (other : Ref kind) :
    P other ((w.withRow r a).row other) := by
  rw [row_withRow]
  split
  · rename_i heq
    rw [heq]
    exact ha
  · exact h other

/-- What holds of every row, and of what is added, holds of every row afterwards. -/
theorem forall_push {a : α} (ha : P ⟨(Stored.table kind w).size⟩ a) (other : Ref kind) :
    P other ((Stored.withTable kind w ((Stored.table kind w).push a)).row other) := by
  obtain ⟨i⟩ := other
  rw [row, Stored.table_withTable, Table.get_push]
  split
  · rename_i heq
    rw [show i = _ from heq]
    exact ha
  · exact h ⟨i⟩

end

namespace Regular

variable {w w' : World} (h : w.Regular)
include h

theorem alike (ha : w.Alike w') : w'.Regular := by
  obtain ⟨_, _, rfl⟩ := ha
  exact { h with intact := h.intact.congr rfl }

/-! ### What may be written -/

theorem withRow_registry (r : Ref .registry) {x : Registry} (hx : x.Regular w.components.size) :
    (w.withRow r x).Regular :=
  { h with registry := forall_withRow (P := fun _ => Registry.Regular _) h.registry hx }

theorem withRow_component (c : Ref .component) {x : Component} (hx : x.Regular c) :
    (w.withRow c x).Regular :=
  { h with
    registry := fun r => (h.registry r).mono (Table.size_le_set _ _ _)
    component := forall_withRow h.component hx }

theorem withRow_provider (p : Ref .provider) {x : Provider} (hx : x.Regular) :
    (w.withRow p x).Regular :=
  { h with provider := forall_withRow (P := fun _ => Provider.Regular) h.provider hx }

theorem withRow_installer (i : Ref .installer) {x : Installer} (hx : x.Regular) :
    (w.withRow i x).Regular :=
  { h with installer := forall_withRow (P := fun _ => Installer.Regular) h.installer hx }

theorem withRow_timeline (t : Ref .timeline) {x : Timeline} (hx : x.Regular) :
    (w.withRow t x).Regular :=
  { h with timeline := forall_withRow (P := fun _ => Timeline.Regular) h.timeline hx }

theorem withRow_bank (b : Ref .bank) {x : Bank} (hx : x.Regular) : (w.withRow b x).Regular :=
  { h with bank := forall_withRow (P := fun _ => Bank.Regular) h.bank hx }

theorem withRow_session (s : Ref .session) {x : Session} (hx : x.Regular) :
    (w.withRow s x).Regular :=
  { h with session := forall_withRow (P := fun _ => Session.Regular) h.session hx }

theorem withRow_recorder (r : Ref .recorder) {x : Recorder} (hx : x.Regular) :
    (w.withRow r x).Regular :=
  { h with recorder := forall_withRow (P := fun _ => Recorder.Regular) h.recorder hx }

/-! ### What may be added -/

theorem push_component {x : Component} (hx : x.Regular ⟨w.components.size⟩) :
    World.Regular { w with components := w.components.push x } :=
  { h with
    registry := fun r => (h.registry r).mono (by rw [Table.size_push]; exact Nat.le_succ _)
    component := forall_push h.component hx }

theorem push_provider {x : Provider} (hx : x.Regular) :
    World.Regular { w with providers := w.providers.push x } :=
  { h with provider := forall_push (P := fun _ => Provider.Regular) h.provider hx }

theorem push_policy {x : Policy} (hx : x.Regular) :
    World.Regular { w with policies := w.policies.push x } :=
  { h with policy := forall_push (P := fun _ => Policy.Regular) h.policy hx }

theorem push_registry {x : Registry} (hx : x.Regular w.components.size) :
    World.Regular { w with registries := w.registries.push x } :=
  { h with registry := forall_push (P := fun _ => Registry.Regular _) h.registry hx }

theorem push_installer {x : Installer} (hx : x.Regular) :
    World.Regular { w with installers := w.installers.push x } :=
  { h with installer := forall_push (P := fun _ => Installer.Regular) h.installer hx }

theorem push_timeline {x : Timeline} (hx : x.Regular) :
    World.Regular { w with timelines := w.timelines.push x } :=
  { h with timeline := forall_push (P := fun _ => Timeline.Regular) h.timeline hx }

theorem push_bank {x : Bank} (hx : x.Regular) :
    World.Regular { w with banks := w.banks.push x } :=
  { h with bank := forall_push (P := fun _ => Bank.Regular) h.bank hx }

theorem push_session {x : Session} (hx : x.Regular) :
    World.Regular { w with sessions := w.sessions.push x } :=
  { h with session := forall_push (P := fun _ => Session.Regular) h.session hx }

end Regular

end World

/-! ## Mirroring -/

/-- Two regular states with the same guise. -/
structure World.Mirrors (w v : World) : Prop where
  left : w.Regular
  right : v.Regular
  same : w.guise = v.guise

namespace World.Mirrors

variable {w v w' v' : World} (h : w.Mirrors v)
include h

theorem alike (hw : w.Alike w') (hv : v.Alike v') : w'.Mirrors v' := by
  refine ⟨h.left.alike hw, h.right.alike hv, ?_⟩
  obtain ⟨_, _, rfl⟩ := hw
  obtain ⟨_, _, rfl⟩ := hv
  exact h.same

/-! ### What is read -/

theorem row {kind : Kind} {α : Type} [Inhabited α] [Stored kind α] [Guised kind α]
    (r : Ref kind) : Guised.guise kind (w.row r) = Guised.guise kind (v.row r) := by
  rw [← guise_row, h.same, guise_row]

theorem assigned : w.assigned = v.assigned := by
  show w.guise.assigned = v.guise.assigned
  rw [h.same]

theorem assigned? (o : Object) (name : String) : w.assigned? o name = v.assigned? o name := by
  rw [World.assigned?, h.assigned, World.assigned?]

theorem size (kind : Kind) {α : Type} [Inhabited α] [Stored kind α] [Guised kind α] :
    (Stored.table kind w).size = (Stored.table kind v).size := by
  have hsame : (Stored.table kind w.guise).size = (Stored.table kind v.guise).size := by
    rw [h.same]
  rwa [Guised.table_guise, Guised.table_guise, Table.size_map, Table.size_map] at hsame

/-! ### What is written -/

variable {kind : Kind} {α : Type} [Inhabited α] [Stored kind α] [Guised kind α]

/-- What is written to both may differ in its serial numbers. -/
theorem withRow (r : Ref kind) {x y : α} (hx : (w.withRow r x).Regular)
    (hy : (v.withRow r y).Regular) (hxy : Guised.guise kind x = Guised.guise kind y) :
    (w.withRow r x).Mirrors (v.withRow r y) := by
  refine ⟨hx, hy, ?_⟩
  rw [guise_withRow, guise_withRow, h.same, hxy]

variable (kind) in
/-- What is added to both may differ in its serial numbers. -/
theorem push {x y : α}
    (hx : (Stored.withTable kind w ((Stored.table kind w).push x)).Regular)
    (hy : (Stored.withTable kind v ((Stored.table kind v).push y)).Regular)
    (hxy : Guised.guise kind x = Guised.guise kind y) :
    (Stored.withTable kind w ((Stored.table kind w).push x)).Mirrors
      (Stored.withTable kind v ((Stored.table kind v).push y)) := by
  refine ⟨hx, hy, ?_⟩
  rw [guise_push, guise_push, h.same, hxy]

end World.Mirrors

end Understudy

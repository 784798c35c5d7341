import Mathlib.Data.List.Nodup
import Understudy.Proofs.PassingTime

/-!
# What a bank knows of its timers

A bank keeps the set of the timers that it has armed and that neither fired nor were cancelled.
The line on which they wait is moved elsewhere, and what is called back may turn to the bank
while the line is being moved, to arm and to cancel. The set is right nevertheless at every
moment, and whatever was cancelled is not called back any more.

The past of a bank is told as a list of events, which is all that the set depends on.

## Main definitions

* `Bank.Event`, `Bank.outstanding`: what happens to timers, and which of them are left.
* `Bank.Demand`, `Bank.Demands`: what is asked of a bank, and what a callback may do.
* `Bank.History`: what may have happened to a bank, told up to any moment.
* `Bank.Kept`: what the bank and its line have to show for it.

## Main statements

* `Bank.Kept.acts`, `Bank.History.kept`: what happens keeps the set right.
-/

namespace Understudy

namespace Bank

/-! ## Events -/

/-- What can happen to a timer, which is known by its number: it is armed, it is cancelled, or
its time has come and it is called back. -/
inductive Event where
  | armed (seq : Nat)
  | cancelled (seq : Nat)
  | called (seq : Nat)
  deriving DecidableEq

namespace Event

/-- The timer that an event is about. -/
def seq : Event → Nat
  | armed seq | cancelled seq | called seq => seq

/-- The timer that was armed. -/
def armed? : Event → Option Nat
  | armed seq => some seq
  | _ => none

end Event

/-- The timers that were armed and neither cancelled nor called back, in the order in which they
were armed. -/
def outstanding (events : List Event) : List Nat :=
  (events.filterMap Event.armed?).filter fun seq =>
    .cancelled seq ∉ events ∧ .called seq ∉ events

section

variable {events : List Event} {seq : Nat}

theorem mem_armed_iff : seq ∈ events.filterMap Event.armed? ↔ .armed seq ∈ events := by
  rw [List.mem_filterMap]
  constructor
  · rintro ⟨_ | _ | _, hevent, hseq⟩ <;> cases hseq
    exact hevent
  · exact fun hevent => ⟨_, hevent, rfl⟩

theorem mem_outstanding_iff :
    seq ∈ outstanding events ↔
      .armed seq ∈ events ∧ .cancelled seq ∉ events ∧ .called seq ∉ events := by
  rw [outstanding, List.mem_filter, mem_armed_iff, decide_eq_true_iff]

/-- A timer with a new number is added at the end. -/
theorem outstanding_armed (hnew : ∀ event ∈ events, event.seq ≠ seq) :
    outstanding (events ++ [.armed seq]) = outstanding events ++ [seq] := by
  have hnone (event : Event) (hseq : event.seq = seq) : event ∉ events :=
    fun hevent => hnew event hevent hseq
  have hcancelled : Event.cancelled seq ∉ events := hnone _ rfl
  have hcalled : Event.called seq ∉ events := hnone _ rfl
  simp [outstanding, Event.armed?, hcancelled, hcalled]

/-- A timer that is cancelled or called back is no longer outstanding, and the others are as
before. -/
theorem outstanding_dropped {event : Event}
    (hevent : event = .cancelled seq ∨ event = .called seq) :
    outstanding (events ++ [event]) = (outstanding events).filter fun other => other ≠ seq := by
  have harmed : (events ++ [event]).filterMap Event.armed? = events.filterMap Event.armed? := by
    rw [List.filterMap_append]
    rcases hevent with rfl | rfl <;> exact List.append_nil _
  rw [outstanding, harmed, outstanding, List.filter_filter]
  refine List.filter_congr fun other _ => ?_
  rcases hevent with rfl | rfl <;>
    simp only [List.mem_append, List.mem_singleton, Event.cancelled.injEq, Event.called.injEq,
      reduceCtorEq, or_false, not_or] <;>
    by_cases hother : other = seq <;> simp [hother]

end

/-- Timers were called back only while they were outstanding. -/
def Heeded (events : List Event) : Prop :=
  ∀ before seq after, events = before ++ .called seq :: after → seq ∈ outstanding before

namespace Heeded

variable {events : List Event}

theorem nil : Heeded [] := fun before _ _ h => by cases before <;> cases h

/-- One more event has to come in its time only if it is a call. -/
theorem snoc (h : Heeded events) {event : Event}
    (hevent : ∀ seq, event = .called seq → seq ∈ outstanding events) :
    Heeded (events ++ [event]) := by
  intro before seq after hsplit
  rcases List.eq_nil_or_concat after with rfl | ⟨rest, last, rfl⟩
  · obtain ⟨rfl, hlast⟩ := List.append_inj' hsplit rfl
    exact hevent seq (List.head_eq_of_cons_eq hlast)
  · rw [List.concat_eq_append, ← List.cons_append, ← List.append_assoc] at hsplit
    exact h before seq rest (List.append_inj' hsplit rfl).1

end Heeded

/-! ## What is asked of a bank -/

/-- What can be asked of a bank. -/
inductive Demand where
  | arm (delay callback : Value)
  | cancel (handle : Value)
  | cancelAll

/-- The number of a timer, if a value is the handle of one. -/
def number? : Value → Option Nat
  | .handle _ seq => some seq
  | _ => none

namespace Demand

/-- Does what is asked. -/
def perform (call : Caller) (b : Ref .bank) : Demand → Action Value
  | arm delay callback => armTimer call b delay callback
  | cancel handle => nothing (cancelTimer call b handle)
  | cancelAll => nothing (Understudy.cancelAll call b)

/-- What happens to timers in the course of it. A timer is armed only if its handle is given
back. -/
def events (call : Caller) (b : Ref .bank) (w : World) : Demand → List Event
  | arm delay callback =>
    match w.outcome (armTimer call b delay callback) with
    | .ok (.handle _ seq) => [.armed seq]
    | _ => []
  | cancel handle => (number? handle).toList.map .cancelled
  | cancelAll => ((w.row b : Bank).active.filterMap number?).map .cancelled

/-- What is armed calls back in a way that is allowed, and what is cancelled is none, or a timer
that was armed before, whatever has become of it since. -/
def Fits (Callback : Value → Prop) (t : Ref .timeline) (w : World) : Demand → Prop
  | arm _ callback => Callback callback
  | cancel handle => handle = .none ∨
      ∃ seq timer, handle = .handle t seq ∧ (w.row t : Timeline).timer? seq = some timer
  | cancelAll => True

end Demand

end Bank

/-- Two states with the same bank and the same line. -/
structure World.Apart (b : Ref .bank) (t : Ref .timeline) (w w' : World) : Prop where
  intact (h : w.Intact) : w'.Intact
  bank : w'.row b = (w.row b : Bank)
  line : w'.row t = (w.row t : Timeline)

theorem World.Apart.of_alike {b : Ref .bank} {t : Ref .timeline} {w w' : World}
    (h : w.Alike w') : w.Apart b t w' := by
  obtain ⟨log, serial, rfl⟩ := h
  exact ⟨fun hw => hw.congr rfl, rfl, rfl⟩

namespace Bank

variable {Callback : Value → Prop} {b : Ref .bank} {t : Ref .timeline}

/-- What is asked of a bank one after the other, and what is done to other things in between.
Any of it may fail. -/
inductive Demands (Callback : Value → Prop) (b : Ref .bank) (t : Ref .timeline) (w₀ : World) :
    List Event → World → Prop
  | start : Demands Callback b t w₀ [] w₀
  | demand {events : List Event} {w : World} (before : Demands Callback b t w₀ events w)
      (call : Caller) (d : Demand) (fits : d.Fits Callback t w) :
      Demands Callback b t w₀ (events ++ d.events call b w) (w.after (d.perform call b))
  | aside {events : List Event} {w w' : World} (before : Demands Callback b t w₀ events w)
      (apart : w.Apart b t w') : Demands Callback b t w₀ events w'

/-- The past of a bank and its line, told up to any moment: what was asked of the bank, by
whomever, and how the line was moved. A timer whose time has come is taken off the line. If it was
not cancelled, it leaves the bank as well, and from then on it is being called back. -/
inductive History (Callback : Value → Prop) (b : Ref .bank) (t : Ref .timeline) (w₀ : World) :
    List Event → World → Prop
  | start : History Callback b t w₀ [] w₀
  | acts {events more : List Event} {w w' : World} (before : History Callback b t w₀ events w)
      (acts : Demands Callback b t w more w') : History Callback b t w₀ (events ++ more) w'
  | pass {events : List Event} {w : World} {seq : Nat} {timer : Timer}
      (before : History Callback b t w₀ events w)
      (there : (w.row t : Timeline).timer? seq = some timer) (cancelled : timer.cancelled = true) :
      History Callback b t w₀ events (w.withRow t ((w.row t : Timeline).take seq))
  | fire {events : List Event} {w : World} {seq : Nat} {timer : Timer}
      (before : History Callback b t w₀ events w)
      (there : (w.row t : Timeline).timer? seq = some timer) (live : timer.live = true) :
      History Callback b t w₀ (events ++ [.called seq]) (w.ringing t seq timer)
  | clock {events : List Event} {w : World} (before : History Callback b t w₀ events w)
      (now : Float) :
      History Callback b t w₀ events (w.withRow t { (w.row t : Timeline) with now := now })

/-! ## What there is to show -/

/-- What a bank and its line have to show for what has happened. -/
structure Kept (Callback : Value → Prop) (b : Ref .bank) (t : Ref .timeline)
    (events : List Event) (w : World) : Prop where
  intact : w.Intact
  line : (w.row b : Bank).timeline = .ofRef t
  /-- The timers that wait on the line are those of the bank. -/
  banked (seq : Nat) (timer : Timer) (h : (w.row t : Timeline).timer? seq = some timer)
    (hlive : timer.live = true) :
    ∃ callback, timer.alarm = .banked b callback ∧ Callback callback
  waits (seq : Nat) : (w.row t : Timeline).live seq = true ↔ seq ∈ outstanding events
  active : (w.row b : Bank).active = (outstanding events).map (.handle t)
  distinct : (outstanding events).Nodup
  /-- Every event is about a timer that was given a number, and that keeps it for good. -/
  known (event : Event) (h : event ∈ events) : ((w.row t : Timeline).timer? event.seq).isSome
  heeded : Heeded events

end Bank

/-! ## Handles -/

/-- Handles of timers of one line are the same key when they are of the same timer. -/
@[simp] theorem Value.handle_beq_handle (t : Ref .timeline) (seq other : Nat) :
    (Value.handle t seq == Value.handle t other) = decide (seq = other) := by
  rw [Bool.eq_iff_iff, Value.beq_iff, decide_eq_true_iff]
  constructor
  · rintro ⟨atoms, hseq, hother⟩
    have hatoms := (Option.some.inj hseq).trans (Option.some.inj hother).symm
    cases hatoms
    rfl
  · rintro rfl
    exact ⟨_, rfl, rfl⟩

/-- Cancelling a timer changes its line in that timer only. -/
theorem World.row_cancelled (w : World) (t : Ref .timeline) (b : Ref .bank) (seq : Nat) :
    (w.cancelled t b seq).row t = (w.row t : Timeline).cancel seq :=
  World.row_withRow_self { w with assigned := w.assigned.erase (.timer t seq, cancelledName) } t _

namespace Bank

variable {Callback : Value → Prop} {b : Ref .bank} {t : Ref .timeline} {events : List Event}
  {w w' : World} {seq : Nat}

/-- A bank that keeps track of one timer less. -/
theorem active_discard {bank : Bank} {seqs : List Nat} (h : bank.active = seqs.map (.handle t)) :
    (bank.discard (.handle t seq)).active =
      (seqs.filter fun other => other ≠ seq).map (.handle t) := by
  rw [discard, h, List.filter_map]
  refine congrArg (List.map _) (List.filter_congr fun other _ => ?_)
  simp [Function.comp]

/-- A bank that keeps track of one timer more. -/
theorem active_add {bank : Bank} {seqs : List Nat} (h : bank.active = seqs.map (.handle t))
    (hseq : seq ∉ seqs) :
    (bank.add (.handle t seq)).active = (seqs ++ [seq]).map (.handle t) := by
  have hnew : bank.active.any (· == .handle t seq) = false := by
    rw [h, List.any_eq_false]
    rintro _ hhandle
    obtain ⟨other, hother, rfl⟩ := List.mem_map.1 hhandle
    rw [Value.handle_beq_handle, decide_eq_true_iff]
    rintro rfl
    exact hseq hother
  rw [add, hnew, h, List.map_append]
  rfl

namespace Kept

/-- What has to do neither with the bank nor with its line makes no difference. -/
theorem apart (h : Kept Callback b t events w) (ha : w.Apart b t w') :
    Kept Callback b t events w' where
  intact := ha.intact h.intact
  line := ha.bank ▸ h.line
  banked seq timer htimer := h.banked seq timer (ha.line ▸ htimer)
  waits seq := ha.line ▸ h.waits seq
  active := ha.bank ▸ h.active
  distinct := h.distinct
  known event hevent := ha.line ▸ h.known event hevent
  heeded := h.heeded

/-- One timer less, for a reason that is an event. -/
theorem drop (h : Kept Callback b t events w) (hintact : w'.Intact)
    (hbank : w'.row b = (w.row b : Bank).discard (.handle t seq)) {dropped : Option Timer}
    (hdropped : ∀ timer, dropped = some timer → timer.live = false)
    (hline : ∀ other, (w'.row t : Timeline).timer? other =
      if other = seq then dropped else (w.row t : Timeline).timer? other)
    (hstays : dropped.isSome) (hthere : ((w.row t : Timeline).timer? seq).isSome) {event : Event}
    (hevent : event = .cancelled seq ∨ event = .called seq)
    (hcalled : event = .called seq → seq ∈ outstanding events) :
    Kept Callback b t (events ++ [event]) w' where
  intact := hintact
  line := by
    rw [hbank]
    exact h.line
  banked other timer htimer hlive := by
    rw [hline] at htimer
    split at htimer
    · rw [hdropped timer htimer] at hlive
      cases hlive
    · exact h.banked other timer htimer hlive
  waits other := by
    rw [outstanding_dropped hevent, List.mem_filter, ← h.waits, decide_eq_true_iff, Timeline.live,
      hline]
    by_cases hother : other = seq
    · rw [if_pos hother]
      refine ⟨fun hlive => ?_, fun hno => absurd hother hno.2⟩
      obtain ⟨timer, htimer, htrue⟩ := (Option.any_eq_true _ _).1 hlive
      rw [hdropped timer htimer] at htrue
      cases htrue
    · rw [if_neg hother]
      exact ⟨fun hlive => ⟨hlive, hother⟩, And.left⟩
  active := by
    rw [hbank, outstanding_dropped hevent]
    exact active_discard h.active
  distinct := by
    rw [outstanding_dropped hevent]
    exact h.distinct.filter _
  known other hother := by
    have hwas : ((w.row t : Timeline).timer? other.seq).isSome := by
      rcases List.mem_append.1 hother with hold | hnew
      · exact h.known other hold
      · obtain rfl := List.mem_singleton.1 hnew
        rcases hevent with rfl | rfl <;> exact hthere
    rw [hline]
    split
    · exact hstays
    · exact hwas
  heeded := h.heeded.snoc fun other hother => by
    rcases hevent with rfl | rfl
    · cases hother
    · cases hother
      exact hcalled rfl

/-- A line on which the timers are live that were live before. -/
theorem withLine (h : Kept Callback b t events w) {line : Timeline}
    (htimers : ∀ other timer, line.timer? other = some timer → timer.live = true →
      (w.row t : Timeline).timer? other = some timer)
    (hlive : ∀ other, line.live other = (w.row t : Timeline).live other)
    (hstays : ∀ other, ((w.row t : Timeline).timer? other).isSome → (line.timer? other).isSome) :
    Kept Callback b t events (w.withRow t line) where
  intact := h.intact.congr rfl
  line := h.line
  banked seq timer htimer hl := by
    rw [World.row_withRow_self] at htimer
    exact h.banked seq timer (htimers seq timer htimer hl) hl
  waits seq := by
    rw [World.row_withRow_self, hlive]
    exact h.waits seq
  active := h.active
  distinct := h.distinct
  known event hevent := by
    rw [World.row_withRow_self]
    exact hstays _ (h.known event hevent)
  heeded := h.heeded

/-- A line on which one place is that of a timer that is not live, where there was no live one
before. -/
theorem withDead (h : Kept Callback b t events w) {line : Timeline} {dead : Option Timer}
    (hdead : ∀ timer, dead = some timer → timer.live = false)
    (hline : ∀ other, line.timer? other =
      if other = seq then dead else (w.row t : Timeline).timer? other)
    (hwas : (w.row t : Timeline).live seq = false) (hstays : dead.isSome) :
    Kept Callback b t events (w.withRow t line) := by
  have hnone : dead.any Timer.live = false := by
    rw [Option.any_eq_false]
    exact fun timer htimer => by simpa using hdead timer htimer
  refine h.withLine (fun other timer htimer hlive => ?_) (fun other => ?_) fun other hother => ?_
  · rw [hline] at htimer
    split at htimer
    · rw [hdead timer htimer] at hlive
      cases hlive
    · exact htimer
  · rw [Timeline.live, hline]
    by_cases hother : other = seq
    · rw [if_pos hother, hnone, hother, hwas]
    · rw [if_neg hother]
      rfl
  · rw [hline]
    split
    · exact hstays
    · exact hother

/-- A number that could not be used for a timer is that of no timer that is live. -/
theorem skip (h : Kept Callback b t events w) :
    Kept Callback b t events (w.withRow t (w.row t : Timeline).skip) := by
  refine h.withDead (fun timer htimer => ?_) (Timeline.timer?_skip _) ?_ rfl
  · cases htimer
    rfl
  · rw [Timeline.live, Timeline.timer?_nextSeq]
    rfl

/-- One timer more, which gets the number that is given out next. -/
theorem armed (h : Kept Callback b t events w) (due : Float) {callback : Value}
    (hcallback : Callback callback) :
    Kept Callback b t (events ++ [.armed (w.row t : Timeline).nextSeq])
      (w.armed t b due callback) := by
  have hnew : ∀ event ∈ events, event.seq ≠ (w.row t : Timeline).nextSeq := by
    intro event hevent hseq
    have hknown := h.known event hevent
    rw [hseq, Timeline.timer?_nextSeq] at hknown
    cases hknown
  have hnone : (w.row t : Timeline).nextSeq ∉ outstanding events := fun hmem =>
    hnew _ (mem_outstanding_iff.1 hmem).1 rfl
  have hbank : (w.armed t b due callback).row b =
      (w.row b : Bank).add (.handle t (w.row t : Timeline).nextSeq) :=
    World.row_withRow_self _ b _
  have hline : (w.armed t b due callback).row t =
      (w.row t : Timeline).schedule due (.banked b callback) :=
    World.row_withRow_self w t _
  refine
    { intact := h.intact.congr rfl
      line := by rw [hbank]; exact h.line
      banked := fun other timer htimer hlive => ?_
      waits := fun other => ?_
      active := by rw [hbank, outstanding_armed hnew]; exact active_add h.active hnone
      distinct := ?_
      known := fun event hevent => ?_
      heeded := h.heeded.snoc fun other hother => by cases hother }
  · rw [hline, Timeline.timer?_schedule] at htimer
    split at htimer
    · cases htimer
      exact ⟨callback, rfl, hcallback⟩
    · exact h.banked other timer htimer hlive
  · rw [outstanding_armed hnew, List.mem_append, List.mem_singleton, ← h.waits, hline,
      Timeline.live, Timeline.timer?_schedule]
    by_cases hother : other = (w.row t : Timeline).nextSeq
    · simp [hother, Timer.live]
    · rw [if_neg hother]
      simp [hother, Timeline.live]
  · rw [outstanding_armed hnew]
    exact List.nodup_append.2 ⟨h.distinct, List.nodup_singleton _, fun x hx y hy hxy =>
      hnone (List.mem_singleton.1 hy ▸ hxy ▸ hx)⟩
  · rw [hline, Timeline.timer?_schedule]
    split
    · rfl
    · rename_i hother
      rcases List.mem_append.1 hevent with hold | hlast
      · exact h.known event hold
      · obtain rfl := List.mem_singleton.1 hlast
        exact absurd rfl hother

/-- A timer that the bank cancels, which need not be outstanding. -/
theorem cancelled (h : Kept Callback b t events w) {timer : Timer}
    (hthere : (w.row t : Timeline).timer? seq = some timer) :
    Kept Callback b t (events ++ [.cancelled seq]) (w.cancelled t b seq) := by
  have hline (other : Nat) := w.row_cancelled t b seq ▸ (w.row t : Timeline).timer?_cancel seq other
  refine h.drop (h.intact.cancelled t b seq) (World.row_withRow_self _ b _)
    (fun _ => Timer.live_of_cancelled) hline ?_ ?_ (.inl rfl) fun hno => nomatch hno
  all_goals
    rw [hthere]
    rfl

/-- A timer whose time has come leaves the bank when it leaves the line. -/
theorem ringing (h : Kept Callback b t events w) {timer : Timer}
    (hthere : (w.row t : Timeline).timer? seq = some timer) (hlive : timer.live = true) :
    Kept Callback b t (events ++ [.called seq]) (w.ringing t seq timer) := by
  obtain ⟨callback, halarm, _⟩ := h.banked seq timer hthere hlive
  have hringing : w.ringing t seq timer =
      (w.withRow t ((w.row t : Timeline).reach seq timer.due)).withRow b
        ((w.row b : Bank).discard (.handle t seq)) := by
    rw [World.ringing, halarm]
  have houtstanding : seq ∈ outstanding events := by
    rw [← h.waits, Timeline.live, hthere]
    exact hlive
  have hrow : (w.ringing t seq timer).row t = (w.row t : Timeline).reach seq timer.due := by
    rw [World.row_ringing_timeline, World.row_withRow_self]
  have hline (other : Nat) := hrow ▸ (w.row t : Timeline).timer?_reach seq other timer.due
  refine h.drop ?_ ?_ (fun _ => Timer.live_of_taken) hline ?_ ?_ (.inr rfl) fun _ => houtstanding
  · rw [hringing]
    exact h.intact.congr rfl
  · rw [hringing, World.row_withRow_self]
  all_goals
    rw [hthere]
    rfl

/-- A cancelled timer whose time has come only leaves the line. -/
theorem pass (h : Kept Callback b t events w) {timer : Timer}
    (hthere : (w.row t : Timeline).timer? seq = some timer) (hcancelled : timer.cancelled = true) :
    Kept Callback b t events (w.withRow t ((w.row t : Timeline).take seq)) := by
  refine h.withDead (fun _ => Timer.live_of_taken) (Timeline.timer?_take _ seq) ?_ ?_
  · rw [Timeline.live, hthere, Option.any_some, Timer.live, hcancelled]
    rfl
  · rw [hthere]
    rfl

/-- The time that a line shows has to do with none of its timers. -/
theorem clock (h : Kept Callback b t events w) (now : Float) :
    Kept Callback b t events (w.withRow t { (w.row t : Timeline) with now := now }) := by
  have hsame (other : Nat) : Timeline.timer? { (w.row t : Timeline) with now := now } other =
      (w.row t : Timeline).timer? other := Timeline.timer?_withNow _ now other
  refine h.withLine (fun other timer htimer _ => (hsame other).symm.trans htimer) (fun other => ?_)
    fun other hother => (hsame other).symm ▸ hother
  rw [Timeline.live, Timeline.live, hsame]

/-! ## Demands -/

/-- Arming adds the timer whose handle it gives back, or none. -/
theorem arm (h : Kept Callback b t events w) (call : Caller) (delay : Value) {callback : Value}
    (hcallback : Callback callback) :
    Kept Callback b t (events ++ (Demand.arm delay callback).events call b w)
      (w.after ((Demand.arm delay callback).perform call b)) := by
  have hstep := h.intact.armTimer_cases call (.inl h.line) delay callback
  rw [Demand.events, Demand.perform]
  revert hstep
  generalize w.outcome (armTimer call b delay callback) = outcome
  generalize w.after (armTimer call b delay callback) = w₁
  intro hstep
  cases hstep with
  | refused failed same =>
    obtain ⟨fault, rfl⟩ := failed
    rw [List.append_nil, same]
    exact h
  | skipped failed skipped =>
    obtain ⟨fault, rfl⟩ := failed
    rw [List.append_nil, skipped]
    exact h.skip
  | @armed due handed armed =>
    rw [handed]
    exact (h.armed due hcallback).apart (.of_alike armed)

/-- Cancelling does what it is asked to, and takes no timer off the line. -/
theorem cancelTimer (h : Kept Callback b t events w) (call : Caller) {timer : Timer}
    (hthere : (w.row t : Timeline).timer? seq = some timer) :
    let after := w.after (cancelTimer call b (.handle t seq))
    w.run (Understudy.cancelTimer call b (.handle t seq)) = (.ok (), after) ∧
      Kept Callback b t (events ++ [.cancelled seq]) after ∧
        ∀ other, ((w.row t : Timeline).timer? other).isSome →
          ((after.row t : Timeline).timer? other).isSome := by
  intro after
  have hrun := h.intact.run_cancelTimer call t b seq
  have hafter : after = (w.cancelled t b seq).after (debug timersLogger "Cancelled timer") :=
    World.after_of_run hrun
  have hlike : (w.cancelled t b seq).Alike after := hafter ▸ Quiet.emit _ _ _ _ _
  refine ⟨hafter ▸ hrun, (h.cancelled hthere).apart (.of_alike hlike), fun other hother => ?_⟩
  have hline : after.row t = (w.row t : Timeline).cancel seq := by
    obtain ⟨log, serial, hsame⟩ := hlike
    rw [hsame]
    exact w.row_cancelled t b seq
  rw [hline, Timeline.timer?_cancel]
  split
  · rw [hthere]
    rfl
  · exact hother

theorem cancel (h : Kept Callback b t events w) (call : Caller) {handle : Value}
    (hfits : (Demand.cancel handle).Fits Callback t w) :
    Kept Callback b t (events ++ (Demand.cancel handle).events call b w)
      (w.after ((Demand.cancel handle).perform call b)) := by
  rcases hfits with rfl | ⟨seq, timer, rfl, hthere⟩
  · have hnothing : w.run (Understudy.cancelTimer call b .none) = (.ok (), w) := rfl
    rw [Demand.perform, World.after, run_nothing, World.after, hnothing]
    exact (List.append_nil events).symm ▸ h
  · rw [Demand.perform, World.after, run_nothing]
    exact (h.cancelTimer call hthere).2.1

/-- A list of timers is cancelled one by one. -/
theorem cancelEach (call : Caller) (seqs : List Nat) (h : Kept Callback b t events w)
    (hthere : ∀ seq ∈ seqs, ((w.row t : Timeline).timer? seq).isSome) :
    Kept Callback b t (events ++ seqs.map .cancelled)
      (w.after (cancelEach call b (seqs.map (.handle t)))) := by
  induction seqs generalizing events w with
  | nil => exact (List.append_nil events).symm ▸ h
  | cons seq rest ih =>
    obtain ⟨timer, htimer⟩ := Option.isSome_iff_exists.1 (hthere seq List.mem_cons_self)
    obtain ⟨hcancel, hkept, hstay⟩ := h.cancelTimer call htimer
    have hrun : w.run (request call (.ofRef b) .cancel [.handle t seq] fun b => do
        Understudy.cancelTimer call b (.handle t seq)
        return .none) = (.ok .none, w.after (Understudy.cancelTimer call b (.handle t seq))) := by
      rw [h.intact.run_request call b _ _ rfl, World.run_bind_of_run hcancel]
      rfl
    rw [List.map_cons, List.map_cons, Understudy.cancelEach, World.after_bind_of_run hrun,
      List.append_cons]
    exact ih hkept fun other hother => hstay other (hthere other (List.mem_cons_of_mem _ hother))

/-- All timers that are outstanding are cancelled. -/
theorem cancelAll (h : Kept Callback b t events w) (call : Caller) :
    Kept Callback b t (events ++ Demand.cancelAll.events call b w)
      (w.after (Demand.cancelAll.perform call b)) := by
  have hnumbers : (w.row b : Bank).active.filterMap number? = outstanding events := by
    rw [h.active, List.filterMap_map]
    exact List.filterMap_some
  have hafter : w.after (Demand.cancelAll.perform call b) =
      w.after (Understudy.cancelEach call b ((outstanding events).map (.handle t))) := by
    rw [Demand.perform, World.after, run_nothing, ← h.active]
    rfl
  rw [Demand.events, hnumbers, hafter]
  refine h.cancelEach call _ fun seq hseq => ?_
  rw [← h.waits, Timeline.live] at hseq
  cases htimer : (w.row t : Timeline).timer? seq with
  | some timer => rfl
  | none =>
    rw [htimer] at hseq
    cases hseq

/-- Whatever is asked of a bank, the set of its timers is right afterwards. -/
theorem demand (h : Kept Callback b t events w) (call : Caller) (d : Demand)
    (fits : d.Fits Callback t w) :
    Kept Callback b t (events ++ d.events call b w) (w.after (d.perform call b)) := by
  cases d with
  | arm delay callback => exact h.arm call delay fits
  | cancel handle => exact h.cancel call fits
  | cancelAll => exact h.cancelAll call

/-- So it is after any number of demands. -/
theorem acts {more : List Event} (h : Kept Callback b t events w)
    (hacts : Demands Callback b t w more w') : Kept Callback b t (events ++ more) w' := by
  induction hacts with
  | start => exact (List.append_nil events).symm ▸ h
  | demand _ call d fits ih =>
    rw [← List.append_assoc]
    exact ih.demand call d fits
  | aside _ apart ih => exact ih.apart apart

end Kept

/-! ## The whole history -/

/-- At every moment of its past a bank has the set of its timers right, if it did at first. -/
theorem History.kept {w₀ : World} (h : History Callback b t w₀ events w)
    (h₀ : Kept Callback b t [] w₀) : Kept Callback b t events w := by
  induction h with
  | start => exact h₀
  | acts _ acts ih => exact ih.acts acts
  | pass _ there cancelled ih => exact ih.pass there cancelled
  | fire _ there live ih => exact ih.ringing there live
  | clock _ now ih => exact ih.clock now

end Bank

end Understudy

import Understudy.Proofs.BankHistory

/-!
# The account of a bank

A bank that begins without timers, on a line of its own, keeps the set of its timers right for
good. What is called back may do with the bank whatever can be done with it, and may fail at any
point. It is called back at most once for each timer, and not at all once the timer was cancelled.

## Main definitions

* `World.Opens`: a bank without timers, on a line on which none waits.
* `Bank.Comply`: those who are called back do nothing but turn to the bank.
* `Bank.Account`: what holds of a bank at any moment of its past.

## Main statements

* `Bank.History.advance`: to move the line is to go on with the history.
* `Bank.History.account`: the account is right at any moment.
-/

namespace Understudy

/-- A bank without timers, on a line on which none waits. -/
structure World.Opens (b : Ref .bank) (t : Ref .timeline) (w : World) : Prop where
  intact : w.Intact
  line : (w.row b : Bank).timeline = .ofRef t
  empty : (w.row b : Bank).active = []
  still (seq : Nat) : (w.row t : Timeline).live seq = false

namespace Bank

variable {call : Caller} {Callback : Value → Prop} {b : Ref .bank} {t : Ref .timeline}
  {events : List Event} {w w₀ : World}

/-- At no moment of the history those who may be called back do anything but turn to the bank. -/
def Comply (call : Caller) (Callback : Value → Prop) (b : Ref .bank) (t : Ref .timeline)
    (w₀ : World) : Prop :=
  ∀ (events : List Event) (w : World) (callback : Value), History Callback b t w₀ events w →
    Callback callback → ∃ more, Demands Callback b t w more (w.after (call callback []))

/-- Two callers that do the same for a timer that has just left its bank. What they do at other
times makes no difference. -/
def Agree (call other : Caller) (Callback : Value → Prop) (b : Ref .bank) (t : Ref .timeline)
    (w₀ : World) : Prop :=
  ∀ (events : List Event) (w : World) (seq : Nat) (timer : Timer),
    History Callback b t w₀ events w → (w.row t : Timeline).timer? seq = some timer →
      timer.live = true →
        (w.ringing t seq timer).run (other timer.callback []) =
          (w.ringing t seq timer).run (call timer.callback [])

/-- What holds of a bank at a moment of its past. -/
structure Account (call : Caller) (Callback : Value → Prop) (b : Ref .bank) (t : Ref .timeline)
    (w₀ : World) (events : List Event) (w : World) : Prop where
  /-- Its set is that of the timers that were armed and neither cancelled nor called back. -/
  active : (w.row b : Bank).active = (outstanding events).map (.handle t)
  distinct : (outstanding events).Nodup
  /-- So they are counted. -/
  count : w.held? b.object "active_count" = some (.ofInt (outstanding events).length)
  /-- They are those that wait on the line. -/
  waits (seq : Nat) : (w.row t : Timeline).live seq = true ↔ seq ∈ outstanding events
  /-- Whatever has become of a timer, it can be cancelled. -/
  cancellable (seq : Nat) (h : .armed seq ∈ events) :
    (Demand.cancel (.handle t seq)).Fits Callback t w
  /-- A timer was called back only after it was armed, not after it was cancelled, and not
  again. -/
  calls (before after : List Event) (seq : Nat) (h : events = before ++ .called seq :: after) :
    .armed seq ∈ before ∧ .cancelled seq ∉ before ∧ .called seq ∉ before
  once (seq : Nat) : events.count (.called seq) ≤ 1
  /-- To move the line is to go on with the history. -/
  advances (goal : Value) :
    ∃ more, History Callback b t w₀ (events ++ more) (w.after (advance call t goal))
  /-- When the line is moved, what is called back is a timer that has just left the bank. -/
  enters (other : Caller) (h : Agree call other Callback b t w₀) (goal : Value) :
    w.run (advance other t goal) = w.run (advance call t goal)

/-! ## Moving the line -/

namespace History

variable (h₀ : Kept Callback b t [] w₀) (hcomply : Comply call Callback b t w₀)
include h₀ hcomply

/-- A timer that fires goes on with the history, in what is called back. -/
theorem ring (h : History Callback b t w₀ events w) {seq : Nat} {timer : Timer}
    (hthere : (w.row t : Timeline).timer? seq = some timer) (hlive : timer.live = true) :
    ∃ more, History Callback b t w₀ (events ++ more)
      ((w.withRow t ((w.row t : Timeline).reach seq timer.due)).after
        (ring call t seq timer.alarm)) := by
  have hfired := h.fire hthere hlive
  obtain ⟨callback, halarm, hallowed⟩ := (h.kept h₀).banked seq timer hthere hlive
  have hcallback : timer.callback = callback := by rw [Timer.callback, halarm]
  obtain ⟨more, hacts⟩ := hcomply _ _ callback hfired hallowed
  refine ⟨.called seq :: more, ?_⟩
  rw [after_ring, hcallback, List.append_cons]
  exact hfired.acts hacts

omit h₀ hcomply in
/-- It does not depend on what a caller does at other times. -/
theorem run_ring {other : Caller} (hagree : Agree call other Callback b t w₀)
    (h : History Callback b t w₀ events w) {seq : Nat} {timer : Timer}
    (hthere : (w.row t : Timeline).timer? seq = some timer) (hlive : timer.live = true) :
    (w.withRow t ((w.row t : Timeline).reach seq timer.due)).run
        (Understudy.ring other t seq timer.alarm) =
      (w.withRow t ((w.row t : Timeline).reach seq timer.due)).run
        (Understudy.ring call t seq timer.alarm) := by
  rw [Understudy.run_ring, Understudy.run_ring, World.run_bind, World.run_bind,
    hagree events w seq timer h hthere hlive]

omit h₀ hcomply in
/-- A note is no part of the history. -/
theorem withNote (h : History Callback b t w₀ events w) (note : List Value) :
    History Callback b t w₀ events (w.withNote note) := by
  have haside : Demands Callback b t w [] (w.withNote note) :=
    Demands.start.aside ⟨fun hw => hw.congr rfl, rfl, rfl⟩
  exact List.append_nil events ▸ h.acts haside

/-- However many timers fire, the history goes on. -/
theorem fireDue (goal : Decimal.Parts) (limit : Nat) (h : History Callback b t w₀ events w) :
    ∃ more, History Callback b t w₀ (events ++ more) (w.after (fireDue call t goal limit)) := by
  have hstay {w : World} {events : List Event} (h : History Callback b t w₀ events w) :
      ∃ more, History Callback b t w₀ (events ++ more) w :=
    ⟨[], (List.append_nil events).symm ▸ h⟩
  induction limit generalizing events w with
  | zero => exact hstay h
  | succ limit ih =>
    obtain hafter | ⟨seq, timer, htimer, hcancelled, hafter⟩ |
      ⟨seq, timer, note, htimer, hlive, hafter⟩ := fireDue_cases call limit w t goal
    · rw [hafter]
      exact hstay h
    · rw [hafter]
      exact ih (h.pass htimer hcancelled)
    · obtain ⟨more, hrung⟩ := h.ring h₀ hcomply htimer hlive
      obtain ⟨rest, hrest⟩ := ih (hrung.withNote note)
      rw [hafter]
      exact ⟨more ++ rest, by rwa [← List.append_assoc]⟩

/-- Which timers fire does not depend on what a caller does at other times. -/
theorem run_fireDue {other : Caller} (hagree : Agree call other Callback b t w₀)
    (goal : Decimal.Parts) (limit : Nat) (h : History Callback b t w₀ events w) :
    w.run (Understudy.fireDue other t goal limit) =
      w.run (Understudy.fireDue call t goal limit) := by
  induction limit generalizing events w with
  | zero => rfl
  | succ limit ih =>
    cases hnext : (w.row t : Timeline).next? goal with
    | none => rw [run_fireDue_of_none other limit hnext, run_fireDue_of_none call limit hnext]
    | some first =>
      obtain ⟨seq, timer⟩ := first
      obtain ⟨htimer, htaken⟩ := Timeline.timer?_of_next? hnext
      cases hcancelled : timer.cancelled with
      | true =>
        rw [run_fireDue_of_cancelled other limit hnext hcancelled,
          run_fireDue_of_cancelled call limit hnext hcancelled]
        exact ih (h.pass htimer hcancelled)
      | false =>
        have hlive : timer.live = true := by rw [Timer.live, hcancelled, htaken]; rfl
        obtain ⟨more, hrung⟩ := h.ring h₀ hcomply htimer hlive
        have hsame := (h.run_ring hagree htimer hlive).trans (World.run_eq _ _)
        rw [run_fireDue_of_rung other limit hnext hcancelled hsame,
          run_fireDue_of_rung call limit hnext hcancelled (World.run_eq _ _), World.run_map,
          World.run_map, ih (hrung.withNote _)]

/-- To move the line is to go on with the history. -/
theorem advance (goal : Value) (h : History Callback b t w₀ events w) :
    ∃ more, History Callback b t w₀ (events ++ more) (w.after (advance call t goal)) := by
  obtain ⟨w₁, w₂, hfirst, hlike, hlast⟩ := advance_cases w call t goal
  obtain ⟨more, hfired⟩ : ∃ more, History Callback b t w₀ (events ++ more) w₁ := by
    obtain rfl | ⟨limit, rfl⟩ := hfirst
    · exact ⟨[], (List.append_nil events).symm ▸ h⟩
    · exact h.fireDue h₀ hcomply limit fireLimit
  have hspelled : History Callback b t w₀ (events ++ more) w₂ :=
    List.append_nil (events ++ more) ▸ hfired.acts (Demands.start.aside (.of_alike hlike))
  obtain hafter | ⟨now, hafter⟩ := hlast
  · rw [hafter]
    exact ⟨more, hspelled⟩
  · rw [hafter]
    exact ⟨more, hspelled.clock now⟩

/-- What comes of it does not depend on what a caller does at other times. -/
theorem run_advance {other : Caller} (hagree : Agree call other Callback b t w₀) (goal : Value)
    (h : History Callback b t w₀ events w) :
    w.run (Understudy.advance other t goal) = w.run (Understudy.advance call t goal) := by
  rw [Understudy.advance, Understudy.advance, World.run_bind_of_run (World.run_fetch w t),
    World.run_bind_of_run (World.run_fetch w t)]
  cases goal.number? with
  | some limit =>
    dsimp only
    rw [World.run_bind, World.run_bind, h.run_fireDue h₀ hcomply hagree limit fireLimit]
  | none => cases (w.row t : Timeline).first? <;> rfl

end History

/-! ## The account -/

/-- A bank without timers has nothing to show. -/
theorem Kept.of_opens (h : w.Opens b t) : Kept Callback b t [] w where
  intact := h.intact
  line := h.line
  banked seq timer htimer hlive := by
    have hstill := h.still seq
    rw [Timeline.live, htimer, Option.any_some, hlive] at hstill
    cases hstill
  waits seq := by
    rw [h.still seq]
    exact ⟨fun hno => (Bool.false_ne_true hno).elim, fun hno => (List.not_mem_nil hno).elim⟩
  active := h.empty
  distinct := List.nodup_nil
  known _ hevent := (List.not_mem_nil hevent).elim
  heeded := .nil

/-- What is called back only while it is outstanding is called back once. -/
theorem Heeded.count_called_le (h : Heeded events) (seq : Nat) :
    events.count (.called seq) ≤ 1 := by
  by_cases hmem : .called seq ∈ events
  · obtain ⟨before, after, rfl⟩ := List.append_of_mem hmem
    have hbefore := (mem_outstanding_iff.1 (h before seq after rfl)).2.2
    have hafter : .called seq ∉ after := fun hagain => by
      obtain ⟨between, rest, rfl⟩ := List.append_of_mem hagain
      have hsplit : before ++ .called seq :: (between ++ .called seq :: rest) =
          (before ++ .called seq :: between) ++ .called seq :: rest := by simp
      exact (mem_outstanding_iff.1 (h _ seq rest hsplit)).2.2 (by simp)
    have hcount : (before ++ .called seq :: after).count (.called seq) = 1 := by
      rw [List.count_append, List.count_eq_zero.2 hbefore, List.count_cons_self,
        List.count_eq_zero.2 hafter]
    exact Nat.le_of_eq hcount
  · rw [List.count_eq_zero.2 hmem]
    exact Nat.zero_le _

/-- At any moment of its past a bank that began without timers has the set of its timers right,
whatever was asked of it, and whatever those did that were called back. -/
theorem History.account (hopens : w₀.Opens b t) (hcomply : Comply call Callback b t w₀)
    (h : History Callback b t w₀ events w) : Account call Callback b t w₀ events w := by
  have h₀ : Kept Callback b t [] w₀ := .of_opens hopens
  have hkept := h.kept h₀
  refine
    { active := hkept.active
      distinct := hkept.distinct
      count := ?_
      waits := hkept.waits
      cancellable := fun seq harmed => ?_
      calls := fun before after seq hsplit =>
        mem_outstanding_iff.1 (hkept.heeded before seq after hsplit)
      once := hkept.heeded.count_called_le
      advances := h.advance h₀ hcomply
      enters := fun _ hagree => h.run_advance h₀ hcomply hagree }
  · have hlength : (w.row b : Bank).active.length = (outstanding events).length := by
      rw [hkept.active, List.length_map]
    rw [← hlength]
    rfl
  · obtain ⟨timer, htimer⟩ := Option.isSome_iff_exists.1 (hkept.known _ harmed)
    exact .inr ⟨seq, timer, rfl, htimer⟩

/-! ## Callbacks that comply -/

/-- A callback that is harmless, or that has a bank cancel all of its timers. -/
def Tame (b : Ref .bank) (v : Value) : Prop :=
  v.Harmless ∨ ∃ serial, v = .function serial (.method b.object .cancelAll)

/-- Tame callbacks do nothing but turn to their bank. -/
theorem comply_invoke (b : Ref .bank) (t : Ref .timeline) (w₀ : World) :
    Comply invoke (Tame b) b t w₀ := by
  intro _ w callback _ htame
  rcases htame with hharmless | ⟨serial, rfl⟩
  · obtain ⟨fired, hafter⟩ := hharmless.after_invoke depthLimit w
    refine ⟨[], hafter ▸ Demands.start.aside ⟨fun hw => hw.congr rfl, rfl, rfl⟩⟩
  · have hrun : w.run (invoke (.function serial (.method b.object .cancelAll)) []) =
        w.run (Demand.cancelAll.perform (invokeWithin 999) b) :=
      (run_invoke_method w 999 serial b.object rfl rfl).trans (run_answered w _ b.object .cancelAll)
    refine ⟨[] ++ Demand.cancelAll.events (invokeWithin 999) b w, ?_⟩
    rw [World.after, hrun]
    exact Demands.start.demand (invokeWithin 999) .cancelAll trivial

end Bank

/-! ## Two timers of the same time -/

/-- A line with one bank. -/
def bankBench : World where
  timelines := ⟨[{}]⟩
  banks := ⟨[{ timeline := .ofRef (⟨0⟩ : Ref .timeline) }]⟩

theorem bankBench_opens : bankBench.Opens ⟨0⟩ ⟨0⟩ where
  intact _ _ _ := rfl
  line := rfl
  empty := rfl
  still seq := by cases seq <;> rfl

/-- A timer that has the bank cancel all of its timers when it is called back. -/
def armSweep : Bank.Demand :=
  .arm (.ofInt 1) (.function 0 (.method (⟨0⟩ : Ref .bank).object .cancelAll))

/-- A timer that is due at the same time, and notes a name. -/
def armNote : Bank.Demand := .arm (.ofInt 1) (.function 0 (.callback "late"))

/-- Both timers were armed, one after the other. -/
def bankArmed : World :=
  (bankBench.after (armSweep.perform invoke ⟨0⟩)).after (armNote.perform invoke ⟨0⟩)

/-- The account of the bench is right when both timers were armed, and when their time comes the
second one is not called back any more. -/
theorem bankArmed_account :
    Bank.Account invoke (Bank.Tame ⟨0⟩) ⟨0⟩ ⟨0⟩ bankBench [.armed 1, .armed 2] bankArmed ∧
      (bankArmed.after (advance invoke ⟨0⟩ (.ofInt 1))).fired = [] := by
  have hsweep : armSweep.events invoke ⟨0⟩ bankBench = [.armed 1] := by decide +kernel
  have hnote : armNote.events invoke ⟨0⟩ (bankBench.after (armSweep.perform invoke ⟨0⟩)) =
      [.armed 2] := by decide +kernel
  have hacts : Bank.Demands (Bank.Tame ⟨0⟩) ⟨0⟩ ⟨0⟩ bankBench [.armed 1, .armed 2] bankArmed := by
    have hfirst : Bank.Demands (Bank.Tame ⟨0⟩) ⟨0⟩ ⟨0⟩ bankBench
        ([] ++ armSweep.events invoke ⟨0⟩ bankBench)
        (bankBench.after (armSweep.perform invoke ⟨0⟩)) :=
      Bank.Demands.start.demand invoke armSweep (.inr ⟨0, rfl⟩)
    have hboth := hfirst.demand invoke armNote (.inl trivial)
    rwa [hsweep, hnote] at hboth
  exact ⟨Bank.History.account bankBench_opens (Bank.comply_invoke ⟨0⟩ ⟨0⟩ bankBench)
    (.acts .start hacts), by decide +kernel⟩

end Understudy

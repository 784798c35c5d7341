import Understudy.Calls
import Understudy.Proofs.Looking

/-!
# What hooks do when they are called

A hook is a value that is called with arguments. A hook of a bank is a request to it, and
the hooks that do nothing do so whatever they are given. This module follows the calls
down to what they do to timelines and banks.

## Main definitions

* `Bank.On`: a bank that arms on a timeline, or on none.
* `ArmStep`: what arming can do.

## Main statements

* `run_invoke_method`: a call of a request is the request.
* `World.Intact.armTimer_cases`: arming fails with no new timer that fires, or arms one.
* `World.Intact.run_cancelTimer`: cancelling does not fail.
-/

namespace Understudy

/-! ## Calls of requests -/

/-- A call with as many arguments as are asked for is the request itself. -/
theorem run_invoke_method (w : World) (depth serial : Nat) (o : Object) {m : Method}
    {args : List Value} (hlength : args.length = m.parameters.length)
    (hnamed : m.namedParameters = []) :
    w.run (invokeWithin (depth + 1) (.function serial (.method o m)) args) =
      w.run (send (invokeWithin depth) o m args) := by
  have hbind : ((Function.method o m).signature w).bind args [] = .ok args :=
    Signature.bind_eq_ok_of_length hlength hnamed
  show w.run (callOnce (invokeWithin depth) _ args []) = _
  simp only [callOnce, World.run_bind, World.run_get, World.run_orFail, hbind, callFunction]

/-- What a thing takes as a request it answers. -/
theorem run_answered (w : World) (a : Action Value) (o : Object) (m : Method) :
    w.run ((some <$> a) >>= fun answer =>
      match answer with
      | some v => pure v
      | none => do throw (.noAttribute ((← get).title o) m.word)) = w.run a := by
  rw [World.run_bind, World.run_map, World.run_eq w a]
  cases w.outcome a <;> rfl

theorem run_nothing (w : World) (a : Action Unit) :
    w.run (nothing a) = ((w.outcome a).map fun _ => .none, w.after a) := by
  rw [nothing, World.run_bind, World.run_eq w a]
  cases w.outcome a <;> rfl

section

variable (w : World) (depth serial : Nat)

theorem run_invoke_arm (b : Ref .bank) (delay callback : Value) :
    w.run (invokeWithin (depth + 1) (.function serial (.method b.object .arm)) [delay, callback]) =
      w.run (armTimer (invokeWithin depth) b delay callback) := by
  rw [run_invoke_method w depth serial b.object rfl rfl]
  exact run_answered w _ b.object .arm

theorem run_invoke_cancel (b : Ref .bank) (handle : Value) :
    w.run (invokeWithin (depth + 1) (.function serial (.method b.object .cancel)) [handle]) =
      w.run (nothing (cancelTimer (invokeWithin depth) b handle)) := by
  rw [run_invoke_method w depth serial b.object rfl rfl]
  exact run_answered w _ b.object .cancel

theorem run_invoke_dailyTimeout (s : Ref .session) :
    w.run (invokeWithin (depth + 1) (.function serial (.method s.object .dailyTimeout)) []) =
      w.run (nothing (onDailyTimeout (invokeWithin depth) s)) := by
  rw [run_invoke_method w depth serial s.object rfl rfl]
  exact run_answered w _ s.object .dailyTimeout

theorem run_invoke_idleArm (delay callback : Value) :
    w.run (invokeWithin (depth + 1) (.function serial .idleArm) [delay, callback]) =
      (.ok .none, w) := rfl

theorem run_invoke_idleCancel (handle : Value) :
    w.run (invokeWithin (depth + 1) (.function serial .idleCancel) [handle]) = (.ok .none, w) := rfl

end

/-! ## Arming -/

/-- A bank that arms on a timeline, or on none, and then does not arm at all. -/
def Bank.On (bank : Bank) (t : Ref .timeline) : Prop :=
  bank.timeline = .ofRef t ∨ bank.timeline = .none

/-- The state in which a bank has armed one more timer. -/
def World.armed (w : World) (t : Ref .timeline) (b : Ref .bank) (due : Float) (callback : Value) :
    World :=
  (w.withRow t ((w.row t : Timeline).schedule due (.banked b callback))).withRow b
    ((w.row b : Bank).add (.handle t (w.row t : Timeline).nextSeq))

/-- All that arming can do. -/
inductive ArmStep (t : Ref .timeline) (b : Ref .bank) (callback : Value) (w w' : World)
    (outcome : Except Fault Value) : Prop
  | refused (failed : ∃ fault, outcome = .error fault) (same : w' = w)
  | skipped (failed : ∃ fault, outcome = .error fault)
      (skipped : w' = w.withRow t (w.row t : Timeline).skip)
  | armed {due : Float} (handed : outcome = .ok (.handle t (w.row t : Timeline).nextSeq))
      (armed : (w.armed t b due callback).Alike w')

/-- A delay that leads to a time can be written. -/
theorem fixedText_of_dueAfter {w : World} {now due : Float} {delay : Value}
    (h : dueAfter w now delay = .ok due) (w' : World) (places : Nat) :
    ∃ text, fixedText w' places delay = .ok text := by
  unfold dueAfter at h
  unfold fixedText
  cases hdelay : delay.float? with
  | none =>
    rw [hdelay] at h
    cases h
  | some x? =>
    cases x? with
    | none =>
      rw [hdelay] at h
      cases h
    | some x => exact ⟨_, rfl⟩

namespace World.Intact

variable {w : World} (hw : w.Intact)
include hw

/-- Arming fails and arms no timer, or it arms one and gives back its handle. -/
theorem armTimer_cases (call : Caller) {t : Ref .timeline} {b : Ref .bank}
    (hb : (w.row b : Bank).On t) (delay callback : Value) :
    ArmStep t b callback w (w.after (armTimer call b delay callback))
      (w.outcome (armTimer call b delay callback)) := by
  rcases hb with hline | hline
  · have htrue : w.truthy (.ofRef t) = true := rfl
    have htaker : w.taker? .timeline (.ofRef t) .callLater = some t := hw.taker? t rfl
    cases hdue : dueAfter w (w.row t : Timeline).now delay with
    | error fault =>
      have hrun : w.run (armTimer call b delay callback) =
          (.error fault, w.withRow t (w.row t : Timeline).skip) := by
        simp only [armTimer, callLaterOn, schedule, run_bind, run_fetch, run_get, hline, htrue,
          Bool.not_true, if_neg Bool.false_ne_true, htaker, hdue, run_put, run_throw]
      rw [outcome_of_run hrun, after_of_run hrun]
      exact .skipped ⟨fault, rfl⟩ rfl
    | ok due =>
      obtain ⟨text, htext⟩ := fixedText_of_dueAfter hdue (w.armed t b due callback) 3
      have hrun : w.run (armTimer call b delay callback) =
          (.ok (.handle t (w.row t : Timeline).nextSeq),
            (w.armed t b due callback).after
              (debug timersLogger ("Armed timer for " ++ text ++ "s"))) := by
        simp only [armTimer, callLaterOn, schedule, run_bind, run_fetch, run_get, hline, htrue,
          Bool.not_true, if_neg Bool.false_ne_true, htaker, hdue, run_put, run_pure, run_needKey,
          Value.unhashable?, run_update]
        have htext' : fixedText ((w.withRow t ((w.row t : Timeline).schedule due
            (.banked b callback))).withRow b (((w.withRow t ((w.row t : Timeline).schedule due
              (.banked b callback))).row b).add (.handle t (w.row t : Timeline).nextSeq))) 3 delay =
            .ok text := htext
        simp only [htext', run_orFail]
        rfl
      rw [outcome_of_run hrun, after_of_run hrun]
      exact .armed rfl (Quiet.emit _ _ _ _ _)
  · have hrun : w.run (armTimer call b delay callback) = (.error .noTimeline, w) := by
      simp only [armTimer, run_bind, run_fetch, run_get, hline]
      rfl
    rw [outcome_of_run hrun, after_of_run hrun]
    exact .refused ⟨_, rfl⟩ rfl

end World.Intact

/-! ## Cancelling -/

/-- The state in which a bank has cancelled a timer, which need not be one of its own. -/
def World.cancelled (w : World) (t : Ref .timeline) (b : Ref .bank) (seq : Nat) : World :=
  (World.withRow { w with assigned := w.assigned.erase (.timer t seq, cancelledName) } t
    ((w.row t : Timeline).cancel seq)).withRow b ((w.row b : Bank).discard (.handle t seq))

namespace World.Intact

variable {w : World} (hw : w.Intact)
include hw

/-- Cancelling cancels the timer, whatever bank is asked. -/
theorem run_cancelTimer (call : Caller) (t : Ref .timeline) (b : Ref .bank) (seq : Nat) :
    w.run (cancelTimer call b (.handle t seq)) =
      (.ok (), (w.cancelled t b seq).after (debug timersLogger "Cancelled timer")) := by
  have hown : w.assigned.get? (.timer t seq, Method.cancel.word) = none :=
    hw _ _ (.inl ⟨.cancel, rfl⟩)
  simp only [cancelTimer, cancelHandle, Value.isNone, Bool.not_false, if_true, run_bind, run_get,
    hown, cancelOn, run_modify, run_update, run_needKey, Value.unhashable?]
  rfl

theorem cancelled (t : Ref .timeline) (b : Ref .bank) (seq : Nat) : (w.cancelled t b seq).Intact :=
  hw.erase rfl

end World.Intact

/-! ## Firing -/

/-- What is called when a timer fires. -/
def Timer.callback (timer : Timer) : Value :=
  match timer.alarm with
  | .banked _ callback | .direct callback => callback

/-- The state in which a timer is about to call back: it has left the line and its bank. -/
def World.ringing (w : World) (t : Ref .timeline) (seq : Nat) (timer : Timer) : World :=
  match timer.alarm with
  | .banked b _ =>
    (w.withRow t ((w.row t : Timeline).reach seq timer.due)).withRow b
      ((w.row b : Bank).discard (.handle t seq))
  | .direct _ => w.withRow t ((w.row t : Timeline).reach seq timer.due)

/-- A timer that fires calls back. -/
theorem after_ring (w : World) (call : Caller) (t : Ref .timeline) (seq : Nat) (timer : Timer) :
    (w.withRow t ((w.row t : Timeline).reach seq timer.due)).after (ring call t seq timer.alarm) =
      (w.ringing t seq timer).after (call timer.callback []) := by
  unfold World.ringing Timer.callback
  cases timer.alarm with
  | banked b callback => exact World.after_bind_pure _ (call callback []) fun _ => ()
  | direct callback => exact World.after_bind_pure _ (call callback []) fun _ => ()

end Understudy

import Understudy.Proofs.DailyCycle
import Understudy.Proofs.DueTimers

/-!
# The passing of time

When time passes timers fire, those of a session and others. A tended session stays tended
through any number of them, and is left alone while it has no timer.

## Main statements

* `Tended.fire`: one timer fires.
* `Tended.advance`: time is moved on.
-/

namespace Understudy

/-- Another time on a timeline changes no timer. The number zero is that of none. -/
theorem Timeline.timer?_withNow (line : Timeline) (now : Float) (seq : Nat) :
    Timeline.timer? { line with now := now } seq = line.timer? seq := by
  cases seq <;> rfl

/-- A note does not touch a session. -/
theorem World.Untouched.withNote {reg : Ref .registry} {s : Ref .session} (w : World)
    (note : List Value) : w.Untouched reg s (w.withNote note) :=
  ⟨.of_eq (fun hs => ⟨hs.intact.congr rfl, hs.sound⟩) rfl rfl, rfl, rfl⟩

namespace Tended

variable {guarded : Prop} {reg : Ref .registry} {s : Ref .session} {t : Ref .timeline}
  {w w' : World}

/-- What a session does not have the handle of may be taken off the line. -/
theorem dropOther (h : Tended guarded reg s t w) {line : Timeline} {seq : Nat}
    {dropped : Option Timer} (hdropped : ∀ timer, dropped = some timer → timer.live = false)
    (hline : ∀ other, line.timer? other =
      if other = seq then dropped else (w.row t : Timeline).timer? other)
    (hnot : (w.row s : Session).handle ≠ .handle t seq) :
    Tended guarded reg s t (w.withRow t line) := by
  refine h.drop (.withRow_timeline w t _) rfl (fun t' ht => ?_) hdropped (fun other => ?_)
    (fun hsame => absurd hsame hnot) (fun _ => rfl) h.running h.unready h.stopped
  · rw [World.row_withRow, if_neg ht]
  · rw [World.row_withRow_self]
    exact hline other

/-- A cancelled timer is taken off the line, and nothing else happens. -/
theorem takeCancelled (h : Tended guarded reg s t w) {seq : Nat} {timer : Timer}
    (htimer : (w.row t : Timeline).timer? seq = some timer) (hcancelled : timer.cancelled = true) :
    Tended guarded reg s t (w.withRow t ((w.row t : Timeline).take seq)) := by
  refine h.dropOther (fun _ => Timer.live_of_taken) (Timeline.timer?_take _ seq) ?_
  rw [Ne, ← h.awaits]
  rintro ⟨timer', htimer', hlive, _⟩
  obtain rfl := Option.some.inj (htimer'.symm.trans htimer)
  rw [Timer.live, hcancelled] at hlive
  cases hlive

end Tended

namespace World

variable (w : World) (t : Ref .timeline) (seq : Nat) (timer : Timer)

theorem row_ringing_timeline (t' : Ref .timeline) :
    (w.ringing t seq timer).row t' =
      (w.withRow t ((w.row t : Timeline).reach seq timer.due)).row t' := by
  unfold ringing
  cases timer.alarm <;> rfl

theorem row_ringing_session (s : Ref .session) :
    (w.ringing t seq timer).row s = (w.row s : Session) := by
  unfold ringing
  cases timer.alarm <;> rfl

theorem steady_ringing (reg : Ref .registry) : w.Steady reg (w.ringing t seq timer) := by
  unfold ringing
  cases timer.alarm with
  | banked b callback => exact Steady.withRow_bank (.withRow_timeline w t _) rfl
  | direct callback => exact .withRow_timeline w t _

end World

namespace Tended

variable {guarded : Prop} {reg : Ref .registry} {s : Ref .session} {t : Ref .timeline}
  {w w' : World}

theorem timer?_ringing (w : World) (t : Ref .timeline) (seq : Nat) (timer : Timer) (other : Nat) :
    ((w.ringing t seq timer).row t : Timeline).timer? other =
      if other = seq then
        ((w.row t : Timeline).timer? seq).map fun timer => { timer with taken := true }
      else (w.row t : Timeline).timer? other := by
  rw [World.row_ringing_timeline, World.row_withRow_self, Timeline.timer?_reach]

/-- When the timer of a session is about to call it, there is no other one. -/
theorem ringing_own (h : Tended guarded reg s t w) {seq : Nat} {timer : Timer}
    (hhandle : (w.row s : Session).handle = .handle t seq) :
    Tended guarded reg s t ((w.ringing t seq timer).withRow s
      { ((w.ringing t seq timer).row s : Session) with handle := .none }) := by
  let w' : World := (w.ringing t seq timer).withRow s
    { ((w.ringing t seq timer).row s : Session) with handle := .none }
  have hsession : w'.row s = { (w.row s : Session) with handle := .none } := by
    rw [World.row_withRow_self, World.row_ringing_session]
  have hrow (t' : Ref .timeline) : w'.row t' = ((w.ringing t seq timer).row t' : Timeline) := rfl
  refine h.drop ((w.steady_ringing t seq timer reg).trans (.withRow_session _ s _)) ?_
    (fun t' ht => ?_) (fun _ => Timer.live_of_taken) (timer?_ringing w t seq timer) (fun _ => ?_)
    (fun hno => absurd hhandle hno) ?_ (fun hnone => ?_) (fun _ => ?_)
  · rw [hsession]
    rfl
  · rw [hrow, World.row_ringing_timeline, World.row_withRow, if_neg ht]
  · rw [hsession]
  · rw [hsession]
    exact h.running
  · rw [hsession]
    exact h.unready hnone
  · rw [hsession]

/-- When another timer is about to call back, the session keeps its own. -/
theorem ringing_other (h : Tended guarded reg s t w) {seq : Nat} {timer : Timer}
    (hhandle : (w.row s : Session).handle ≠ .handle t seq) :
    Tended guarded reg s t (w.ringing t seq timer) := by
  have hsession := w.row_ringing_session t seq timer s
  refine h.drop (w.steady_ringing t seq timer reg) ?_ (fun t' ht => ?_)
    (fun _ => Timer.live_of_taken) (timer?_ringing w t seq timer)
    (fun hsame => absurd hsame hhandle) (fun _ => ?_) ?_ (fun hnone => ?_) ?_
  · rw [hsession]
  · rw [World.row_ringing_timeline, World.row_withRow, if_neg ht]
  · rw [hsession]
  · rw [hsession]
    exact h.running
  · rw [hsession]
    exact h.unready hnone
  · rw [hsession]
    exact h.stopped

/-- A timer that fires leaves a session tended, and alone if it is not the session's own. -/
theorem fire (h : Tended guarded reg s t w) {seq : Nat} {timer : Timer}
    (htimer : (w.row t : Timeline).timer? seq = some timer) (hlive : timer.live = true)
    (depth : Nat) :
    let after := (w.withRow t ((w.row t : Timeline).reach seq timer.due)).after
      (ring (invokeWithin (depth + 1)) t seq timer.alarm)
    Tended guarded reg s t after ∧
      ((w.row s : Session).handle = .none → after.row s = (w.row s : Session)) := by
  intro after
  have hafter : after = (w.ringing t seq timer).after
      (invokeWithin (depth + 1) timer.callback []) := after_ring w _ t seq timer
  rw [hafter]
  by_cases hcalls : timer.Calls s
  · have hhandle := (h.awaits t seq).1 ⟨timer, htimer, hlive, hcalls⟩
    obtain ⟨serial, hcallback⟩ := hcalls
    rw [hcallback, World.after, run_invoke_dailyTimeout, run_nothing, hhandle]
    refine ⟨onDailyTimeout depth (h.ringing_own hhandle), fun hno => ?_⟩
    cases hno
  · have hhandle : (w.row s : Session).handle ≠ .handle t seq := by
      rw [Ne, ← h.awaits]
      rintro ⟨timer', htimer', _, hcalls'⟩
      exact hcalls (Option.some.inj (htimer'.symm.trans htimer) ▸ hcalls')
    have haloof := (h.others seq timer htimer hlive).resolve_left hcalls
    have huntouched := haloof (depth + 1) (w.ringing t seq timer)
    refine ⟨(h.ringing_other hhandle).filled huntouched.filled, fun _ => ?_⟩
    rw [huntouched.session, World.row_ringing_session]

/-- However many timers fire, the session stays tended, and alone if none is its own. -/
theorem fireDue (goal : Decimal.Parts) (depth limit : Nat) (h : Tended guarded reg s t w) :
    Tended guarded reg s t (w.after (fireDue (invokeWithin (depth + 1)) t goal limit)) ∧
      ((w.row s : Session).handle = .none →
        (w.after (Understudy.fireDue (invokeWithin (depth + 1)) t goal limit)).row s =
          (w.row s : Session)) := by
  induction limit generalizing w with
  | zero => exact ⟨h, fun _ => rfl⟩
  | succ limit ih =>
    obtain hafter | ⟨seq, timer, htimer, hcancelled, hafter⟩ |
      ⟨seq, timer, note, htimer, hlive, hafter⟩ :=
        fireDue_cases (invokeWithin (depth + 1)) limit w t goal
    · rw [hafter]
      exact ⟨h, fun _ => rfl⟩
    · rw [hafter]
      exact ih (h.takeCancelled htimer hcancelled)
    · rw [hafter]
      obtain ⟨hfired, hkept⟩ := h.fire htimer hlive depth
      obtain ⟨hrest, hsame⟩ := ih (hfired.filled (World.Untouched.withNote _ note).filled)
      refine ⟨hrest, fun hn => ?_⟩
      have hfirst := hkept hn
      exact (hsame ((congrArg Session.handle hfirst).trans hn)).trans hfirst

/-- Showing another time changes no timer. -/
theorem showTime (h : Tended guarded reg s t w) (now : Float) :
    Tended guarded reg s t (w.withRow t { (w.row t : Timeline) with now := now }) := by
  -- No timer has the number zero, so that none is given up.
  have hline (line : Timeline) (other : Nat) :
      Timeline.timer? { line with now := now } other =
        if other = 0 then none else line.timer? other := by
    cases other <;> rfl
  refine h.dropOther ?_ (hline _) ?_
  · exact fun _ hno => nomatch hno
  · rw [Ne, ← h.awaits]
    rintro ⟨timer, htimer, _⟩
    cases htimer

/-- However far time is moved on, the session stays tended, and alone if it has no timer. -/
theorem advance (h : Tended guarded reg s t w) (depth : Nat) (goal : Value) :
    Tended guarded reg s t (w.after (advance (invokeWithin (depth + 1)) t goal)) ∧
      ((w.row s : Session).handle = .none →
        (w.after (Understudy.advance (invokeWithin (depth + 1)) t goal)).row s =
          (w.row s : Session)) := by
  obtain ⟨w₁, w₂, hfirst, hlike, hlast⟩ := advance_cases w (invokeWithin (depth + 1)) t goal
  have hfired : Tended guarded reg s t w₁ ∧
      ((w.row s : Session).handle = .none → w₁.row s = (w.row s : Session)) := by
    obtain rfl | ⟨limit, rfl⟩ := hfirst
    · exact ⟨h, fun _ => rfl⟩
    · exact h.fireDue limit depth fireLimit
  have hspelled : w₁.Untouched reg s w₂ := .of_alike hlike
  have h₂ := hfired.1.filled hspelled.filled
  have hsame (hn : (w.row s : Session).handle = .none) : w₂.row s = (w.row s : Session) :=
    hspelled.session.trans (hfired.2 hn)
  obtain hafter | ⟨now, hafter⟩ := hlast
  · rw [hafter]
    exact ⟨h₂, hsame⟩
  · rw [hafter]
    exact ⟨h₂.showTime now, hsame⟩

end Tended

end Understudy

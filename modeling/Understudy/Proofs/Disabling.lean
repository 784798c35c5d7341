import Understudy.Proofs.UnknownTimers
import Understudy.Proofs.LastTimer

/-!
# Disabling timers

To disable the timers of a session is to replace its hooks by those that do nothing. A timer
that the session has at the time is not cancelled by it. So the session goes on collecting,
once for every timer that is left, and stops when there is none.

## Main definitions

* `World.Disables`: what it comes to that the timers of a session were disabled.

## Main statements

* `Lifetime.disables`: what it comes to in whatever state the session is.
* `sessionDisabled_collects`: a session that collects although its timers were disabled.
-/

namespace Understudy

/-! ## What a timer that is left collects -/

section

variable {idle : Prop} {reg : Ref .registry} {s : Ref .session} {t : Ref .timeline} {w : World}

/-- What follows a run does not fail only if the run did not fail. -/
theorem ok_of_concludeRun {call : Caller} {outcome : Except Fault Value}
    (h : w.outcome (concludeRun call s outcome) = .ok ()) : ∃ v, outcome = .ok v := by
  cases outcome with
  | ok v => exact ⟨v, rfl⟩
  | error fault =>
    obtain ⟨_, _, h⟩ := World.outcome_bind_eq_ok.1 h
    obtain ⟨_, _, h⟩ := World.outcome_bind_eq_ok.1 h
    obtain ⟨_, _, h⟩ := World.outcome_bind_eq_ok.1 h
    dsimp only at h
    split at h
    · obtain ⟨_, _, h⟩ := World.outcome_bind_eq_ok.1 h
      cases h
    · cases h

namespace Attended

/-- A session that is called by a timer collects once, if that does not fail. -/
theorem collections_of_onDailyTimeout (h : Attended idle reg s t w) (depth : Nat) :
    let timeout := Understudy.onDailyTimeout (invokeWithin depth) s
    w.outcome timeout = .ok () →
      ∃ v, ((w.after timeout).row s : Session).collections =
        (w.row s : Session).collections ++ [v] := by
  intro timeout hok
  have hrun := h.equipped.sane.intact.run_onDailyTimeout (invokeWithin depth) s
  rw [World.outcome, hrun, ← World.outcome] at hok
  rw [World.after, hrun, ← World.after]
  have hgiven := h.withSession { (w.row s : Session) with handle := .none } rfl rfl (.inl rfl)
    h.running h.unready
  revert hgiven hok
  generalize w.withRow s { (w.row s : Session) with handle := .none } = w₀
  intro hok hgiven
  obtain ⟨v, hv⟩ := ok_of_concludeRun hok
  have hcollected := hgiven.attended.equipped.collections_of_collectDaily depth hv
  have hattended := (hgiven.attended.collectDaily depth).attended
  have hagain := (hattended.armAgain depth (Quiet.pure ())).collections
  rw [hv]
  exact ⟨v, hagain.trans (hcollected.trans (by rw [hgiven.collections]))⟩

/-- A timer that calls a session adds one collection when it fires, if that does not fail. -/
theorem collections_of_ring (h : Attended idle reg s t w) {seq : Nat} {timer : Timer}
    (hcalls : timer.Calls s) (depth : Nat) :
    let reached := w.withRow t ((w.row t : Timeline).reach seq timer.due)
    let ringing := ring (invokeWithin (depth + 1)) t seq timer.alarm
    reached.outcome ringing = .ok () →
      ∃ v, ((reached.after ringing).row s : Session).collections =
        (w.row s : Session).collections ++ [v] := by
  intro reached ringing hok
  obtain ⟨hcalled, hafter⟩ := ring_of_calls hcalls depth hok
  rw [hafter, ← w.row_ringing_session t seq timer s]
  exact (h.ringing seq timer).collections_of_onDailyTimeout depth hcalled

end Attended

end

/-! ## What it comes to -/

/-- The state in which the timers of the session of an injector were disabled. -/
def World.disabled (w : World) (i : Ref .injector) : World := w.after (disableTimers invoke i)

/-- What it comes to that the timers of a session were disabled, as long as its hooks are not
replaced by others again. -/
structure World.Disables (reg : Ref .registry) (s : Ref .session) (t : Ref .timeline)
    (w : World) : Prop where
  /-- If no timer is left, the passing of time collects nothing. -/
  settled (h : ∀ t' seq, ¬w.Awaits s t' seq) (w' : World)
    (hlife : Lifetime reg s t (fun _ turn => turn.Idles) w w') (goal : Value) :
    ((w'.after (advance invoke t goal)).row s : Session).collections =
      (w'.row s : Session).collections
  /-- What the passing of time collects is paid for by timers that were left. -/
  spends (w' : World) (hlife : Lifetime reg s t (fun _ turn => turn.Idles) w w') (goal : Value) :
    w'.Spends s t 0 (w'.after (advance invoke t goal))
  /-- So there are no more collections in all than there were timers left, but for those that
  are asked for. -/
  bounded (w' : World)
    (hlife : Lifetime reg s t (fun _ turn => turn.Idles ∧ turn ≠ .collect) w w') :
    ∃ added, (w'.row s : Session).collections = (w.row s : Session).collections ++ added ∧
      added.length ≤ w.waiting s t
  /-- A timer that is left adds a collection when it fires, unless it fails. -/
  leaks (w' : World) (hlife : Lifetime reg s t (fun _ turn => turn.Idles) w w') {seq : Nat}
    {timer : Timer} (htimer : (w'.row t : Timeline).timer? seq = some timer)
    (hlive : timer.live = true) (hcalls : timer.Calls s) :
    let reached := w'.withRow t ((w'.row t : Timeline).reach seq timer.due)
    let ringing := ring invoke t seq timer.alarm
    reached.outcome ringing = .ok () →
      ∃ v, ((reached.after ringing).row s : Session).collections =
        (w'.row s : Session).collections ++ [v]

section

variable {reg : Ref .registry} {s : Ref .session} {t : Ref .timeline} {w w₀ : World}

/-- Where no timer is left there is nothing to pay with. -/
theorem World.Spends.collections {w' : World} (h : w.Spends s t 0 w') (hnone : w.waiting s t = 0) :
    (w'.row s : Session).collections = (w.row s : Session).collections := by
  obtain ⟨_, added, hadded, hpaid⟩ := h
  have hempty : added = [] := List.eq_nil_of_length_eq_zero (by omega)
  rw [hadded, hempty, List.append_nil]

/-- What is collected in a life without asking for it is paid for. -/
theorem Lifetime.spends (h : Lifetime reg s t (fun _ turn => turn.Idles ∧ turn ≠ .collect) w₀ w)
    (h₀ : Attended True reg s t w₀) : Spending True 0 reg s t w₀ w := by
  induction h with
  | begin => exact h₀.attending.spending
  | turn _ turn fits allowed ih =>
    have hturn := ih.attended.turn turn fits fun _ => allowed.1
    have hfree : turn.credit = 0 := by
      cases turn with
      | collect => exact absurd rfl allowed.2
      | _ => rfl
    rw [hfree] at hturn
    exact ih.trans hturn
  | elsewhere _ aside ih => exact ih.trans (ih.attended.untouched aside).spending

/-- What it comes to for a session whose hooks do nothing. -/
theorem Attended.disabling (h : Attended True reg s t w) : w.Disables reg s t := by
  have hlater {w' : World} (hlife : Lifetime reg s t (fun _ turn => turn.Idles) w w') :=
    hlife.attended h fun _ _ hidles _ => hidles
  refine
    { settled := fun hnone w' hlife goal => ?_
      spends := fun w' hlife goal => ((hlater hlife).1.advance 999 goal).spends trivial
      bounded := fun w' hlife => ?_
      leaks := fun w' hlife seq timer _ _ hcalls =>
        (hlater hlife).1.collections_of_ring hcalls 999 }
  · obtain ⟨hattended, hfewer⟩ := hlater hlife
    have hstart : w.waiting s t = 0 := World.waiting_eq_zero_iff.2 (hnone t)
    refine ((hattended.advance 999 goal).spends trivial).collections ?_
    exact Nat.eq_zero_of_le_zero (hstart ▸ hfewer trivial)
  · obtain ⟨_, added, hadded, hpaid⟩ := (hlife.spends h).spends trivial
    exact ⟨added, hadded, by omega⟩

/-- An injector that can disable the timers of a session finds it set up. -/
theorem Equipped.policy_of_disableTimers (h : Equipped reg s t w) {i : Ref .injector}
    (hi : (w.row i : Injector).owner = .ofRef s)
    (hreturned : (w.outcome (disableTimers invoke i)).isOk = true) :
    ∃ p : Ref .policy, (w.row s : Session).policy = .ofRef p := by
  rcases h.policy with hnone | ⟨p, hp, _⟩
  · have hrun : w.run (disableTimers invoke i) = w.run (refuseOwner invoke i) := by
      rw [disableTimers, h.sane.intact.run_request invoke i _ _ rfl, overrideScheduling_eq,
        World.run_bind_of_run (World.run_fetch w i), hi,
        World.run_bind_of_run (h.sane.intact.run_policyOf invoke s), hnone]
      rfl
    rw [World.outcome, hrun, ← World.outcome] at hreturned
    cases houtcome : w.outcome (refuseOwner invoke i) with
    | error fault =>
      rw [houtcome] at hreturned
      cases hreturned
    | ok v =>
      -- Refusing is nothing but failing, once the name of the owner was read.
      obtain ⟨_, _, hrest⟩ := World.outcome_bind_eq_ok.1 houtcome
      obtain ⟨_, _, hrest⟩ := World.outcome_bind_eq_ok.1 hrest
      obtain ⟨_, _, hrest⟩ := World.outcome_bind_eq_ok.1 hrest
      cases hrest
  · exact ⟨p, hp⟩

/-- When the timers of a session have been disabled, whatever happened to it before, then the
timers that it has at the time decide what it collects from then on. -/
theorem Lifetime.disables (hfresh : w₀.Fresh reg s t)
    (h : Lifetime reg s t (fun _ _ => True) w₀ w) {i : Ref .injector}
    (hi : (w.row i : Injector).owner = .ofRef s)
    (hreturned : (w.outcome (disableTimers invoke i)).isOk = true) :
    (w.disabled i).Disables reg s t := by
  obtain ⟨hattended, _⟩ := h.attended hfresh.attended fun _ _ _ => False.elim
  obtain ⟨p, hp⟩ := hattended.equipped.policy_of_disableTimers hi hreturned
  have hdisabled := hattended.overrideScheduling invoke hi (.idle 0 0) hp
    fun _ : True => ⟨0, 0, rfl, rfl⟩
  have hrun : w.disabled i =
      w.after (overrideScheduling invoke i (.function 0 .idleArm) (.function 0 .idleCancel)) := by
    rw [World.disabled, disableTimers, World.after,
      hattended.equipped.sane.intact.run_request invoke i _ _ rfl]
    rfl
  rw [hrun]
  exact hdisabled.attended.disabling

end

/-- The timers of the session that was started on the bench can be disabled. -/
theorem sessionStarted_disables : (sessionStarted.disabled ⟨0⟩).Disables ⟨0⟩ ⟨0⟩ ⟨0⟩ :=
  Lifetime.disables sessionBench_fresh
    (sessionStarted_lifetime (fun _ _ => trivial) (fun _ => trivial) fun _ => trivial)
    sessionDisabling_fits.1 (by decide +kernel)

/-- Disabling the timers of a session does not keep it from collecting once more, if it has a
timer at the time. -/
theorem sessionDisabled_collects :
    ¬∀ (reg : Ref .registry) (s : Ref .session) (t : Ref .timeline) (i : Ref .injector)
      (w₀ w w' : World), w₀.Fresh reg s t → Lifetime reg s t (fun _ _ => True) w₀ w →
        (w.row i : Injector).owner = .ofRef s →
          (w.outcome (disableTimers invoke i)).isOk = true →
            Lifetime reg s t (fun _ turn => turn.Idles) (w.disabled i) w' → ∀ goal,
              ((w'.after (advance invoke t goal)).row s : Session).collections =
                (w'.row s : Session).collections := by
  intro hgeneral
  have hstarted : Lifetime ⟨0⟩ ⟨0⟩ ⟨0⟩ (fun _ _ => True) sessionBench sessionStarted :=
    sessionStarted_lifetime (fun _ _ => trivial) (fun _ => trivial) fun _ => trivial
  have hreturned : (sessionStarted.outcome (disableTimers invoke ⟨0⟩)).isOk = true := by
    decide +kernel
  have hsame := hgeneral ⟨0⟩ ⟨0⟩ ⟨0⟩ ⟨0⟩ _ _ _ sessionBench_fresh hstarted sessionDisabling_fits.1
    hreturned .begin (.ofInt 60)
  have hbefore : ((sessionStarted.disabled ⟨0⟩).row
      (⟨0⟩ : Ref .session) : Session).collections.length = 0 := by decide +kernel
  have hafter : (((sessionStarted.disabled ⟨0⟩).later (.advance (.ofInt 60))).row
      (⟨0⟩ : Ref .session) : Session).collections.length = 1 := by decide +kernel
  have hlength := hafter.symm.trans ((congrArg List.length hsame).trans hbefore)
  cases hlength

end Understudy

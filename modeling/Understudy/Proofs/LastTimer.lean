import Understudy.Proofs.OneTimer

/-!
# After the last timer

A session that is shut down with hooks that can cancel its timer collects nothing more by
itself. If its hooks cannot cancel the timer that it has the handle of, then the timer is left,
and when it fires there is one more collection. Nothing else decides between the two.

## Main definitions

* `World.Stops`: what shutting down comes to.

## Main statements

* `Lifetime.stops`: what shutting down comes to as long as it was always done with hooks that
  could cancel.
* `sessionLeft_collects`: a session whose timers were disabled while it had one.
-/

namespace Understudy

/-! ## A timer that is left -/

section

variable {reg : Ref .registry} {s : Ref .session} {t : Ref .timeline} {w : World}

/-- A timer that fires without a fault has called back without one. -/
theorem outcome_ring {call : Caller} {seq : Nat} {timer : Timer}
    (h : (w.withRow t ((w.row t : Timeline).reach seq timer.due)).outcome
      (ring call t seq timer.alarm) = .ok ()) :
    ∃ v, (w.ringing t seq timer).outcome (call timer.callback []) = .ok v := by
  unfold World.ringing Timer.callback
  cases halarm : timer.alarm with
  | banked b callback =>
    rw [halarm] at h
    obtain ⟨_, _, h⟩ := World.outcome_bind_eq_ok.1 h
    obtain ⟨_, _, h⟩ := World.outcome_bind_eq_ok.1 h
    obtain ⟨v, hv, _⟩ := World.outcome_bind_eq_ok.1 h
    exact ⟨v, hv⟩
  | direct callback =>
    rw [halarm] at h
    obtain ⟨v, hv, _⟩ := World.outcome_bind_eq_ok.1 h
    exact ⟨v, hv⟩

/-- Nothing follows a run of a session that does not run, but the fault of the run. -/
theorem concludeRun_of_stopped (call : Caller)
    (hrunning : (w.row s : Session).running = .bool false)
    {outcome : Except Fault Value} (hok : w.outcome (concludeRun call s outcome) = .ok ()) :
    (∃ v, outcome = .ok v) ∧ w.after (concludeRun call s outcome) = w := by
  have hstopped (w' : World) (hrow : w'.row s = (w.row s : Session)) (finish : Action Unit) :
      w'.run (do
        if (← get).truthy (← fetch s).running then
          askToArm call s
          finish
        else finish) = w'.run finish := by
    rw [World.run_bind_of_run (World.run_get w'), World.run_bind_of_run (World.run_fetch w' s),
      hrow, hrunning]
    rfl
  cases outcome with
  | ok v => exact ⟨⟨v, rfl⟩, congrArg Prod.snd (hstopped w rfl (pure ()))⟩
  | error fault =>
    obtain ⟨_, _, hrest⟩ := World.outcome_bind_eq_ok.1 hok
    have hfailed := hstopped (w.after (emit 40 sessionLogger
      ("Error in daily collection: " ++ fault.message) (some fault.kind))) rfl (throw fault)
    cases (congrArg Prod.fst hfailed).symm.trans hrest

/-- A session that does not run collects when it is called nevertheless, and does no more. -/
theorem Equipped.collections_of_onDailyTimeout (h : Equipped reg s t w)
    (hrunning : (w.row s : Session).running = .bool false) (depth : Nat)
    (hok : w.outcome (onDailyTimeout (invokeWithin depth) s) = .ok ()) :
    ∃ v, ((w.after (onDailyTimeout (invokeWithin depth) s)).row s : Session).collections =
      (w.row s : Session).collections ++ [v] := by
  let given : World := w.withRow s { (w.row s : Session) with handle := .none }
  have hsession : given.row s = { (w.row s : Session) with handle := .none } :=
    World.row_withRow_self _ s _
  have hgiven : Equipped reg s t given :=
    h.steady (.withRow_session w s _) (by rw [hsession]; rfl)
  have hrun := h.sane.intact.run_onDailyTimeout (invokeWithin depth) s
  have hfilled := hgiven.filled_collectDaily depth
  rw [World.outcome, hrun, ← World.outcome] at hok
  have hrunning₁ : ((given.after (collectDaily (invokeWithin depth) s)).row s : Session).running =
      .bool false := (congrArg Session.running hfilled.session).trans
    ((congrArg Session.running hsession).trans hrunning)
  obtain ⟨⟨v, hv⟩, hsame⟩ := concludeRun_of_stopped _ hrunning₁ hok
  refine ⟨v, ?_⟩
  rw [World.after, hrun, ← World.after, hsame, hgiven.collections_of_collectDaily depth hv,
    hsession]

/-- A timer that fires without a fault and calls a session is the session being called. -/
theorem ring_of_calls {seq : Nat} {timer : Timer} (hcalls : timer.Calls s) (depth : Nat) :
    let reached := w.withRow t ((w.row t : Timeline).reach seq timer.due)
    let ringing := ring (invokeWithin (depth + 1)) t seq timer.alarm
    reached.outcome ringing = .ok () →
      (w.ringing t seq timer).outcome (onDailyTimeout (invokeWithin depth) s) = .ok () ∧
        reached.after ringing =
          (w.ringing t seq timer).after (onDailyTimeout (invokeWithin depth) s) := by
  intro reached ringing hok
  obtain ⟨v, hv⟩ := outcome_ring hok
  obtain ⟨serial, hcallback⟩ := hcalls
  have hrun := run_invoke_dailyTimeout (w.ringing t seq timer) depth serial s
  rw [hcallback, World.outcome, hrun, run_nothing] at hv
  constructor
  · cases houtcome : (w.ringing t seq timer).outcome (onDailyTimeout (invokeWithin depth) s) with
    | ok _ => rfl
    | error fault =>
      rw [houtcome] at hv
      cases hv
  · rw [after_ring, hcallback, World.after, hrun, run_nothing]

/-- A timer that calls a session which does not run adds a collection when it fires. -/
theorem Equipped.collections_of_ring (h : Equipped reg s t w)
    (hrunning : (w.row s : Session).running = .bool false) {seq : Nat} {timer : Timer}
    (hcalls : timer.Calls s) (depth : Nat) :
    let reached := w.withRow t ((w.row t : Timeline).reach seq timer.due)
    let ringing := ring (invokeWithin (depth + 1)) t seq timer.alarm
    reached.outcome ringing = .ok () →
      ∃ v, ((reached.after ringing).row s : Session).collections =
        (w.row s : Session).collections ++ [v] := by
  intro reached ringing hok
  obtain ⟨hcalled, hafter⟩ := ring_of_calls hcalls depth hok
  have hsession := w.row_ringing_session t seq timer s
  have hequipped : Equipped reg s t (w.ringing t seq timer) :=
    h.steady (w.steady_ringing t seq timer reg) (congrArg Session.gear hsession)
  rw [hafter, ← hsession]
  exact hequipped.collections_of_onDailyTimeout
    ((congrArg Session.running hsession).trans hrunning) depth hcalled

end

/-! ## What shutting down comes to -/

/-- The state that shutting down leaves. -/
def World.shutDown (w : World) (s : Ref .session) : World := w.after (shutdown invoke s)

/-- What shutting down comes to. -/
structure World.Stops (reg : Ref .registry) (s : Ref .session) (t : Ref .timeline) (w : World) :
    Prop where
  running : ((w.shutDown s).row s : Session).running = .bool false
  /-- No timer that will call the session is left, exactly if the session can be stopped. -/
  settled : (∀ t' seq, ¬(w.shutDown s).Awaits s t' seq) ↔ w.CanStop s
  /-- If it can, nothing is collected by the passing of time until it is started again. -/
  ended (h : w.CanStop s) (w' : World)
    (hlife : Lifetime reg s t (fun _ turn => turn ≠ .start) (w.shutDown s) w') (goal : Value) :
    ((w'.after (advance invoke t goal)).row s : Session).collections =
      (w'.row s : Session).collections
  /-- If it cannot, there is a timer that adds a collection when it fires, unless it fails. -/
  leaks (h : ¬w.CanStop s) :
    ∃ seq timer, ((w.shutDown s).row t : Timeline).timer? seq = some timer ∧ timer.live = true ∧
      let reached := (w.shutDown s).withRow t
        (((w.shutDown s).row t : Timeline).reach seq timer.due)
      let ringing := ring invoke t seq timer.alarm
      reached.outcome ringing = .ok () →
        ∃ v, ((reached.after ringing).row s : Session).collections =
          ((w.shutDown s).row s : Session).collections ++ [v]

/-- A session that is not started again stays as it is, without a timer. -/
theorem Lifetime.resting {reg : Ref .registry} {s : Ref .session} {t : Ref .timeline}
    {w₀ w : World} (h : Lifetime reg s t (fun _ turn => turn ≠ .start) w₀ w)
    (h₀ : Tended False reg s t w₀) (hrunning : (w₀.row s : Session).running = .bool false) :
    Tended False reg s t w ∧ (w.row s : Session).running = .bool false := by
  induction h with
  | begin => exact ⟨h₀, hrunning⟩
  | turn _ turn fits allowed ih =>
    obtain ⟨htended, hrunning⟩ := ih
    have hstays := htended.resting hrunning turn fits False.elim allowed
    refine ⟨htended.turn turn fits False.elim ?_, hstays⟩
    cases turn with
    | shutdown => exact .inl (htended.stopped hrunning)
    | _ => trivial
  | elsewhere _ aside ih =>
    exact ⟨ih.1.filled aside.filled, (congrArg Session.running aside.session).trans ih.2⟩

/-- What shutting down comes to for a session that knows its timers. -/
theorem Tended.stopping {reg : Ref .registry} {s : Ref .session} {t : Ref .timeline} {w : World}
    (h : Tended False reg s t w) : w.Stops reg s t where
  running := (h.shutdown_rests 999).1
  settled := h.shutdown_iff 999
  ended hstop w' hlife goal := by
    obtain ⟨htended, hrunning⟩ := hlife.resting (h.shutdown 999 hstop) (h.shutdown_rests 999).1
    exact congrArg Session.collections ((htended.advance 999 goal).2 (htended.stopped hrunning))
  leaks hstop := by
    obtain ⟨⟨seq, hhandle⟩, hkept⟩ := h.shutdown_kept 999 hstop
    change (w.released s).Alike (w.shutDown s) at hkept
    obtain ⟨timer, htimer, hlive, hcalls⟩ := (h.awaits t seq).2 hhandle
    have hreleased : (w.released s).row s =
        { (w.row s : Session) with running := .bool false, handle := .none } :=
      World.row_withRow_self _ s _
    have hequipped : Equipped reg s t (w.released s) :=
      h.equipped.steady (.withRow_session w s _) (by rw [hreleased]; rfl)
    have hleft := (World.Untouched.of_alike hkept).filled.equipped hequipped
    obtain ⟨log, serial, hafter⟩ := hkept
    have hline : (w.shutDown s).row t = (w.row t : Timeline) := by
      rw [hafter]
      rfl
    refine ⟨seq, timer, hline ▸ htimer, hlive, ?_⟩
    exact hleft.collections_of_ring (h.shutdown_rests 999).1 hcalls 999

/-- As long as a session was shut down only when it could be stopped, whether it can be stopped
decides what shutting down comes to. -/
theorem Lifetime.stops {reg : Ref .registry} {s : Ref .session} {t : Ref .timeline}
    {w₀ w : World} (hfresh : w₀.Fresh reg s t)
    (h : Lifetime reg s t (fun w turn => turn.Clean s w) w₀ w) : w.Stops reg s t :=
  Tended.stopping <| h.tended (hfresh.tended False) fun _ _ _ clean => ⟨False.elim, clean⟩

/-- The session that was started on the bench. -/
theorem sessionStarted_stops : sessionStarted.Stops ⟨0⟩ ⟨0⟩ ⟨0⟩ :=
  Lifetime.stops sessionBench_fresh
    (sessionStarted_lifetime (fun _ _ => trivial) (fun _ => trivial) fun _ => trivial)

/-- The hooks of the session are replaced by those that do nothing. -/
def sessionDisabling : Turn := .override ⟨0⟩ (.function 0 .idleArm) (.function 0 .idleCancel)

/-- The session cannot arm a timer any more, or cancel the one that it has. -/
def sessionDisabled : World := sessionStarted.later sessionDisabling

/-- Time passes after the session was shut down. -/
def sessionLeft : World := (sessionDisabled.shutDown ⟨0⟩).later (.advance (.ofInt 60))

theorem sessionDisabling_fits : sessionDisabling.Fits ⟨0⟩ ⟨0⟩ ⟨0⟩ sessionStarted := by
  have howner : (sessionStarted.row (⟨0⟩ : Ref .injector) : Injector).owner.ref? .session =
      some ⟨0⟩ := by decide +kernel
  exact ⟨Value.eq_ofRef_of_ref? howner, .idle 0 0⟩

/-- Replacing its hooks by those that do nothing does not keep a session from collecting once
more after it was shut down, if it has a timer at the time. -/
theorem sessionLeft_collects :
    ¬∀ (reg : Ref .registry) (s : Ref .session) (t : Ref .timeline) (w₀ w w' : World),
      w₀.Fresh reg s t → Lifetime reg s t (fun _ _ => True) w₀ w →
        Lifetime reg s t (fun _ turn => turn ≠ .start) (w.shutDown s) w' → ∀ goal,
          ((w'.after (advance invoke t goal)).row s : Session).collections =
            (w'.row s : Session).collections := by
  intro hgeneral
  have hstarted : Lifetime ⟨0⟩ ⟨0⟩ ⟨0⟩ (fun _ _ => True) sessionBench sessionStarted :=
    sessionStarted_lifetime (fun _ _ => trivial) (fun _ => trivial) fun _ => trivial
  have hdisabled : Lifetime ⟨0⟩ ⟨0⟩ ⟨0⟩ (fun _ _ => True) sessionBench
      (sessionDisabling.after ⟨0⟩ ⟨0⟩ ⟨0⟩ sessionStarted) :=
    .turn hstarted sessionDisabling sessionDisabling_fits trivial
  have hsame := hgeneral ⟨0⟩ ⟨0⟩ ⟨0⟩ _ _ _ sessionBench_fresh hdisabled .begin (.ofInt 60)
  have hbefore : ((sessionDisabled.shutDown ⟨0⟩).row
      (⟨0⟩ : Ref .session) : Session).collections.length = 0 := by decide +kernel
  have hafter : (sessionLeft.row (⟨0⟩ : Ref .session) : Session).collections.length = 1 := by
    decide +kernel
  have hlength : (sessionLeft.row (⟨0⟩ : Ref .session) : Session).collections.length =
      ((sessionDisabled.shutDown ⟨0⟩).row (⟨0⟩ : Ref .session) : Session).collections.length :=
    congrArg List.length hsame
  rw [hbefore, hafter] at hlength
  cases hlength

end Understudy

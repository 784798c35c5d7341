import Understudy.Proofs.RecordedSession

/-!
# Firing with a recorder

One arming, one fire and one shutdown of a session with the hooks of a recorder, and what
becomes of the session and of the recorder each time. A fire arms the next timer whether its
run succeeds or not.

## Main definitions

* `RecordedSession.Going`: the session runs, and has the handle of the timer that was armed last.
* `RecordedSession.Fired`: what a fire comes to.

## Main statements

* `RecordedSession.Wired.arms`: arming notes the delay, and gives the session the next number.
* `RecordedSession.Going.fires`: a fire keeps what its run finds out, arms the next timer, and ends
  as its run did.
* `RecordedSession.Going.passes`: shutting down passes the handle on.
-/

namespace Understudy

/-! ## Arming -/

/-- What the recorder notes when the session arms its timer: the delay, and the request to the
session that is to be made when the time has come. -/
def RecordedSession.IsArm (k : RecordedSession) (delay arm : Value) : Prop :=
  ∃ serial timeout, arm =
    .tuple serial [delay, .function timeout (.method k.session.object .dailyTimeout)]

theorem World.Intact.run_askToArm {w : World} (hw : w.Intact) (call : Caller) (s : Ref .session) :
    w.run (askToArm call s) = w.run (armDaily call s) := by
  have hrun : w.run (askSession call s .armDaily fun s => nothing (armDaily call s)) =
      w.run (nothing (armDaily call s)) := hw.run_request call s [] _ rfl
  rw [askToArm, World.run_bind, hrun, run_nothing, World.run_eq w (armDaily call s)]
  cases w.outcome (armDaily call s) <;> rfl

/-- The handle is kept, and a number is told. -/
theorem outcome_keepHandle (w : World) (s : Ref .session) {delay handle : Value} {x : Float}
    (hx : delay.float? = some (some x)) : w.outcome (keepHandle s delay handle) = .ok () := by
  have htext (w' : World) : fixedText w' 1 delay = .ok (Decimal.fixed 1 x) := by
    unfold fixedText
    rw [hx]
  rw [keepHandle, World.outcome, World.run_bind_of_run (World.run_update w s _)]
  simp only [World.run_bind, World.run_get, World.run_orFail, htext]
  rfl

/-- A session that arms its timer has the delay noted, and then keeps the number that comes
next. -/
theorem RecordedSession.Wired.run_askToArm {k : RecordedSession} {w : World} (h : k.Wired w)
    (depth : Nat) {last : Int} (hlast : ∃ i, (w.row k.recorder : Recorder).lastHandle = .int i last)
    {delay : Value}
    (hasked : w.outcome (nextDailyDelay (invokeWithin (depth + 1)) k.session) = .ok delay) :
    ∃ (arm : Value) (i : Nat) (noted : World), k.IsArm delay arm ∧
      w.Moves k noted (w.row k.session)
        { (w.row k.recorder : Recorder) with
          arms := (w.row k.recorder : Recorder).arms ++ [arm]
          lastHandle := .int i (last + 1) } ∧
      w.run (askToArm (invokeWithin (depth + 1)) k.session) =
        noted.run (keepHandle k.session delay (.int i (last + 1))) := by
  have hspares : w.Spares k (w.after (nextDailyDelay (invokeWithin (depth + 1)) k.session)) :=
    h.askable.keeps_nextDailyDelay (depth + 1) w (.refl w)
  have hwired := h.spares hspares
  have hdelay : w.run (askDelay (invokeWithin (depth + 1)) k.session) =
      (.ok delay, w.after (nextDailyDelay (invokeWithin (depth + 1)) k.session)) := by
    rw [← hasked, ← World.run_eq]
    exact h.sane.intact.run_request _ k.session [] _ rfl
  generalize w.after (nextDailyDelay (invokeWithin (depth + 1)) k.session) = w₁ at *
  obtain ⟨hook, harm⟩ := hwired.arm
  let timeout : Value := .function w₁.nextSerial (.method k.session.object .dailyTimeout)
  let w₂ : World := { w₁ with nextSerial := w₁.nextSerial + 1 }
  have hlike : w₁.Spares k w₂ := .of_alike ⟨w₁.log, w₁.nextSerial + 1, rfl⟩
  have hbefore : w.Spares k w₂ := hspares.trans hlike
  have hlast' : ∃ i, (w₂.row k.recorder : Recorder).lastHandle = .int i last := by
    rw [hbefore.recorder]
    exact hlast
  obtain ⟨serial, i, next, hcalled⟩ :=
    (hlike.records hwired.records).run_recordArm (invokeWithin depth) delay timeout hlast'
  let arm : Value := .tuple serial [delay, timeout]
  let handle : Value := .int i (last + 1)
  have hnoted : w₂.Moves k (w₂.withArm k.recorder arm handle) (w₂.row k.session)
      { (w₂.row k.recorder : Recorder) with
        arms := (w₂.row k.recorder : Recorder).arms ++ [arm], lastHandle := handle } :=
    .withRow_recorder w₂ _
  have hmoved := (World.Moves.trans hbefore hnoted).spares (.of_alike ⟨w₂.log, next, rfl⟩)
  rw [hbefore.session, hbefore.recorder] at hmoved
  refine ⟨arm, i, _, ⟨serial, _, rfl⟩, hmoved, ?_⟩
  rw [h.sane.intact.run_askToArm, armDaily_eq,
    World.run_bind_of_run (h.sane.intact.run_askPolicy _ h.policy),
    World.run_bind_of_run hdelay,
    World.run_bind_of_run (hwired.sane.intact.run_readAttribute_armHook _ k.policy), harm,
    World.run_bind_of_run (hwired.sane.intact.run_readAttribute_dailyTimeout _ k.session)]
  exact World.run_bind_of_run ((run_invoke_recordArm w₂ depth hook k.recorder delay timeout).trans
    hcalled)

/-- Arming notes the delay, and gives the session the number that comes next. -/
theorem RecordedSession.Wired.arms {k : RecordedSession} {w : World} (h : k.Wired w) (depth : Nat)
    {last : Int}
    (hlast : ∃ i, (w.row k.recorder : Recorder).lastHandle = .int i last) {delay : Value}
    {x : Float}
    (hasked : w.outcome (nextDailyDelay (invokeWithin (depth + 1)) k.session) = .ok delay)
    (hx : delay.float? = some (some x)) :
    w.outcome (askToArm (invokeWithin (depth + 1)) k.session) = .ok () ∧
      ∃ arm i, k.IsArm delay arm ∧
        w.Moves k (w.after (askToArm (invokeWithin (depth + 1)) k.session))
          { (w.row k.session : Session) with handle := .int i (last + 1) }
          { (w.row k.recorder : Recorder) with
            arms := (w.row k.recorder : Recorder).arms ++ [arm]
            lastHandle := .int i (last + 1) } := by
  obtain ⟨arm, i, noted, harm, hnoted, hrun⟩ := h.run_askToArm depth hlast hasked
  refine ⟨?_, arm, i, harm, ?_⟩
  · rw [World.outcome, hrun]
    exact outcome_keepHandle noted k.session hx
  · have hkept := World.Moves.withRow_session (k := k) noted
      { (noted.row k.session : Session) with handle := .int i (last + 1) }
    rw [hnoted.session, hnoted.recorder] at hkept
    rw [World.after, hrun]
    refine (hnoted.trans hkept).spares (.of_alike ?_)
    rw [← hnoted.session]
    exact alike_keepHandle noted k.session delay _

/-! ## Firing -/

/-- Logs the fault of a run. -/
def tellFault : Except Fault Value → Action Unit
  | .error fault =>
    emit 40 sessionLogger ("Error in daily collection: " ++ fault.message) (some fault.kind)
  | .ok _ => pure ()

/-- Passes the fault of a run on. -/
def rethrow : Except Fault Value → Action Unit
  | .error fault => throw fault
  | .ok _ => pure ()

theorem concludeRun_eq (call : Caller) (s : Ref .session) (outcome : Except Fault Value) :
    concludeRun call s outcome = (do
      tellFault outcome
      if (← get).truthy (← fetch s).running then askToArm call s
      rethrow outcome) := by
  cases outcome <;> rfl

/-- The state in which a session collects after its timer has fired. -/
def World.dropped (w : World) (s : Ref .session) : World :=
  w.withRow s { (w.row s : Session) with handle := .none }

/-- The state in which a session arms its timer again, after a run. -/
def World.ran (w : World) (call : Caller) (s : Ref .session) : World :=
  ((w.dropped s).after (collectDaily call s)).after
    (tellFault ((w.dropped s).outcome (collectDaily call s)))

/-- To log a fault does not fail. -/
theorem run_tellFault (w : World) (outcome : Except Fault Value) :
    w.run (tellFault outcome) = (.ok (), w.after (tellFault outcome)) := by
  cases outcome <;> rfl

theorem quiet_tellFault (outcome : Except Fault Value) : Quiet (tellFault outcome) := by
  cases outcome with
  | error fault => exact Quiet.emit _ _ _ _
  | ok _ => exact Quiet.pure ()

namespace RecordedSession.Wired

variable {k : RecordedSession} {w : World} (h : k.Wired w)
include h

theorem dropped : k.Wired (w.dropped k.session) := h.moves (.withRow_session w _) rfl

/-- What has become of a session that has lost its timer, when it arms the next one. -/
theorem moves_ran (depth : Nat) :
    w.Moves k (w.ran (invokeWithin depth) k.session)
      { (w.row k.session : Session) with
        handle := .none
        collections := (w.row k.session : Session).collections ++
          (Collection.kept? ((w.dropped k.session).outcome
            (gather (invokeWithin depth) k.session))).toList }
      (w.row k.recorder) := by
  have hdropped : w.Moves k (w.dropped k.session)
      { (w.row k.session : Session) with handle := .none } (w.row k.recorder) :=
    .withRow_session w _
  have hran : (w.dropped k.session).Moves k (w.ran (invokeWithin depth) k.session) _ _ :=
    (h.dropped.moves_collectDaily depth).spares (.of_alike (quiet_tellFault _ _))
  rw [hdropped.session, hdropped.recorder] at hran
  exact hdropped.trans hran

end RecordedSession.Wired

/-- A firing runs, arms the next timer if the session runs, and then passes on the fault of the
run. -/
theorem World.Intact.run_onDailyTimeout_ran {w : World} (hw : w.Intact) (call : Caller)
    (s : Ref .session) :
    w.run (onDailyTimeout call s) =
      if (w.ran call s).truthy ((w.ran call s).row s : Session).running then
        (w.ran call s).run (do
          askToArm call s
          rethrow ((w.dropped s).outcome (collectDaily call s)))
      else (w.ran call s).run (rethrow ((w.dropped s).outcome (collectDaily call s))) := by
  rw [hw.run_onDailyTimeout, concludeRun_eq]
  show World.run _ (tellFault _ >>= _) = _
  rw [World.run_bind_of_run (run_tellFault _ _)]
  show (w.ran call s).run _ = _
  rw [World.run_bind_of_run (World.run_get _), World.run_bind_of_run (World.run_fetch _ s)]
  split <;> rfl

/-- A session that runs arms its timer again, and then passes on the fault of the run. -/
theorem World.Intact.run_onDailyTimeout_of_running {w : World} (hw : w.Intact) (call : Caller)
    {s : Ref .session} (hrunning : ((w.ran call s).row s : Session).running = .bool true) :
    w.run (onDailyTimeout call s) =
      (w.ran call s).run (do
        askToArm call s
        rethrow ((w.dropped s).outcome (collectDaily call s))) := by
  rw [hw.run_onDailyTimeout_ran, hrunning]
  rfl

/-- To pass the fault of a run on is to end as the run did. -/
theorem outcome_rethrow (w : World) (outcome : Except Fault Value) :
    w.outcome (rethrow outcome) = outcome.map fun _ => () := by
  cases outcome <;> rfl

/-- To pass a fault on changes nothing. -/
theorem after_rethrow (w : World) (outcome : Except Fault Value) :
    w.after (rethrow outcome) = w := by
  cases outcome <;> rfl

/-- The delay until the next run is a number whenever a fire asks for it: for the collection, if
it comes to that, and for the next timer. -/
structure World.FiresPromptly (w : World) (call : Caller) (s : Ref .session) : Prop where
  collecting (identity : Value)
    (h : (w.dropped s).outcome (currentIdentity call s) = .ok identity) :
    ((w.dropped s).after (currentIdentity call s)).Prompt call s
  arming : (w.ran call s).Prompt call s

/-- The cycles go on: the session runs, and has the handle of as many timers as were armed. The
last one of them will call it. -/
structure RecordedSession.Going (k : RecordedSession) (armed : Nat) (w : World) : Prop
    extends k.Wired w where
  running : (w.row k.session : Session).running = .bool true
  handle : ∃ i, (w.row k.session : Session).handle = .int i armed
  last : ∃ i, (w.row k.recorder : Recorder).lastHandle = .int i armed
  next : ∃ delay arm, k.IsArm delay arm ∧ (w.row k.recorder : Recorder).arms.getLast? = some arm

/-- What a fire comes to, by what its run finds out. It ends as the run does, whether that is
done with its collection, fails because there was nothing to be found out, or fails in telling of
what it has added. -/
structure RecordedSession.Fired (k : RecordedSession) (depth : Nat) (w : World)
    (result : Except Fault Collection) : Prop where
  noting : Noting (invokeWithin (depth + 1)) k.session (w.dropped k.session) result
  /-- A fire passes on the fault of its run. -/
  passes : w.outcome (fireLast (invokeWithin (depth + 2)) k.recorder) =
    ((w.dropped k.session).outcome (collectDaily (invokeWithin (depth + 1)) k.session)).map
      fun _ => ()
  /-- A run that finds nothing out fails as it failed to. -/
  fails (fault : Fault) (h : result = .error fault) :
    w.outcome (fireLast (invokeWithin (depth + 2)) k.recorder) = .error fault
  /-- A run does not fail if what it has found out can be told. -/
  ends (collection : Collection) (h : result = .ok collection)
    (words : ((w.dropped k.session).telling (invokeWithin (depth + 1)) k.session collection).Words
      collection) :
    w.outcome (fireLast (invokeWithin (depth + 2)) k.recorder) = .ok ()
  /-- Three texts can be told. -/
  texts (collection : Collection) (h : result = .ok collection)
    (texts : ∀ v ∈ [collection.appId, collection.appVersion, collection.os], v.text? ≠ none) :
    w.outcome (fireLast (invokeWithin (depth + 2)) k.recorder) = .ok ()
  /-- A run fails after it has added what it has found out, if that cannot be told. -/
  untold (collection : Collection) (h : result = .ok collection)
    (unworded : ¬((w.dropped k.session).telling (invokeWithin (depth + 1)) k.session
      collection).Words collection) :
    ∃ fault, w.outcome (fireLast (invokeWithin (depth + 2)) k.recorder) = .error fault

/-- What a fire comes to follows from how it ends. -/
theorem RecordedSession.Fired.of_passes {k : RecordedSession} {depth : Nat} {w : World}
    (h : k.Wired w) (hnoting : Noting (invokeWithin (depth + 1)) k.session (w.dropped k.session)
      ((w.dropped k.session).outcome (gather (invokeWithin (depth + 1)) k.session)))
    (hpasses : w.outcome (fireLast (invokeWithin (depth + 2)) k.recorder) =
      ((w.dropped k.session).outcome (collectDaily (invokeWithin (depth + 1)) k.session)).map
        fun _ => ()) :
    k.Fired depth w
      ((w.dropped k.session).outcome (gather (invokeWithin (depth + 1)) k.session)) := by
  have hends (collection : Collection)
      (hresult : (w.dropped k.session).outcome (gather (invokeWithin (depth + 1)) k.session) =
        .ok collection)
      (hwords : ((w.dropped k.session).telling (invokeWithin (depth + 1)) k.session
        collection).Words collection) :
      w.outcome (fireLast (invokeWithin (depth + 2)) k.recorder) = .ok () := by
    rcases h.dropped.collectDaily_cases (depth + 1) hresult with ⟨_, hok⟩ | ⟨hunworded, _⟩
    · rw [hpasses, hok]
      rfl
    · exact absurd hwords hunworded
  refine ⟨hnoting, hpasses, ?_, hends, ?_, ?_⟩
  · intro fault hfault
    rw [hpasses, outcome_collectDaily_error hfault]
    rfl
  · intro collection hresult htexts
    exact hends collection hresult (World.words_of_texts _ htexts)
  · intro collection hresult hunworded
    rcases h.dropped.collectDaily_cases (depth + 1) hresult with ⟨hwords, _⟩ | ⟨_, fault, hfault⟩
    · exact absurd hwords hunworded
    · refine ⟨fault, ?_⟩
      rw [hpasses, hfault]
      rfl

namespace RecordedSession.Going

variable {k : RecordedSession} {armed : Nat} {w w' : World}

theorem spares (h : k.Going armed w) (hs : w.Spares k w') : k.Going armed w' where
  toWired := h.toWired.spares hs
  running := hs.session ▸ h.running
  handle := hs.session ▸ h.handle
  last := hs.recorder ▸ h.last
  next := hs.recorder ▸ h.next

/-- When the time of its timer comes, the session is called. -/
theorem run_fireLast (h : k.Going armed w) (depth : Nat) :
    w.run (fireLast (invokeWithin (depth + 2)) k.recorder) =
      w.run (onDailyTimeout (invokeWithin (depth + 1)) k.session) := by
  obtain ⟨delay, arm, ⟨serial, timeout, rfl⟩, hlast⟩ := h.next
  rw [h.records.run_fireLast _ hlast, World.outcome, World.after, run_invoke_dailyTimeout,
    run_nothing, World.run_eq w (onDailyTimeout (invokeWithin (depth + 1)) k.session)]
  cases w.outcome (onDailyTimeout (invokeWithin (depth + 1)) k.session) <;> rfl

/-- A fire runs, arms the next timer, and then passes on the fault of its run. -/
theorem run_fire (h : k.Going armed w) (depth : Nat)
    (hprompt : (w.ran (invokeWithin (depth + 1)) k.session).Prompt (invokeWithin (depth + 1))
      k.session) :
    ∃ (delay arm : Value) (i : Nat) (next : World),
      (w.ran (invokeWithin (depth + 1)) k.session).outcome
        (nextDailyDelay (invokeWithin (depth + 1)) k.session) = .ok delay ∧
      k.IsArm delay arm ∧
      w.Moves k next
        { (w.row k.session : Session) with
          handle := .int i (armed + 1)
          collections := (w.row k.session : Session).collections ++
            (Collection.kept? ((w.dropped k.session).outcome
              (gather (invokeWithin (depth + 1)) k.session))).toList }
        { (w.row k.recorder : Recorder) with
          arms := (w.row k.recorder : Recorder).arms ++ [arm]
          lastHandle := .int i (armed + 1) } ∧
      w.run (fireLast (invokeWithin (depth + 2)) k.recorder) =
        next.run (rethrow ((w.dropped k.session).outcome
          (collectDaily (invokeWithin (depth + 1)) k.session))) := by
  have hmoved := h.moves_ran (depth + 1)
  have hwired : k.Wired (w.ran (invokeWithin (depth + 1)) k.session) := h.toWired.moves hmoved rfl
  have hrunning : ((w.ran (invokeWithin (depth + 1)) k.session).row k.session : Session).running =
      .bool true := (congrArg Session.running hmoved.session).trans h.running
  have hlast : ∃ i, ((w.ran (invokeWithin (depth + 1)) k.session).row k.recorder :
      Recorder).lastHandle = .int i armed := by
    rw [hmoved.recorder]
    exact h.last
  obtain ⟨delay, x, hasked, hx⟩ := hprompt
  obtain ⟨harmed, arm, i, harm, hafter⟩ := hwired.arms depth hlast hasked hx
  rw [hmoved.session, hmoved.recorder] at hafter
  refine ⟨delay, arm, i, _, hasked, harm, hmoved.trans hafter, ?_⟩
  rw [h.run_fireLast, h.sane.intact.run_onDailyTimeout_of_running _ hrunning, World.run_bind,
    World.run_eq, harmed]

/-- A fire keeps what its run finds out, arms the next timer, and ends as its run did. -/
theorem fires (h : k.Going armed w) (depth : Nat)
    (hprompt : w.FiresPromptly (invokeWithin (depth + 1)) k.session) :
    ∃ result delay arm i, k.Fired depth w result ∧
      (w.ran (invokeWithin (depth + 1)) k.session).outcome
        (nextDailyDelay (invokeWithin (depth + 1)) k.session) = .ok delay ∧
      k.IsArm delay arm ∧
      w.Moves k (w.after (fireLast (invokeWithin (depth + 2)) k.recorder))
        { (w.row k.session : Session) with
          handle := .int i (armed + 1)
          collections := (w.row k.session : Session).collections ++
            (Collection.kept? result).toList }
        { (w.row k.recorder : Recorder) with
          arms := (w.row k.recorder : Recorder).arms ++ [arm]
          lastHandle := .int i (armed + 1) } := by
  obtain ⟨delay, arm, i, next, hasked, harm, hmoved, hrun⟩ := h.run_fire depth hprompt.arming
  have hpasses : w.outcome (fireLast (invokeWithin (depth + 2)) k.recorder) =
      ((w.dropped k.session).outcome (collectDaily (invokeWithin (depth + 1)) k.session)).map
        fun _ => () := by
    rw [World.outcome, hrun]
    exact outcome_rethrow next _
  refine ⟨_, delay, arm, i,
    .of_passes h.toWired (h.dropped.noting (depth + 1) hprompt.collecting) hpasses, hasked, harm,
    ?_⟩
  rw [World.after, hrun]
  show w.Moves k (next.after (rethrow _)) _ _
  rw [after_rethrow]
  exact hmoved

/-- A fire leaves the cycles going on with one more timer. -/
theorem fired (h : k.Going armed w) {s : Session} {r : Recorder} (hm : w.Moves k w' s r)
    (hg : s.gear = (w.row k.session : Session).gear) (hrunning : s.running = .bool true) {i : Nat}
    (hhandle : s.handle = .int i (armed + 1)) (hlast : r.lastHandle = .int i (armed + 1))
    {delay arm : Value} (harm : k.IsArm delay arm)
    (harms : r.arms = (w.row k.recorder : Recorder).arms ++ [arm]) : k.Going (armed + 1) w' where
  toWired := h.toWired.moves hm hg
  running := by rw [hm.session, hrunning]
  handle := ⟨i, by rw [hm.session, hhandle]; rfl⟩
  last := ⟨i, by rw [hm.recorder, hlast]; rfl⟩
  next := ⟨delay, arm, harm, by rw [hm.recorder, harms, List.getLast?_concat]⟩

end RecordedSession.Going

/-! ## Shutting down -/

/-- A session that runs passes its handle on when it is shut down, and lets go of it. -/
theorem RecordedSession.Going.passes {k : RecordedSession} {armed : Nat} {w : World}
    (h : k.Going armed w) (depth : Nat) :
    w.Moves k (w.after (shutdown (invokeWithin (depth + 1)) k.session))
      { (w.row k.session : Session) with running := .bool false, handle := .none }
      { (w.row k.recorder : Recorder) with
        cancels :=
          (w.row k.recorder : Recorder).cancels ++ [(w.row k.session : Session).handle] } := by
  obtain ⟨hook, hcancel⟩ := h.cancel
  rw [h.sane.intact.after_shutdown _ h.running h.policy, hcancel]
  let stopped : World := w.withRow k.session
    { (w.row k.session : Session) with running := .bool false }
  let handle : Value := (w.row k.session : Session).handle
  have hstopped : w.Moves k stopped
      { (w.row k.session : Session) with running := .bool false } (w.row k.recorder) :=
    .withRow_session w _
  let passed : World := stopped.withRow k.recorder
    { (stopped.row k.recorder : Recorder) with
      cancels := (stopped.row k.recorder : Recorder).cancels ++ [handle] }
  have hpassed : stopped.Moves k passed (stopped.row k.session)
      { (stopped.row k.recorder : Recorder) with
        cancels := (stopped.row k.recorder : Recorder).cancels ++ [handle] } :=
    .withRow_recorder stopped _
  have hcalled : stopped.run (invokeWithin (depth + 1)
      (.function hook (.method k.recorder.object .cancel)) [handle]) = (.ok .none, passed) := by
    rw [run_invoke_recordCancel, run_nothing, World.outcome, World.after,
      (hstopped.records h.records).run_recordCancel]
    rfl
  rw [World.after_bind_of_run hcalled]
  have hreleased := World.Moves.withRow_session (k := k) passed
    { (passed.row k.session : Session) with handle := .none }
  have hmoved := (hstopped.trans hpassed).trans hreleased
  rw [hpassed.session, hpassed.recorder, hstopped.session, hstopped.recorder] at hmoved
  refine hmoved.spares (.of_alike ?_)
  rw [letGo, World.after_bind_of_run (World.run_update passed k.session _)]
  rw [← hstopped.session, ← hpassed.session]
  exact Quiet.emit _ _ _ _ _

end Understudy

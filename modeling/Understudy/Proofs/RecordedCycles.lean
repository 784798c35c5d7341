import Mathlib.Data.List.Forall2
import Understudy.Proofs.CollectionLog

/-!
# The cycles of a session

A session that was started with the hooks of a recorder goes from one fire to the next for as
long as the recorder lets the time of its timer come, whether its runs succeed or not. Between the
fires anything may happen to the registry and to the identities. Each fire arms one timer, so that
the handle of the session counts the timers, and each run that finds out what there is to find out
adds one collection. A fire ends as its run does, and that is where a collection may come of a fire
that fails: what cannot be told has been added before.

## Main definitions

* `RecordedSession.Cycles`: the fires so far, and the state that they led to.
* `RecordedSession.CycleRecord`: what the recorder and the session have to show for them.

## Main statements

* `RecordedSession.FireRecord.fire`: what one more fire adds.
* `RecordedSession.Cycles.recorded`: what any number of fires adds up to.
* `wordlessCycles_failedFire_adds`: a fire may fail with its collection added.
-/

namespace Understudy

/-- The state in which a session that is started arms its first timer. -/
def World.going (w : World) (s : Ref .session) : World :=
  w.withRow s { (w.row s : Session) with running := .bool true }

namespace RecordedSession

/-- Everything is set up for the cycles: the recorder is new, and the session was not started
yet. -/
structure Ready (k : RecordedSession) (w : World) : Prop extends k.Wired w where
  stopped : (w.row k.session : Session).running = .bool false
  fresh : w.row k.recorder = ({} : Recorder)

/-- The cycles of a session since a state: it is started, the recorder lets the time of its
timer come, and in between there are requests to the registry, and whatever else leaves the
session, its policy and the recorder alone. The delay until the next run is always there to be
told. The states in which the fires came are noted. -/
inductive Cycles (k : RecordedSession) (depth : Nat) (w₀ : World) : List World → World → Prop
  | start (prompt : (w₀.going k.session).Prompt (invokeWithin (depth + 2)) k.session) :
      Cycles k depth w₀ [] (w₀.after (start (invokeWithin (depth + 2)) k.session))
  | fire {fires : List World} {w : World} (before : Cycles k depth w₀ fires w)
      (prompt : w.FiresPromptly (invokeWithin (depth + 1)) k.session) :
      Cycles k depth w₀ (fires ++ [w]) (w.after (fireLast (invokeWithin (depth + 2)) k.recorder))
  | deal {fires : List World} {w : World} (before : Cycles k depth w₀ fires w) (d : Dealing)
      (fits : d.Fits k.registry w) :
      Cycles k depth w₀ fires (w.after (d.perform (invokeWithin (depth + 2)) k.registry))
  | elsewhere {fires : List World} {w w' : World} (before : Cycles k depth w₀ fires w)
      (aside : w.Spares k w') : Cycles k depth w₀ fires w'

/-- What became of a session that was shut down after its cycles, be it once or more often. -/
inductive ShutDown (k : RecordedSession) (depth : Nat) (w : World) : World → Prop
  | shutdown : ShutDown k depth w (w.after (shutdown (invokeWithin (depth + 2)) k.session))
  | again {w' : World} (before : ShutDown k depth w w') :
      ShutDown k depth w (w'.after (Understudy.shutdown (invokeWithin (depth + 2)) k.session))
  | elsewhere {w' w'' : World} (before : ShutDown k depth w w') (aside : w'.Spares k w'') :
      ShutDown k depth w w''

/-- What the session answers when it is asked for the delay, each time that it arms a timer:
when it is started, and after the run of each fire. -/
def delays (k : RecordedSession) (depth : Nat) (w₀ : World) (fires : List World) :
    List (Except Fault Value) :=
  (w₀.going k.session).outcome (nextDailyDelay (invokeWithin (depth + 2)) k.session) ::
    fires.map fun w => (w.ran (invokeWithin (depth + 1)) k.session).outcome
      (nextDailyDelay (invokeWithin (depth + 1)) k.session)

/-- A timer that was armed with what the session answered. -/
def ArmedWith (k : RecordedSession) (asked : Except Fault Value) (arm : Value) : Prop :=
  ∃ delay, asked = .ok delay ∧ k.IsArm delay arm

/-- What there is to show for the fires so far. -/
structure FireRecord (k : RecordedSession) (depth : Nat) (w₀ : World) (fires : List World)
    (w : World) : Prop where
  /-- One timer was armed when the session was started, and one for each fire. -/
  armed : List.Forall₂ k.ArmedWith (k.delays depth w₀ fires) (w.row k.recorder : Recorder).arms
  handle : ∃ i, (w.row k.session : Session).handle = .int i ((fires.length + 1 : Nat) : Int)
  /-- One collection was added for each fire whose run found out what there was to find out, and
  none for any other fire. -/
  collected : ∃ results, List.Forall₂ (k.Fired depth) fires results ∧
    (w.row k.session : Session).collections =
      (w₀.row k.session : Session).collections ++ results.filterMap Collection.kept?
  uncancelled : (w.row k.recorder : Recorder).cancels = []

/-- What there is to show for the fires so far, and what there will be to show for shutting
down: the handle was passed on, once. -/
structure CycleRecord (k : RecordedSession) (depth : Nat) (w₀ : World) (fires : List World)
    (w : World) : Prop extends k.FireRecord depth w₀ fires w where
  count : (w.row k.recorder : Recorder).arms.length = fires.length + 1
  ended (w' : World) (h : k.ShutDown depth w w') :
    (w'.row k.recorder : Recorder).cancels = [(w.row k.session : Session).handle] ∧
      (w'.row k.recorder : Recorder).arms = (w.row k.recorder : Recorder).arms ∧
        (w'.row k.session : Session).running = .bool false ∧
          (w'.row k.session : Session).handle = .none

end RecordedSession

/-! ## Between the fires -/

/-- Whatever is requested of the registry leaves the cycles alone. -/
theorem Sane.spares_deal {k : RecordedSession} {w : World} (h : Sane k.registry w) (call : Caller)
    {d : Dealing} (fits : d.Fits k.registry w) :
    w.Spares k (w.after (d.perform call k.registry)) :=
  have hstep : Dealing.Step call k.registry w _ d := d.step h fits
  .of_dealt hstep.dealt hstep.sane

namespace RecordedSession

variable {k : RecordedSession} {depth : Nat} {w₀ w w' : World} {fires : List World}

theorem FireRecord.spares (h : k.FireRecord depth w₀ fires w) (hs : w.Spares k w') :
    k.FireRecord depth w₀ fires w' where
  armed := hs.recorder ▸ h.armed
  handle := hs.session ▸ h.handle
  collected := hs.session ▸ h.collected
  uncancelled := hs.recorder ▸ h.uncancelled

/-! ## Starting -/

/-- Starting arms the first timer. -/
theorem Ready.starts (h : k.Ready w) (depth : Nat)
    (hprompt : (w.going k.session).Prompt (invokeWithin (depth + 2)) k.session) :
    k.Going 1 (w.after (start (invokeWithin (depth + 2)) k.session)) ∧
      k.FireRecord depth w [] (w.after (start (invokeWithin (depth + 2)) k.session)) := by
  have hgoing : w.Moves k (w.going k.session)
      { (w.row k.session : Session) with running := .bool true } (w.row k.recorder) :=
    .withRow_session w _
  have hwired : k.Wired (w.going k.session) := h.toWired.moves hgoing rfl
  have hlast : ∃ i, ((w.going k.session).row k.recorder : Recorder).lastHandle = .int i 0 :=
    ⟨0, by rw [hgoing.recorder, h.fresh]⟩
  obtain ⟨delay, x, hasked, hx⟩ := hprompt
  obtain ⟨-, arm, i, harm, hafter⟩ := hwired.arms (depth + 1) hlast hasked hx
  have hrun : w.after (start (invokeWithin (depth + 2)) k.session) =
      (w.going k.session).after (askToArm (invokeWithin (depth + 2)) k.session) := by
    rw [start, World.after_bind_of_run (h.sane.intact.run_askPolicy _ h.policy),
      World.after_bind_of_run (World.run_get w),
      World.after_bind_of_run (World.run_fetch w k.session), h.stopped]
    rfl
  have hmoved := hgoing.trans hafter
  rw [hgoing.session, hgoing.recorder, h.fresh, ← hrun] at hmoved
  refine ⟨⟨h.toWired.moves hmoved rfl, ?_, ⟨i, ?_⟩, ⟨i, ?_⟩, delay, arm, harm, ?_⟩,
    ⟨?_, ⟨i, ?_⟩, ⟨[], .nil, ?_⟩, ?_⟩⟩
  · rw [hmoved.session]
  · rw [hmoved.session]
    rfl
  · rw [hmoved.recorder]
    rfl
  · rw [hmoved.recorder]
    rfl
  · rw [hmoved.recorder]
    exact .cons ⟨delay, hasked, harm⟩ .nil
  · rw [hmoved.session]
    rfl
  · rw [hmoved.session]
    exact (List.append_nil _).symm
  · rw [hmoved.recorder]

/-! ## One more fire -/

/-- One more fire arms one more timer, and adds a collection if its run finds out what there is
to find out. -/
theorem FireRecord.fire (h : k.FireRecord depth w₀ fires w) (hg : k.Going (fires.length + 1) w)
    (hprompt : w.FiresPromptly (invokeWithin (depth + 1)) k.session) :
    k.Going (fires.length + 2) (w.after (fireLast (invokeWithin (depth + 2)) k.recorder)) ∧
      k.FireRecord depth w₀ (fires ++ [w])
        (w.after (fireLast (invokeWithin (depth + 2)) k.recorder)) := by
  obtain ⟨result, delay, arm, i, hfired, hasked, harm, hmoved⟩ := hg.fires depth hprompt
  obtain ⟨results, hresults, hcollections⟩ := h.collected
  refine ⟨hg.fired hmoved rfl hg.running rfl rfl harm rfl,
    ⟨?_, ⟨i, ?_⟩, ⟨results ++ [result], ?_, ?_⟩, ?_⟩⟩
  · have hdelays : k.delays depth w₀ (fires ++ [w]) = k.delays depth w₀ fires ++
        [(w.ran (invokeWithin (depth + 1)) k.session).outcome
          (nextDailyDelay (invokeWithin (depth + 1)) k.session)] := by
      rw [delays, List.map_append]
      rfl
    rw [hdelays, hmoved.recorder]
    exact List.rel_append h.armed (.cons ⟨delay, hasked, harm⟩ .nil)
  · rw [hmoved.session, List.length_append]
    rfl
  · exact List.rel_append hresults (.cons hfired .nil)
  · rw [hmoved.session, hcollections, List.filterMap_append, List.append_assoc]
    cases result <;> rfl
  · rw [hmoved.recorder]
    exact h.uncancelled

/-! ## Any number of fires -/

/-- However many fires there were, the cycles go on, and there is something to show for each. -/
theorem Cycles.fireRecord (h : k.Cycles depth w₀ fires w) (h₀ : k.Ready w₀) :
    k.Going (fires.length + 1) w ∧ k.FireRecord depth w₀ fires w := by
  induction h with
  | start prompt => exact h₀.starts depth prompt
  | fire _ prompt ih =>
    obtain ⟨hgoing, hrecord⟩ := ih
    rw [List.length_append]
    exact hrecord.fire hgoing prompt
  | deal _ d fits ih =>
    have hspares := ih.1.sane.spares_deal (invokeWithin (depth + 2)) fits
    exact ⟨ih.1.spares hspares, ih.2.spares hspares⟩
  | elsewhere _ aside ih => exact ⟨ih.1.spares aside, ih.2.spares aside⟩

/-- After shutting down for the first time nothing is passed on any more. -/
theorem ShutDown.moves (h : k.ShutDown depth w w') {armed : Nat} (hg : k.Going armed w) :
    w.Moves k w' { (w.row k.session : Session) with running := .bool false, handle := .none }
      { (w.row k.recorder : Recorder) with
        cancels :=
          (w.row k.recorder : Recorder).cancels ++ [(w.row k.session : Session).handle] } := by
  induction h with
  | shutdown => exact hg.passes (depth + 1)
  | again _ ih =>
    rw [after_shutdown_of_stopped _ (congrArg Session.running ih.session)]
    exact ih
  | elsewhere _ aside ih => exact ih.spares aside

/-- After any number of fires one more timer than that was armed, each with the delay of its
moment, the session has the handle of the last one, and there is one collection for each run
that found out what there was to find out. Shutting down passes that handle on, once. -/
theorem Cycles.recorded (h : k.Cycles depth w₀ fires w) (h₀ : k.Ready w₀) :
    k.CycleRecord depth w₀ fires w := by
  obtain ⟨hgoing, hrecord⟩ := h.fireRecord h₀
  refine ⟨hrecord, ?_, fun w' hended => ?_⟩
  · rw [← hrecord.armed.length_eq, delays, List.length_cons, List.length_map]
  · have hmoved := hended.moves hgoing
    rw [hrecord.uncancelled] at hmoved
    rw [hmoved.recorder, hmoved.session]
    exact ⟨rfl, rfl, rfl, rfl⟩

/-! ## An interval -/

/-- A session with an interval of its own tells that. -/
theorem prompt_of_interval {s : Ref .session} {w : World} (call : Caller) {i : Nat} {x : Float}
    (h : (w.row s : Session).interval = .float i x) : w.Prompt call s := by
  refine ⟨.float i x, x, ?_, rfl⟩
  rw [nextDailyDelay, World.outcome, World.run_bind_of_run (World.run_fetch w s), h]
  rfl

/-- So it does whenever a fire asks for it. -/
theorem Wired.promptly_of_interval (h : k.Wired w) (depth : Nat) {i : Nat} {x : Float}
    (hi : (w.row k.session : Session).interval = .float i x) :
    w.FiresPromptly (invokeWithin depth) k.session := by
  constructor
  · intro identity _
    have hlooked : (w.dropped k.session).Spares k
        ((w.dropped k.session).after (currentIdentity (invokeWithin depth) k.session)) :=
      h.dropped.askable.keeps_identityService _ _ _ (.refl _)
    refine prompt_of_interval (i := i) (x := x) _ ?_
    rw [hlooked.session, World.dropped, World.row_withRow_self, hi]
  · refine prompt_of_interval (i := i) (x := x) _ ?_
    rw [(h.moves_ran depth).session, hi]

end RecordedSession

/-! ## Short cycles -/

/-- The bench with a session that has been set up with the hooks of a new recorder. -/
def cyclesBench : World :=
  { sessionBench with
    policies :=
      ⟨[{ arm := .function 0 (.method ⟨.recorder, 0⟩ .arm)
          cancel := .function 0 (.method ⟨.recorder, 0⟩ .cancel) }]⟩
    recorders := ⟨[{}]⟩
    sessions :=
      ⟨[{ registry := .ofRef (⟨0⟩ : Ref .registry)
          timers := .ofRef (⟨0⟩ : Ref .bank)
          interval := .ofFloat 10.0
          policy := .ofRef (⟨0⟩ : Ref .policy) }]⟩ }

/-- Those who take part on the bench. -/
def cyclesParts : RecordedSession := ⟨⟨0⟩, ⟨0⟩, ⟨0⟩, ⟨0⟩⟩

theorem cyclesBench_ready : cyclesParts.Ready cyclesBench where
  sane := ⟨fun _ _ _ => rfl, .empty⟩
  registry := rfl
  clock depth w := by cases depth <;> exact .refl w
  policy := rfl
  arm := ⟨0, rfl⟩
  cancel := ⟨0, rfl⟩
  records := ⟨rfl, rfl⟩
  stopped := rfl
  fresh := rfl

/-- The state after a fire on the bench. -/
def World.afterFire (w : World) : World := w.after (fireLast invoke cyclesParts.recorder)

/-- The session of the bench is started. -/
def cyclesStarted : World := cyclesBench.after (start invoke cyclesParts.session)

/-- The sample identity is registered only after a first fire. -/
def cyclesRegistered : World :=
  cyclesStarted.afterFire.after (benchRegister.dealing.perform invoke cyclesParts.registry)

theorem cyclesBench_cycles :
    cyclesParts.Cycles 998 cyclesBench [cyclesStarted, cyclesRegistered]
      cyclesRegistered.afterFire := by
  have h₁ : cyclesParts.Cycles 998 cyclesBench [] cyclesStarted :=
    .start (RecordedSession.prompt_of_interval _ rfl)
  have hinterval₁ : (cyclesStarted.row cyclesParts.session : Session).interval = .ofFloat 10.0 :=
    rfl
  have h₂ : cyclesParts.Cycles 998 cyclesBench [cyclesStarted] cyclesStarted.afterFire :=
    .fire h₁ ((h₁.fireRecord cyclesBench_ready).1.toWired.promptly_of_interval _ hinterval₁)
  have h₃ : cyclesParts.Cycles 998 cyclesBench [cyclesStarted] cyclesRegistered :=
    .deal h₂ benchRegister.dealing ⟨⟨_, rfl⟩, ⟨_, rfl⟩, ⟨_, rfl⟩⟩
  have hinterval₃ : (cyclesRegistered.row cyclesParts.session : Session).interval =
      .ofFloat 10.0 := rfl
  exact .fire h₃ ((h₃.fireRecord cyclesBench_ready).1.toWired.promptly_of_interval _ hinterval₃)

/-- Of two fires on the bench the first one finds no identity and the second one collects. -/
theorem cyclesBench_recorded :
    cyclesParts.CycleRecord 998 cyclesBench [cyclesStarted, cyclesRegistered]
        cyclesRegistered.afterFire ∧
      (cyclesRegistered.afterFire.row cyclesParts.session : Session).collections.length = 1 :=
  ⟨RecordedSession.Cycles.recorded cyclesBench_cycles cyclesBench_ready, by decide +kernel⟩

/-! ## A fire whose collection cannot be told -/

/-- What components and providers there are is nothing to those who take part. -/
theorem RecordedSession.Ready.peopled {k : RecordedSession} {w : World} (h : k.Ready w)
    (components : Table Component) (providers : Table Provider) :
    k.Ready { w with components := components, providers := providers } where
  sane := ⟨h.sane.intact.congr rfl, h.sane.sound⟩
  registry := h.registry
  clock := h.clock
  policy := h.policy
  arm := h.arm
  cancel := h.cancel
  records := h.records.congr rfl
  stopped := h.stopped
  fresh := h.fresh

/-- The bench of the cycles with an identity whose id cannot be told. -/
def wordlessCycles : World :=
  { cyclesBench with
    components := wordlessBench.components
    providers := wordlessBench.providers }

/-- Its session is started, and then the identity is registered. -/
def wordlessStarted : World :=
  (wordlessCycles.after (start invoke cyclesParts.session)).after
    (benchRegister.dealing.perform invoke cyclesParts.registry)

/-- A fire that fails may have added to the collections, because its run fails in telling of what
it has added. -/
theorem wordlessCycles_failedFire_adds :
    ¬∀ (k : RecordedSession) (depth : Nat) (w₀ w : World) (fires : List World) (fault : Fault),
      k.Ready w₀ → k.Cycles depth w₀ fires w →
        w.FiresPromptly (invokeWithin (depth + 1)) k.session →
          w.outcome (fireLast (invokeWithin (depth + 2)) k.recorder) = .error fault →
            ((w.after (fireLast (invokeWithin (depth + 2)) k.recorder)).row k.session :
              Session).collections = (w.row k.session : Session).collections := by
  intro hgeneral
  have hready : cyclesParts.Ready wordlessCycles := cyclesBench_ready.peopled _ _
  have hstarted : cyclesParts.Cycles 998 wordlessCycles []
      (wordlessCycles.after (start invoke cyclesParts.session)) :=
    .start (RecordedSession.prompt_of_interval _ rfl)
  have hcycles : cyclesParts.Cycles 998 wordlessCycles [] wordlessStarted :=
    .deal hstarted benchRegister.dealing ⟨⟨_, rfl⟩, ⟨_, rfl⟩, ⟨_, rfl⟩⟩
  have hinterval : (wordlessStarted.row cyclesParts.session : Session).interval =
      .ofFloat 10.0 := rfl
  have hprompt := (hcycles.fireRecord hready).1.toWired.promptly_of_interval 999 hinterval
  have hfails : (wordlessStarted.outcome (fireLast invoke cyclesParts.recorder)).isOk = false := by
    decide +kernel
  have hadded : (wordlessStarted.afterFire.row cyclesParts.session :
      Session).collections.length = 1 := by decide +kernel
  have hnone : (wordlessStarted.row cyclesParts.session : Session).collections.length = 0 := by
    decide +kernel
  cases houtcome : wordlessStarted.outcome (fireLast invoke cyclesParts.recorder) with
  | ok v =>
    rw [houtcome] at hfails
    cases hfails
  | error fault =>
    have hsame := hgeneral cyclesParts 998 _ _ [] fault hready hcycles hprompt houtcome
    have hlength := hadded.symm.trans ((congrArg List.length hsame).trans hnone)
    cases hlength

end Understudy

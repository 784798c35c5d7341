import Understudy.Proofs.Firing
import Understudy.Proofs.LeftAlone
import Understudy.Proofs.SessionShutdown

/-!
# Driving a session

Whatever holds of an environment while its session is asked for the identity and for the
delay, while the arming hook is called, and while the session takes note of what comes of
that, holds through everything that the daily cycle does: starting, running, arming again.
It does not matter what the hooks do otherwise, or whether they fail.

## Main definitions

* `Armable`, `Drivable`: a property that arming, or nothing in the daily cycle, breaks.
* `Considerate`: hooks that leave a registry and its environments alone.

## Main statements

* `Drivable.keeps_onDailyTimeout`: a firing keeps what can be driven.
* `World.Intact.run_start`: what starting comes down to.
* `Considerate.drivable`: considerate hooks can be driven without disturbing anybody.
-/

namespace Understudy

/-! ## What the cycle keeps -/

/-- A run keeps what it notes, or it fails before there is anything to keep. -/
theorem Askable.after_collectDaily {reg : Ref .registry} {s : Ref .session} {I : World → Prop}
    (h : Askable reg s I) (depth : Nat) {w : World} (hw : I w) :
    (∃ fault, w.outcome (gather (invokeWithin depth) s) = .error fault ∧
      I (w.after (collectDaily (invokeWithin depth) s))) ∨
    ∃ (collection : Collection) (gathered : World),
      w.outcome (gather (invokeWithin depth) s) = .ok collection ∧ I gathered ∧
      (gathered.collected s collection.toValue).Alike
        (w.after (collectDaily (invokeWithin depth) s)) := by
  have hgathered := h.keeps_gather depth w hw
  rw [collectDaily_eq]
  cases hnoted : w.outcome (gather (invokeWithin depth) s) with
  | error fault =>
    rw [World.after, World.run_bind_of_error hnoted]
    exact .inl ⟨fault, rfl, hgathered⟩
  | ok collection =>
    rw [World.after_bind_of_ok hnoted]
    exact .inr ⟨collection, _, rfl, hgathered,
      (h.sane _ hgathered).intact.alike_keepCollection _ s collection⟩

/-- No handle, or one that the arming hook gives back in a state with a property. -/
inductive Handed (depth : Nat) (s : Ref .session) (p : Ref .policy) (I : World → Prop) :
    Value → Prop
  | none : Handed depth s p I .none
  | given {w : World} {serial : Nat} {delay v : Value} (h : I w)
      (hok : w.outcome (invokeWithin depth (w.row p : Policy).arm
        [delay, .function serial (.method s.object .dailyTimeout)]) = .ok v) : Handed depth s p I v

/-- A property of states in which a session with a policy can arm its timer, with calls within
calls down to a depth, and that arming does not break. -/
structure Armable (depth : Nat) (reg : Ref .registry) (s : Ref .session) (p : Ref .policy)
    (I : World → Prop) : Prop extends Askable reg s I where
  policy (w : World) (h : I w) : (w.row s : Session).policy = .ofRef p
  arm (serial : Nat) (delay : Value) (w : World) (h : I w) :
    I (w.after (invokeWithin depth (w.row p : Policy).arm
      [delay, .function serial (.method s.object .dailyTimeout)]))
  handle (w : World) (h : I w) (v : Value) (hv : Handed depth s p I v) :
    I (w.withRow s { (w.row s : Session) with handle := v })

/-- A property of states in which the daily cycle of a session with a policy can go on, and that
nothing of what the cycle does breaks. -/
structure Drivable (depth : Nat) (reg : Ref .registry) (s : Ref .session) (p : Ref .policy)
    (I : World → Prop) : Prop extends Armable depth reg s p I where
  collected (w : World) (h : I w) (item : Value) : I (w.collected s item)

namespace Armable

variable {depth : Nat} {reg : Ref .registry} {s : Ref .session} {p : Ref .policy}
  {I : World → Prop} (h : Armable depth reg s p I)
include h

theorem keeps_keepHandle (delay : Value) {handle : Value} (hv : Handed depth s p I handle) :
    Keeps I (keepHandle s delay handle) := fun w hw =>
  h.served _ _ (.of_alike (alike_keepHandle w s delay handle)) (h.handle w hw handle hv)

theorem keeps_armDaily : Keeps I (armDaily (invokeWithin depth) s) := by
  intro w hw
  rw [armDaily_eq, World.after_bind_of_run ((h.sane w hw).intact.run_askPolicy _ (h.policy w hw))]
  have hasked := h.keeps_askDelay depth w hw
  refine World.after_bind_cases (fun _ _ => hasked) fun delay _ => ?_
  revert hasked
  generalize w.after (askDelay (invokeWithin depth) s) = asked
  intro hasked
  have hintact := (h.sane asked hasked).intact
  have hread : I { asked with nextSerial := asked.nextSerial + 1 } :=
    h.served _ _ (.of_alike ⟨asked.log, asked.nextSerial + 1, rfl⟩) hasked
  rw [World.after_bind_of_run (hintact.run_readAttribute_armHook _ p),
    World.after_bind_of_run (hintact.run_readAttribute_dailyTimeout _ s)]
  have harmed := h.arm asked.nextSerial delay _ hread
  exact World.after_bind_cases (fun _ _ => harmed) fun handle hok =>
    h.keeps_keepHandle delay (.given hread hok) _ harmed

theorem keeps_askToArm : Keeps I (askToArm (invokeWithin depth) s) := by
  intro w hw
  rw [askToArm, World.after_bind_pure _ _ fun _ => (), World.after, askSession,
    (h.sane w hw).intact.run_request _ s _ _ rfl, run_nothing]
  exact h.keeps_armDaily w hw

/-- What comes after a run breaks nothing that arming does not break. -/
theorem keeps_concludeRun (outcome : Except Fault Value) :
    Keeps I (concludeRun (invokeWithin depth) s outcome) := by
  rw [concludeRun_eq]
  refine (h.quiet (quiet_tellFault outcome)).bind fun _ w hw => ?_
  have hfinish : Keeps I (rethrow outcome) := by
    cases outcome with
    | error fault => exact .throw fault
    | ok v => exact .pure ()
  rw [World.after_bind_of_run (World.run_get w), World.after_bind_of_run (World.run_fetch w s)]
  split
  · exact h.keeps_askToArm.bind (fun _ => hfinish) w hw
  · exact hfinish w hw

end Armable

namespace Drivable

variable {depth : Nat} {reg : Ref .registry} {s : Ref .session} {p : Ref .policy}
  {I : World → Prop} (h : Drivable depth reg s p I)
include h

/-- A collection is kept by a write of the session. -/
theorem keeps_collectDaily : Keeps I (collectDaily (invokeWithin depth) s) := by
  intro w hw
  rcases h.after_collectDaily depth hw with ⟨_, _, hfailed⟩ | ⟨collection, gathered, _, hi, hlike⟩
  · exact hfailed
  · exact h.served _ _ (.of_alike hlike) (h.collected gathered hi collection.toValue)

/-- A firing runs and arms again. -/
theorem keeps_onDailyTimeout :
    Keeps I (onDailyTimeout (invokeWithin depth) s) := by
  intro w hw
  have hgiven := h.handle w hw .none .none
  rw [World.after, (h.sane w hw).intact.run_onDailyTimeout (invokeWithin depth) s]
  exact h.keeps_concludeRun _ _ (h.keeps_collectDaily _ hgiven)

end Drivable

/-! ## Starting and stopping -/

/-- The state in which a session runs, or does not. -/
def World.withRunning (w : World) (s : Ref .session) (b : Bool) : World :=
  w.withRow s { (w.row s : Session) with running := .bool b }

theorem World.row_withRunning (w : World) (s : Ref .session) (b : Bool) :
    (w.withRunning s b).row s = { (w.row s : Session) with running := .bool b } :=
  World.row_withRow_self w s _

/-- Starting is running from now on, and arming the first timer. A session that runs is only
warned about. -/
theorem World.Intact.run_start {s : Ref .session} {w : World} (hw : w.Intact) (call : Caller)
    {p : Ref .policy} (hp : (w.row s : Session).policy = .ofRef p) :
    w.run (start call s) =
      if w.truthy (w.row s : Session).running then
        w.run (warn sessionLogger "Daily session already running")
      else (w.withRunning s true).run (askToArm call s) := by
  rw [start, World.run_bind_of_run (hw.run_askPolicy call hp),
    World.run_bind_of_run (World.run_get w), World.run_bind_of_run (World.run_fetch w s),
    World.run_ite]
  split
  · rfl
  · exact World.run_bind_of_run (World.run_update w s _)

/-! ## Hooks that disturb nobody -/

/-- A state, and the same state with a session that runs or does not run. -/
def World.Near (s : Ref .session) (w w₁ : World) : Prop :=
  w₁ = w ∨ ∃ b, w₁ = w.withRunning s b

/-- The hooks of a session disturb nobody: the arming one wherever it is called as long as nobody is
disturbed, and the cancelling one where the session stops. They may call back, and they may
fail. -/
structure Considerate (r : Ref .registry) (s : Ref .session) (p : Ref .policy) (w : World) :
    Prop where
  arm (w₁ w' : World) (near : w.Near s w₁) (h : w₁.Undisturbed r w') (depth serial : Nat)
    (delay : Value) :
    w'.Undisturbed r (w'.after (invokeWithin depth (w.row p : Policy).arm
      [delay, .function serial (.method s.object .dailyTimeout)]))
  cancel (depth : Nat) :
    (w.withRunning s false).Undisturbed r ((w.withRunning s false).after
      (invokeWithin depth (w.row p : Policy).cancel [(w.row s : Session).handle]))

/-- What a session of an environment needs to be driven. -/
structure Driven (r : Ref .registry) (s : Ref .session) (p : Ref .policy) (w : World) : Prop where
  sane : Sane r w
  there : s.index < w.sessions.size
  registry : (w.row s : Session).registry = .ofRef r
  clock : (w.row s : Session).clock.Harmless
  policy : (w.row s : Session).policy = .ofRef p
  hooked : p.index < w.policies.size
  decided : (w.row s : Session).Decided

theorem Session.made_eq {x y : Session} (h : x.made = y.made) :
    x.registry = y.registry ∧ x.timers = y.timers ∧ x.interval = y.interval ∧ x.clock = y.clock ∧
      x.policy = y.policy := by
  simp only [made, Session.mk.injEq] at h
  exact ⟨h.1, h.2.1, h.2.2.1, h.2.2.2.1, h.2.2.2.2.2.2.2.1⟩

namespace Driven

variable {r : Ref .registry} {s : Ref .session} {p : Ref .policy} {w w₁ w' : World}
  (h : Driven r s p w)
include h

theorem near (hn : w.Near s w₁) : Driven r s p w₁ := by
  rcases hn with rfl | ⟨b, rfl⟩
  · exact h
  · have hrow := w.row_withRunning s b
    refine ⟨⟨h.sane.intact.congr rfl, h.sane.sound⟩, ?_, ?_, ?_, ?_, h.hooked, ⟨b, by rw [hrow]⟩⟩
    · exact Nat.lt_of_lt_of_le h.there (Nat.le_of_eq (Table.size_set _ h.there _).symm)
    · rw [hrow, h.registry]
    · rw [hrow]
      exact h.clock
    · rw [hrow, h.policy]

theorem undisturbed (hu : w.Undisturbed r w') : Driven r s p w' := by
  obtain ⟨hmade, hrunning⟩ := hu.session h.there
  obtain ⟨hregistry, _, _, hclock, hpolicy⟩ := Session.made_eq hmade
  refine ⟨hu.sane h.sane, Nat.lt_of_lt_of_le h.there hu.sessions.size, hregistry.trans h.registry,
    hclock ▸ h.clock, hpolicy.trans h.policy, Nat.lt_of_lt_of_le h.hooked hu.policies.size, ?_⟩
  obtain ⟨b, hb⟩ := h.decided
  exact ⟨b, hrunning.trans hb⟩

/-- Considerate hooks can be driven without disturbing anybody. -/
theorem drivable (hc : Considerate r s p w) (hn : w.Near s w₁) (depth : Nat) :
    Drivable depth r s p (w₁.Undisturbed r) := by
  have h₁ := h.near hn
  have hp : w₁.row p = (w.row p : Policy) := by
    rcases hn with rfl | ⟨b, rfl⟩ <;> rfl
  refine
    { sane := fun w' hu => hu.sane h₁.sane
      registry := fun w' hu => (h₁.undisturbed hu).registry
      served := fun w' w'' hs hu => hu.trans (.of_served hs)
      clock := fun depth w' hu => ?_
      policy := fun w' hu => (h₁.undisturbed hu).policy
      arm := fun serial delay w' hu => ?_
      handle := fun w' hu v _ => hu.trans (.withRow_session rfl rfl)
      collected := fun w' hu item =>
        hu.trans (.withRow_session rfl rfl) }
  · obtain ⟨fired, hafter⟩ := (h₁.undisturbed hu).clock.after_invoke depth w'
    rw [hafter]
    exact hu.trans (.of_retains (.of_eq rfl rfl rfl) rfl rfl rfl rfl rfl rfl rfl)
  · rw [hu.row_policy h₁.hooked, hp]
    exact hu.trans (hc.arm w₁ w' hn hu depth serial delay)

/-- A session that starts disturbs nobody, but it runs from then on. -/
theorem start (hc : Considerate r s p w) (depth : Nat) :
    ∃ w₁, w.Near s w₁ ∧ w₁.Undisturbed r (w.after (start (invokeWithin depth) s)) := by
  rw [World.after, h.sane.intact.run_start _ h.policy]
  split
  · exact ⟨w, .inl rfl, .of_alike (Quiet.emit _ _ _ _ w)⟩
  · have hnear : w.Near s (w.withRunning s true) := .inr ⟨true, rfl⟩
    exact ⟨_, hnear, (h.drivable hc hnear depth).keeps_askToArm _ (.refl _)⟩

theorem fire (hc : Considerate r s p w) (depth : Nat) :
    w.Undisturbed r (w.after (onDailyTimeout (invokeWithin depth) s)) :=
  (h.drivable hc (.inl rfl) depth).keeps_onDailyTimeout w (.refl w)

/-- A session that is shut down disturbs nobody if its second hook does not, but it runs no longer.
If it did not run, or the hook returns, it is shut down without a fault. -/
theorem shutdown {depth : Nat}
    (hcancelled : (w.withRunning s false).Undisturbed r ((w.withRunning s false).after
      (invokeWithin depth (w.row p : Policy).cancel [(w.row s : Session).handle])))
    (hreturns : (w.row s : Session).running = .bool false ∨ ∃ v, (w.withRunning s false).outcome
      (invokeWithin depth (w.row p : Policy).cancel [(w.row s : Session).handle]) = .ok v) :
    w.outcome (Understudy.shutdown (invokeWithin depth) s) = .ok () ∧
      ∃ w₁, w.Near s w₁ ∧ (w₁.row s : Session).running = .bool false ∧
        w₁.Undisturbed r (w.after (Understudy.shutdown (invokeWithin depth) s)) := by
  obtain ⟨b, hb⟩ := h.decided
  have hrun := h.sane.intact.run_shutdown (invokeWithin depth) h.policy
  cases b with
  | false =>
    rw [hb] at hrun
    have hrun : w.run (Understudy.shutdown (invokeWithin depth) s) = (.ok (), w) := hrun
    exact ⟨World.outcome_of_run hrun, w, .inl rfl, hb,
      (World.after_of_run hrun).symm ▸ World.Undisturbed.refl w⟩
  | true =>
    obtain ⟨v, hv⟩ := hreturns.resolve_left fun hno => by
      rw [hb] at hno
      cases hno
    have hnear : w.Near s (w.withRunning s false) := .inr ⟨false, rfl⟩
    have hcancel := World.run_eq (w.withRunning s false)
      (invokeWithin depth (w.row p : Policy).cancel [(w.row s : Session).handle])
    rw [hv] at hcancel
    have hthere := ((h.near hnear).undisturbed hcancelled).there
    revert hcancelled hcancel hthere
    generalize (w.withRunning s false).after (invokeWithin depth _ _) = cancelled
    intro hcancelled hcancel hthere
    rw [hb] at hrun
    have hrun : w.run (Understudy.shutdown (invokeWithin depth) s) =
        cancelled.run (letGo s) := hrun.trans (World.run_bind_of_run hcancel)
    have houtcome := congrArg Prod.fst hrun
    have hafter := congrArg Prod.snd hrun
    refine ⟨houtcome, _, hnear, by rw [w.row_withRunning], ?_⟩
    rw [World.after, hafter]
    refine hcancelled.trans (.trans (.withRow_session ?_ ?_)
      (.of_alike (Quiet.emit 10 sessionLogger "Daily session shut down" none _)))
    · rfl
    · rfl

end Driven

end Understudy

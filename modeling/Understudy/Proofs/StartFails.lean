import Understudy.Proofs.DisguisedSessions

/-!
# Starts that fail

A session is marked as running before its timer is armed. If the timer cannot be armed, because
there is no delay to be told or because the arming hook fails, the session is left marked, and
without a timer. From then on it takes itself to be running: another start only warns, whatever
has been put right in the meantime.

## Main definitions

* `World.Forbears`: a session is left exactly as it is.
* `World.Forbearing`: the arming hook leaves its session as it is.
* `World.Stalls`: what is left of a start that failed.

## Main statements

* `Driven.armDaily_fails`: what is left where a timer could not be armed.
* `Driven.stalls`: a session whose start failed is left marked as running.
-/

namespace Understudy

/-! ## A session that is left as it is -/

/-- A session is left exactly as it is, and so are the hooks of its policy. -/
structure World.Forbears (r : Ref .registry) (s : Ref .session) (p : Ref .policy)
    (w w' : World) : Prop extends w.Continues w' where
  sane (h : Sane r w) : Sane r w'
  session : w'.row s = (w.row s : Session)
  policy : w'.row p = (w.row p : Policy)

namespace World.Forbears

variable {r : Ref .registry} {s : Ref .session} {p : Ref .policy} {w w' w'' : World}

theorem trans (h : w.Forbears r s p w') (h' : w'.Forbears r s p w'') : w.Forbears r s p w'' where
  toContinues := h.toContinues.trans h'.toContinues
  sane hs := h'.sane (h.sane hs)
  session := h'.session.trans h.session
  policy := h'.policy.trans h.policy

theorem of_served (h : w.Served w') : w.Forbears r s p w' where
  toContinues := .of_served h
  sane hs := hs.of_served h
  session := by
    rw [h.frame]
    rfl
  policy := by
    rw [h.frame]
    rfl

theorem of_alike (h : w.Alike w') : w.Forbears r s p w' := of_served (.of_alike h)

theorem refl (w : World) : w.Forbears r s p w := of_alike (.refl w)

/-- A harmless value may be called. -/
theorem of_harmless {v : Value} (h : v.Harmless) (depth : Nat) :
    w.Forbears r s p (w.after (invokeWithin depth v [])) := by
  obtain ⟨fired, hafter⟩ := h.after_invoke depth w
  rw [hafter]
  exact ⟨.of_retains (.of_eq rfl rfl rfl) rfl rfl rfl rfl rfl rfl,
    fun hs => ⟨hs.intact.congr rfl, hs.sound⟩, rfl, rfl⟩

/-- A bank may arm a timer, or fail to. -/
theorem of_armStep {t : Ref .timeline} {b : Ref .bank} {callback : Value}
    {outcome : Except Fault Value} (h : ArmStep t b callback w w' outcome) :
    w.Forbears r s p w' := by
  cases h with
  | refused _ same =>
    rw [same]
    exact .refl w
  | skipped _ skipped =>
    rw [skipped]
    exact ⟨.of_retains (.of_eq rfl rfl rfl) rfl rfl rfl rfl rfl rfl,
      fun hs => ⟨hs.intact.congr rfl, hs.sound⟩, rfl, rfl⟩
  | @armed due _ armed =>
    have hplaced : w.Forbears r s p (w.armed t b due callback) :=
      ⟨(World.Unrecorded.armed (r := r) (s := s) w b t due callback).continues,
        fun hs => ⟨hs.intact.congr rfl, hs.sound⟩, rfl, rfl⟩
    exact hplaced.trans (.of_alike armed)

end World.Forbears

/-- Whenever the arming hook of a session is called, it leaves the session as it is: all that it
does with it is to give back a handle, or to fail. -/
def World.Forbearing (r : Ref .registry) (s : Ref .session) (p : Ref .policy) (w : World) : Prop :=
  ∀ (w' : World) (_ : w.Continues w') (depth serial : Nat) (delay : Value),
    w'.Forbears r s p (w'.after (invokeWithin depth (w.row p : Policy).arm
      [delay, .function serial (.method s.object .dailyTimeout)]))

/-- The arming hook of a bank leaves every session as it is, with a timeline or without. -/
theorem World.Forbearing.of_bank {r : Ref .registry} {s : Ref .session} {p : Ref .policy}
    {w : World} (hw : w.Intact) {b : Ref .bank} {i : Nat} (htidy : (w.row b : Bank).Tidy)
    (hb : b.index < w.banks.size)
    (harm : (w.row p : Policy).arm = .function i (.method b.object .arm)) :
    w.Forbearing r s p := by
  intro w' hc depth serial delay
  rw [harm]
  cases depth with
  | zero => exact .refl w'
  | succ depth =>
    have htidy' : (w'.row b : Bank).Tidy := hc.banks.row b.index hb htidy
    obtain ⟨t, hon⟩ := htidy'.on
    rw [World.after, run_invoke_arm, ← World.after]
    exact .of_armStep ((hc.intact hw).armTimer_cases (invokeWithin depth) hon delay _)

/-! ## Arming that fails -/

section

variable {r : Ref .registry} {s : Ref .session} {p : Ref .policy} {w w' : World}

/-- What is left where a timer could not be armed. The session has the handle that it had, unless
the delay is no number: this is found out only after the hook was called. -/
structure World.Unarmed (s : Ref .session) (p : Ref .policy) (depth : Nat) (w w' : World) :
    Prop where
  continues : w.Continues w'
  session : ∃ handle, w'.row s = { (w.row s : Session) with handle := handle } ∧
    (handle = (w.row s : Session).handle ∨
      ∃ delay, w.outcome (askDelay (invokeWithin depth) s) = .ok delay ∧
        ∀ x, delay.float? ≠ some (some x))
  policy : w'.row p = (w.row p : Policy)

/-- What leaves a session as it is leaves it its handle. -/
theorem World.Forbears.unarmed (h : w.Forbears r s p w') (depth : Nat) :
    w.Unarmed s p depth w' where
  continues := h.toContinues
  session := ⟨_, h.session, .inl rfl⟩
  policy := h.policy

/-- A handle is kept before its delay is written, which fails where the delay is no number. -/
theorem World.Forbears.unarmed_keepHandle {called : World} (h : w.Forbears r s p called)
    {depth : Nat} {delay : Value}
    (hdelay : w.outcome (askDelay (invokeWithin depth) s) = .ok delay) (handle : Value)
    {fault : Fault} (hfails : called.outcome (keepHandle s delay handle) = .error fault) :
    w.Unarmed s p depth (called.after (keepHandle s delay handle)) := by
  have hgiven : w.Continues (called.withRow s { (called.row s : Session) with handle }) :=
    h.toContinues.trans (.withRow_session ⟨rfl, fun hd => hd⟩)
  obtain ⟨log, serial, hafter⟩ := alike_keepHandle called s delay handle
  refine ⟨hgiven.trans (.of_alike ⟨log, serial, hafter⟩),
    ⟨handle, ?_, .inr ⟨delay, hdelay, fun x hx => ?_⟩⟩, ?_⟩
  · rw [hafter]
    show (called.withRow s _).row s = _
    rw [World.row_withRow_self, h.session]
  · have hgave := (outcome_keepHandle called s hx).symm.trans hfails
    cases hgave
  · rw [hafter]
    exact h.policy

namespace Driven

variable (h : Driven r s p w)
include h

/-- To ask a session for the delay leaves it as it is. -/
theorem forbears_askDelay (depth : Nat) :
    w.Forbears r s p (w.after (askDelay (invokeWithin depth) s)) := by
  have haskable : Askable r s (w.Forbears r s p) :=
    { sane := fun _ hf => hf.sane h.sane
      registry := fun _ hf => hf.session ▸ h.registry
      served := fun _ _ hs hf => hf.trans (.of_served hs)
      clock := fun depth _ hf => hf.trans (.of_harmless (hf.session ▸ h.clock) depth) }
  exact haskable.keeps_askDelay depth w (.refl w)

/-- A timer that cannot be armed leaves the session without one. -/
theorem armDaily_fails (harm : ∀ w', w.Forbears r s p w' → ∀ (depth serial : Nat) (delay : Value),
      w'.Forbears r s p (w'.after (invokeWithin depth (w'.row p : Policy).arm
        [delay, .function serial (.method s.object .dailyTimeout)])))
    {depth : Nat} {fault : Fault}
    (hfails : w.outcome (armDaily (invokeWithin depth) s) = .error fault) :
    w.Unarmed s p depth (w.after (armDaily (invokeWithin depth) s)) := by
  have hpolicy := h.sane.intact.run_askPolicy (invokeWithin depth) h.policy
  rw [armDaily_eq, World.outcome, World.run_bind_of_run hpolicy] at hfails
  rw [armDaily_eq, World.after_bind_of_run hpolicy]
  have hasked := h.forbears_askDelay depth
  have hrun := World.run_eq w (askDelay (invokeWithin depth) s)
  cases hdelay : w.outcome (askDelay (invokeWithin depth) s) with
  | error fault =>
    rw [World.after, World.run_bind_of_error hdelay]
    exact hasked.unarmed depth
  | ok delay =>
    rw [hdelay] at hrun
    rw [World.run_bind_of_run hrun] at hfails
    rw [World.after_bind_of_run hrun]
    revert hasked hfails
    generalize w.after (askDelay (invokeWithin depth) s) = asked
    intro hasked hfails
    have hintact := (hasked.sane h.sane).intact
    let read : World := { asked with nextSerial := asked.nextSerial + 1 }
    have hread : w.Forbears r s p read := hasked.trans (.of_alike ⟨asked.log, _, rfl⟩)
    have hhook := hintact.run_readAttribute_armHook (invokeWithin depth) p
    have htimeout := hintact.run_readAttribute_dailyTimeout (invokeWithin depth) s
    rw [World.run_bind_of_run hhook, World.run_bind_of_run htimeout] at hfails
    rw [World.after_bind_of_run hhook, World.after_bind_of_run htimeout]
    have hcalled := hread.trans (harm read hread depth asked.nextSerial delay)
    refine World.after_bind_cases (fun _ _ => hcalled.unarmed depth) fun handle hok => ?_
    have hcall := World.run_eq read (invokeWithin depth (asked.row p : Policy).arm
      [delay, .function asked.nextSerial (.method s.object .dailyTimeout)])
    rw [hok] at hcall
    rw [World.run_bind_of_run hcall] at hfails
    exact hcalled.unarmed_keepHandle hdelay handle hfails

end Driven

/-! ## Starts that fail -/

/-- What is left of a start that failed: a session that was not running is marked as running from
now on. It has no other policy, and no other handle unless the delay is no number. As long as it is
marked, all that comes of another start is a warning, so that no timer is armed. -/
structure World.Stalls (s : Ref .session) (p : Ref .policy) (depth : Nat) (w w' : World) :
    Prop where
  stopped : w.truthy (w.row s : Session).running = false
  running : (w'.row s : Session).running = .bool true
  unarmed : (w.withRunning s true).Unarmed s p depth w'
  warns (w'' : World) (hc : w'.Continues w'') (h : (w''.row s : Session).running = .bool true)
    (call : Caller) :
    w''.outcome (start call s) = .ok () ∧ w''.Alike (w''.after (start call s))

/-- Where a session can be driven, it can be driven marked as running as well. -/
theorem Driven.withRunning (h : Driven r s p w) (b : Bool) : Driven r s p (w.withRunning s b) :=
  h.near (.inr ⟨b, rfl⟩)

/-- A session whose start failed is left marked as running. -/
theorem Driven.stalls (h : Driven r s p w) (hf : w.Forbearing r s p) {depth : Nat} {fault : Fault}
    (hfails : w.outcome (Understudy.start (invokeWithin depth) s) = .error fault) :
    w.Stalls s p depth (w.after (Understudy.start (invokeWithin depth) s)) := by
  have hrun := h.sane.intact.run_start (invokeWithin depth) h.policy
  cases hstopped : w.truthy (w.row s : Session).running with
  | true =>
    rw [hstopped, if_pos rfl] at hrun
    rw [World.outcome, hrun] at hfails
    cases hfails
  | false =>
    have h₁ := h.withRunning true
    have hmarked : w.Continues (w.withRunning s true) :=
      .withRow_session ⟨rfl, fun _ => ⟨true, rfl⟩⟩
    rw [hstopped, if_neg Bool.false_ne_true, h₁.sane.intact.run_askToArm] at hrun
    rw [World.outcome, hrun] at hfails
    rw [World.after, hrun]
    have hunarmed := h₁.armDaily_fails (fun w' hw' depth serial delay =>
      hw'.policy ▸ hf w' (hmarked.trans hw'.toContinues) depth serial delay) hfails
    obtain ⟨handle, hsession, _⟩ := hunarmed.session
    rw [w.row_withRunning] at hsession
    refine ⟨hstopped, congrArg Session.running hsession, hunarmed, fun w'' hc hrunning call => ?_⟩
    have hlater := hmarked.trans (hunarmed.continues.trans hc)
    obtain ⟨_, _, _, _, hpolicy⟩ :=
      Session.made_eq (hlater.sessions.row s.index h.there).made
    have hwarned := (hlater.intact h.sane.intact).run_start call (hpolicy.trans h.policy)
    rw [hrunning, show w''.truthy (.bool true) = true from rfl, if_pos rfl] at hwarned
    rw [World.outcome, World.after, hwarned]
    exact ⟨rfl, Quiet.emit _ _ _ _ w''⟩

end

/-! ### A session without a timeline -/

/-- The session on the bench was to be started, with a bank that has no timeline. -/
def shimStalled : World := (shimBench benchFacts).after (start invoke ⟨0⟩)

theorem shimBench_forbearing (facts : Facts) :
    (shimBench facts).Forbearing ⟨0⟩ ⟨0⟩ ⟨0⟩ :=
  have hbank : ((shimBench facts).row (⟨0⟩ : Ref .bank) : Bank).Tidy := Bank.tidy_empty
  .of_bank (shimBench_ready facts).driven.sane.intact hbank Nat.zero_lt_one rfl

theorem shimBench_fails : ∃ fault,
    (shimBench benchFacts).outcome (start invoke ⟨0⟩) = .error fault := by
  have hfault : ((shimBench benchFacts).outcome (start invoke ⟨0⟩)).isOk = false := by
    decide +kernel
  cases houtcome : (shimBench benchFacts).outcome (start invoke ⟨0⟩) with
  | error fault => exact ⟨fault, rfl⟩
  | ok _ =>
    rw [houtcome] at hfault
    cases hfault

theorem shimStalled_stalls :
    ∃ fault, (shimBench benchFacts).outcome (start invoke ⟨0⟩) = .error fault ∧
      (shimBench benchFacts).Forbearing ⟨0⟩ ⟨0⟩ ⟨0⟩ ∧
        (shimBench benchFacts).Stalls ⟨0⟩ ⟨0⟩ depthLimit shimStalled := by
  obtain ⟨fault, hfails⟩ := shimBench_fails
  exact ⟨fault, hfails, shimBench_forbearing benchFacts,
    (shimBench_ready benchFacts).driven.stalls (shimBench_forbearing benchFacts) hfails⟩

/-- A start that fails does not leave the session as it was. -/
theorem shimStalled_runs :
    ¬∀ (r : Ref .registry) (s : Ref .session) (p : Ref .policy) (w : World) (fault : Fault),
      Driven r s p w → w.Forbearing r s p → w.outcome (start invoke s) = .error fault →
        let w' := w.after (start invoke s)
        (w'.row s : Session).running = (w.row s : Session).running ∧
          (w'.row s : Session).handle = (w.row s : Session).handle ∧
            (w'.row s : Session).policy = (w.row s : Session).policy := by
  intro hgeneral
  obtain ⟨fault, hfails⟩ := shimBench_fails
  have hsame : (shimStalled.row (⟨0⟩ : Ref .session) : Session).running = .bool false :=
    (hgeneral ⟨0⟩ ⟨0⟩ ⟨0⟩ _ fault (shimBench_ready benchFacts).driven
      (shimBench_forbearing benchFacts) hfails).1
  have hmarked : (shimStalled.row (⟨0⟩ : Ref .session) : Session).running.whole? = some 1 := by
    decide +kernel
  rw [hsame] at hmarked
  cases hmarked

end Understudy

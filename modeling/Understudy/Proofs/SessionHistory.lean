import Understudy.Proofs.CollectionRuns

/-!
# What may happen to a session

A session is set up, started and shut down, runs are asked for, its timer fires, its hooks are
replaced, and its registry is dealt with, in any order and however each of these ends. The hooks may
be anything that can be called, and a hook that is called may go on to do anything of this kind
itself: collect, fire, replace itself, or deal with the registry. So what may happen is a tree
rather than a list.

A session that has a bank to arm its timers with, and the hooks of a bank or those that do nothing,
calls nothing that adds to its collections by itself. Whatever becomes of it in a lifetime is
something that may happen, and time may pass meanwhile.

## Main definitions

* `Aim`, `aimToArm`, `aimToCancel`: what a session is about to call.
* `SessionHistory`: what may happen to a session.

## Main statements

* `Equipped.adds_hook`, `Equipped.adds_cancelHook`: the hooks of a bank add nothing.
* `Lifetime.history`: a lifetime is something that may happen to a session.
-/

namespace Understudy

/-! ## What is about to be called -/

/-- What a session calls when it arms its timer: the first hook, with the delay and with the
request that is to be made in time. -/
structure Aim where
  hook : Value
  delay : Value
  timeout : Value

/-- Finds out what is to be called for a timer to be armed. -/
def aimToArm (call : Caller) (s : Ref .session) : Action Aim := do
  let policy ← askPolicy call s
  let delay ← askDelay call s
  let hook ← readAttribute call policy "set_daily_timeout"
  let timeout ← readAttribute call (.ofRef s) Method.dailyTimeout.word
  return ⟨hook, delay, timeout⟩

/-- Finds out what is to be called for a timer to be cancelled. -/
def aimToCancel (call : Caller) (s : Ref .session) : Action Value := do
  let policy ← askPolicy call s
  readAttribute call policy "clear_daily_timeout"

theorem armDaily_aim (call : Caller) (s : Ref .session) :
    armDaily call s = (do
      let aim ← aimToArm call s
      let handle ← call aim.hook [aim.delay, aim.timeout]
      keepHandle s aim.delay handle) := by
  simp only [armDaily_eq, aimToArm, bind_assoc, pure_bind]

theorem shutdown_aim (call : Caller) (s : Ref .session) :
    shutdown call s = (do
      if (← get).truthy (← fetch s).running then
        update s fun session => { session with running := .bool false }
        let hook ← aimToCancel call s
        let _ ← call hook [(← fetch s).handle]
        letGo s) := by
  simp only [shutdown_eq, aimToCancel, bind_assoc]

section

variable {r : Ref .registry} {s : Ref .session} {I : World → Prop} (h : Askable r s I)
include h

theorem Askable.keeps_askPolicy (call : Caller) : Keeps I (askPolicy call s) := by
  intro w hw
  have hrun : w.run (askPolicy call s) = w.run (requirePolicy call s) :=
    (h.sane w hw).intact.run_request call s [] _ rfl
  rw [World.after, hrun]
  exact h.quiet (quiet_requirePolicy call s) w hw

theorem Askable.keeps_aimToArm (depth : Nat) : Keeps I (aimToArm (invokeWithin depth) s) := by
  refine (h.keeps_askPolicy _).bind fun policy => ?_
  refine (h.keeps_askDelay depth).bind fun delay => ?_
  refine (h.quiet (quiet_readAttribute _ _ (by decide))).bind fun hook => ?_
  exact (h.quiet (quiet_readAttribute _ _ (by decide))).bind fun timeout => .pure _

theorem Askable.keeps_aimToCancel (call : Caller) : Keeps I (aimToCancel call s) :=
  (h.keeps_askPolicy call).bind fun _ => h.quiet (quiet_readAttribute call _ (by decide))

end

/-! ## What may happen -/

/-- What may happen to a session, from one state to another. A request may fail at any point. A
hook that is called with whatever the session has found out to call may do again what may happen to
the session. -/
inductive SessionHistory (r : Ref .registry) (s : Ref .session) : World → World → Prop
  | nothing (w : World) : SessionHistory r s w w
  | more {w w₁ w' : World} (first : SessionHistory r s w w₁) (rest : SessionHistory r s w₁ w') :
      SessionHistory r s w w'
  /-- Whatever is done elsewhere, it is nothing to the collections. -/
  | elsewhere {w w' : World} (aside : w.Adds r s [] w') : SessionHistory r s w w'
  /-- Something is registered, unregistered, installed, restored or asked for. -/
  | deal {w : World} (call : Caller) {d : Dealing} (fits : d.Fits r w) :
      SessionHistory r s w (w.after (d.perform call r))
  /-- The hooks of a policy are replaced. -/
  | swap {w : World} (call : Caller) {p : Ref .policy} {swap : Swap} (fits : swap.Fits p w) :
      SessionHistory r s w (w.after (swap.perform call p))
  | setUp (w : World) (call : Caller) : SessionHistory r s w (w.after (setUp call s))
  | report (w : World) (call : Caller) : SessionHistory r s w (w.after (environment call s))
  /-- A run is asked for directly. -/
  | collect (w : World) (depth : Nat) :
      SessionHistory r s w (w.after (collectDaily (invokeWithin depth) s))
  | start {w : World} (depth : Nat)
      (hooked : w.truthy (w.row s : Session).running = false → ∀ aim asked,
        (w.withRunning s true).run (aimToArm (invokeWithin depth) s) = (.ok aim, asked) →
          SessionHistory r s asked
            (asked.after (invokeWithin depth aim.hook [aim.delay, aim.timeout]))) :
      SessionHistory r s w (w.after (start (invokeWithin depth) s))
  | shutdown {w : World} (depth : Nat)
      (hooked : w.truthy (w.row s : Session).running = true → ∀ hook asked,
        (w.withRunning s false).run (aimToCancel (invokeWithin depth) s) = (.ok hook, asked) →
          SessionHistory r s asked
            (asked.after (invokeWithin depth hook [(asked.row s : Session).handle]))) :
      SessionHistory r s w (w.after (shutdown (invokeWithin depth) s))
  /-- The timer of the session fires. -/
  | fire {w : World} (depth : Nat)
      (hooked : (w.ran (invokeWithin depth) s).truthy
          ((w.ran (invokeWithin depth) s).row s : Session).running = true → ∀ aim asked,
        (w.ran (invokeWithin depth) s).run (aimToArm (invokeWithin depth) s) = (.ok aim, asked) →
          SessionHistory r s asked
            (asked.after (invokeWithin depth aim.hook [aim.delay, aim.timeout]))) :
      SessionHistory r s w (w.after (onDailyTimeout (invokeWithin depth) s))

/-! ## Hooks that add nothing -/

namespace World.Adds

variable {r : Ref .registry} {s : Ref .session} {w w' : World}

theorem of_armStep {t : Ref .timeline} {b : Ref .bank} {callback : Value}
    {outcome : Except Fault Value} (h : ArmStep t b callback w w' outcome) :
    w.Adds r s [] w' := by
  cases h with
  | refused _ same =>
    rw [same]
    exact refl w
  | skipped _ skipped =>
    rw [skipped]
    exact of_eq rfl rfl rfl
  | @armed due _ kept =>
    have harmed : w.Adds r s [] (w.armed t b due callback) := of_eq rfl rfl rfl
    exact harmed.after (of_alike kept)

theorem cancelled (w : World) (t : Ref .timeline) (b : Ref .bank) (seq : Nat) :
    w.Adds r s [] (w.cancelled t b seq) :=
  of_row (fun hs => ⟨hs.intact.cancelled t b seq, hs.sound⟩) rfl

theorem withLine (w : World) (t : Ref .timeline) (line : Timeline) :
    w.Adds r s [] (w.withRow t line) := of_eq rfl rfl rfl

theorem withNote (w : World) (note : List Value) : w.Adds r s [] (w.withNote note) :=
  of_eq rfl rfl rfl

theorem ringing (w : World) (t : Ref .timeline) (seq : Nat) (timer : Timer) :
    w.Adds r s [] (w.ringing t seq timer) := by
  unfold World.ringing
  cases timer.alarm <;> exact of_eq rfl rfl rfl

end World.Adds

namespace World.Hooked

variable {r : Ref .registry} {s : Ref .session} {t : Ref .timeline} {w : World}
  {arm cancel : Value} (h : w.Hooked t arm cancel) (hw : w.Intact) (depth : Nat)
include h hw

/-- The first hook arms a timer at most. -/
theorem adds_arm (delay callback : Value) :
    w.Adds r s [] (w.after (invokeWithin depth arm [delay, callback])) := by
  cases depth with
  | zero => exact .refl w
  | succ depth =>
    cases h with
    | idle i j =>
      rw [World.after_of_run (run_invoke_idleArm w depth i delay callback)]
      exact .refl w
    | banked i j on =>
      rw [World.after, run_invoke_arm]
      exact .of_armStep (hw.armTimer_cases (invokeWithin depth) on delay callback)

/-- The second hook cancels a timer at most. -/
theorem adds_cancel {handle : Value} (hhandle : handle = .none ∨ ∃ seq, handle = .handle t seq) :
    w.Adds r s [] (w.after (invokeWithin depth cancel [handle])) := by
  cases depth with
  | zero => exact .refl w
  | succ depth =>
    cases h with
    | idle i j =>
      rw [World.after_of_run (run_invoke_idleCancel w depth j handle)]
      exact .refl w
    | @banked i j b on =>
      rw [World.after, run_invoke_cancel, run_nothing]
      rcases hhandle with rfl | ⟨seq, rfl⟩
      · exact .refl w
      · rw [World.after_of_run (hw.run_cancelTimer _ t b seq)]
        exact (World.Adds.cancelled w t b seq).after (.of_alike (Quiet.emit _ _ _ _ _))

end World.Hooked

namespace Equipped

variable {r : Ref .registry} {s : Ref .session} {t : Ref .timeline} {w asked : World}

theorem withSession (h : Equipped r s t w) {session : Session}
    (hgear : session.gear = (w.row s : Session).gear) :
    Equipped r s t (w.withRow s session) :=
  h.steady (.withRow_session w s session) (by rw [World.row_withRow_self, hgear])

theorem alike (h : Equipped r s t w) (hlike : w.Alike asked) : Equipped r s t asked :=
  (World.Filled.of_alike hlike).equipped h

theorem collecting (h : Equipped r s t w) : Collecting r s w :=
  ⟨h.sane, h.registry, h.clock.discreet⟩

/-- A session that is about to arm its timer has asked for the delay, and calls the first hook of
its policy. -/
theorem aims (h : Equipped r s t w) (depth : Nat) {aim : Aim}
    (haim : w.run (aimToArm (invokeWithin depth) s) = (.ok aim, asked)) :
    Equipped r s t asked ∧ ∃ p : Ref .policy, (asked.row s : Session).policy = .ofRef p ∧
      aim.hook = (asked.row p : Policy).arm := by
  rcases h.askPolicy_cases (invokeWithin depth) with ⟨p, hp, hpolicy⟩ | ⟨⟨fault, hfault⟩, _⟩
  · have huntouched := h.untouched_askDelay depth
    have hdelay := World.run_eq w (askDelay (invokeWithin depth) s)
    rw [aimToArm, World.run_bind_of_run hpolicy] at haim
    cases hasked : w.outcome (askDelay (invokeWithin depth) s) with
    | error fault =>
      rw [World.run_bind_of_error hasked] at haim
      cases haim
    | ok delay =>
      rw [hasked] at hdelay
      rw [World.run_bind_of_run hdelay] at haim
      revert haim huntouched
      generalize w.after (askDelay (invokeWithin depth) s) = told
      intro huntouched haim
      have htold : Equipped r s t told := huntouched.filled.equipped h
      have hintact := htold.sane.intact
      rw [World.run_bind_of_run (hintact.run_readAttribute_armHook _ p),
        World.run_bind_of_run (hintact.run_readAttribute_dailyTimeout _ s), World.run_pure] at haim
      cases haim
      exact ⟨htold.alike ⟨_, _, rfl⟩, p, (congrArg Session.policy huntouched.session).trans hp, rfl⟩
  · rw [aimToArm, World.run_bind_of_error hfault] at haim
    cases haim

/-- A session that is about to arm its timer calls a hook that adds nothing. -/
theorem adds_hook (h : Equipped r s t w) (depth : Nat) {aim : Aim}
    (haim : w.run (aimToArm (invokeWithin depth) s) = (.ok aim, asked)) :
    asked.Adds r s [] (asked.after (invokeWithin depth aim.hook [aim.delay, aim.timeout])) := by
  obtain ⟨hasked, p, hp, hhook⟩ := h.aims depth haim
  rw [hhook]
  exact (hasked.hooked hp).2.adds_arm hasked.sane.intact depth aim.delay aim.timeout

/-- A session that is about to cancel its timer calls a hook that adds nothing either. -/
theorem adds_cancelHook (h : Equipped r s t w) (depth : Nat)
    (hhandle : (w.row s : Session).handle = .none ∨
      ∃ seq, (w.row s : Session).handle = .handle t seq) {hook : Value}
    (haim : w.run (aimToCancel (invokeWithin depth) s) = (.ok hook, asked)) :
    asked.Adds r s []
      (asked.after (invokeWithin depth hook [(asked.row s : Session).handle])) := by
  rcases h.askPolicy_cases (invokeWithin depth) with ⟨p, hp, hpolicy⟩ | ⟨⟨fault, hfault⟩, _⟩
  · rw [aimToCancel, World.run_bind_of_run hpolicy,
      h.sane.intact.run_readAttribute_cancelHook _ p] at haim
    cases haim
    exact (h.hooked hp).2.adds_cancel h.sane.intact depth hhandle
  · rw [aimToCancel, World.run_bind_of_error hfault] at haim
    cases haim

theorem dropped (h : Equipped r s t w) : Equipped r s t (w.dropped s) := h.withSession rfl

/-- What is left of a run leaves a session equipped. -/
theorem ran (h : Equipped r s t (w.dropped s)) (depth : Nat) :
    Equipped r s t (w.ran (invokeWithin depth) s) :=
  ((h.filled_collectDaily depth).equipped h).alike (quiet_tellFault _ _)

/-- A timer that fires is something that may happen to a session. -/
theorem days_fire (h : Equipped r s t (w.dropped s)) (depth : Nat) :
    SessionHistory r s w (w.after (onDailyTimeout (invokeWithin depth) s)) :=
  .fire depth fun _ _ _ haim => .elsewhere ((h.ran depth).adds_hook depth haim)

end Equipped

/-! ## A lifetime -/

namespace Tended

variable {guarded : Prop} {r : Ref .registry} {s : Ref .session} {t : Ref .timeline}
  {w : World}

/-- Whatever timer of the timeline fires, it is something that may happen to a session. -/
theorem days_ring (h : Tended guarded r s t w) {seq : Nat} {timer : Timer}
    (htimer : (w.row t : Timeline).timer? seq = some timer) (hlive : timer.live = true)
    (depth : Nat) :
    SessionHistory r s w ((w.withRow t ((w.row t : Timeline).reach seq timer.due)).after
      (ring (invokeWithin (depth + 1)) t seq timer.alarm)) := by
  rw [after_ring]
  refine .more (.elsewhere (.ringing w t seq timer)) ?_
  rcases h.others seq timer htimer hlive with hcalls | haloof
  · have hhandle := (h.awaits t seq).1 ⟨timer, htimer, hlive, hcalls⟩
    obtain ⟨serial, hcallback⟩ := hcalls
    rw [hcallback, World.after, run_invoke_dailyTimeout, run_nothing]
    exact (h.ringing_own hhandle).equipped.days_fire depth
  · have huntouched := haloof (depth + 1) (w.ringing t seq timer)
    exact .elsewhere (.of_row huntouched.sane huntouched.session)

/-- However many timers fire, it is something that may happen to a session. -/
theorem days_fireDue (goal : Decimal.Parts) (depth limit : Nat) (h : Tended guarded r s t w) :
    SessionHistory r s w
      (w.after (Understudy.fireDue (invokeWithin (depth + 1)) t goal limit)) := by
  induction limit generalizing w with
  | zero => exact .nothing w
  | succ limit ih =>
    obtain hafter | ⟨seq, timer, htimer, hcancelled, hafter⟩ |
      ⟨seq, timer, note, htimer, hlive, hafter⟩ :=
        fireDue_cases (invokeWithin (depth + 1)) limit w t goal
    · rw [hafter]
      exact .nothing w
    · rw [hafter]
      exact .more (.elsewhere (.withLine w t _)) (ih (h.takeCancelled htimer hcancelled))
    · rw [hafter]
      have hrung := h.days_ring htimer hlive depth
      have hfired := (h.fire htimer hlive depth).1
      refine hrung.more (.more (.elsewhere (.withNote _ note)) (ih ?_))
      exact hfired.filled (World.Untouched.withNote _ note).filled

/-- However far time is moved on, it is something that may happen to a session. -/
theorem days_advance (h : Tended guarded r s t w) (depth : Nat) (goal : Value) :
    SessionHistory r s w (w.after (Understudy.advance (invokeWithin (depth + 1)) t goal)) := by
  obtain ⟨w₁, w₂, hfirst, hlike, hlast⟩ := advance_cases w (invokeWithin (depth + 1)) t goal
  have hfired : SessionHistory r s w w₁ := by
    obtain rfl | ⟨limit, rfl⟩ := hfirst
    · exact .nothing w₁
    · exact h.days_fireDue limit depth fireLimit
  refine hfired.more (.more (.elsewhere (.of_alike hlike)) ?_)
  obtain hafter | ⟨now, hafter⟩ := hlast
  · rw [hafter]
    exact .nothing w₂
  · rw [hafter]
    exact .elsewhere (.withLine w₂ t _)

/-- A turn in the life of a session is something that may happen to it. -/
theorem days_turn (h : Tended guarded r s t w) (turn : Turn) (fits : turn.Fits r s t w)
    (timely : guarded → turn.Timely s w) : SessionHistory r s w (turn.after r s t w) := by
  have hrunning (b : Bool) : Equipped r s t (w.withRunning s b) := h.equipped.withSession rfl
  cases turn with
  | setUp => exact .setUp w invoke
  | start =>
    exact .start depthLimit fun _ _ _ haim =>
      .elsewhere ((hrunning true).adds_hook depthLimit haim)
  | shutdown =>
    refine .shutdown depthLimit fun _ _ _ haim =>
      .elsewhere ((hrunning false).adds_cancelHook depthLimit ?_ haim)
    rw [w.row_withRunning]
    exact h.handle
  | collect => exact .collect w depthLimit
  | advance goal => exact h.days_advance 999 goal
  | override i arm cancel =>
    obtain ⟨htended, hsame⟩ := h.overrideScheduling invoke fits.1 fits.2 timely
    exact .elsewhere (.of_row (fun _ => htended.equipped.sane) hsame)
  | deal d => exact .deal invoke fits

end Tended

/-- A lifetime of turns that keep a session tended is something that may happen to it. -/
theorem Lifetime.history {guarded : Prop} {r : Ref .registry} {s : Ref .session}
    {t : Ref .timeline} {Allowed : World → Turn → Prop} {w₀ w : World}
    (h : Lifetime r s t Allowed w₀ w) (h₀ : Tended guarded r s t w₀)
    (hallowed : ∀ w turn, Tended guarded r s t w → Allowed w turn →
      (guarded → turn.Timely s w) ∧ turn.Clean s w) : SessionHistory r s w₀ w := by
  induction h with
  | begin => exact .nothing w₀
  | turn before turn fits allowed ih =>
    have htended := before.tended h₀ hallowed
    obtain ⟨timely, _⟩ := hallowed _ turn htended allowed
    exact ih.more (htended.days_turn turn fits timely)
  | elsewhere _ aside ih => exact ih.more (.elsewhere (.of_row aside.sane aside.session))

end Understudy

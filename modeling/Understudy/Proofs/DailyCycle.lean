import Understudy.Proofs.SessionTimers

/-!
# The daily cycle

A session that starts arms its timer, and when the timer has fired it arms the next one. A
tended session stays tended through all of this, wherever it fails.

## Main statements

* `Equipped.filled_collectDaily`: collecting leaves alone what the timer depends on.
* `Tended.armDaily`: a running session without a timer may arm one.
* `Tended.start`, `Tended.onDailyTimeout`: the first timer, and the next one.
-/

namespace Understudy

namespace World

variable {α : Type} {reg : Ref .registry} {s : Ref .session} {w w' : World}

theorem Untouched.of_quiet {a : Action α} (h : Quiet a) : w.Untouched reg s (w.after a) :=
  .of_alike (h w)

end World

/-! ## What is asked of a session -/

section

variable {reg : Ref .registry} {s : Ref .session} {t : Ref .timeline} {w w' : World}

theorem quiet_untilMidnight (now : Moment) : Quiet (untilMidnight now) := by
  unfold untilMidnight
  cases now.secondsUntilMidnight? with
  | some delay => exact Quiet.renew _
  | none => exact Quiet.throw _

theorem quiet_lengthOf (v : Value) : Quiet (lengthOf v) := by
  refine Quiet.get.bind fun w => ?_
  cases w.length? v with
  | some n => exact Quiet.pure n
  | none => exact Quiet.throw _

/-- Looking up the identity asks a provider. -/
theorem Sane.served_identityService (h : Sane reg w)
    (hr : (w.row s : Session).registry = .ofRef reg) (call : Caller) (capability : Capability) :
    w.Served (w.after (identityService call s capability)) := by
  rw [identityService, World.after_bind_of_run (World.run_fetch w s), hr, World.after,
    h.intact.run_request call reg _ _ rfl]
  exact h.intact.served_getService call reg h.sound _ _

/-- A property of states in which a session can be asked for its delay and its identity, and
that asking does not break. -/
structure Askable (reg : Ref .registry) (s : Ref .session) (I : World → Prop) : Prop where
  sane (w : World) (h : I w) : Sane reg w
  registry (w : World) (h : I w) : (w.row s : Session).registry = .ofRef reg
  served (w w' : World) (hs : w.Served w') (h : I w) : I w'
  clock (depth : Nat) (w : World) (h : I w) :
    I (w.after (invokeWithin depth (w.row s : Session).clock []))

namespace Askable

variable {I : World → Prop} (h : Askable reg s I)
include h

theorem quiet {α : Type} {a : Action α} (ha : Quiet a) : Keeps I a :=
  ha.keeps fun _ _ hlike => h.served _ _ (.of_alike hlike)

/-- The delay may be asked of a clock. -/
theorem keeps_nextDailyDelay (depth : Nat) : Keeps I (nextDailyDelay (invokeWithin depth) s) := by
  intro w hw
  rw [nextDailyDelay, World.after_bind_of_run (World.run_fetch w s)]
  split
  · exact hw
  · have hasked := h.clock depth w hw
    refine World.after_bind_cases (fun _ _ => hasked) fun now _ => ?_
    refine h.quiet ?_ _ hasked
    cases now with
    | moment _ now => exact quiet_untilMidnight now
    | _ => exact Quiet.get.bind fun _ => Quiet.throw _

theorem keeps_askDelay (depth : Nat) : Keeps I (askDelay (invokeWithin depth) s) := by
  intro w hw
  have hrun : w.run (askDelay (invokeWithin depth) s) =
      w.run (nextDailyDelay (invokeWithin depth) s) :=
    (h.sane w hw).intact.run_request _ s [] _ rfl
  rw [World.after, hrun]
  exact h.keeps_nextDailyDelay depth w hw

theorem keeps_identityService (call : Caller) (capability : Capability) :
    Keeps I (identityService call s capability) := fun _ hw =>
  h.served _ _ ((h.sane _ hw).served_identityService (h.registry _ hw) call capability) hw

end Askable

/-- What a session needs to arm its timer it needs to be asked. -/
theorem Equipped.askable (h : Equipped reg s t w) : Askable reg s (w.Untouched reg s) where
  sane w' hu := hu.sane h.sane
  registry w' hu := (congrArg Session.registry hu.session).trans h.registry
  served w' w'' hs hu := hu.trans (.of_served hs)
  clock depth w' hu := by
    rw [hu.session]
    exact hu.trans (h.clock depth w')

/-- The delay may be asked of a clock, which leaves the session alone. -/
theorem Equipped.untouched_askDelay (h : Equipped reg s t w) (depth : Nat) :
    w.Untouched reg s (w.after (askDelay (invokeWithin depth) s)) :=
  h.askable.keeps_askDelay depth w (.refl w)

theorem World.Filled.equipped (hf : w.Filled reg s w') (h : Equipped reg s t w) :
    Equipped reg s t w' := by
  have hgear (x : Session) : x.unfilled.gear = x.gear := rfl
  refine h.steady hf.toSteady ?_
  rw [← hgear (w'.row s), hf.session, hgear]

/-- A list of collections is read where it is kept. -/
theorem World.Intact.run_readAttribute_collections (hw : w.Intact) (call : Caller)
    (s : Ref .session) :
    w.run (readAttribute call (.ofRef s) "collections") = (.ok (.list (.collections s)), w) := by
  have hnone : w.assigned? s.object "collections" = none := hw _ _ (.inr (by simp))
  refine run_readAttribute_held call ?_
  show w.lookObject s.object "collections" = _
  unfold World.lookObject
  rw [hnone]
  rfl

end

/-! ## Collecting -/

/-- What a run notes. -/
def gather (call : Caller) (s : Ref .session) : Action Collection := do
  let identity ← askSession call s .currentIdentity (currentIdentity call)
  let sequence := (← lengthOf (← readAttribute call (.ofRef s) "collections")) + 1
  let delay ← askDelay call s
  let appId ← answerOf call identity .id
  let appVersion ← answerOf call identity .version
  let os ← answerOf call identity .os
  return ⟨← freshSerial, sequence, delay, appId, appVersion, os⟩

/-- Keeps what a run noted. -/
def keepCollection (call : Caller) (s : Ref .session) (collection : Collection) :
    Action Value := do
  appendTo call (← readAttribute call (.ofRef s) "collections") collection.toValue
  info sessionLogger
    ("Daily collection #" ++ toString collection.sequence ++ " for " ++
      (← shown collection.appId) ++ " " ++ (← shown collection.appVersion) ++ " on " ++
        (← shown collection.os))
  return collection.toValue

/-- Collecting is noting, and keeping what was noted. -/
theorem collectDaily_eq (call : Caller) (s : Ref .session) :
    collectDaily call s = gather call s >>= keepCollection call s := by
  simp only [collectDaily, gather, keepCollection, bind_assoc, pure_bind]

/-- The state in which a session has one more collection. -/
def World.collected (w : World) (s : Ref .session) (item : Value) : World :=
  w.withRow s { (w.row s : Session) with collections := (w.row s : Session).collections ++ [item] }

section

variable {reg : Ref .registry} {s : Ref .session} {t : Ref .timeline} {w : World}

/-- What noting asks of others breaks nothing that asking does not break. -/
theorem Askable.keeps_gather {I : World → Prop} (h : Askable reg s I) (depth : Nat) :
    Keeps I (gather (invokeWithin depth) s) := by
  refine Keeps.bind (fun w hw => ?_) fun identity => ?_
  · have hrun : w.run (askSession (invokeWithin depth) s .currentIdentity
        (currentIdentity (invokeWithin depth))) =
        w.run (identityService (invokeWithin depth) s .runtime) :=
      (h.sane w hw).intact.run_request _ s [] _ rfl
    rw [World.after, hrun]
    exact h.keeps_identityService _ _ w hw
  refine (h.quiet (quiet_readAttribute _ _ (by decide))).bind fun collections => ?_
  refine (h.quiet (quiet_lengthOf collections)).bind fun length => ?_
  refine (h.keeps_askDelay depth).bind fun delay => ?_
  refine (h.quiet (quiet_answerOf _ _ _)).bind fun appId => ?_
  refine (h.quiet (quiet_answerOf _ _ _)).bind fun appVersion => ?_
  refine (h.quiet (quiet_answerOf _ _ _)).bind fun os => ?_
  exact h.quiet (Quiet.freshSerial.bind fun _ => Quiet.pure _)

/-- What noting asks of others leaves the session alone. -/
theorem Equipped.untouched_gather (h : Equipped reg s t w) (depth : Nat) :
    w.Untouched reg s (w.after (gather (invokeWithin depth) s)) :=
  h.askable.keeps_gather depth w (.refl w)

/-- What was noted is kept, even if it cannot be told. -/
theorem World.Intact.alike_keepCollection (hw : w.Intact) (call : Caller) (s : Ref .session)
    (collection : Collection) :
    (w.collected s collection.toValue).Alike (w.after (keepCollection call s collection)) := by
  have happend : w.run (appendTo call (.list (.collections s)) collection.toValue) =
      (.ok (), w.collected s collection.toValue) := rfl
  rw [keepCollection, World.after_bind_of_run (hw.run_readAttribute_collections call s),
    World.after_bind_of_run happend]
  refine Quiet.bind (Quiet.shown _) (fun _ => (Quiet.shown _).bind fun _ => ?_) _
  exact (Quiet.shown _).bind fun _ => (Quiet.emit _ _ _ _).bind fun _ => Quiet.pure _

theorem outcome_keepCollection {call : Caller} {collection : Collection} {v : Value}
    (h : w.outcome (keepCollection call s collection) = .ok v) : v = collection.toValue := by
  obtain ⟨_, _, h⟩ := World.outcome_bind_eq_ok.1 h
  obtain ⟨_, _, h⟩ := World.outcome_bind_eq_ok.1 h
  obtain ⟨_, _, h⟩ := World.outcome_bind_eq_ok.1 h
  obtain ⟨_, _, h⟩ := World.outcome_bind_eq_ok.1 h
  obtain ⟨_, _, h⟩ := World.outcome_bind_eq_ok.1 h
  obtain ⟨_, _, h⟩ := World.outcome_bind_eq_ok.1 h
  exact (Except.ok.inj h).symm

/-- One more collection makes no difference to a session's timer. -/
theorem World.Filled.collected (w : World) (s : Ref .session) (item : Value) :
    w.Filled reg s (w.collected s item) := by
  refine ⟨.of_eq (fun hs => ⟨hs.intact.congr rfl, hs.sound⟩) rfl rfl, rfl, ?_⟩
  rw [World.collected, World.row_withRow_self]
  rfl

/-- What is collected is all that collecting leaves behind. -/
theorem Equipped.filled_collectDaily (h : Equipped reg s t w) (depth : Nat) :
    w.Filled reg s (w.after (collectDaily (invokeWithin depth) s)) := by
  have hgathered := h.untouched_gather depth
  have hintact := (hgathered.filled.equipped h).sane.intact
  rw [collectDaily_eq]
  refine World.after_bind_cases (fun _ _ => hgathered.filled) fun collection _ => ?_
  refine hgathered.filled.trans (.trans (.collected _ s collection.toValue) ?_)
  exact .of_alike (hintact.alike_keepCollection _ s collection)

/-- What a run gives back is the last collection of the session. -/
theorem Equipped.collections_of_collectDaily (h : Equipped reg s t w) (depth : Nat) {v : Value}
    (hv : w.outcome (collectDaily (invokeWithin depth) s) = .ok v) :
    ((w.after (collectDaily (invokeWithin depth) s)).row s : Session).collections =
      (w.row s : Session).collections ++ [v] := by
  have hgathered := h.untouched_gather depth
  have hintact := (hgathered.filled.equipped h).sane.intact
  rw [collectDaily_eq] at hv ⊢
  obtain ⟨collection, hok, hkept⟩ := World.outcome_bind_eq_ok.1 hv
  obtain rfl := outcome_keepCollection hkept
  rw [World.after_bind_of_ok hok]
  obtain ⟨log, serial, hafter⟩ := hintact.alike_keepCollection (invokeWithin depth) s collection
  rw [hafter]
  show ((World.collected _ s _).row s : Session).collections = _
  rw [World.collected, World.row_withRow_self, hgathered.session]

end

/-! ## Arming -/

/-- A request that is read from a thing is made anew. -/
theorem run_readAttribute_made {w : World} (call : Caller) {v : Value} {name : String}
    {o : Object} {m : Method} (h : w.look v name = .ok (.made (.method o m))) :
    w.run (readAttribute call v name) =
      (.ok (.function w.nextSerial (.method o m)), { w with nextSerial := w.nextSerial + 1 }) := by
  show w.run (readWithin call (999 + 1) v name) = _
  rw [readWithin, World.run_bind, World.run_get]
  simp only [World.run_bind, World.run_orFail, h, World.run_hold]
  rfl

namespace World.Intact

variable {w : World} (hw : w.Intact) (call : Caller)
include hw

/-- Nothing else is in the place of the hooks of a policy. -/
theorem hooksOf (p : Ref .policy) : w.hooksOf p = (w.row p : Policy).toValue := by
  have hnone : w.assigned? p.object hooksName = none := hw _ _ (.inr (by simp))
  rw [World.hooksOf, hnone]
  rfl

theorem run_readAttribute_armHook (p : Ref .policy) :
    w.run (readAttribute call (.ofRef p) "set_daily_timeout") =
      (.ok (w.row p : Policy).arm, w) := by
  refine run_readAttribute_held call ?_
  show World.property?.hook w p 0 = _
  rw [World.property?.hook, hw.hooksOf]
  rfl

theorem run_readAttribute_cancelHook (p : Ref .policy) :
    w.run (readAttribute call (.ofRef p) "clear_daily_timeout") =
      (.ok (w.row p : Policy).cancel, w) := by
  refine run_readAttribute_held call ?_
  show World.property?.hook w p 1 = _
  rw [World.property?.hook, hw.hooksOf]
  rfl

theorem run_readAttribute_dailyTimeout (s : Ref .session) :
    w.run (readAttribute call (.ofRef s) Method.dailyTimeout.word) =
      (.ok (.function w.nextSerial (.method s.object .dailyTimeout)),
        { w with nextSerial := w.nextSerial + 1 }) := by
  refine run_readAttribute_made call ?_
  show w.lookObject s.object Method.dailyTimeout.word = _
  unfold World.lookObject
  rw [hw.assigned?_word]
  rfl

end World.Intact

/-- Keeps the handle of a timer that was armed. -/
def keepHandle (s : Ref .session) (delay handle : Value) : Action Unit := do
  update s fun session => { session with handle := handle }
  let text ← orFail (fixedText (← get) 1 delay)
  debug sessionLogger ("Daily collection armed in " ++ text ++ "s")

theorem alike_keepHandle (w : World) (s : Ref .session) (delay handle : Value) :
    (w.withRow s { (w.row s : Session) with handle := handle }).Alike
      (w.after (keepHandle s delay handle)) := by
  rw [keepHandle, World.after_bind_of_run (World.run_update w s _)]
  exact (Quiet.get.bind fun _ => (Quiet.orFail _).bind fun _ => Quiet.emit _ _ _ _) _

/-- Arming is calling the first hook, and keeping what it gives back. -/
theorem armDaily_eq (call : Caller) (s : Ref .session) :
    armDaily call s = (do
      let policy ← askPolicy call s
      let delay ← askDelay call s
      let hook ← readAttribute call policy "set_daily_timeout"
      let timeout ← readAttribute call (.ofRef s) Method.dailyTimeout.word
      let handle ← call hook [delay, timeout]
      keepHandle s delay handle) := rfl

theorem World.Intact.run_askPolicy {s : Ref .session} {w : World} (hw : w.Intact) (call : Caller)
    {p : Ref .policy} (hp : (w.row s : Session).policy = .ofRef p) :
    w.run (askPolicy call s) = (.ok (.ofRef p), w) := by
  have hrun : w.run (askPolicy call s) = w.run (requirePolicy call s) :=
    hw.run_request call s [] _ rfl
  rw [hrun, requirePolicy, World.run_bind_of_run (World.run_fetch w s), hp]
  rfl

/-- All that calling the first hook of a policy, and keeping what it gives back, can do. -/
inductive ArmingStep (s : Ref .session) (t : Ref .timeline) (p : Ref .policy) (timeout : Value)
    (w w' : World) : Prop
  | failed (same : w' = w)
  | skipped (skipped : w' = w.withRow t (w.row t : Timeline).skip)
  /-- The hooks do nothing, and there is no handle. -/
  | idled (idle : ∃ i j, (w.row p : Policy).arm = .function i .idleArm ∧
        (w.row p : Policy).cancel = .function j .idleCancel)
      (kept : (w.withRow s { (w.row s : Session) with handle := .none }).Alike w')
  | armed {b : Ref .bank} {j : Nat} {due : Float}
      (cancels : (w.row p : Policy).cancel = .function j (.method b.object .cancel))
      (kept : ((w.armed t b due timeout).withRow s
        { (w.row s : Session) with handle := .handle t (w.row t : Timeline).nextSeq }).Alike w')

/-- Calling the first hook of a policy and keeping what it gives back does nothing else. -/
theorem Equipped.arm_cases {reg : Ref .registry} {s : Ref .session} {t : Ref .timeline}
    {w : World} (h : Equipped reg s t w) {p : Ref .policy}
    (hp : (w.row s : Session).policy = .ofRef p) (depth : Nat) (delay timeout : Value) :
    ArmingStep s t p timeout w (w.after (do
      let handle ← invokeWithin depth (w.row p : Policy).arm [delay, timeout]
      keepHandle s delay handle)) := by
  obtain ⟨_, hhooked⟩ := h.hooked hp
  cases depth with
  | zero => exact .failed rfl
  | succ depth =>
    generalize harm : (w.row p : Policy).arm = hook at hhooked ⊢
    generalize hcancel : (w.row p : Policy).cancel = cancel at hhooked
    cases hhooked with
    | idle i j =>
      rw [World.after_bind_of_run (run_invoke_idleArm w depth i delay timeout)]
      exact .idled ⟨i, j, harm, hcancel⟩ (alike_keepHandle w s delay .none)
    | @banked i j b on =>
      have hrun := run_invoke_arm w depth i b delay timeout
      rw [World.after, World.run_bind, hrun, World.run_eq w (armTimer _ _ _ _)]
      have hstep := h.sane.intact.armTimer_cases (invokeWithin depth) on delay timeout
      revert hstep
      generalize w.outcome (armTimer (invokeWithin depth) b delay timeout) = outcome
      generalize w.after (armTimer (invokeWithin depth) b delay timeout) = w₁
      intro hstep
      cases hstep with
      | refused failed same =>
        obtain ⟨fault, rfl⟩ := failed
        exact .failed same
      | skipped failed skipped =>
        obtain ⟨fault, rfl⟩ := failed
        exact .skipped skipped
      | @armed due handed armed =>
        rw [handed]
        obtain ⟨log, next, rfl⟩ := armed
        have hkept : ((w.armed t b due timeout).withRow s
            { (w.row s : Session) with handle := .handle t (w.row t : Timeline).nextSeq }).Alike
            (((w.armed t b due timeout).retold log next).withRow s
              { (w.row s : Session) with handle := .handle t (w.row t : Timeline).nextSeq }) :=
          ⟨log, next, rfl⟩
        exact .armed hcancel (hkept.trans (alike_keepHandle _ s delay _))

/-- What a bank does to its own row when it arms or cancels leaves its line as it is. -/
theorem World.Steady.withRow_bank {reg : Ref .registry} {w w' : World} {b : Ref .bank}
    {bank : Bank} (h : w.Steady reg w') (hb : bank.timeline = (w'.row b : Bank).timeline) :
    w.Steady reg (w'.withRow b bank) := by
  refine h.trans (.of_policies (fun hs => ⟨hs.intact.congr rfl, hs.sound⟩) rfl fun b' t hon => ?_)
  rw [World.row_withRow]
  by_cases hsame : b' = b
  · rw [if_pos hsame, Bank.On, hb, ← hsame]
    exact hon
  · rwa [if_neg hsame]

theorem World.Steady.withRow_timeline {reg : Ref .registry} (w : World) (t : Ref .timeline)
    (line : Timeline) : w.Steady reg (w.withRow t line) :=
  .of_eq (fun hs => ⟨hs.intact.congr rfl, hs.sound⟩) rfl rfl

/-- A bank that has armed one more timer is on its line as before. -/
theorem World.Steady.armed {reg : Ref .registry} (w : World) (t : Ref .timeline) (b : Ref .bank)
    (due : Float) (callback : Value) : w.Steady reg (w.armed t b due callback) :=
  World.Steady.withRow_bank (.withRow_timeline w t _) rfl

theorem World.Steady.withRow_session {reg : Ref .registry} (w : World) (s : Ref .session)
    (session : Session) : w.Steady reg (w.withRow s session) :=
  .of_eq (fun hs => ⟨hs.intact.congr rfl, hs.sound⟩) rfl rfl

namespace Tended

variable {guarded : Prop} {reg : Ref .registry} {s : Ref .session} {t : Ref .timeline}
  {w w' : World}

/-- A number that could not be used for a timer makes no difference. -/
theorem skip (h : Tended guarded reg s t w) :
    Tended guarded reg s t (w.withRow t (w.row t : Timeline).skip) := by
  have hnext : (w.row s : Session).handle ≠ .handle t (w.row t : Timeline).nextSeq := by
    rw [Ne, ← h.awaits]
    rintro ⟨timer, htimer, _⟩
    rw [Timeline.timer?_nextSeq] at htimer
    cases htimer
  have hline (other : Nat) :
      ((w.withRow t (w.row t : Timeline).skip).row t : Timeline).timer? other =
      if other = (w.row t : Timeline).nextSeq then
        some { due := 0.0, alarm := .direct .none, taken := true }
      else (w.row t : Timeline).timer? other := by
    rw [World.row_withRow_self, Timeline.timer?_skip]
  refine h.drop (.withRow_timeline w t _) rfl (fun t' ht => ?_) (fun timer htimer => ?_) hline
    (fun hsame => absurd hsame hnext) (fun _ => rfl) h.running h.unready h.stopped
  · rw [World.row_withRow, if_neg ht]
  · cases htimer
    rfl

/-- The handle of what was armed is the handle of the one timer that calls the session. -/
theorem armed (h : Tended guarded reg s t w) {p : Ref .policy} {b : Ref .bank} {j serial : Nat}
    (hp : (w.row s : Session).policy = .ofRef p)
    (hcancel : (w.row p : Policy).cancel = .function j (.method b.object .cancel))
    (hrunning : (w.row s : Session).running = .bool true)
    (hn : (w.row s : Session).handle = .none) (due : Float) {timeout : Value}
    (htimeout : timeout = .function serial (.method s.object .dailyTimeout)) :
    Tended guarded reg s t ((w.armed t b due timeout).withRow s
      { (w.row s : Session) with handle := .handle t (w.row t : Timeline).nextSeq }) := by
  let w' : World := (w.armed t b due timeout).withRow s
    { (w.row s : Session) with handle := .handle t (w.row t : Timeline).nextSeq }
  have hsession : w'.row s =
      { (w.row s : Session) with handle := .handle t (w.row t : Timeline).nextSeq } :=
    World.row_withRow_self _ s _
  have hrow (t' : Ref .timeline) : w'.row t' =
      (w.withRow t ((w.row t : Timeline).schedule due (.banked b timeout))).row t' := rfl
  have hline (other : Nat) : (w'.row t : Timeline).timer? other =
      if other = (w.row t : Timeline).nextSeq then
        some { due := due, alarm := .banked b timeout }
      else (w.row t : Timeline).timer? other := by
    rw [hrow, World.row_withRow_self, Timeline.timer?_schedule]
  have hsteady : w.Steady reg w' := (World.Steady.armed w t b due timeout).trans
    (.withRow_session _ s _)
  have hready : (w.row s : Session).policy ≠ .none := hp ▸ Value.ofRef_ne_none p
  have hcalls : Timer.Calls { due := due, alarm := .banked b timeout } s := ⟨serial, htimeout⟩
  refine h.take hn hsteady ?_ (fun t' ht => ?_) hcalls rfl hline ?_ hready ?_ ?_
  · rw [hsession]
    rfl
  · rw [hrow, World.row_withRow, if_neg ht]
  · rw [hsession]
  · rw [hsession]
    exact hrunning
  · refine ⟨p, j, b, ?_, hcancel⟩
    rw [hsession]
    exact hp

/-- Calling the first hook arms a timer that the session gets the handle of, or none. -/
theorem arm (h : Tended guarded reg s t w) {p : Ref .policy}
    (hp : (w.row s : Session).policy = .ofRef p)
    (hrunning : (w.row s : Session).running = .bool true)
    (hn : (w.row s : Session).handle = .none) (depth : Nat) (delay : Value) {serial : Nat}
    {timeout : Value} (htimeout : timeout = .function serial (.method s.object .dailyTimeout)) :
    Tended guarded reg s t (w.after (do
      let handle ← invokeWithin depth (w.row p : Policy).arm [delay, timeout]
      keepHandle s delay handle)) := by
  cases h.equipped.arm_cases hp depth delay timeout with
  | failed same => exact same.symm ▸ h
  | skipped skipped => exact skipped.symm ▸ h.skip
  | idled _ kept =>
    have hsame : w.Untouched reg s (w.withRow s { (w.row s : Session) with handle := .none }) := by
      refine ⟨.withRow_session w s _, rfl, ?_⟩
      rw [World.row_withRow_self, ← hn]
    exact (h.filled hsame.filled).alike kept
  | @armed b j due cancels kept =>
    exact (h.armed hp cancels hrunning hn due htimeout).alike kept

/-- A running session has a policy. -/
theorem policy_of_running (h : Tended guarded reg s t w)
    (hrunning : (w.row s : Session).running = .bool true) :
    ∃ p : Ref .policy, (w.row s : Session).policy = .ofRef p := by
  rcases h.equipped.policy with hnone | ⟨p, hp, _⟩
  · rw [h.unready hnone] at hrunning
    cases hrunning
  · exact ⟨p, hp⟩

/-- A running session without a timer arms one, or fails to. -/
theorem armDaily (h : Tended guarded reg s t w) (depth : Nat)
    (hrunning : (w.row s : Session).running = .bool true)
    (hn : (w.row s : Session).handle = .none) :
    Tended guarded reg s t (w.after (armDaily (invokeWithin depth) s)) := by
  obtain ⟨p, hp⟩ := h.policy_of_running hrunning
  rw [armDaily_eq, World.after_bind_of_run (h.equipped.sane.intact.run_askPolicy _ hp)]
  have huntouched := h.equipped.untouched_askDelay depth
  have h₁ := h.filled huntouched.filled
  refine World.after_bind_cases (fun _ _ => h₁) fun delay _ => ?_
  have hsession := huntouched.session
  revert h₁ hsession
  generalize w.after (askDelay (invokeWithin depth) s) = w₁
  intro h₁ hsession
  have hintact := h₁.equipped.sane.intact
  rw [World.after_bind_of_run (hintact.run_readAttribute_armHook _ p),
    World.after_bind_of_run (hintact.run_readAttribute_dailyTimeout _ s)]
  have h₂ : Tended guarded reg s t { w₁ with nextSerial := w₁.nextSerial + 1 } :=
    h₁.alike ⟨w₁.log, w₁.nextSerial + 1, rfl⟩
  refine h₂.arm (p := p) ?_ ?_ ?_ depth delay rfl
  · exact (congrArg Session.policy hsession).trans hp
  · exact (congrArg Session.running hsession).trans hrunning
  · exact (congrArg Session.handle hsession).trans hn

theorem askToArm (h : Tended guarded reg s t w) (depth : Nat)
    (hrunning : (w.row s : Session).running = .bool true)
    (hn : (w.row s : Session).handle = .none) :
    Tended guarded reg s t (w.after (askToArm (invokeWithin depth) s)) := by
  have hrun : w.run (askSession (invokeWithin depth) s .armDaily
      fun s => nothing (Understudy.armDaily (invokeWithin depth) s)) =
      w.run (nothing (Understudy.armDaily (invokeWithin depth) s)) :=
    h.equipped.sane.intact.run_request _ s [] _ rfl
  rw [Understudy.askToArm, World.after_bind_pure, World.after, hrun, run_nothing]
  exact h.armDaily depth hrunning hn

end Tended

/-! ## The life of a session -/

theorem quiet_requirePolicy (call : Caller) (s : Ref .session) :
    Quiet (requirePolicy call s) := by
  refine (Quiet.fetch s).bind fun session => Quiet.ite ?_ (Quiet.pure _)
  refine (quiet_readAttribute call _ (by decide)).bind fun name => ?_
  exact (Quiet.quotedText name).bind fun _ => Quiet.throw _

/-- Asking for the policy gives it back if there is one. -/
theorem World.Intact.askPolicy_cases {s : Ref .session} {w : World} (hw : w.Intact)
    (call : Caller) :
    (w.row s : Session).policy.isNone = false ∧
        w.run (askPolicy call s) = (.ok (w.row s : Session).policy, w) ∨
      (w.row s : Session).policy.isNone = true ∧
        (∃ fault, w.outcome (askPolicy call s) = .error fault) ∧
          w.Alike (w.after (askPolicy call s)) := by
  have hrun : w.run (askPolicy call s) = w.run (requirePolicy call s) :=
    hw.run_request call s [] _ rfl
  cases hnone : (w.row s : Session).policy.isNone with
  | false =>
    refine .inl ⟨rfl, hrun.trans ?_⟩
    rw [requirePolicy, World.run_bind_of_run (World.run_fetch w s)]
    dsimp only
    rw [hnone]
    rfl
  | true =>
    rw [World.outcome, World.after, hrun]
    refine .inr ⟨rfl, ?_, quiet_requirePolicy call s w⟩
    cases houtcome : w.outcome (requirePolicy call s) with
    | error fault => exact ⟨fault, houtcome⟩
    | ok v =>
      -- With no policy nothing but the refusal is left.
      obtain ⟨session, hsession, hrest⟩ := World.outcome_bind_eq_ok.1 houtcome
      obtain rfl : w.row s = session := Except.ok.inj hsession
      dsimp only at hrest
      rw [hnone] at hrest
      obtain ⟨_, _, hrest⟩ := World.outcome_bind_eq_ok.1 hrest
      obtain ⟨_, _, hrest⟩ := World.outcome_bind_eq_ok.1 hrest
      cases hrest

/-- Asking for the policy gives it back, or fails because there is none. -/
theorem Equipped.askPolicy_cases {reg : Ref .registry} {s : Ref .session} {t : Ref .timeline}
    {w : World} (h : Equipped reg s t w) (call : Caller) :
    (∃ p : Ref .policy, (w.row s : Session).policy = .ofRef p ∧
        w.run (askPolicy call s) = (.ok (.ofRef p), w)) ∨
      (∃ fault, w.outcome (askPolicy call s) = .error fault) ∧
        w.Alike (w.after (askPolicy call s)) := by
  rcases h.policy with hnone | ⟨p, hp, _⟩
  · refine .inr ((h.sane.intact.askPolicy_cases call).elim (fun hsome => ?_) And.right)
    rw [hnone] at hsome
    cases hsome.1
  · exact .inl ⟨p, hp, h.sane.intact.run_askPolicy call hp⟩

/-- What follows a run: the next timer, and then the fault of the run if there was one. -/
def concludeRun (call : Caller) (s : Ref .session) (outcome : Except Fault Value) :
    Action Unit := do
  match outcome with
  | .error fault =>
    emit 40 sessionLogger ("Error in daily collection: " ++ fault.message) (some fault.kind)
  | .ok _ => pure ()
  if (← get).truthy (← fetch s).running then askToArm call s
  match outcome with
  | .error fault => throw fault
  | .ok _ => pure ()

/-- When its timer has fired a session runs without one. -/
theorem onDailyTimeout_eq (call : Caller) (s : Ref .session) :
    onDailyTimeout call s = (do
      update s fun session => { session with handle := .none }
      concludeRun call s (← attempt (askSession call s .collectDaily (collectDaily call)))) := rfl

theorem World.Intact.run_onDailyTimeout {w : World} (hw : w.Intact) (call : Caller)
    (s : Ref .session) :
    let given := w.withRow s { (w.row s : Session) with handle := .none }
    w.run (onDailyTimeout call s) =
      (given.after (collectDaily call s)).run
        (concludeRun call s (given.outcome (collectDaily call s))) := by
  intro given
  have hgiven : given.Intact := hw.congr rfl
  have hrun : given.run (askSession call s .collectDaily (collectDaily call)) =
      given.run (collectDaily call s) := hgiven.run_request call s [] _ rfl
  rw [onDailyTimeout_eq, World.run_bind_of_run (World.run_update w s _),
    World.run_bind_of_run (World.run_attempt given _), World.outcome, World.after, hrun]
  rfl

namespace Tended

variable {guarded : Prop} {reg : Ref .registry} {s : Ref .session} {t : Ref .timeline}
  {w w' : World}

/-- A session that has a policy and no timer may run or not. -/
theorem withRunning (h : Tended guarded reg s t w) (hready : (w.row s : Session).policy ≠ .none)
    (hn : (w.row s : Session).handle = .none) (b : Bool) :
    Tended guarded reg s t (w.withRow s { (w.row s : Session) with running := .bool b }) := by
  let w' : World := w.withRow s { (w.row s : Session) with running := .bool b }
  have hsession : w'.row s = { (w.row s : Session) with running := .bool b } :=
    World.row_withRow_self _ s _
  have hsteady : w.Steady reg w' := .withRow_session w s _
  refine
    { equipped := h.equipped.steady hsteady ?_
      running := ⟨b, congrArg Session.running hsession⟩
      unready := fun hnone => absurd ((congrArg Session.policy hsession).symm.trans hnone) hready
      others := h.others
      awaits := fun t' seq => ?_
      handle := .inl ((congrArg Session.handle hsession).trans hn)
      stopped := fun _ => (congrArg Session.handle hsession).trans hn
      cancels := fun _ hno => absurd ((congrArg Session.handle hsession).trans hn) hno }
  · rw [hsession]
    rfl
  · rw [hsession]
    exact h.awaits t' seq

/-- Starting a session arms its timer, unless it is running already. -/
theorem start (h : Tended guarded reg s t w) (depth : Nat) :
    Tended guarded reg s t (w.after (start (invokeWithin depth) s)) := by
  rcases h.equipped.askPolicy_cases (invokeWithin depth) with
    ⟨p, hp, hrun⟩ | ⟨⟨fault, hfault⟩, hlike⟩
  · rw [Understudy.start, World.after_bind_of_run hrun,
      World.after_bind_of_run (World.run_get w), World.after_bind_of_run (World.run_fetch w s)]
    obtain ⟨b, hb⟩ := h.running
    rw [hb]
    cases b with
    | true => exact h.alike (Quiet.emit _ _ _ _ w)
    | false =>
      show Tended guarded reg s t (w.after (update s _ >>= fun _ =>
        Understudy.askToArm (invokeWithin depth) s))
      rw [World.after_bind_of_run (World.run_update w s _)]
      have hn := h.stopped hb
      have hready : (w.row s : Session).policy ≠ .none := hp ▸ Value.ofRef_ne_none p
      refine (h.withRunning hready hn true).askToArm depth ?_ ?_
      · rw [World.row_withRow_self]
      · rw [World.row_withRow_self]
        exact hn
  · rw [Understudy.start, World.after, World.run_bind_of_error hfault]
    exact h.alike hlike

/-- A session without a timer arms one if it is running, whatever comes after that. -/
theorem armAgain (h : Tended guarded reg s t w) (depth : Nat)
    (hn : (w.row s : Session).handle = .none) {finish : Action Unit} (hfinish : Quiet finish) :
    Tended guarded reg s t (w.after (do
      if (← get).truthy (← fetch s).running then
        Understudy.askToArm (invokeWithin depth) s
        finish
      else finish)) := by
  rw [World.after_bind_of_run (World.run_get w), World.after_bind_of_run (World.run_fetch w s)]
  obtain ⟨b, hb⟩ := h.running
  rw [hb]
  cases b with
  | true =>
    have harmed := h.askToArm depth hb hn
    exact World.after_bind_cases (fun _ _ => harmed) fun _ _ => harmed.alike (hfinish _)
  | false => exact h.alike (hfinish w)

/-- When its timer fires a session has none, and then arms the next one. -/
theorem onDailyTimeout (depth : Nat)
    (h : Tended guarded reg s t (w.withRow s { (w.row s : Session) with handle := .none })) :
    Tended guarded reg s t (w.after (onDailyTimeout (invokeWithin depth) s)) := by
  have hintact : w.Intact := h.equipped.sane.intact.congr rfl
  rw [World.after, hintact.run_onDailyTimeout, ← World.after]
  revert h
  generalize hgiven : w.withRow s { (w.row s : Session) with handle := .none } = w₀
  intro h
  have hn : (w₀.row s : Session).handle = .none := by rw [← hgiven, World.row_withRow_self]
  have hfilled := h.equipped.filled_collectDaily depth
  have h₁ := h.filled hfilled
  have hn₁ : ((w₀.after (collectDaily (invokeWithin depth) s)).row s : Session).handle = .none :=
    (congrArg Session.handle hfilled.session).trans hn
  cases w₀.outcome (collectDaily (invokeWithin depth) s) with
  | error fault =>
    have hquiet : Quiet (emit 40 sessionLogger
      ("Error in daily collection: " ++ fault.message) (some fault.kind)) := Quiet.emit _ _ _ _
    refine World.after_bind_cases (fun _ _ => h₁.alike (hquiet _)) fun _ _ => ?_
    exact (h₁.alike (hquiet _)).armAgain depth hn₁ (Quiet.throw fault)
  | ok v => exact h₁.armAgain depth hn₁ (Quiet.pure ())

end Tended

end Understudy

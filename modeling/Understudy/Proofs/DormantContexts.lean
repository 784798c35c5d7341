import Understudy.Proofs.DormantBanks

/-!
# Environments left without hooks

As long as an environment has the hooks it was set up with, it can be started and shut down without
a fault whenever the delay is there to be told. It keeps no handle then, and nothing is collected
but what it is asked to collect. Once hooks have been accepted in place of the idle ones, that is
up to the hooks, even if the override fails after they were accepted. But its bank arms no timer
all the same.

## Main definitions

* `ContextParts.Run`: a run of an environment from a state on.
* `ContextParts.Unused`: a bank whose context has the idle hooks.
* `ContextParts.Untouched`: what can be seen of a context with the idle hooks.

## Main statements

* `ContextParts.Unused.contextRequest`: a request that replaces no hooks leaves the idle ones in
  place.
* `World.BootRegistry.dormant_of_run`: in whatever run of whatever environment, the bank is dormant.
-/

namespace Understudy

/-! ## Runs -/

/-- An override replaces the hooks if those it is given are accepted, even if it fails then. -/
def ContextRequest.replaces (w : World) : ContextRequest → Bool
  | override arm cancel => (checkHooks w arm cancel).toBool
  | _ => false

/-- What a request is to collect. -/
def ContextRequest.collects (call : Caller) (l : ContextParts) (w : World) :
    ContextRequest → List Value
  | collect => (Collection.kept? (w.outcome (gather call l.session))).toList
  | _ => []

/-- A run of an environment from a state on: requests, and what others do elsewhere in between. It
keeps track of whether hooks have been replaced, and of what was to be collected. -/
inductive ContextParts.Run (l : ContextParts) (r : Ref .registry) (c : Ref .context) (o : Outsiders)
    (w₀ : World) : Bool → List Value → World → Prop
  | begin : Run l r c o w₀ false [] w₀
  | contextRequest {replaced : Bool} {collected : List Value} {w : World} (depth : Nat)
      (e : ContextRequest) (before : Run l r c o w₀ replaced collected w) (fits : e.Fits r o w) :
      Run l r c o w₀ (replaced || e.replaces w)
        (collected ++ e.collects (invokeWithin depth) l w) (e.after (invokeWithin depth) l r c w)
  | elsewhere {replaced : Bool} {collected : List Value} {w w' : World}
      (before : Run l r c o w₀ replaced collected w) (apart : l.Apart r o.alarm w w') :
      Run l r c o w₀ replaced collected w'

/-! ## The time until midnight -/

/-- The time until midnight does not depend on anything but what serial numbers there are. -/
theorem World.outcome_untilMidnight (w w' : World) (h : w'.nextSerial = w.nextSerial)
    (now : Moment) : w'.outcome (untilMidnight now) = w.outcome (untilMidnight now) := by
  unfold untilMidnight
  cases now.secondsUntilMidnight? with
  | none => rfl
  | some x => exact congrArg (fun serial => Except.ok ((Value.ofFloat x).renewed serial)) h

/-- The time until midnight is a number, if there is one. -/
theorem World.float?_of_untilMidnight {w : World} {now : Moment} {delay : Value}
    (h : w.outcome (untilMidnight now) = .ok delay) : ∃ x, delay.float? = some (some x) := by
  unfold untilMidnight at h
  cases hseconds : now.secondsUntilMidnight? with
  | none =>
    rw [hseconds] at h
    cases h
  | some x =>
    rw [hseconds] at h
    obtain rfl : (Value.ofFloat x).renewed w.nextSerial = delay := Except.ok.inj h
    exact ⟨x, rfl⟩

/-! ## Idle hooks -/

/-- A bank whose context has the idle hooks: no handle is kept, no timer wakes the session, and the
collections are known. -/
structure ContextParts.Unused (l : ContextParts) (r : Ref .registry) (host : Ref .component)
    (c : Ref .context) (o : Outsiders) (collected : List Value) (w : World) : Prop
    extends l.Dormant r host c o w where
  idleArm : (w.row l.policy : Policy).arm = .function 0 .idleArm
  idleCancel : (w.row l.policy : Policy).cancel = .function 0 .idleCancel
  handle : (w.row l.session : Session).handle = .none
  collections : (w.row l.session : Session).collections = collected
  interval : (w.row l.session : Session).interval.Span
  ticks : (w.row l.session : Session).clock = .function 0 .clock
  alarms (v : Value) (h : w.Due v) : o.alarm v

/-- What can be seen of a context with the idle hooks: no handle is kept, nothing was collected but
what was to be, and the session is started and shut down without a fault. -/
structure ContextParts.Untouched (l : ContextParts) (collected : List Value)
    (w : World) : Prop where
  handle : (w.row l.session : Session).handle = .none
  collections : (w.row l.session : Session).collections = collected
  starts (depth : Nat) (delay : Value)
    (h : w.outcome (nextDailyDelay (invokeWithin (depth + 1)) l.session) = .ok delay) :
    w.outcome (start (invokeWithin (depth + 1)) l.session) = .ok ()
  stops (depth : Nat) : w.outcome (shutdown (invokeWithin (depth + 1)) l.session) = .ok ()

namespace ContextParts.Unused

variable {l : ContextParts} {r : Ref .registry} {host : Ref .component} {c : Ref .context}
  {o : Outsiders} {collected : List Value} {w w' : World}
  (h : l.Unused r host c o collected w)
include h

/-- The idle hooks stay in place where the context is left alone. -/
theorem apart (ha : l.Apart r o.alarm w w') : l.Unused r host c o collected w' where
  toDormant := h.toDormant.apart ha fun _ => .inr
  idleArm := ha.policy ▸ h.idleArm
  idleCancel := ha.policy ▸ h.idleCancel
  handle := ha.session ▸ h.handle
  collections := ha.session ▸ h.collections
  interval := ha.session ▸ h.interval
  ticks := ha.session ▸ h.ticks
  alarms v hv := (ha.due v hv).elim (h.alarms v) id

theorem alike (hlike : w.Alike w') : l.Unused r host c o collected w' := h.apart (.of_alike hlike)

/-- The idle hooks stay in place where the session goes on without a handle. -/
theorem withSession {session : Session} {collected' : List Value}
    (hmade : session.made = (w.row l.session : Session).made) (hdecided : session.Decided)
    (hhandle : session.handle = .none) (hcollections : session.collections = collected') :
    l.Unused r host c o collected' (w.withRow l.session session) := by
  have hrow : (w.withRow l.session session).row l.session = session := w.row_withRow_self _ _
  obtain ⟨_, _, hinterval, hclock, _⟩ := Session.made_eq hmade
  exact
    { toDormant := h.toDormant.withSession hmade hdecided
      idleArm := h.idleArm
      idleCancel := h.idleCancel
      handle := by rw [hrow, hhandle]
      collections := by rw [hrow, hcollections]
      interval := by
        rw [hrow, hinterval]
        exact h.interval
      ticks := by rw [hrow, hclock, h.ticks]
      alarms := fun v hv => h.alarms v (hv.of_timelines rfl) }

theorem withRunning (b : Bool) : l.Unused r host c o collected (w.withRunning l.session b) :=
  h.withSession rfl ⟨b, rfl⟩ h.handle h.collections

theorem letGo : l.Unused r host c o collected (w.after (letGo l.session)) := by
  rw [Understudy.letGo, World.after_bind_of_run (World.run_update w l.session _)]
  have hgiven : l.Unused r host c o collected
      (w.withRow l.session { (w.row l.session : Session) with handle := .none }) :=
    h.withSession rfl h.decided rfl h.collections
  exact hgiven.alike (Quiet.emit 10 sessionLogger "Daily session shut down" none _)

/-- The idle arming hook gives back no handle, and that is all it does. -/
theorem run_arm (depth serial : Nat) (delay : Value) :
    w.run (invokeWithin (depth + 1) (w.row l.policy : Policy).arm
      [delay, .function serial (.method l.session.object .dailyTimeout)]) = (.ok .none, w) := by
  rw [h.idleArm]
  exact run_invoke_idleArm w depth 0 delay _

omit h in
/-- The idle hooks stay in place when a timer is armed with them. -/
theorem armable (depth : Nat) :
    Armable depth r l.session l.policy (l.Unused r host c o collected) where
  sane _ h := h.sane
  registry _ h := h.sessionRegistry
  served _ _ hs h := h.apart (.of_served hs)
  clock d w h := by
    obtain ⟨fired, hafter⟩ := h.clock.after_invoke d w
    rw [hafter]
    exact h.apart (.noted w fired w.lists w.dicts)
  policy _ h := h.policy
  arm serial delay w h := by
    cases depth with
    | zero => exact h
    | succ d =>
      rw [World.after_of_run (h.run_arm d serial delay)]
      exact h
  handle w h v hv := by
    have hnone : v = .none := by
      cases hv with
      | none => rfl
      | @given w₁ serial delay _ h₁ hok =>
        cases depth with
        | zero => cases hok
        | succ d =>
          rw [World.outcome_of_run (h₁.run_arm d serial delay)] at hok
          exact (Except.ok.inj hok).symm
    exact h.withSession rfl h.decided hnone h.collections

/-- A run adds to the collections what it notes. -/
theorem collect (depth : Nat) :
    l.Unused r host c o
      (collected ++ (Collection.kept? (w.outcome (gather (invokeWithin depth) l.session))).toList)
      (w.after (collectDaily (invokeWithin depth) l.session)) := by
  rcases (armable depth).after_collectDaily depth h with
    ⟨fault, hnoted, hfailed⟩ | ⟨collection, gathered, hnoted, hgathered, hlike⟩
  · rw [hnoted]
    exact (List.append_nil collected).symm ▸ hfailed
  · rw [hnoted]
    have hkept : l.Unused r host c o (collected ++ [collection.toValue])
        (gathered.collected l.session collection.toValue) :=
      hgathered.withSession rfl hgathered.decided hgathered.handle
        (congrArg (· ++ [collection.toValue]) hgathered.collections)
    exact hkept.alike hlike

/-- Shutting down is calling the idle hook, and keeping no handle. -/
theorem shutdown (depth : Nat) :
    l.Unused r host c o collected (w.after (shutdown (invokeWithin depth) l.session)) := by
  rw [World.after, h.sane.intact.run_shutdown _ h.policy]
  split
  · have hstopped := h.withRunning false
    have hcancelled (handle : Value) : (w.withRunning l.session false).after
        (invokeWithin depth (w.row l.policy : Policy).cancel [handle]) =
          w.withRunning l.session false := by
      rw [h.idleCancel]
      cases depth <;> rfl
    exact World.after_bind_cases (fun _ _ => (hcancelled _).symm ▸ hstopped)
      fun _ _ => ((hcancelled _).symm ▸ hstopped : l.Unused r host c o collected _).letGo
  · exact h

theorem start (depth : Nat) :
    l.Unused r host c o collected (w.after (start (invokeWithin depth) l.session)) := by
  rw [World.after, h.sane.intact.run_start _ h.policy]
  split
  · exact h.alike (Quiet.emit _ _ _ _ w)
  · exact (armable depth).keeps_askToArm _ (h.withRunning true)

/-- Requests that replace no hooks leave the idle ones in place. -/
theorem contextRequest (hcomply : o.Comply l r host c) (depth : Nat) (e : ContextRequest)
    (fits : e.Fits r o w) (hkept : e.replaces w = false) :
    l.Unused r host c o (collected ++ e.collects (invokeWithin depth) l w)
      (e.after (invokeWithin depth) l r c w) := by
  have hsame {w' : World} (h' : l.Unused r host c o collected w') :
      l.Unused r host c o (collected ++ []) w' := (List.append_nil collected).symm ▸ h'
  cases e with
  | collect => exact h.collect depth
  | deal d => exact hsame (h.apart (.deal h.sane _ fits))
  | install id name version platformVersion =>
    have fits : (Dealing.install l.installer id name version platformVersion).Fits r w :=
      h.ofHost.over
    rw [ContextRequest.after, World.after, h.run_installIn h.sane.intact]
    exact hsame (h.apart (.deal h.sane (invokeWithin depth) fits))
  | setUp =>
    rw [ContextRequest.after, World.after_of_run (h.run_setUp _)]
    exact hsame h
  | start => exact hsame (h.start depth)
  | shutdown => exact hsame (h.shutdown depth)
  | report =>
    exact hsame ((armable depth).toAskable.keeps_environment (fun w dicts hw =>
      hw.apart (.noted w w.fired w.lists dicts)) _ w h)
  | advance t goal =>
    -- No timer wakes the session, so all that fire are those of outsiders.
    refine hsame (ContextParts.keeps_advance (l := l) (r := r)
      (fun _ _ hw ha => hw.apart (ha.mono fun _ => False.elim))
      (fun w w' v hw hdue hw' => ?_) t goal w h)
    exact hw'.apart (hcomply.alarm v (hw.alarms v hdue) w' hw'.toDormant depth)
  | override arm cancel =>
    rcases h.overrideIn_cases h.sane.intact (invokeWithin depth) arm cancel with
      ⟨fault, _, hrun⟩ | ⟨haccepted, _⟩
    · rw [ContextRequest.after, World.after_of_run hrun]
      exact hsame h
    · rw [ContextRequest.replaces, haccepted] at hkept
      cases hkept

/-! ### Without a fault -/

/-- The delay is the interval, or it is the time until midnight. -/
theorem run_nextDailyDelay (depth : Nat) :
    w.run (nextDailyDelay (invokeWithin (depth + 1)) l.session) =
      if !(w.row l.session : Session).interval.isNone then
        (.ok (w.row l.session : Session).interval, w)
      else w.run (untilMidnight w.clock) := by
  have hticks : w.run (invokeWithin (depth + 1) (w.row l.session : Session).clock []) =
      (.ok (.moment w.clockSerial w.clock), w) := by
    rw [h.ticks]
    rfl
  rw [nextDailyDelay, World.run_bind_of_run (World.run_fetch w l.session)]
  split
  · rfl
  · exact World.run_bind_of_run hticks

/-- A delay that is there to be told is a number, and it is there for a session that runs as
well. -/
theorem delayed {depth : Nat} {delay : Value}
    (hdelay : w.outcome (nextDailyDelay (invokeWithin (depth + 1)) l.session) = .ok delay) :
    (∃ x, delay.float? = some (some x)) ∧
      ∀ b, (w.withRunning l.session b).outcome
        (nextDailyDelay (invokeWithin (depth + 1)) l.session) = .ok delay := by
  have hrunning (b : Bool) : (w.withRunning l.session b).outcome
      (nextDailyDelay (invokeWithin (depth + 1)) l.session) =
        w.outcome (nextDailyDelay (invokeWithin (depth + 1)) l.session) := by
    rw [World.outcome, World.outcome, h.run_nextDailyDelay,
      (h.withRunning b).run_nextDailyDelay, w.row_withRunning]
    split
    · rfl
    · exact World.outcome_untilMidnight w (w.withRunning l.session b) rfl w.clock
  refine ⟨?_, fun b => (hrunning b).trans hdelay⟩
  rw [World.outcome, h.run_nextDailyDelay] at hdelay
  rcases h.interval with hnone | ⟨k, x, hx⟩
  · rw [hnone] at hdelay
    exact World.float?_of_untilMidnight hdelay
  · rw [hx] at hdelay
    obtain rfl : Value.float k x = delay := Except.ok.inj hdelay
    exact ⟨x, rfl⟩

/-- A session with the idle hooks is shut down without a fault. -/
theorem outcome_shutdown (depth : Nat) :
    w.outcome (Understudy.shutdown (invokeWithin (depth + 1)) l.session) = .ok () := by
  rw [World.outcome, h.sane.intact.run_shutdown _ h.policy, h.idleCancel]
  split <;> rfl

/-- Arming with the idle hooks fails only if there is no delay to be told. -/
theorem outcome_askToArm {depth : Nat} {delay : Value} {x : Float}
    (hdelay : w.outcome (nextDailyDelay (invokeWithin (depth + 1)) l.session) = .ok delay)
    (hx : delay.float? = some (some x)) :
    w.outcome (askToArm (invokeWithin (depth + 1)) l.session) = .ok () := by
  have hintact := h.sane.intact
  have hasked : w.run (askDelay (invokeWithin (depth + 1)) l.session) =
      (.ok delay, w.after (nextDailyDelay (invokeWithin (depth + 1)) l.session)) := by
    rw [← hdelay, ← World.run_eq]
    exact hintact.run_request _ l.session [] _ rfl
  have h₁ : l.Unused r host c o collected
      (w.after (nextDailyDelay (invokeWithin (depth + 1)) l.session)) :=
    (armable (depth + 1)).keeps_nextDailyDelay (depth + 1) w h
  revert hasked h₁
  generalize w.after (nextDailyDelay (invokeWithin (depth + 1)) l.session) = asked
  intro hasked h₁
  let counted : World := { asked with nextSerial := asked.nextSerial + 1 }
  have h₂ : l.Unused r host c o collected counted := h₁.alike ⟨asked.log, _, rfl⟩
  rw [World.outcome, hintact.run_askToArm, armDaily_eq,
    World.run_bind_of_run (hintact.run_askPolicy _ h.policy), World.run_bind_of_run hasked,
    World.run_bind_of_run (h₁.sane.intact.run_readAttribute_armHook _ l.policy),
    World.run_bind_of_run (h₁.sane.intact.run_readAttribute_dailyTimeout _ l.session)]
  refine (congrArg Prod.fst (World.run_bind_of_run
    (h₂.run_arm depth asked.nextSerial delay))).trans ?_
  exact outcome_keepHandle counted l.session hx

/-- A session with the idle hooks is started without a fault if there is a delay to be told. -/
theorem outcome_start {depth : Nat} {delay : Value}
    (hdelay : w.outcome (nextDailyDelay (invokeWithin (depth + 1)) l.session) = .ok delay) :
    w.outcome (Understudy.start (invokeWithin (depth + 1)) l.session) = .ok () := by
  obtain ⟨⟨x, hx⟩, hrunning⟩ := h.delayed hdelay
  rw [World.outcome, h.sane.intact.run_start _ h.policy]
  split
  · rfl
  · exact (h.withRunning true).outcome_askToArm (hrunning true) hx

theorem untouched : l.Untouched collected w where
  handle := h.handle
  collections := h.collections
  starts _ _ hdelay := h.outcome_start hdelay
  stops := h.outcome_shutdown

end ContextParts.Unused

/-! ## Runs from the start -/

/-- What holds of a context at some point of a run: its bank is dormant, and as long as no hooks
have been replaced it is untouched. -/
structure ContextParts.StaysDormant (l : ContextParts) (r : Ref .registry) (host : Ref .component)
    (c : Ref .context) (o : Outsiders) (replaced : Bool) (collected : List Value) (w : World) :
    Prop where
  dormant : l.Dormant r host c o w
  unused (h : replaced = false) : l.Unused r host c o collected w

section

variable {l : ContextParts} {r : Ref .registry} {host : Ref .component} {c : Ref .context}
  {o : Outsiders} {w w' : World}

/-- A context that was set up is unused, if the timers of others are those of outsiders. -/
theorem ContextParts.Begun.unused (h : l.Begun r host c w w') (hcomply : o.Comply l r host c)
    (halarms : ∀ v, w.Due v → o.alarm v) : l.Unused r host c o [] w' := by
  obtain ⟨interval, w₁, hspan, hmade⟩ := h.made
  obtain ⟨sessionId, hsession⟩ := hmade.session
  have hdue (v : Value) (hv : w'.Due v) : o.alarm v := halarms v (hv.of_timelines h.timelines)
  exact
    { toStands := hmade.stands
      sane := h.sane
      idle := by rw [hmade.bank]
      arm := hmade.arm ▸ hcomply.idleArm
      cancel := hmade.cancel ▸ hcomply.idleCancel
      due := fun v hv => .inr (hdue v hv)
      idleArm := hmade.arm
      idleCancel := hmade.cancel
      handle := by rw [hsession]
      collections := by rw [hsession]
      interval := by
        rw [hsession]
        exact hspan
      ticks := by rw [hsession]
      alarms := hdue }

/-- In a run, a context stays dormant. -/
theorem ContextParts.Unused.run {replaced : Bool} {collected : List Value}
    (h : l.Unused r host c o [] w) (hcomply : o.Comply l r host c)
    (hrun : l.Run r c o w replaced collected w') :
    l.StaysDormant r host c o replaced collected w' := by
  induction hrun with
  | begin => exact ⟨h.toDormant, fun _ => h⟩
  | @contextRequest replaced collected w₁ depth e before fits ih =>
    have hmove : l.Course r c o depth w₁ (e.after (invokeWithin depth) l r c w₁) :=
      .single (.contextRequest (Nat.le_refl depth) e fits)
    refine ⟨.course hcomply depth _ _ ih.dormant hmove, fun hkept => ?_⟩
    obtain ⟨hkept₁, hkept₂⟩ := Bool.or_eq_false_iff.1 hkept
    exact (ih.unused hkept₁).contextRequest hcomply depth e fits hkept₂
  | elsewhere before hapart ih =>
    exact ⟨ih.dormant.apart hapart fun _ => .inr, fun hkept => (ih.unused hkept).apart hapart⟩

end

/-- Outsiders that give an environment nothing but hooks that do nothing. -/
def idleOutsiders : Outsiders where
  arm v := v = .function 0 .idleArm
  cancel v := v = .function 0 .idleCancel
  alarm _ := False

theorem idleOutsiders_comply (l : ContextParts) (r : Ref .registry) (host : Ref .component)
    (c : Ref .context) : idleOutsiders.Comply l r host c where
  idleArm := rfl
  idleCancel := rfl
  arm v hv w _ depth serial delay := by
    obtain rfl : v = .function 0 .idleArm := hv
    exact .refl
  cancel v hv w _ depth handle := by
    obtain rfl : v = .function 0 .idleCancel := hv
    exact .refl
  alarm _ hv := hv.elim

/-- The bench with a recorder, and with an overlay that cannot be told because what it was put over
has no id. -/
def touchyBench : World :=
  { hostBench with
    components := ⟨[.sampleOf Component.sampleAnswer, .plain 2 [],
      .overlay { overrides := .empty, fallback := .ofRef (⟨1⟩ : Ref .component) }]⟩
    recorders := ⟨[{}]⟩ }

/-- A request to the overlay, which cannot be told either. -/
def touchyCancel : Value := .method (⟨2⟩ : Ref .component).object .queryInterface

/-- The bench with an environment. -/
def touchyOpened : World := touchyBench.after setUpHost

theorem touchyCancel_quiet (depth : Nat) (v : Value) :
    Quiet (invokeWithin depth touchyCancel [v]) := by
  cases depth with
  | zero => exact Quiet.throw _
  | succ depth =>
    intro w
    have hrun : w.run (invokeWithin (depth + 1) touchyCancel [v]) =
        w.run (queryInterface (invokeWithin depth) ⟨2⟩ v) :=
      Eq.trans (run_invoke_method w depth 0 (⟨2⟩ : Ref .component).object (m := .queryInterface)
        rfl rfl) (run_answered w _ _ _)
    rw [World.after, hrun]
    exact quiet_queryInterface (invokeWithin depth) v ⟨2⟩ w

end Understudy

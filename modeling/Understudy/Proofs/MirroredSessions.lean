import Understudy.Proofs.MirroredComponents
import Understudy.Proofs.MirroredTimers

/-!
# Sessions in states that mirror each other

Whatever a session is asked for in both states, it answers alike, or fails for the same reason.

## Main statements

* `Tally.setUp`, `Tally.start`, `Tally.onDailyTimeout`, `Tally.shutdown`: the life of a session.
-/

namespace Understudy

/-- A session that has been set up stays as it is. -/
theorem World.run_setUp_again {w : World} {s : Ref .session} (call : Caller) {p : Ref .policy}
    (hp : (w.row s : Session).policy = .ofRef p) :
    w.run (setUp call s) = (.ok (.ofRef p), w) := by
  rw [← hp]
  exact w.run_setUp_kept call (hp ▸ rfl)

/-- A session may be given the hooks of a bank. -/
theorem World.Mirrors.provided {w v : World} (h : w.Mirrors v) (s : Ref .session) (b : Ref .bank)
    {serial i j serial' i' j' : Nat} :
    (w.provided s ⟨serial, .function i (.method b.object .arm),
      .function j (.method b.object .cancel)⟩).Mirrors
      (v.provided s ⟨serial', .function i' (.method b.object .arm),
        .function j' (.method b.object .cancel)⟩) := by
  have hregular (serial i j : Nat) : Policy.Regular ⟨serial, .function i (.method b.object .arm),
      .function j (.method b.object .cancel)⟩ := ⟨.bank i b, .bank j b⟩
  have hpushed := h.push .policy (h.left.push_policy (hregular serial i j))
    (h.right.push_policy (hregular serial' i' j')) rfl
  have hsize : w.policies.size = v.policies.size := h.size .policy
  refine hpushed.withRow s
    (hpushed.left.withRow_session s { h.left.session s with policy := Value.names_ofRef _ })
    (hpushed.right.withRow_session s { h.right.session s with policy := Value.names_ofRef _ }) ?_
  have hrow : (w.row s : Session).guise = (v.row s : Session).guise := h.row s
  let provided (x : Session) (size : Nat) : Session :=
    { x.guise with policy := .unstamped (.ofRef (⟨size⟩ : Ref .policy)) }
  show provided (w.row s) w.policies.size = provided (v.row s) v.policies.size
  simp only [provided, hrow, hsize]

namespace Tally

variable {w v : World} (h : w.Mirrors v) (s : Ref .session)
include h

/-- What a session is written in both states may differ in its serial numbers. -/
theorem updateSession {f g : Session → Session} (hf : ∀ x : Session, x.Regular → (f x).Regular)
    (hg : ∀ x : Session, x.Regular → (g x).Regular)
    (hfg : ∀ x y : Session, x.guise = y.guise → (f x).guise = (g y).guise) :
    Tally (fun _ _ => True) w v (update s f) (update s g) :=
  of_run (World.run_update w s f) (World.run_update v s g) (.result trivial)
    (h.withRow s (h.left.withRow_session s (hf _ (h.left.session s)))
      (h.right.withRow_session s (hg _ (h.right.session s))) (hfg _ _ (h.row s)))
    (.of_eq rfl rfl rfl) (.of_eq rfl rfl rfl)

theorem setHandle {x y : Value} (hxy : Value.Held x y) :
    Tally (fun _ _ => True) w v (update s fun session : Session => { session with handle := x })
      (update s fun session : Session => { session with handle := y }) := by
  refine updateSession h s (fun _ hs => { hs with handle := hxy.2.1 })
    (fun _ hs => { hs with handle := hxy.2.2 }) fun a b hab => ?_
  show { a.guise with handle := x.unstamped } = { b.guise with handle := y.unstamped }
  rw [hab, hxy.1]

theorem setRunning (running : Bool) :
    Tally (fun _ _ => True) w v
      (update s fun session : Session => { session with running := .bool running })
      (update s fun session : Session => { session with running := .bool running }) := by
  refine updateSession h s (fun _ hs => { hs with running := ⟨running, rfl⟩ })
    (fun _ hs => { hs with running := ⟨running, rfl⟩ }) fun a b hab => ?_
  show { a.guise with running := .bool running } = { b.guise with running := .bool running }
  rw [hab]

/-! ## The application's identity -/

/-- Both find the same component, or none for the same reason. -/
theorem identityService (call : Caller) (capability : Capability) :
    Tally (Value.One .component) w v (Understudy.identityService call s capability)
      (Understudy.identityService call s capability) := by
  refine bind_run (World.run_fetch w s) (World.run_fetch v s) ?_
  exact request_names h call (h.left.session s).registry (congrArg Session.registry (h.row s))
    (fun _ _ => rfl) _ _ fun r _ => getService h call r rfl (.refl _) capability

theorem askIdentity (call : Caller) :
    Tally (Value.One .component) w v
      (askSession call s .currentIdentity (currentIdentity call))
      (askSession call s .currentIdentity (currentIdentity call)) :=
  request h call s rfl rfl _ _ (identityService h s call .runtime)

/-! ## Setting up -/

/-- Both tell the id of a session to the same component, or pass it over. -/
theorem annotateSession (call : Caller) :
    Tally (fun _ _ => True) w v (Understudy.annotateSession call s)
      (Understudy.annotateSession call s) := by
  refine bind (attempt (identityService h s call .crashReporter)) fun x y w v h hxy => ?_
  rcases hxy.cases with ⟨_, _, rfl, rfl, c, rfl, rfl⟩ | ⟨fault, rfl, rfl⟩
  · have hid : (w.row s : Session).sessionId.Alike (v.row s : Session).sessionId :=
      congrArg Session.sessionId (h.row s)
    have htakes : (w.row c : Component).takesNotes = (v.row c : Component).takesNotes := by
      rw [← Component.takesNotes_guise, show (w.row c : Component).guise = _ from h.row c]
      exact Component.takesNotes_guise _
    have hsimple := (h.left.session s).sessionId
    simp only [Value.ref?_ofRef]
    refine bind_run (World.run_fetch w s) (World.run_fetch v s) ?_
    refine bind_run (World.run_fetch w c) (World.run_fetch v c) ?_
    refine bind_run (World.run_get w) (World.run_get v) ?_
    rw [← htakes, ← hsimple.truthy hid w v]
    cases hnotes : (w.row c : Component).takesNotes && w.truthy (w.row s : Session).sessionId with
    | false => exact pure h trivial
    | true =>
      obtain ⟨hnotes, _⟩ := Bool.and_eq_true_iff.1 hnotes
      have hkey : (Value.ofText sessionIdKey).text? = some sessionIdKey := rfl
      have htold := annotate h call hnotes hkey hid
      refine bind (S := Value.Alike) (request h call c (Component.takes_annotate hnotes)
        (Component.takes_annotate (htakes ▸ hnotes)) _ _ htold.nothing) fun _ _ w v h _ => ?_
      exact pure h trivial
  · cases fault <;> first | exact emit h _ _ _ _ _ | exact throw h _

/-- Both give out the same id. -/
theorem freshSessionId :
    Tally Value.Agree w v Understudy.freshSessionId Understudy.freshSessionId := by
  let next (w : World) : World := { w with issued := w.issued + 1 }
  have hrun (w : World) : w.run Understudy.freshSessionId =
      (.ok ((Value.ofText (sessionIdText w.issued)).renewed w.nextSerial),
        (next w).retold w.log (w.nextSerial + 1)) := rfl
  have hissued : w.guise.issued = v.guise.issued := congrArg World.issued h.same
  have hguise (w : World) : (next w).guise = next w.guise := rfl
  have hnext : (next w).Mirrors (next v) :=
    ⟨{ h.left with }, { h.right with }, by rw [hguise, hguise, h.same]⟩
  have hid : (Value.ofText (sessionIdText w.issued)).Agree (.ofText (sessionIdText v.issued)) :=
    ⟨trivial, by rw [show w.issued = v.issued from hissued]; exact .refl _⟩
  exact of_run (hrun w) (hrun v) (.result (hid.renewed _ _)) (hnext.alike ⟨_, _, rfl⟩ ⟨_, _, rfl⟩)
    (.of_eq rfl rfl rfl) (.of_eq rfl rfl rfl)

theorem setSessionId {x y : Value} (hxy : x.Agree y) :
    Tally (fun _ _ => True) w v
      (update s fun session : Session => { session with sessionId := x })
      (update s fun session : Session => { session with sessionId := y }) := by
  refine updateSession h s (fun _ hs => { hs with sessionId := hxy.simple })
    (fun _ hs => { hs with sessionId := hxy.simple.alike hxy.alike }) fun a b hab => ?_
  show { a.guise with sessionId := x.unstamped } = { b.guise with sessionId := y.unstamped }
  rw [hab, hxy.alike]

/-- Both give a session the same id, and tell it alike. -/
theorem identify (call : Caller) :
    Tally Value.Alike w v (Understudy.identify call s) (Understudy.identify call s) := by
  refine bind (freshSessionId h) fun x y w v h hxy => ?_
  refine bind (setSessionId h s hxy) fun _ _ w v h _ => ?_
  refine bind (S := Value.Alike)
    (request h call s rfl rfl _ _ (annotateSession h s call).nothing) fun _ _ w v h _ => ?_
  refine bind_run (World.run_fetch w s) (World.run_fetch v s) ?_
  have hpolicy : (w.row s : Session).policy.Alike (v.row s : Session).policy :=
    congrArg Session.policy (h.row s)
  refine bind (shown h (h.left.session s).sessionId
    (congrArg Session.sessionId (h.row s))) fun _ _ w v h _ => ?_
  exact bind (emit h _ _ _ _ _) fun _ _ w v h _ => pure h hpolicy

/-- Both give a session the hooks of the same bank. -/
theorem setUp (call : Caller) :
    Tally Value.Alike w v (Understudy.setUp call s) (Understudy.setUp call s) := by
  have hl : (w.row s : Session).Regular := h.left.session s
  have hrow : (w.row s : Session).guise = (v.row s : Session).guise := h.row s
  have hpolicy : (w.row s : Session).policy.Alike (v.row s : Session).policy :=
    congrArg Session.policy hrow
  have htimers : (w.row s : Session).timers.Alike (v.row s : Session).timers :=
    congrArg Session.timers hrow
  rcases hl.policy with hnone | ⟨p, hp⟩
  · have hnone' : (v.row s : Session).policy = .none := hpolicy.eq_none hnone
    rcases hl.timers with hidle | ⟨b, hb⟩
    · refine bind_run (World.run_fetch w s) (World.run_fetch v s) ?_
      rw [hnone, hnone', htimers.eq_none hidle, hidle]
      have hread := settled (S := fun _ _ => False)
        (run_readAttribute_error call (w.look_none .arm))
        (run_readAttribute_error call (v.look_none .arm)) (.fault _) h
      exact hread.bind fun _ _ _ _ _ hno => hno.elim
    · have hb' : (v.row s : Session).timers = .ofRef b :=
        (htimers.eq_of_names (.inr ⟨b, hb⟩)).trans hb
      obtain ⟨w₁, serial, i, j, hlike, hrun⟩ := h.left.intact.run_setUp call hb hnone
      obtain ⟨v₁, serial', i', j', hlike', hrun'⟩ := h.right.intact.run_setUp call hb' hnone'
      exact later hrun hrun' ((World.Retains.of_alike hlike).trans (.of_eq rfl rfl rfl))
        ((World.Retains.of_alike hlike').trans (.of_eq rfl rfl rfl))
        (identify ((h.alike hlike hlike').provided s b) s call)
  · refine settled (World.run_setUp_again call hp) (World.run_setUp_again call ?_)
      (.result (.refl _)) h
    rw [hpolicy.eq_of_names (.inr ⟨p, hp⟩), hp]

end Tally

/-! ## The policy and the delay -/

/-- The name of the subsystem is what it was. -/
theorem World.Regular.look_subsystem {w : World} (h : w.Regular) (s : Ref .session) :
    w.look (.ofRef s) "subsystem_name" = .ok (.held (.ofText "DailySession")) := by
  have hnone : w.assigned? s.object "subsystem_name" = none := h.own _ _ (by decide)
  show w.lookObject s.object "subsystem_name" = _
  unfold World.lookObject
  rw [hnone]
  rfl

namespace Tally

variable {w v : World} (h : w.Mirrors v) (s : Ref .session)
include h

/-- Both have the same policy, or are not set up. -/
theorem requirePolicy (call : Caller) :
    Tally (Value.One .policy) w v (Understudy.requirePolicy call s)
      (Understudy.requirePolicy call s) := by
  have hpolicy : (w.row s : Session).policy.Alike (v.row s : Session).policy :=
    congrArg Session.policy (h.row s)
  have hsame := hpolicy.eq_of_names (h.left.session s).policy
  refine bind_run (World.run_fetch w s) (World.run_fetch v s) ?_
  rcases (h.left.session s).policy with hnone | ⟨p, hp⟩
  · rw [hsame, hnone]
    refine bind_run (run_readAttribute_held call (h.left.look_subsystem s))
      (run_readAttribute_held call (h.right.look_subsystem s)) ?_
    refine bind (quotedText h (x := .ofText "DailySession") trivial (.refl _))
      fun _ _ w v h heq => ?_
    subst heq
    exact throw h _
  · rw [hsame, hp]
    exact pure h ⟨p, rfl, rfl⟩

theorem askPolicy (call : Caller) :
    Tally (Value.One .policy) w v (Understudy.askPolicy call s) (Understudy.askPolicy call s) :=
  request h call s rfl rfl _ _ (requirePolicy h s call)

/-- Clocks tell the same time in both. -/
theorem callClock {clock clock' : Value} (hclock : clock.Clock) (hsame : clock.Alike clock')
    (depth : Nat) :
    Tally (fun x y => ∃ i j now, x = .moment i now ∧ y = .moment j now) w v
      (invokeWithin depth clock []) (invokeWithin depth clock' []) := by
  have hnow : w.guise.clock = v.guise.clock := congrArg World.clock h.same
  cases depth with
  | zero => exact throw h .tooDeep
  | succ depth =>
    cases hclock <;>
      (obtain ⟨other, rfl⟩ := Value.Alike.function hsame
       exact settled rfl rfl (.result ⟨_, _, _, rfl, congrArg (Value.moment _) hnow.symm⟩) h)

theorem untilMidnight (now : Moment) :
    Tally Value.Agree w v (Understudy.untilMidnight now) (Understudy.untilMidnight now) := by
  rw [Understudy.untilMidnight]
  cases now.secondsUntilMidnight? with
  | none => exact throw h .dateRange
  | some delay =>
    have hdelay : (Value.ofFloat delay).Agree (.ofFloat delay) := ⟨trivial, .refl _⟩
    exact of_alike (World.run_renew w _) (World.run_renew v _) (.result (hdelay.renewed _ _)) h
      ⟨_, _, rfl⟩ ⟨_, _, rfl⟩

/-- The delay until the next run is the same in both. -/
theorem nextDailyDelay (depth : Nat) :
    Tally Value.Agree w v (Understudy.nextDailyDelay (invokeWithin depth) s)
      (Understudy.nextDailyDelay (invokeWithin depth) s) := by
  have hl : (w.row s : Session).Regular := h.left.session s
  have hrow : (w.row s : Session).guise = (v.row s : Session).guise := h.row s
  have hinterval : (w.row s : Session).interval.Alike (v.row s : Session).interval :=
    congrArg Session.interval hrow
  refine bind_run (World.run_fetch w s) (World.run_fetch v s) ?_
  rw [hinterval.isNone]
  cases hnone : (w.row s : Session).interval.isNone with
  | false => exact pure h ⟨hl.interval, hinterval⟩
  | true =>
    refine bind (callClock h hl.clock (congrArg Session.clock hrow) depth) fun x y w v h hxy => ?_
    obtain ⟨i, j, now, rfl, rfl⟩ := hxy
    exact untilMidnight h now

theorem askDelay (depth : Nat) :
    Tally Value.Agree w v (Understudy.askDelay (invokeWithin depth) s)
      (Understudy.askDelay (invokeWithin depth) s) :=
  request h _ s rfl rfl _ _ (nextDailyDelay h s depth)

end Tally

/-! ## Collecting -/

/-- Runs that noted the same. -/
structure Collection.Agree (x y : Collection) : Prop where
  sequence : x.sequence = y.sequence
  delay : x.delay.Agree y.delay
  appId : x.appId.Agree y.appId
  appVersion : x.appVersion.Agree y.appVersion
  os : x.os.Agree y.os

theorem Collection.Agree.alike {x y : Collection} (h : x.Agree y) :
    x.toValue.Alike y.toValue := by
  show Value.record .collection 0 _ = Value.record .collection 0 _
  simp only [Value.allUnstamped]
  rw [h.sequence, h.delay.alike, h.appId.alike, h.appVersion.alike, h.os.alike]

namespace Tally

variable {w v : World} (h : w.Mirrors v) (s : Ref .session)
include h

/-- A run notes the same in both, or fails for the same reason. -/
theorem gather (depth : Nat) :
    Tally Collection.Agree w v (Understudy.gather (invokeWithin depth) s)
      (Understudy.gather (invokeWithin depth) s) := by
  let call := invokeWithin depth
  refine bind (askIdentity h s call) fun x y w v h hxy => ?_
  obtain ⟨c, rfl, rfl⟩ := hxy
  have hlength :
      (w.row s : Session).collections.length = (v.row s : Session).collections.length := by
    have hsame : (w.row s : Session).collections.map Value.unstamped =
        (v.row s : Session).collections.map Value.unstamped :=
      congrArg Session.collections (h.row s)
    simpa using congrArg List.length hsame
  refine bind_run (h.left.intact.run_readAttribute_collections call s)
    (h.right.intact.run_readAttribute_collections call s) ?_
  have hcount (w : World) : w.run (lengthOf (.list (.collections s))) =
      (.ok (w.row s : Session).collections.length, w) := rfl
  refine bind_run (hcount w) (hcount v) ?_
  rw [hlength]
  refine bind (askDelay h s depth) fun delay delay' w v h hdelay => ?_
  refine bind (answerOf h call c .id) fun appId appId' w v h happId => ?_
  refine bind (answerOf h call c .version) fun appVersion appVersion' w v h happVersion => ?_
  refine bind (answerOf h call c .os) fun os os' w v h hos => ?_
  exact of_alike rfl rfl (.result ⟨rfl, hdelay, happId, happVersion, hos⟩) h ⟨_, _, rfl⟩
    ⟨_, _, rfl⟩

/-- A collection is kept by both. -/
theorem keepCollection (call : Caller) {x y : Collection} (hxy : x.Agree y) :
    Tally Value.Alike w v (Understudy.keepCollection call s x)
      (Understudy.keepCollection call s y) := by
  refine bind_run (h.left.intact.run_readAttribute_collections call s)
    (h.right.intact.run_readAttribute_collections call s) ?_
  have hkept : Tally (fun _ _ => True) w v (appendTo call (.list (.collections s)) x.toValue)
      (appendTo call (.list (.collections s)) y.toValue) := by
    let kept (item : Value) (session : Session) : Session :=
      { session with collections := session.collections ++ [item] }
    refine updateSession h s (f := kept x.toValue) (g := kept y.toValue) (fun _ hs => { hs with })
      (fun _ hs => { hs with }) fun a b hab => ?_
    have hold : a.collections.map Value.unstamped = b.collections.map Value.unstamped :=
      congrArg Session.collections hab
    have hguise (item : Value) (session : Session) : (kept item session).guise =
        { session.guise with
          collections := session.collections.map Value.unstamped ++ [item.unstamped] } := by
      simp only [kept, Session.guise, List.map_append, List.map_singleton]
    rw [hguise, hguise, hab, hold, hxy.alike]
  refine bind hkept fun _ _ w v h _ => ?_
  refine bind (shown h hxy.appId.simple hxy.appId.alike) fun _ _ w v h _ => ?_
  refine bind (shown h hxy.appVersion.simple hxy.appVersion.alike) fun _ _ w v h _ => ?_
  refine bind (shown h hxy.os.simple hxy.os.alike) fun _ _ w v h _ => ?_
  exact bind (emit h _ _ _ _ _) fun _ _ w v h _ => pure h hxy.alike

theorem collectDaily (depth : Nat) :
    Tally Value.Alike w v (Understudy.collectDaily (invokeWithin depth) s)
      (Understudy.collectDaily (invokeWithin depth) s) := by
  rw [collectDaily_eq]
  exact bind (gather h s depth) fun _ _ w v h hxy => keepCollection h s _ hxy

end Tally

/-! ## The cycle -/

namespace Tally

variable {w v : World} (h : w.Mirrors v) (s : Ref .session)
include h

theorem keepHandle {delay delay' handle handle' : Value} (hdelay : delay.Agree delay')
    (hhandle : Value.Held handle handle') :
    Tally (fun _ _ => True) w v (Understudy.keepHandle s delay handle)
      (Understudy.keepHandle s delay' handle') := by
  refine bind (setHandle h s hhandle) fun _ _ w v h _ => ?_
  refine bind_run (World.run_get w) (World.run_get v) ?_
  refine bind (fixedText h hdelay.simple hdelay.alike 1) fun text _ w v h heq => ?_
  subst heq
  exact emit h _ _ _ _ _

/-- The timer is armed in both, or in neither for the same reason. -/
theorem armDaily (depth : Nat) :
    Tally (fun _ _ => True) w v (Understudy.armDaily (invokeWithin depth) s)
      (Understudy.armDaily (invokeWithin depth) s) := by
  rw [armDaily_eq]
  refine bind (askPolicy h s _) fun _ _ w v h hpolicy => ?_
  obtain ⟨p, rfl, rfl⟩ := hpolicy
  refine bind (askDelay h s depth) fun delay delay' w v h hdelay => ?_
  refine bind_run (h.left.intact.run_readAttribute_armHook _ p)
    (h.right.intact.run_readAttribute_armHook _ p) ?_
  refine bind_later (h.left.intact.run_readAttribute_dailyTimeout _ s)
    (h.right.intact.run_readAttribute_dailyTimeout _ s) (.of_eq rfl rfl rfl) (.of_eq rfl rfl rfl) ?_
  have hnext : World.Mirrors { w with nextSerial := w.nextSerial + 1 }
      { v with nextSerial := v.nextSerial + 1 } := h.alike ⟨_, _, rfl⟩ ⟨_, _, rfl⟩
  have htimeout : (Value.function w.nextSerial (.method s.object .dailyTimeout)).Alike
      (.function v.nextSerial (.method s.object .dailyTimeout)) := rfl
  refine bind (callArm hnext (h.left.policy p).arm (congrArg Policy.arm (h.row p)) hdelay.simple
    hdelay.alike (.session _ s) (.session _ s) htimeout depth) fun _ _ w v h hhandle => ?_
  exact keepHandle h s hdelay hhandle

theorem askToArm (depth : Nat) :
    Tally (fun _ _ => True) w v (Understudy.askToArm (invokeWithin depth) s)
      (Understudy.askToArm (invokeWithin depth) s) :=
  bind (S := Value.Alike) (request h _ s rfl rfl _ _ (armDaily h s depth).nothing)
    fun _ _ _ _ h _ => pure h trivial

/-- Whether a session is running is the same in both. -/
theorem running_eq : (w.row s : Session).running = (v.row s : Session).running := by
  obtain ⟨b, hb⟩ := (h.left.session s).running
  obtain ⟨b', hb'⟩ := (h.right.session s).running
  have hsame : (w.row s : Session).running.Alike (v.row s : Session).running :=
    congrArg Session.running (h.row s)
  rw [hb, hb'] at hsame ⊢
  exact hsame

/-- What depends on whether a session is running does so in both. -/
theorem ifRunning {γ δ : Type} {T : γ → δ → Prop} {a a' : Action γ} {b b' : Action δ}
    (hyes : Tally T w v a b) (hno : Tally T w v a' b') :
    Tally T w v (do if (← get).truthy (← fetch s).running then a else a')
      (do if (← get).truthy (← fetch s).running then b else b') := by
  refine bind_run (World.run_get w) (World.run_get v) ?_
  refine bind_run (World.run_fetch w s) (World.run_fetch v s) ?_
  obtain ⟨running, hrunning⟩ := (h.left.session s).running
  rw [← running_eq h s, hrunning]
  cases running with
  | false => exact hno
  | true => exact hyes

/-- The cycle starts in both, or in neither. -/
theorem start (depth : Nat) :
    Tally (fun _ _ => True) w v (Understudy.start (invokeWithin depth) s)
      (Understudy.start (invokeWithin depth) s) := by
  refine bind (askPolicy h s _) fun _ _ w v h _ => ?_
  refine ifRunning h s (emit h _ _ _ _ _) ?_
  exact bind (setRunning h s true) fun _ _ w v h _ => askToArm h s depth

theorem tellFault {x y : Except Fault Value} (hxy : Concur Value.Alike x y) :
    Tally (fun _ _ => True) w v (Understudy.tellFault x) (Understudy.tellFault y) := by
  cases hxy with
  | result => exact pure h trivial
  | fault fault => exact emit h _ _ _ _ _

theorem rethrow {x y : Except Fault Value} (hxy : Concur Value.Alike x y) :
    Tally (fun _ _ => True) w v (Understudy.rethrow x) (Understudy.rethrow y) := by
  cases hxy with
  | result => exact pure h trivial
  | fault fault => exact throw h fault

/-- A run is the same in both, and so is what comes after it. -/
theorem onDailyTimeout (depth : Nat) :
    Tally (fun _ _ => True) w v (Understudy.onDailyTimeout (invokeWithin depth) s)
      (Understudy.onDailyTimeout (invokeWithin depth) s) := by
  rw [onDailyTimeout_eq]
  refine bind (setHandle h s ⟨rfl, trivial, trivial⟩) fun _ _ w v h _ => ?_
  refine bind (attempt (request h _ s rfl rfl _ _ (collectDaily h s depth)))
    fun x y w v h hxy => ?_
  rw [concludeRun_eq, concludeRun_eq]
  refine bind (tellFault h hxy) fun _ _ w v h _ => ?_
  exact ifRunning h s (bind (askToArm h s depth) fun _ _ _ _ h _ => rethrow h hxy) (rethrow h hxy)

/-- The cycle ends in both, and the timer is cancelled in both. -/
theorem shutdown (depth : Nat) :
    Tally (fun _ _ => True) w v (Understudy.shutdown (invokeWithin depth) s)
      (Understudy.shutdown (invokeWithin depth) s) := by
  rw [shutdown_eq]
  refine ifRunning h s ?_ (pure h trivial)
  refine bind (setRunning h s false) fun _ _ w v h _ => ?_
  refine bind (askPolicy h s _) fun _ _ w v h hpolicy => ?_
  obtain ⟨p, rfl, rfl⟩ := hpolicy
  refine bind_run (h.left.intact.run_readAttribute_cancelHook _ p)
    (h.right.intact.run_readAttribute_cancelHook _ p) ?_
  refine bind_run (World.run_fetch w s) (World.run_fetch v s) ?_
  have hhandle : Value.Held (w.row s : Session).handle (v.row s : Session).handle :=
    ⟨congrArg Session.handle (h.row s), (h.left.session s).handle, (h.right.session s).handle⟩
  have hcancel : (w.row p : Policy).cancel.Alike (v.row p : Policy).cancel :=
    congrArg Policy.cancel (h.row p)
  refine bind (callCancel h (h.left.policy p).cancel hcancel hhandle depth) fun _ _ w v h _ => ?_
  exact bind (setHandle h s ⟨rfl, trivial, trivial⟩) fun _ _ w v h _ => emit h _ _ _ _ _

end Tally

/-! ## The report -/

/-- Reports that tell the same. -/
def Report.Agree (r r' : Report) : Prop := ∀ f, (r.answer f).Alike (r'.answer f)

namespace Tally

variable {w v : World} (h : w.Mirrors v)
include h

/-- Dictionaries that are new to both. -/
theorem newDict {d d' : Dict} (hd : d.unstamped = d'.unstamped) :
    Tally Value.Alike w v (Understudy.newDict d) (Understudy.newDict d') := by
  have hdicts : w.guise.dicts.size = v.guise.dicts.size := by rw [h.same]
  have hsize : w.dicts.size = v.dicts.size := by
    simpa only [World.guise, Table.size_map] using hdicts
  have hpushed : World.Mirrors { w with dicts := w.dicts.push d }
      { v with dicts := v.dicts.push d' } := by
    refine ⟨{ h.left with }, { h.right with }, ?_⟩
    rw [World.guise_pushDict, World.guise_pushDict, h.same, hd]
  refine of_run (World.run_modifyGet w _) (World.run_modifyGet v _) (.result ?_) hpushed
    (.of_eq rfl rfl rfl) (.of_eq rfl rfl rfl)
  rw [hsize]
  exact .refl _

/-- Both answer the fields of a report alike. -/
theorem answersOf (call : Caller) (c : Ref .component) (asked : List Field) :
    Tally (List.Forall₂ fun x y => x.1 = y.1 ∧ x.2.Alike y.2) w v
      (Understudy.answersOf call (.ofRef c) asked)
      (Understudy.answersOf call (.ofRef c) asked) := by
  induction asked generalizing w v with
  | nil => exact pure h .nil
  | cons f rest ih =>
    refine bind (answerOf h call c f) fun x y w v h hxy => ?_
    exact bind (ih h) fun _ _ _ _ h hrest => pure h (.cons ⟨rfl, hxy.alike⟩ hrest)

/-- Both report the same, or fail for the same reason. -/
theorem reportOf (call : Caller) (s : Ref .session) :
    Tally Report.Agree w v (Understudy.reportOf call s) (Understudy.reportOf call s) := by
  refine bind (askIdentity h s call) fun x y w v h hxy => ?_
  obtain ⟨c, rfl, rfl⟩ := hxy
  refine bind (answersOf h call c Report.order) fun xs ys w v h hanswers => ?_
  refine pure h fun f => ?_
  induction hanswers with
  | nil => exact .refl _
  | @cons x y xs ys hxy _ ih =>
    obtain ⟨g, a⟩ := x
    obtain ⟨g', b⟩ := y
    obtain ⟨rfl, halike⟩ : g = g' ∧ a.Alike b := hxy
    simp only [List.lookup_cons]
    split
    · exact halike
    · exact ih

theorem sectionPairs {r r' : Report} (hr : r.Agree r')
    (asked : List (String × List (String × Field))) :
    Tally (fun xs ys => OrderedMap.unstamped ⟨xs⟩ = OrderedMap.unstamped ⟨ys⟩) w v
      (r.sectionPairs asked) (r'.sectionPairs asked) := by
  induction asked generalizing w v with
  | nil => exact pure h rfl
  | cons titled rest ih =>
    obtain ⟨title, fields⟩ := titled
    have hfields : OrderedMap.unstamped ⟨fields.map fun x => (.ofText x.1, r.answer x.2)⟩ =
        OrderedMap.unstamped ⟨fields.map fun x => (.ofText x.1, r'.answer x.2)⟩ := by
      simp only [OrderedMap.unstamped, List.map_map, OrderedMap.mk.injEq]
      refine List.map_congr_left fun field _ => ?_
      exact congrArg (Prod.mk _) (hr field.2)
    refine bind (newDict h hfields) fun x y w v h hxy => ?_
    refine bind (ih h) fun xs ys w v h hrest => ?_
    refine pure h ?_
    simp only [OrderedMap.unstamped, OrderedMap.mk.injEq, List.map_cons] at hrest ⊢
    rw [hrest, hxy]

/-- The report of a session has the same sections in both. -/
theorem environment (call : Caller) (s : Ref .session) :
    Tally Value.Alike w v (Understudy.environment call s) (Understudy.environment call s) := by
  refine bind (reportOf h call s) fun r r' w v h hr => ?_
  exact bind (sectionPairs h hr Report.sections) fun _ _ _ _ h hpairs => newDict h hpairs

end Tally

end Understudy

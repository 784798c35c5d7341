import Understudy.Daily
import Understudy.Proofs.Lasting

/-!
# What lasts under what services and sessions are asked for

Registries, installers, policies and timers log what they do and change things of other kinds than
sessions. Sessions change themselves, and give themselves a policy only where they have none. So all
of them keep what lasts, if whatever they call on the way does.

## Main statements

* `Lasts.register`, `Lasts.captureOnce`, `Lasts.install`, `Lasts.restore`: identities.
* `Lasts.overrideScheduling`, `Lasts.advance`: scheduling.
* `Lasts.setUp`, `Lasts.start`, `Lasts.collectDaily`, `Lasts.shutdown`: the session.
-/

namespace Understudy.Lasts

section

variable {I : World → Prop} {call : Caller} (hcall : ∀ v args, Lasts I (call v args))
include hcall

/-! ## Looking services up -/

@[grind .] theorem queryInterface (c : Ref .component) (capability : Value) :
    Lasts I (queryInterface call c capability) := by
  unfold Understudy.queryInterface
  grind

/-- Of an overlay only the annotations change. -/
@[grind .] theorem annotate (c : Ref .component) (key data : Value) :
    Lasts I (annotate call c key data) := by
  intro w hw
  rw [Understudy.annotate, World.after_bind_of_run (World.run_fetch w c)]
  cases hc : w.row c with
  | overlay layer =>
    dsimp only
    cases key.text? with
    | none => exact hw
    | some text => exact hw.withComponent hc (.overlay layer _)
  | reporter serial capabilities notes fails =>
    have htold : Lasts I (Understudy.readAttribute call (.ofRef c) "notes" >>= fun noted =>
        Understudy.setItem noted key data) :=
      (readAttribute hcall _ _).bind fun noted => setItem noted key data
    dsimp only
    rw [World.after_bind_of_run (World.run_get w)]
    split
    · exact hw
    · exact htold w hw
  | _ => exact hw

omit hcall in
/-- An overlay has no caches, and the identities that have some stay what they are. -/
@[grind .] theorem invalidateCaches (c : Ref .component) : Lasts I (invalidateCaches c) := by
  intro w hw
  rw [Understudy.invalidateCaches, World.after_bind_of_run (World.run_fetch w c)]
  cases hc : w.row c with
  | host facts invalidated => exact hw.withComponent hc (.host ..)
  | sample facts count =>
    have hcounted : (w.after (Understudy.incremented count 1)).Meets I := incremented count 1 w hw
    refine World.after_bind_cases (P := (World.Meets · I)) (fun _ _ => hcounted) fun sum _ => ?_
    -- Counting leaves the components alone.
    have hrow : (w.after (Understudy.incremented count 1)).row c = .sample facts count := by
      rw [← hc, World.after, World.run_incremented]
      cases w.increment count 1 <;> rfl
    exact hcounted.withComponent hrow (.sample ..)
  | _ => exact hw

@[grind .] theorem answerOf (v : Value) (f : Field) : Lasts I (answerOf call v f) := by
  unfold Understudy.answerOf
  grind

@[grind .] theorem getField (c : Ref .component) (asked : Value) :
    Lasts I (getField call c asked) := by
  unfold Understudy.getField
  grind

@[grind .] theorem resolveField (c : Ref .component) (asked : Value) :
    Lasts I (resolveField call c asked) := by
  unfold Understudy.resolveField
  grind

omit hcall in
@[grind .] theorem countRequest (p : Ref .provider) : Lasts I (countRequest p) := by
  unfold Understudy.countRequest
  grind

omit hcall in
@[grind .] theorem failAtFirst (p : Ref .provider) : Lasts I (failAtFirst p) := by
  unfold Understudy.failAtFirst
  grind

@[grind .] theorem createInstance (p : Ref .provider) (outer capability : Value) :
    Lasts I (createInstance call p outer capability) := by
  unfold Understudy.createInstance
  grind

@[grind .] theorem createFrom (provider capability : Value) :
    Lasts I (createFrom call provider capability) := by
  unfold Understudy.createFrom
  grind

@[grind .] theorem isBlankId (id : Value) : Lasts I (isBlankId call id) := by
  unfold Understudy.isBlankId
  grind

@[grind .] theorem newEntry (classId description contractId provider : Value) :
    Lasts I (newEntry call classId description contractId provider) := by
  unfold Understudy.newEntry
  grind

omit hcall in
@[grind .] theorem noService (contractId : Value) : Lasts I (noService contractId) := by
  unfold Understudy.noService
  grind

@[grind .] theorem register (r : Ref .registry)
    (classId description contractId provider : Value) :
    Lasts I (register call r classId description contractId provider) := by
  unfold Understudy.register
  refine (newEntry hcall _ _ _ _).bind fun entry => (enterEntries r).bind fun entries =>
    (getItem hcall entries _).bind fun previous => get.bind fun w => ?_
  grind

@[grind .] theorem unregister (r : Ref .registry) (contractId provider : Value) :
    Lasts I (unregister call r contractId provider) := by
  unfold Understudy.unregister
  refine (enterEntries r).bind fun entries => (getItem hcall entries _).bind fun entry => ?_
  dsimp only
  split
  · grind
  · refine (readAttribute hcall _ _).bind fun registered => ?_
    split
    · grind
    · refine get.bind fun w => (removeItem _ _).bind fun _ => ?_
      grind

@[grind .] theorem getEntry (r : Ref .registry) (contractId : Value) :
    Lasts I (getEntry call r contractId) := by
  unfold Understudy.getEntry
  grind

@[grind .] theorem askEntry (r : Ref .registry) (contractId : Value) :
    Lasts I (askEntry call r contractId) := by
  unfold Understudy.askEntry
  grind

@[grind .] theorem lookup (r : Ref .registry) (contractId : Value) :
    Lasts I (lookup call r contractId) := by
  unfold Understudy.lookup
  grind

@[grind .] theorem getService (r : Ref .registry) (contractId capability : Value) :
    Lasts I (getService call r contractId capability) := by
  unfold Understudy.getService
  grind

@[grind .] theorem captureOnce (r : Ref .registry) (contractId capability : Value) :
    Lasts I (captureOnce call r contractId capability) := by
  unfold Understudy.captureOnce
  refine (captured hcall r _).bind fun known => ?_
  dsimp only
  split
  · exact pure known
  · refine (askEntry hcall r _).bind fun entry => (readAttribute hcall _ _).bind fun provider =>
      (createFrom hcall provider _).bind fun service => freshSerial.bind fun serial =>
        get.bind fun w => (setItem _ _ _).bind fun _ => ?_
    grind

omit hcall in
@[grind .] theorem contractIds (r : Ref .registry) : Lasts I (contractIds r) := by
  unfold Understudy.contractIds
  grind

@[grind .] theorem detectPlatform (registry : Value) : Lasts I (detectPlatform call registry) := by
  unfold Understudy.detectPlatform
  grind

/-! ## Installing stand-ins -/

omit hcall in
@[grind .] theorem buildStandIn (id name version platformVersion fallback : Value) :
    Lasts I (buildStandIn id name version platformVersion fallback) := by
  unfold Understudy.buildStandIn
  grind

@[grind .] theorem captureOriginal (i : Ref .installer) : Lasts I (captureOriginal call i) := by
  unfold Understudy.captureOriginal
  grind

@[grind .] theorem askToRegister (registry classId description contractId provider : Value) :
    Lasts I (askToRegister call registry classId description contractId provider) := by
  unfold Understudy.askToRegister
  grind

@[grind .] theorem install (i : Ref .installer) (id name version platformVersion : Value) :
    Lasts I (install call i id name version platformVersion) := by
  unfold Understudy.install
  refine (enter _).bind fun _ => (request hcall _ _ _ (captureOriginal hcall)).bind fun fallback =>
    (buildStandIn _ _ _ _ _).bind fun identity => (store _).bind fun provider =>
      (fetch i).bind fun installer => (askToRegister hcall _ _ _ _ _).bind fun _ =>
        (update i _).bind fun _ => ?_
  grind

@[grind .] theorem restore (i : Ref .installer) : Lasts I (restore call i) := by
  unfold Understudy.restore
  refine (enter _).bind fun _ => (fetch i).bind fun installer =>
    (request hcall _ _ _ fun r => captured hcall r _).bind fun capture => ?_
  split
  · refine (subscript _ _).bind fun entry => (readAttribute hcall _ _).bind fun classId =>
      (readAttribute hcall _ _).bind fun description => ?_
    grind
  · exact pure ()

/-! ## Scheduling -/

omit hcall in
@[grind .] theorem newPolicy (arm cancel : Value) : Lasts I (newPolicy arm cancel) := by
  unfold Understudy.newPolicy
  grind

omit hcall in
@[grind .] theorem setScheduler (p : Ref .policy) (arm cancel : Value) :
    Lasts I (setScheduler p arm cancel) := by
  unfold Understudy.setScheduler
  grind

@[grind .] theorem policyOf (owner : Value) : Lasts I (policyOf call owner) := by
  unfold Understudy.policyOf
  grind

omit hcall in
@[grind .] theorem hookName (hook : Value) : Lasts I (hookName hook) := by
  unfold Understudy.hookName
  grind

@[grind .] theorem subsystemName (owner : Value) : Lasts I (subsystemName call owner) := by
  unfold Understudy.subsystemName
  grind

@[grind .] theorem overrideScheduling (i : Ref .injector) (arm cancel : Value) :
    Lasts I (overrideScheduling call i arm cancel) := by
  unfold Understudy.overrideScheduling
  refine (fetch i).bind fun injector => (policyOf hcall _).bind fun policy => ?_
  dsimp only
  split
  · grind
  · refine (request hcall _ _ _ fun p => setScheduler p _ _).bind fun previous =>
      (fetch i).bind fun injector => (subsystemName hcall _).bind fun owner =>
        (shown owner).bind fun name => ?_
    grind

@[grind .] theorem disableTimers (i : Ref .injector) : Lasts I (disableTimers call i) := by
  unfold Understudy.disableTimers
  grind

@[grind .] theorem recordArm (r : Ref .recorder) (delay callback : Value) :
    Lasts I (recordArm call r delay callback) := by
  unfold Understudy.recordArm
  grind

@[grind .] theorem recordCancel (r : Ref .recorder) (handle : Value) :
    Lasts I (recordCancel call r handle) := by
  unfold Understudy.recordCancel
  grind

@[grind .] theorem fireLast (r : Ref .recorder) : Lasts I (fireLast call r) := by
  unfold Understudy.fireLast
  grind

@[grind .] theorem fireAt (recorder : Value) (place : Int) :
    Lasts I (fireAt call recorder place) := by
  unfold Understudy.fireAt
  grind

@[grind .] theorem resetRecorder (r : Ref .recorder) : Lasts I (resetRecorder call r) := by
  unfold Understudy.resetRecorder
  grind

omit hcall in
@[grind .] theorem spend (p : Ref .probe) : Lasts I (spend p) := by
  unfold Understudy.spend
  grind

@[grind .] theorem callProbe (p : Ref .probe) (args : List Value) :
    Lasts I (callProbe call p args) := by
  unfold Understudy.callProbe
  refine (readAttribute hcall _ _).bind fun calls => ?_
  cases args with
  | nil => exact (throw _).bind fun _ => by grind
  | cons first rest =>
    refine (appendTo hcall _ _).bind fun _ => (readAttribute hcall _ _).bind fun calls =>
      (lengthOf calls).bind fun count => (fetch p).bind fun probe => get.bind fun w => ?_
    dsimp only
    split
    · grind
    · cases rest with
      | nil => grind
      | cons second more => grind

/-! ## Timers -/

omit hcall in
@[grind .] theorem spelledFloat (v : Value) : Lasts I (spelledFloat v) := by
  unfold Understudy.spelledFloat
  grind

omit hcall in
@[grind .] theorem schedule (t : Ref .timeline) (delay : Value) (alarm : Alarm) :
    Lasts I (schedule t delay alarm) := by
  unfold Understudy.schedule
  grind

omit hcall in
@[grind .] theorem callLater (t : Ref .timeline) (delay callback : Value) :
    Lasts I (callLater t delay callback) := by
  unfold Understudy.callLater
  grind

@[grind .] theorem callLaterOn (b : Ref .bank) (line delay callback : Value) :
    Lasts I (callLaterOn call b line delay callback) := by
  unfold Understudy.callLaterOn
  grind

@[grind .] theorem armTimer (b : Ref .bank) (delay callback : Value) :
    Lasts I (armTimer call b delay callback) := by
  unfold Understudy.armTimer
  refine (fetch b).bind fun bank => get.bind fun w => ?_
  dsimp only
  split
  · grind
  · refine (callLaterOn hcall b _ _ _).bind fun handle => (needKey handle).bind fun _ =>
      (update b _).bind fun _ => ?_
    grind

omit hcall in
@[grind .] theorem cancelOn (t : Ref .timeline) (seq : Nat) : Lasts I (cancelOn t seq) := by
  unfold Understudy.cancelOn
  exact bind (modify _ fun w hw => hw.congr rfl rfl rfl) fun _ => update t _

@[grind .] theorem cancelHandle (handle : Value) : Lasts I (cancelHandle call handle) := by
  unfold Understudy.cancelHandle
  grind

@[grind .] theorem cancelTimer (b : Ref .bank) (handle : Value) :
    Lasts I (cancelTimer call b handle) := by
  unfold Understudy.cancelTimer
  grind

@[grind .] theorem cancelEach (b : Ref .bank) (handles : List Value) :
    Lasts I (cancelEach call b handles) := by
  induction handles with
  | nil => exact pure ()
  | cons handle rest ih =>
    unfold Understudy.cancelEach
    grind

@[grind .] theorem cancelAll (b : Ref .bank) : Lasts I (cancelAll call b) := by
  unfold Understudy.cancelAll
  grind

@[grind .] theorem ringBanked (b : Ref .bank) (handle callback : Value) :
    Lasts I (ringBanked call b handle callback) := by
  unfold Understudy.ringBanked
  grind

@[grind .] theorem ring (t : Ref .timeline) (seq : Nat) (alarm : Alarm) :
    Lasts I (ring call t seq alarm) := by
  unfold Understudy.ring
  grind

@[grind .] theorem expire (b : Ref .bank) (serial : Nat) (callback : Value) :
    Lasts I (expire call b serial callback) := by
  unfold Understudy.expire
  grind

/-- The timers that are left are taken the same way. -/
@[grind .] theorem fireDue (t : Ref .timeline) (goal : Decimal.Parts) (limit : Nat) :
    Lasts I (fireDue call t goal limit) := by
  induction limit with
  | zero => exact pure []
  | succ limit ih =>
    unfold Understudy.fireDue
    refine (fetch t).bind fun timeline => ?_
    split
    · exact pure []
    · split
      · exact (update t _).bind fun _ => ih
      · exact (update t _).bind fun _ => (attempt (ring hcall t _ _)).bind fun outcome =>
          (newList _).bind fun entry => ih.bind fun rest => pure _

@[grind .] theorem advance (t : Ref .timeline) (goal : Value) : Lasts I (advance call t goal) := by
  unfold Understudy.advance
  grind

/-! ## The daily session -/

omit hcall in
@[grind .] theorem freshSessionId : Lasts I (freshSessionId) := by
  unfold Understudy.freshSessionId
  exact bind (fun _ h => h.congr rfl rfl rfl) fun _ => renew _

omit hcall in
@[grind .] theorem newSession (registry timers interval clock : Value) :
    Lasts I (newSession registry timers interval clock) := by
  unfold Understudy.newSession
  grind

omit hcall in
@[grind ←] theorem nothing {action : Action Unit} (h : Lasts I action) :
    Lasts I (nothing action) := by
  unfold Understudy.nothing
  grind

@[grind ←] theorem askSession (s : Ref .session) (m : Method)
    {answer : Ref .session → Action Value} (h : ∀ s, Lasts I (answer s)) :
    Lasts I (askSession call s m answer) := by
  unfold Understudy.askSession
  grind

@[grind .] theorem identityService (s : Ref .session) (capability : Capability) :
    Lasts I (identityService call s capability) := by
  unfold Understudy.identityService
  grind

@[grind .] theorem currentIdentity (s : Ref .session) : Lasts I (currentIdentity call s) := by
  unfold Understudy.currentIdentity
  grind

@[grind .] theorem annotateSession (s : Ref .session) : Lasts I (annotateSession call s) := by
  unfold Understudy.annotateSession
  refine (attempt (identityService hcall s _)).bind fun outcome => ?_
  split
  · exact debug _ _
  · exact throw _
  · split
    · exact pure ()
    · refine (fetch s).bind fun session => (fetch _).bind fun component => ?_
      grind

/-- A session is given a policy if it has none, and a property that depends on a session finds one
there. -/
@[grind .] theorem setUp (s : Ref .session) : Lasts I (setUp call s) := by
  intro w hw
  rcases hw.lasting.guard s with hguards | hfrees
  · have hsome : (w.row s : Session).policy.isNone = false := hguards w hw.holds
    rw [Understudy.setUp, World.after_bind_of_run (World.run_fetch w s), hsome]
    exact hw
  · have hupdate (f : Session → Session) : Lasts I (Understudy.update s f) :=
      fun w h => ⟨h.lasting, hfrees w _ h.holds⟩
    refine bind (fetch s) (fun session => ?_) w hw
    split
    · exact pure _
    · refine (readAttribute hcall _ _).bind fun arm => (readAttribute hcall _ _).bind fun cancel =>
        (newPolicy arm cancel).bind fun policy => (hupdate _).bind fun _ =>
          freshSessionId.bind fun sessionId => (hupdate _).bind fun _ => ?_
      grind

@[grind .] theorem requirePolicy (s : Ref .session) : Lasts I (requirePolicy call s) := by
  unfold Understudy.requirePolicy
  grind

@[grind .] theorem askPolicy (s : Ref .session) : Lasts I (askPolicy call s) := by
  unfold Understudy.askPolicy
  grind

omit hcall in
@[grind .] theorem untilMidnight (now : Moment) : Lasts I (untilMidnight now) := by
  unfold Understudy.untilMidnight
  grind

@[grind .] theorem nextDailyDelay (s : Ref .session) : Lasts I (nextDailyDelay call s) := by
  unfold Understudy.nextDailyDelay
  grind

@[grind .] theorem askDelay (s : Ref .session) : Lasts I (askDelay call s) := by
  unfold Understudy.askDelay
  grind

@[grind .] theorem armDaily (s : Ref .session) : Lasts I (armDaily call s) := by
  unfold Understudy.armDaily
  refine (askPolicy hcall s).bind fun policy => (askDelay hcall s).bind fun delay =>
    (readAttribute hcall _ _).bind fun hook => (readAttribute hcall _ _).bind fun timeout =>
      (hcall hook _).bind fun handle => bind (updateSession s _ fun _ => rfl) fun _ => ?_
  grind

@[grind .] theorem askToArm (s : Ref .session) : Lasts I (askToArm call s) := by
  unfold Understudy.askToArm
  grind

@[grind .] theorem start (s : Ref .session) : Lasts I (start call s) := by
  unfold Understudy.start
  refine (askPolicy hcall s).bind fun _ => get.bind fun w => (fetch s).bind fun session => ?_
  split
  · exact warn _ _
  · exact bind (updateSession s _ fun _ => rfl) fun _ => askToArm hcall s

@[grind .] theorem collectDaily (s : Ref .session) : Lasts I (collectDaily call s) := by
  unfold Understudy.collectDaily
  refine (askSession hcall s _ (currentIdentity hcall)).bind fun identity =>
    (readAttribute hcall _ _).bind fun known => (lengthOf known).bind fun count =>
      (askDelay hcall s).bind fun delay => (answerOf hcall _ _).bind fun appId =>
        (answerOf hcall _ _).bind fun appVersion => (answerOf hcall _ _).bind fun os =>
          freshSerial.bind fun serial => (readAttribute hcall _ _).bind fun kept =>
            (appendTo hcall kept _).bind fun _ => ?_
  grind

@[grind .] theorem onDailyTimeout (s : Ref .session) : Lasts I (onDailyTimeout call s) := by
  unfold Understudy.onDailyTimeout
  refine bind (updateSession s _ fun _ => rfl) fun _ =>
    (attempt (askSession hcall s _ (collectDaily hcall))).bind fun outcome => ?_
  cases outcome with
  | ok collection => grind
  | error fault =>
    refine (emit _ _ _ _).bind fun _ => get.bind fun w => (fetch s).bind fun session => ?_
    grind

@[grind .] theorem shutdown (s : Ref .session) : Lasts I (shutdown call s) := by
  unfold Understudy.shutdown
  refine get.bind fun w => (fetch s).bind fun session => ?_
  split
  · exact bind (updateSession s _ fun _ => rfl) fun _ => (askPolicy hcall s).bind fun policy =>
      (readAttribute hcall _ _).bind fun hook => (fetch s).bind fun session =>
        (hcall hook _).bind fun _ => bind (updateSession s _ fun _ => rfl) fun _ => debug _ _
  · exact pure ()

/-! ## The report -/

omit hcall in
@[grind .] theorem sectionPairs (r : Report) (titled : List (String × List (String × Field))) :
    Lasts I (r.sectionPairs titled) := by
  induction titled with
  | nil => exact pure []
  | cons first rest ih => exact (newDict _).bind fun _ => ih.bind fun _ => pure _

omit hcall in
@[grind .] theorem reportValue (r : Report) : Lasts I r.toValue :=
  (sectionPairs r _).bind fun _ => newDict _

@[grind .] theorem answersOf (v : Value) (fields : List Field) :
    Lasts I (answersOf call v fields) := by
  induction fields with
  | nil => exact pure []
  | cons f rest ih => exact (answerOf hcall v f).bind fun answer => ih.bind fun _ => pure _

@[grind .] theorem reportOf (s : Ref .session) : Lasts I (reportOf call s) := by
  unfold Understudy.reportOf
  grind

@[grind .] theorem environment (s : Ref .session) : Lasts I (environment call s) := by
  unfold Understudy.environment
  grind

end

end Understudy.Lasts

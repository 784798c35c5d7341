import Understudy.Installation
import Understudy.Scheduling
import Understudy.Timers

/-!
# The daily session

A session runs a task once a day: it notes what the application says it is and how
long it is until the next run. Its timer goes through the hooks of its policy. A run
that fails does not end the cycle, because the next timer is armed either way.

The steps of the life of a session are requests to the session itself, so each of them
can be replaced.

## Main definitions

* `setUp`, `start`, `shutdown`: the life of a session.
* `collectDaily`, `onDailyTimeout`: a run, and what happens when the timer fires.
* `Report`: what a session reports about its environment.
-/

namespace Understudy

/-- The logger of the sessions. -/
def sessionLogger : String := "hostshim.adapters.session.daily"

/-- The key under which a session's id is noted on the application's identity. -/
def sessionIdKey : String := "TelemetrySessionId"

/-- The id given out after `issued` others: a random one in form, of version four,
whose last digits count. -/
def sessionIdText (issued : Nat) : String :=
  "00000000-0000-4000-8000-" ++ String.ofList (Text.hex 12 (issued + 1))

/-- A fresh session id. -/
def freshSessionId : Action Value := do
  let id ← modifyGet fun w => (sessionIdText w.issued, { w with issued := w.issued + 1 })
  renew (.ofText id)

/-- A new session, with a bank of its own unless it is given something that counts as
true to arm its timers with. -/
def newSession (registry timers interval clock : Value) : Action (Ref .session) := do
  let timers ←
    if (← get).truthy timers then pure timers else Value.ofRef <$> store .bank {}
  store .session { registry := registry, timers := timers, interval := interval, clock := clock }

/-! ## Asking the session itself -/

/-- A request without arguments to a session. -/
def askSession (call : Caller) (s : Ref .session) (m : Method)
    (answer : Ref .session → Action Value) : Action Value :=
  request call (.ofRef s) m [] answer

/-- An action whose result is nothing to speak of. -/
def nothing (action : Action Unit) : Action Value := do
  action
  return .none

/-! ## The application's identity -/

/-- The service of the application's identity, viewed as a capability. -/
def identityService (call : Caller) (s : Ref .session) (capability : Capability) :
    Action Value := do
  let contract := Value.ofText appInfoContract
  request call (← fetch s).registry .getService [contract, .capability capability] fun r =>
    getService call r contract (.capability capability)

/-- The application's identity as a session finds it. -/
def currentIdentity (call : Caller) (s : Ref .session) : Action Value :=
  identityService call s .runtime

/-! ## Setting up -/

/-- Notes the session id on the application's identity, if it takes annotations. An
identity that does not declare that it does is passed over. -/
def annotateSession (call : Caller) (s : Ref .session) : Action Unit := do
  match ← attempt (identityService call s .crashReporter) with
  | .error (.noInterface _) =>
    debug sessionLogger "Identity service has no crash reporter; skipping annotation"
  | .error fault => throw fault
  | .ok reporter =>
    match reporter.ref? .component with
    | none => pure ()
    | some c =>
      let sessionId := (← fetch s).sessionId
      if (← fetch c).takesNotes && (← get).truthy sessionId then
        let key := Value.ofText sessionIdKey
        let _ ← request call reporter .annotate [key, sessionId] fun c =>
          nothing (annotate call c key sessionId)

/-- Gives a session its policy, with the hooks of what it arms its timers with, and an
id. A session that has a policy keeps it. -/
def setUp (call : Caller) (s : Ref .session) : Action Value := do
  let session ← fetch s
  if !session.policy.isNone then return session.policy
  let arm ← readAttribute call session.timers Method.arm.word
  let cancel ← readAttribute call session.timers Method.cancel.word
  let policy ← newPolicy arm cancel
  update s fun session => { session with policy := .ofRef policy }
  let sessionId ← freshSessionId
  update s fun session => { session with sessionId := sessionId }
  let _ ← askSession call s .annotateSession fun s => nothing (annotateSession call s)
  let session ← fetch s
  debug sessionLogger ("Daily session " ++ (← shown session.sessionId) ++ " initialized")
  return session.policy

/-- The policy of a session that has been set up. -/
def requirePolicy (call : Caller) (s : Ref .session) : Action Value := do
  let policy := (← fetch s).policy
  if policy.isNone then
    throw (.notSetUp (← quotedText (← subsystemName call (.ofRef s))))
  return policy

/-- The policy of a session that has been set up, as the session answers it. -/
def askPolicy (call : Caller) (s : Ref .session) : Action Value :=
  askSession call s .requirePolicy (requirePolicy call)

/-! ## The daily task -/

/-- The fault of adding a span of time to a value that is no date and time. -/
def noSpanAfter (w : World) (v : Value) : Fault :=
  let span := "datetime.timedelta"
  match v with
  | .text _ _ | .field _ => .noConcatenation "str" span
  | .list _ => .noConcatenation "list" span
  | .tuple _ _ => .noConcatenation "tuple" span
  | other => .noSum "+" (w.fullTypeName other) span

/-- The seconds until the following midnight. -/
def untilMidnight (now : Moment) : Action Value :=
  match now.secondsUntilMidnight? with
  | some delay => renew (.ofFloat delay)
  | none => throw .dateRange

/-- The delay until the next run: the interval, or the time until midnight. -/
def nextDailyDelay (call : Caller) (s : Ref .session) : Action Value := do
  let session ← fetch s
  if !session.interval.isNone then return session.interval
  match ← call session.clock [] with
  | .moment _ now => untilMidnight now
  | other => throw (noSpanAfter (← get) other)

/-- The delay until the next run, as the session answers it. -/
def askDelay (call : Caller) (s : Ref .session) : Action Value :=
  askSession call s .nextDelay (nextDailyDelay call)

/-- Arms the timer through the policy's hook and keeps the handle. The delay is logged
only after the timer was armed. -/
def armDaily (call : Caller) (s : Ref .session) : Action Unit := do
  let policy ← askPolicy call s
  let delay ← askDelay call s
  let hook ← readAttribute call policy "set_daily_timeout"
  let timeout ← readAttribute call (.ofRef s) Method.dailyTimeout.word
  let handle ← call hook [delay, timeout]
  update s fun session => { session with handle := handle }
  let text ← orFail (fixedText (← get) 1 delay)
  debug sessionLogger ("Daily collection armed in " ++ text ++ "s")

/-- Arms the timer, as the session does it. -/
def askToArm (call : Caller) (s : Ref .session) : Action Unit := do
  let _ ← askSession call s .armDaily fun s => nothing (armDaily call s)

/-- Starts the cycle. A session that is running already keeps its timer. -/
def start (call : Caller) (s : Ref .session) : Action Unit := do
  let _ ← askPolicy call s
  if (← get).truthy (← fetch s).running then warn sessionLogger "Daily session already running"
  else
    update s fun session => { session with running := .bool true }
    askToArm call s

/-- One run: notes what the application says it is. -/
def collectDaily (call : Caller) (s : Ref .session) : Action Value := do
  let identity ← askSession call s .currentIdentity (currentIdentity call)
  let sequence := (← lengthOf (← readAttribute call (.ofRef s) "collections")) + 1
  let delay ← askDelay call s
  let appId ← answerOf call identity .id
  let appVersion ← answerOf call identity .version
  let os ← answerOf call identity .os
  let collection : Collection := ⟨← freshSerial, sequence, delay, appId, appVersion, os⟩
  appendTo call (← readAttribute call (.ofRef s) "collections") collection.toValue
  info sessionLogger
    ("Daily collection #" ++ toString sequence ++ " for " ++ (← shown appId) ++ " " ++
      (← shown appVersion) ++ " on " ++ (← shown os))
  return collection.toValue

/-- What happens when the timer fires: a run, and the next timer. A fault of the run
is passed on after the timer was armed; a fault of the arming takes its place. -/
def onDailyTimeout (call : Caller) (s : Ref .session) : Action Unit := do
  update s fun session => { session with handle := .none }
  let outcome ← attempt (askSession call s .collectDaily (collectDaily call))
  match outcome with
  | .error fault =>
    emit 40 sessionLogger ("Error in daily collection: " ++ fault.message) (some fault.kind)
  | .ok _ => pure ()
  if (← get).truthy (← fetch s).running then askToArm call s
  match outcome with
  | .error fault => throw fault
  | .ok _ => pure ()

/-- Ends the cycle and cancels the timer through the policy's hook. -/
def shutdown (call : Caller) (s : Ref .session) : Action Unit := do
  if (← get).truthy (← fetch s).running then
    update s fun session => { session with running := .bool false }
    let policy ← askPolicy call s
    let hook ← readAttribute call policy "clear_daily_timeout"
    let _ ← call hook [(← fetch s).handle]
    update s fun session => { session with handle := .none }
    debug sessionLogger "Daily session shut down"

/-! ## The report -/

/-- What a session reports about the application and its environment: the answer to
every field. -/
structure Report where
  answer : Field → Value

/-- The sections of a report, each field under the name it is reported by. -/
def Report.sections : List (String × List (String × Field)) :=
  [("build",
      [("vendor", .vendor), ("applicationName", .name), ("applicationId", .id),
        ("version", .version), ("buildId", .appBuildId),
        ("platformVersion", .platformVersion), ("platformBuildId", .platformBuildId)]),
    ("system", [("os", .os), ("abi", .abi)]),
    ("settings", [("safeMode", .inSafeMode), ("logConsoleErrors", .logConsoleErrors)])]

/-- The fields of a section with their answers, as a new dictionary. -/
def Report.sectionValue (r : Report) (fields : List (String × Field)) : Action Value :=
  newDict ⟨fields.map fun (name, field) => (.ofText name, r.answer field)⟩

/-- Sections as pairs of a title and a new dictionary. -/
def Report.sectionPairs (r : Report) :
    List (String × List (String × Field)) → Action (List (Value × Value))
  | [] => return []
  | (title, fields) :: rest => do
    let section_ ← r.sectionValue fields
    return (.ofText title, section_) :: (← r.sectionPairs rest)

/-- A report as a new dictionary of dictionaries. -/
def Report.toValue (r : Report) : Action Value := do newDict ⟨← r.sectionPairs sections⟩

/-- The order in which the fields of a report are asked for. -/
def Report.order : List Field := sections.flatMap fun (_, fields) => fields.map Prod.snd

/-- Asks a value for fields, one after the other, and fails with the first that fails. -/
def answersOf (call : Caller) (v : Value) : List Field → Action (List (Field × Value))
  | [] => return []
  | f :: rest => do
    let answer ← answerOf call v f
    return (f, answer) :: (← answersOf call v rest)

/-- What a session reports. -/
def reportOf (call : Caller) (s : Ref .session) : Action Report := do
  let identity ← askSession call s .currentIdentity (currentIdentity call)
  let answers ← answersOf call identity Report.order
  return ⟨fun f => (answers.lookup f).getD .none⟩

/-- The report of a session as a value. -/
def environment (call : Caller) (s : Ref .session) : Action Value := do
  (← reportOf call s).toValue

end Understudy

import Understudy.Bootstrap
import Understudy.Operation
import Understudy.Signature

/-!
# Calling what can be called

Calls meet in one place: a request to a thing or to a plain value, a hook, a callback
or a probe. What a call does may involve further calls, since a probe may run the
callback it is given and a recorder the one it kept, so calling is a recursion. Its
depth is limited.

## Main definitions

* `send`: a request with its arguments.
* `callOnce`: one call, given how to make the calls inside it.
* `invoke`: a call.
-/

namespace Understudy

/-! ## Requests to things -/

/-- A request to a registry. -/
def sendRegistry (call : Caller) (r : Ref .registry) :
    Method → List Value → Action (Option Value)
  | .registerFactory, [classId, description, contractId, provider] =>
    some <$> register call r classId description contractId provider
  | .unregisterFactory, [contractId, provider] =>
    some <$> nothing (unregister call r contractId provider)
  | .lookup, [contractId] => some <$> lookup call r contractId
  | .getEntry, [contractId] => some <$> getEntry call r contractId
  | .includes, [contractId] => some <$> includes call r contractId
  | .isRegistered, [contractId] => return some (.bool (← isRegistered r contractId))
  | .getService, [contractId, capability] => some <$> getService call r contractId capability
  | .captureOnce, [contractId, capability] => some <$> captureOnce call r contractId capability
  | .captured, [contractId] => some <$> captured call r contractId
  | .contractIds, [] => some <$> contractIds r
  | _, _ => return none

/-- A request to a component. -/
def sendComponent (call : Caller) (c : Ref .component) :
    Method → List Value → Action (Option Value)
  | .queryInterface, [capability] => some <$> queryInterface call c capability
  | .invalidateCaches, [] => some <$> nothing (invalidateCaches c)
  | .annotate, [key, data] => some <$> nothing (annotate call c key data)
  | .getField, [field] => some <$> getField call c field
  | .resolveField, [field] => some <$> resolveField call c field
  | _, _ => return none

/-- A request to a provider. -/
def sendProvider (call : Caller) (p : Ref .provider) :
    Method → List Value → Action (Option Value)
  | .createInstance, [outer, capability] => some <$> createInstance call p outer capability
  | .reset, [] => some <$> nothing (update p (·.withCalls (.ofInt 0)))
  | _, _ => return none

/-- A request to an installer. -/
def sendInstaller (call : Caller) (i : Ref .installer) :
    Method → List Value → Action (Option Value)
  | .installIdentity, [id, name, version, platformVersion] =>
    some <$> install call i id name version platformVersion
  | .captureOriginal, [] => some <$> captureOriginal call i
  | .restore, [] => some <$> nothing (restore call i)
  | _, _ => return none

/-- A request to a policy. -/
def sendPolicy (p : Ref .policy) : Method → List Value → Action (Option Value)
  | .setScheduler, [arm, cancel] => some <$> setScheduler p arm cancel
  | _, _ => return none

/-- A request to an injector. -/
def sendInjector (call : Caller) (i : Ref .injector) :
    Method → List Value → Action (Option Value)
  | .overrideScheduling, [arm, cancel] => some <$> overrideScheduling call i arm cancel
  | .disableTimers, [] => some <$> disableTimers call i
  | _, _ => return none

/-- A request to a timeline. -/
def sendTimeline (call : Caller) (t : Ref .timeline) :
    Method → List Value → Action (Option Value)
  | .callLater, [delay, callback] => some <$> callLater t delay callback
  | .advance, [goal] => do
    return some (← newList (← advance call t goal))
  | _, _ => return none

/-- A request to a bank of timers. -/
def sendBank (call : Caller) (b : Ref .bank) : Method → List Value → Action (Option Value)
  | .arm, [delay, callback] => some <$> armTimer call b delay callback
  | .cancel, [handle] => some <$> nothing (cancelTimer call b handle)
  | .cancelAll, [] => some <$> nothing (cancelAll call b)
  | _, _ => return none

/-- A request to a session. -/
def sendSession (call : Caller) (s : Ref .session) : Method → List Value → Action (Option Value)
  | .getPolicy, [] => return some (← fetch s).policy
  | .setUp, [] => some <$> setUp call s
  | .annotateSession, [] => some <$> nothing (annotateSession call s)
  | .requirePolicy, [] => some <$> requirePolicy call s
  | .nextDelay, [] => some <$> nextDailyDelay call s
  | .start, [] => some <$> nothing (start call s)
  | .armDaily, [] => some <$> nothing (armDaily call s)
  | .collectDaily, [] => some <$> collectDaily call s
  | .currentIdentity, [] => some <$> currentIdentity call s
  | .environment, [] => some <$> environment call s
  | .shutdown, [] => some <$> nothing (shutdown call s)
  | .dailyTimeout, [] => some <$> nothing (onDailyTimeout call s)
  | _, _ => return none

/-- A request to a recorder. -/
def sendRecorder (call : Caller) (r : Ref .recorder) :
    Method → List Value → Action (Option Value)
  | .arm, [delay, callback] => some <$> recordArm call r delay callback
  | .cancel, [handle] => some <$> nothing (recordCancel call r handle)
  | .fireLast, [] => some <$> nothing (fireLast call r)
  | .reset, [] => some <$> nothing (resetRecorder call r)
  | _, _ => return none

/-- A request to a holder. -/
def sendHolder (h : Ref .holder) : Method → List Value → Action (Option Value)
  | .getPolicy, [] => return some (← fetch h).policy
  | _, _ => return none

/-- Settings with other values for some of them. -/
def Configuration.setAll (c : Configuration) : List (Value × Value) → Configuration
  | [] => c
  | (name, v) :: rest =>
    match name.text?.bind Setting.ofWord? with
    | some s => (c.set s v).setAll rest
    | none => c.setAll rest

/-- Settings like others, with other values for some of them. Values under other names are
kept apart. -/
def duplicate (s : Ref .settings) (changes : Dict) : Action (Ref .settings) := do
  let copy ← store .settings ((← fetch s).setAll changes.toList)
  modify fun w =>
    { w with
      assigned := changes.toList.foldl
        (fun assigned (name, v) =>
          match name.text? with
          | some name =>
            if (Setting.ofWord? name).isSome then assigned
            else assigned.put (.thing copy.object, name) v
          | none => assigned)
        w.assigned }
  return copy

/-- Whether a name is among those of a selection, which a dictionary holds under values that
count, or a set. -/
def selects (w : World) (counts : Value → Bool) (selection : Value) (name : String) :
    Option Bool :=
  match w.pairsOf? selection, selection with
  | some d, _ => some ((d.get? (.ofText name)).any counts)
  | none, .set _ items => some (items.any (· == .ofText name))
  | none, _ => none

/-- What settings are told to tell of themselves: those of a selection, without those of
another one, those that were not given, those that are as they would be, and those that
are absent. -/
structure Selection where
  wanted : Value
  unwanted : Value
  given : Value
  changed : Value
  present : Value

/-- The fault of something that selects no names. -/
def noSelection (name : String) : Fault :=
  .operationArguments ("`" ++ name ++ "` argument must be a set or dict.")

/-- The settings that a selection tells of. -/
def Selection.apply (selection : Selection) (w : World) (c : Configuration) :
    Except Fault (List (String × Value)) := do
  let chosen := Setting.all.map fun s => (s, c.get s)
  if !selection.unwanted.isNone && (selects w (fun _ => true) selection.unwanted "").isNone then
    throw (noSelection "exclude")
  if !selection.wanted.isNone && (selects w (fun _ => true) selection.wanted "").isNone then
    throw (noSelection "include")
  let kept := chosen.filter fun (s, v) =>
    (selects w (fun _ => true) selection.wanted s.word).getD true &&
      !((selects w (fun v => v matches .bool true) selection.unwanted s.word).getD false) &&
      !(w.truthy selection.given && !c.given.contains s) &&
      !(w.truthy selection.changed && w.matched v (({} : Settings).get s)) &&
      !(w.truthy selection.present && v.isNone)
  return kept.map fun (s, v) => (s.word, v)

/-- A request to settings: for what they hold, or for others like them. -/
def sendSettings (s : Ref .settings) : Method → List Value → Action (Option Value)
  | .dump, _ :: wanted :: unwanted :: given :: changed :: present :: _ => do
    let selection : Selection := ⟨wanted, unwanted, given, changed, present⟩
    let pairs ← orFail (selection.apply (← get) (← fetch s))
    return some (← newDict ⟨pairs.map fun (name, v) => (.ofText name, v)⟩)
  | .dumpText, indent :: ascii :: wanted :: unwanted :: given :: changed :: present :: _ => do
    let selection : Selection := ⟨wanted, unwanted, given, changed, present⟩
    let pairs ← orFail (selection.apply (← get) (← fetch s))
    let members ← settingMembers pairs
    let text := Json.compact ((← get).truthy ascii) (indent.whole?.map Int.toNat) members
    return some (← renew (.ofText text))
  | .duplicate, [changes, _] => do
    let changes := ((← get).pairsOf? changes).getD .empty
    return some (.ofRef (← duplicate s changes))
  | _, _ => return none
where
  /-- Settings as members of an object. -/
  settingMembers : List (String × Value) → Action (List (String × Json))
    | [] => return []
    | (name, v) :: rest => do return (name, ← answerJson v) :: (← settingMembers rest)

/-- A request to a context. -/
def sendContext (call : Caller) (c : Ref .context) : Method → List Value → Action (Option Value)
  | .installIdentity, [id, name, version, platformVersion] =>
    some <$> installIn call c id name version platformVersion
  | .overrideScheduling, [arm, cancel] => some <$> overrideIn call c arm cancel
  | .shutdown, [] => some <$> nothing (shutdownContext call c)
  | _, _ => return none

/-- A request with its arguments in the order of its parameters, by the kind of thing
it is put to. What a thing does not take is as good as not there. -/
def send (call : Caller) (o : Object) (m : Method) (args : List Value) : Action Value := do
  let answer ← match o with
    | ⟨.registry, i⟩ => sendRegistry call ⟨i⟩ m args
    | ⟨.component, i⟩ => sendComponent call ⟨i⟩ m args
    | ⟨.provider, i⟩ => sendProvider call ⟨i⟩ m args
    | ⟨.installer, i⟩ => sendInstaller call ⟨i⟩ m args
    | ⟨.policy, i⟩ => sendPolicy ⟨i⟩ m args
    | ⟨.injector, i⟩ => sendInjector call ⟨i⟩ m args
    | ⟨.timeline, i⟩ => sendTimeline call ⟨i⟩ m args
    | ⟨.bank, i⟩ => sendBank call ⟨i⟩ m args
    | ⟨.session, i⟩ => sendSession call ⟨i⟩ m args
    | ⟨.recorder, i⟩ => sendRecorder call ⟨i⟩ m args
    | ⟨.holder, i⟩ => sendHolder ⟨i⟩ m args
    | ⟨.settings, i⟩ => sendSettings ⟨i⟩ m args
    | ⟨.context, i⟩ => sendContext call ⟨i⟩ m args
    | ⟨.probe, _⟩ => pure none
  match answer with
  | some v => return v
  | none => throw (.noAttribute ((← get).title o) m.word)

/-! ## Functions -/

/-- The signature of a function, requests included. -/
def Function.signature (w : World) : Function → Signature
  | .idleArm => ⟨"noop_arm", none, required ["delay_seconds", "callback"], []⟩
  | .idleCancel => ⟨"noop_cancel", none, required ["handle"], []⟩
  | .clock | .callback _ | .wallClock => ⟨"<lambda>", none, [], []⟩
  | .method o m => w.signature o m
  | .cancelTimer _ _ => ⟨"Handle.cancel", some thingName, [], []⟩
  | .hostOfSettings =>
    ⟨"HostAppInfo.from_settings", some typeArgument, required ["settings"], []⟩

/-- The signature of an expiry. -/
def expirySignature : Signature := ⟨"AsyncioTimerScheduler.arm.<locals>._fire", none, [], []⟩

/-- What a function does with arguments that fit. -/
def callFunction (call : Caller) (f : Function) (args : List Value) : Action Value := do
  match f with
  | .idleArm | .idleCancel => return .none
  | .clock | .wallClock =>
    let w ← get
    return .moment w.clockSerial w.clock
  | .callback name =>
    modify fun w => { w with fired := w.fired ++ [name] }
    return .none
  | .method o m => send call o m args
  | .cancelTimer t seq => nothing (cancelOn t seq)
  | .hostOfSettings =>
    match args with
    | [settings] => return .ofRef (← newHost call settings)
    | _ => return .none

/-! ## Calls -/

/-- One call, given how to make the calls inside it. -/
def callOnce (call : Caller) (v : Value) (args : List Value) (named : List (String × Value)) :
    Action Value := do
  match v with
  | .function _ f =>
    let bound ← orFail ((f.signature (← get)).bind args named)
    callFunction call f bound
  | .operation _ owner op => operate call owner op args named
  | .expiry bank serial callback =>
    let _ ← orFail (expirySignature.bind args named)
    nothing (expire call bank serial callback)
  | .object ⟨.probe, i⟩ =>
    match named with
    | (name, _) :: _ =>
      throw (if name = thingName then .repeatedArgument "Hook.__call__" name
        else .unexpectedArgument "Hook.__call__" name)
    | [] => callProbe call ⟨i⟩ args
  | other => throw (.notCallable ((← get).fullTypeName other))

/-- Calls within calls, down to a depth. -/
def invokeWithin : Nat → Caller
  | 0, _, _ => throw .tooDeep
  | depth + 1, v, args => callOnce (invokeWithin depth) v args []

/-- A call. -/
def invoke : Caller := invokeWithin depthLimit

end Understudy

import Understudy.Contents
import Understudy.Value.Offer
import Understudy.Value.Text

/-!
# Attributes

Everything can be asked for what it holds under a name. A thing holds what its kind
provides for and whatever was assigned to it, and it takes requests; a plain value
holds a few things of its own. An overlay answers the fields it overrides and a few
names of its own, and hands every other name on to what it was put over; so the answer
comes from the outermost layer that has one, or from the bottom.

An overlay is always younger than what it was put over, so going down ends.

## Main definitions

* `World.title`, `Value.typeName`: what kinds of things and values are called.
* `Found`: what a look finds.
* `World.look`: what a value holds under a name, through all layers.
-/

namespace Understudy

/-! ## Names of things -/

/-- The requests a component takes. -/
def Component.methods : Component → List Method
  | .host _ _ | .sample _ _ => [.queryInterface, .invalidateCaches]
  | .overlay _ => [.queryInterface, .invalidateCaches, .annotate, .getField, .resolveField]
  | .plain _ _ => [.queryInterface]
  | .reporter _ _ _ _ => [.queryInterface, .annotate]

/-- The requests a provider takes. -/
def Provider.methods : Provider → List Method
  | .counted _ _ => [.createInstance, .reset]
  | _ => [.createInstance]

/-- The name under which a policy keeps its pair of hooks. -/
def hooksName : String := "_hooks"

/-- The name under which a thing keeps what guards it against others. -/
def lockName : String := "_lock"

/-- The name under which a timer tells whether it was cancelled. -/
def cancelledName : String := "cancelled"

/-- Whether a function is asked of something, be it a thing, a timer or a type. -/
def Function.bound : Function → Bool
  | .method _ _ | .cancelTimer _ _ | .hostOfSettings => true
  | .idleArm | .idleCancel | .clock | .wallClock | .callback _ => false

namespace World

/-- The requests a thing takes. -/
def methods (w : World) (o : Object) : List Method :=
  match o.kind with
  | .registry =>
    [.registerFactory, .unregisterFactory, .includes, .lookup, .getEntry, .isRegistered,
      .getService, .captureOnce, .captured, .contractIds]
  | .component => (w.components.get o.index).methods
  | .provider => (w.providers.get o.index).methods
  | .installer => [.installIdentity, .captureOriginal, .restore]
  | .policy => [.setScheduler]
  | .injector => [.overrideScheduling, .disableTimers]
  | .timeline => [.callLater, .advance]
  | .bank => [.arm, .cancel, .cancelAll]
  | .session =>
    [.getPolicy, .setUp, .annotateSession, .requirePolicy, .nextDelay, .start, .armDaily,
      .collectDaily, .currentIdentity, .environment, .shutdown, .dailyTimeout]
  | .recorder => [.arm, .cancel, .fireLast, .reset]
  | .holder => [.getPolicy]
  | .context => [.installIdentity, .overrideScheduling, .shutdown]
  | .settings => [.dump, .dumpText, .duplicate]
  | .probe => []

/-- The name of a thing's type. -/
def title (w : World) (o : Object) : String :=
  match o.kind with
  | .registry => "ServiceRegistry"
  | .component => (w.components.get o.index).title
  | .provider => (w.providers.get o.index).title
  | .installer => "IdentityOverrideRegistry"
  | .policy => "SchedulingPolicy"
  | .injector => "SchedulerHookInjector"
  | .timeline => "Loop"
  | .bank => "AsyncioTimerScheduler"
  | .session => "DailySession"
  | .recorder => "CountingScheduler"
  | .probe => "Hook"
  | .holder => "FakePolicyOwner"
  | .settings => "Settings"
  | .context => "ShimContext"

/-- The name of a value's type. -/
def typeName (w : World) : Value → String
  | .none => "NoneType"
  | .bool _ => "bool"
  | .int _ _ => "int"
  | .float _ _ => "float"
  | .text _ _ => "str"
  | .list _ => "list"
  | .tuple _ _ => "tuple"
  | .dict _ => "dict"
  | .view _ => "mappingproxy"
  | .capability _ => "Capability"
  | .field _ => "IdentityField"
  | .aspect _ .keys _ => "dict_keys"
  | .aspect _ .values _ => "dict_values"
  | .aspect _ .items _ => "dict_items"
  | .set _ _ => "frozenset"
  | .moment _ _ => "datetime"
  | .object o => w.title o
  | .handle _ _ => "Handle"
  | .function _ .wallClock => "builtin_function_or_method"
  | .function _ f => if f.bound then "method" else "function"
  | .expiry _ _ _ => "function"
  | .operation _ owner op =>
    if op.wraps owner then "method-wrapper" else "builtin_function_or_method"
  | .record kind _ _ => kind.title
  | .typeNamed _ genus => genus
  | .thing type _ => type

/-- The name of a value's type as messages about what values do not do have it, which
say where the type comes from if it is no common one. -/
def fullTypeName (w : World) : Value → String
  | .moment _ _ => "datetime.datetime"
  | .thing "lock" _ => "_thread.lock"
  | .thing "RLock" _ => "_thread.RLock"
  | v => w.typeName v

/-- The name of a value's type as messages about what is not found in a value have it. A
request that is not answered yet passes the question on to its function. -/
def holderName (w : World) : Value → String
  | .function _ .wallClock => "builtin_function_or_method"
  | .function _ _ => "function"
  | v => w.fullTypeName v

/-! ## What things hold -/

/-- What a look finds. -/
inductive Found where
  /-- What is held. -/
  | held (v : Value)
  /-- What is made anew for each look. -/
  | made (v : Value)
  /-- The service that an installer's contract was captured with, which its registry has
  to be asked for. -/
  | captured (i : Ref .installer)

/-- The pair of hooks of a policy, or whatever was put in its place. -/
def hooksOf (w : World) (p : Ref .policy) : Value :=
  (w.assigned? p.object hooksName).getD (w.row p).toValue

/-- The number of items of a value, if it is known to have any. -/
def length? (w : World) : Value → Option Nat
  | .text _ s => some s.length
  | .field f => some f.word.length
  | .list l => some (w.items l).length
  | .tuple _ items => some items.length
  | .set _ items => some items.length
  | .aspect _ _ source => (w.pairsOf? source).map fun d => d.toList.length
  | v => (w.pairsOf? v).map fun d => d.toList.length

end World

/-- A lock, which looks different every time. -/
def lockOf (type : String) : Value := .thing type ("<" ++ type ++ " object>")

/-- What a registry holds under a name. -/
def Registry.held? (r : Ref .registry) (name : String) : Option Value :=
  match name with
  | "_entries" => some (.dict (.entries r))
  | "_originals" => some (.dict (.captures r))
  | "_lock" => some (lockOf "RLock")
  | _ => none

/-- What a provider holds under a name. -/
def Provider.held? (p : Provider) (name : String) : Option Value :=
  match p, name with
  | .host v, "app_info" => some v
  | .overlay v, "identity" => some v
  | .counted v _, "identity" => some v
  | .counted _ calls, "create_call_count" => some calls
  | .flaky v _ _, "component" => some v
  | .flaky _ calls _, "calls" => some calls
  | .flaky _ _ failures, "fail_first" => some failures
  | _, _ => none

/-- What an installer holds under a name. -/
def Installer.held? (i : Installer) (name : String) : Option Value :=
  match name with
  | "registry" => some i.registry
  | "contract_id" => some i.contractId
  | "class_id" => some i.classId
  | "current" | "_current" => some i.current
  | "_lock" => some (lockOf "lock")
  | _ => none

/-- What a session holds under a name. -/
def Session.held? (s : Session) (r : Ref .session) (name : String) : Option Value :=
  match name with
  | "registry" => some s.registry
  | "timers" => some s.timers
  | "daily_interval_seconds" => some s.interval
  | "clock" => some s.clock
  | "session_id" => some s.sessionId
  | "collections" => some (.list (.collections r))
  | "running" => some s.running
  | "subsystem_name" => some (.ofText "DailySession")
  | "_policy" => some s.policy
  | "_daily_handle" => some s.handle
  | _ => none

/-- What a recorder holds under a name, the numbers of its calls apart. -/
def Recorder.held? (c : Recorder) (r : Ref .recorder) (name : String) : Option Value :=
  match name with
  | "arm_calls" => some (.list (.arms r))
  | "cancel_calls" => some (.list (.cancels r))
  | "_next_handle" => some c.lastHandle
  | _ => none

/-- What a probe holds under a name. -/
def Probe.held? (p : Probe) (r : Ref .probe) (name : String) : Option Value :=
  match name with
  | "name" => some p.name
  | "budget" => some p.budget
  | "fail" => some p.fails
  | "handle" => some p.handle
  | "calls" => some (.list (.calls r))
  | _ => none

/-- What a context holds under a name. -/
def Context.held? (c : Context) (name : String) : Option Value :=
  match name with
  | "settings" => some c.settings
  | "registry" => some c.registry
  | "host_app_info" => some c.hostAppInfo
  | "identities" => some c.identities
  | "session" => some c.session
  | "hooks" => some c.hooks
  | "platform" => some c.platform
  | _ => none

/-! Below the layers, an identity answers its fields, and keeps the answer under a second
name of its own as well. -/

namespace Facts

/-- The field whose answer is kept under a name of its own, which is the field's word
between two affixes. -/
def ownField? (front back name : String) : Option Field :=
  Field.all.find? fun f => front ++ f.word ++ back == name

/-- The answer kept under a name. -/
def answer? (facts : Facts) (front back name : String) : Option Value :=
  match Field.ofWord? name with
  | some f => some (facts.answer f)
  | none => ((ownField? front back name).map facts.answer).or (facts.attributes.get? name)

end Facts

/-- What a component that is no overlay holds under a name. -/
def Component.held? (c : Component) (r : Ref .component) (name : String) : Option Value :=
  match c with
  | .host facts invalidated =>
    if name = "invalidate_requested" then some invalidated else facts.answer? "_" "" name
  | .sample facts count =>
    if name = "invalidate_call_count" then some count else facts.answer? "" "_value" name
  | .overlay _ | .plain _ _ => none
  | .reporter _ _ _ fails =>
    if name = "notes" then some (.dict (.notes r))
    else if name = "fail" then some fails
    else none

/-- The capabilities of a component as a value. -/
def Component.capabilitiesValue (c : Component) : Value :=
  .set c.capabilitiesSerial c.capabilities

namespace World

/-- The number of the items that a thing holds under a name. -/
def countOf (w : World) (o : Object) (name : String) (held : Value) : Except Fault Found :=
  let v := (w.assigned? o name).getD held
  match w.length? v with
  | some n => .ok (.held (.ofInt n))
  | none => .error (.noLength (w.fullTypeName v))

/-- What a thing holds under a name by its kind, layers and requests apart. -/
def held? (w : World) (o : Object) (name : String) : Option Value :=
  match o with
  | ⟨.registry, i⟩ => Registry.held? ⟨i⟩ name
  | ⟨.component, i⟩ => (w.components.get i).held? ⟨i⟩ name
  | ⟨.provider, i⟩ => (w.providers.get i).held? name
  | ⟨.installer, i⟩ => (w.installers.get i).held? name
  | ⟨.policy, i⟩ =>
    match name with
    | "hooks" | "_hooks" => some (w.hooksOf ⟨i⟩)
    | "_lock" => some (lockOf "lock")
    | _ => none
  | ⟨.injector, i⟩ => if name = "owner" then some (w.injectors.get i).owner else none
  | ⟨.timeline, i⟩ => if name = "now" then some (.ofFloat (w.timelines.get i).now) else none
  | ⟨.bank, i⟩ =>
    match name with
    | "active_count" => some (.ofInt (w.banks.get i).active.length)
    | "_loop" => some (w.banks.get i).timeline
    | "_active" => some (.thing "set" "<set object>")
    | _ => none
  | ⟨.session, i⟩ => (w.sessions.get i).held? ⟨i⟩ name
  | ⟨.recorder, i⟩ => (w.recorders.get i).held? ⟨i⟩ name
  | ⟨.probe, i⟩ => (w.probes.get i).held? ⟨i⟩ name
  | ⟨.holder, i⟩ =>
    match name with
    | "policy" => some (w.holders.get i).policy
    | "subsystem_name" => some (.ofText "FakeSubsystem")
    | _ => none
  | ⟨.settings, i⟩ =>
    match name with
    | "model_extra" => some .none
    | "model_fields_set" => some (.thing "set" "<set object>")
    | name => (Setting.ofWord? name).map (w.settings.get i).get
  | ⟨.context, i⟩ => (w.contexts.get i).held? name

/-- The request to the type of a thing that can be put to the thing as well. -/
def typeRequest? (w : World) (o : Object) (name : String) : Option Value :=
  match o.kind with
  | .component =>
    match w.components.get o.index with
    | .host _ _ =>
      if name = Function.hostOfSettings.word then some (.function 0 .hostOfSettings) else none
    | _ => none
  | _ => none

/-- The request that a thing takes under a name, without its arguments. -/
def request? (w : World) (o : Object) (name : String) : Option Value :=
  match (w.methods o).find? fun m => m.word == name with
  | some m => some (.method o m)
  | none => w.typeRequest? o name

/-- What a property of a thing finds that takes more than reading what the thing holds:
the first or the second hook of a policy, the capabilities of a component, the numbers of
the calls of a recorder, and the captured service of an installer. -/
def property? (w : World) (o : Object) (name : String) : Option (Except Fault Found) :=
  match o, name with
  | ⟨.component, i⟩, "capabilities" =>
    let c := w.components.get i
    some (.ok (if c.capabilitiesSerial = 0 then .made c.capabilitiesValue
      else .held c.capabilitiesValue))
  | ⟨.policy, i⟩, "set_daily_timeout" => some (hook ⟨i⟩ 0)
  | ⟨.policy, i⟩, "clear_daily_timeout" => some (hook ⟨i⟩ 1)
  | ⟨.recorder, i⟩, "arm_count" =>
    some (w.countOf o "arm_calls" (.list (.arms ⟨i⟩)))
  | ⟨.recorder, i⟩, "cancel_count" =>
    some (w.countOf o "cancel_calls" (.list (.cancels ⟨i⟩)))
  | ⟨.installer, i⟩, "original" => some (.ok (.captured ⟨i⟩))
  | _, _ => none
where
  /-- One hook of the pair. -/
  hook (p : Ref .policy) (place : Nat) : Except Fault Found :=
    let items? := match w.hooksOf p with
      | .tuple _ items => some (items, "tuple")
      | .list l => some (w.items l, "list")
      | _ => none
    match items? with
    | some (items, type) =>
      match items[place]? with
      | some v => .ok (.held v)
      | none => .error (.placeRange (type ++ " index out of range"))
    | none => .error (.notSubscriptable (w.fullTypeName (w.hooksOf p)))

/-- What a thing that is no overlay holds under a name: a property, what was assigned to
it, what it holds by its kind, or a request. -/
def lookObject (w : World) (o : Object) (name : String) : Except Fault Found :=
  match w.property? o name with
  | some found => found
  | none =>
    match (w.assigned? o name).orElse fun _ => w.held? o name with
    | some v => .ok (.held v)
    | none =>
      match w.request? o name with
      | some v => .ok (.made v)
      | none =>
        .error (if o.kind = .settings then .noSettingAttribute name
          else .noAttribute (w.title o) name)

/-! ## Types -/

/-- Where the type of a thing comes from, and the type of that type. -/
def typeOfThing (w : World) (o : Object) : Value :=
  let name := w.title o
  match o.kind with
  | .registry => .typeNamed ("hostshim.core.registry." ++ name) "type"
  | .component =>
    match w.components.get o.index with
    | .host _ _ => .typeNamed Value.hostPath "ABCMeta"
    | .overlay _ => .typeNamed ("hostshim.core.identity." ++ name) "ABCMeta"
    | .sample _ _ => .typeNamed ("hostshim.tests.fakes.identity." ++ name) "ABCMeta"
    | _ => .typeNamed name "ABCMeta"
  | .provider =>
    match w.providers.get o.index with
    | .host _ => .typeNamed ("hostshim.adapters.host.appinfo." ++ name) "ABCMeta"
    | .overlay _ => .typeNamed ("hostshim.core.identity." ++ name) "ABCMeta"
    | .counted _ _ => .typeNamed ("hostshim.tests.fakes.identity." ++ name) "ABCMeta"
    | .flaky _ _ _ => .typeNamed name "ABCMeta"
  | .installer => .typeNamed ("hostshim.core.identity." ++ name) "type"
  | .policy | .injector => .typeNamed ("hostshim.core.scheduling." ++ name) "type"
  | .bank => .typeNamed ("hostshim.adapters.scheduler.timers." ++ name) "type"
  | .session => .typeNamed ("hostshim.adapters.session.daily." ++ name) "ABCMeta"
  | .recorder => .typeNamed ("hostshim.tests.fakes.scheduling." ++ name) "type"
  | .holder => .typeNamed ("hostshim.tests.fakes.scheduling." ++ name) "ABCMeta"
  | .settings => .typeNamed ("hostshim.config." ++ name) "ModelMetaclass"
  | .context => .typeNamed ("hostshim.main." ++ name) "type"
  | .probe | .timeline => .typeNamed name "type"

/-- The type of a value. -/
def typeOf (w : World) (v : Value) : Value :=
  match v with
  | .object o => w.typeOfThing o
  | .capability _ => .typeNamed "hostshim.core.models.Capability" "EnumType"
  | .field _ => .typeNamed "hostshim.core.models.IdentityField" "EnumType"
  | .record .collection _ _ => .typeNamed "hostshim.adapters.session.daily.DailyCollection" "type"
  | .record kind _ _ => .typeNamed ("hostshim.core.models." ++ kind.title) "type"
  | v => .typeNamed (w.fullTypeName v) "type"

/-- The last component of a name in full. -/
def lastName (path : String) : String :=
  String.ofList ((path.toList.reverse.takeWhile (· != '.')).reverse)

/-- A name in full without its last component. -/
def homeName (path : String) : String :=
  String.ofList ((path.toList.reverse.dropWhile (· != '.')).drop 1).reverse

/-! ## What plain values hold -/

/-- What a date and time holds under a name. -/
def momentPart? (m : Moment) (name : String) : Option Value :=
  [("year", Value.ofInt m.date.year), ("month", .ofInt m.date.month), ("day", .ofInt m.date.day),
    ("hour", .ofInt m.hour), ("minute", .ofInt m.minute), ("second", .ofInt m.second),
    ("microsecond", .ofInt m.microsecond), ("fold", .ofInt 0), ("tzinfo", .none)].lookup name

/-- What a member of a closed list holds under a name: its own name and word, and the other
members. -/
def memberPart? (label word : String) (others : List (String × Value)) (name : String) :
    Option Value :=
  ([("name", Value.ofText label), ("value", .ofText word), ("_name_", .ofText label),
    ("_value_", .ofText word)] ++ others).lookup name

/-- Where a function comes from. -/
def functionHome : Function → String
  | .idleArm | .idleCancel => "hostshim.core.scheduling"
  | .hostOfSettings => homeName (homeName Value.hostPath)
  | _ => "__main__"

/-- What a function holds under a name. -/
def functionPart? (v : Value) (name whole home : String) (owner? : Option Value)
    (asked : String) : Option Value :=
  ([("__name__", Value.ofText name), ("__qualname__", .ofText whole), ("__call__", v),
      ("__module__", .ofText home)] ++
    match owner? with
    | some owner => [("__self__", owner)]
    | none => []).lookup asked

/-- Whether a timer was cancelled. -/
def cancelledAt (w : World) (t : Ref .timeline) (seq : Nat) : Bool :=
  ((w.row t : Timeline).timer? seq).any Timer.cancelled

/-- What a value that is no thing holds under a name, requests apart. -/
def leafHeld? (w : World) (v : Value) (name : String) : Option Value :=
  match v with
  | .record kind _ fields => (kind.labels.zip fields).lookup name
  | .capability c =>
    (w.assigned.get? (.capability c, name)).or
      (memberPart? c.label c.word (Capability.all.map fun c => (c.label, .capability c)) name)
  | .field f =>
    (w.assigned.get? (.field f, name)).or
      (memberPart? f.label f.word (Field.all.map fun f => (f.label, .field f)) name)
  | .handle t seq =>
    (w.assigned.get? (.timer t seq, name)).or
      ([("cancel", Value.function 0 (.cancelTimer t seq)), ("seq", .ofInt seq),
        (cancelledName, .bool (w.cancelledAt t seq))].lookup name)
  | .moment _ m => momentPart? m name
  | .function serial f =>
    let (whole, home, owner?) := match f with
      | .method o m =>
        let type := w.typeOfThing o
        (w.title o ++ "." ++ m.word,
          match type with
          | .typeNamed path _ => homeName path
          | _ => "",
          some (Value.object o))
      | .cancelTimer t seq => ("Handle.cancel", "__main__", some (Value.handle t seq))
      | .hostOfSettings =>
        ("HostAppInfo.from_settings", homeName Value.hostPath,
          some (Value.typeNamed Value.hostPath "ABCMeta"))
      | f => (f.word, functionHome f, none)
    (w.assigned.get? (.function serial f, name)).or (functionPart? v f.word whole home owner? name)
  | .expiry _ _ _ =>
    functionPart? v "_fire" "AsyncioTimerScheduler.arm.<locals>._fire"
      "hostshim.adapters.scheduler.timers" none name
  | .operation _ owner op =>
    [("__name__", Value.ofText op.word), ("__self__", owner), ("__call__", v)].lookup name
  | .typeNamed path _ =>
    [("__name__", Value.ofText (lastName path)), ("__qualname__", .ofText (lastName path)),
      ("__module__", .ofText (homeName path))].lookup name
  | .int _ _ | .bool _ =>
    let n := (v.whole?).getD 0
    [("real", Value.ofInt n), ("imag", .ofInt 0), ("numerator", .ofInt n),
      ("denominator", .ofInt 1)].lookup name
  | .float _ _ => [("real", v), ("imag", .ofFloat 0.0)].lookup name
  | _ => none

/-- What a value that is no component holds under a name. -/
def lookPlain (w : World) (v : Value) (name : String) : Except Fault Found :=
  match v with
  | .object o =>
    if o.kind = .probe ∧ name = "__call__" then .ok (.held v)
    else if name = "__class__" then .ok (.held (w.typeOf v))
    else w.lookObject o name
  | v =>
    if name = "__class__" then .ok (.held (w.typeOf v))
    else
      match w.leafHeld? v name with
      | some held => .ok (.held held)
      | none =>
        if name = Operation.digest.word ∧ v.keyless then .ok (.held .none)
        else
          match v.operations.find? fun op => op.word == name with
          | some op => .ok (.made (.operation 0 v op))
          | none => .error (.noAttribute (w.holderName v) name)

/-! ## Overlays -/

/-- Names that begin with two underscores are never handed on. -/
def reserved (name : String) : Bool := "__".toList.isPrefixOf name.toList

/-- What an overlay holds under a name of its own, fields and requests apart. -/
def overlayOwn? (layer : Overlay) (c : Ref .component) (name : String) : Option Value :=
  match name with
  | "overrides" | "_overrides" => some (.view c)
  | "fallback" | "_fallback" => some layer.fallback
  | "annotations" | "_annotations" => some (.dict (.annotations c))
  | "capabilities" | "_CAPABILITIES" => some (Component.overlay layer).capabilitiesValue
  | _ => none

/-- What a component holds under a name. An overlay hands on what it does not hold
itself. -/
def lookComponent (w : World) (i : Nat) (name : String) : Except Fault Found :=
  match w.components.get i with
  | .overlay layer =>
    match (overlayOwn? layer ⟨i⟩ name).or ((Field.ofWord? name).bind layer.overrides.get?) with
    | some v => .ok (.held v)
    | none =>
      match w.request? ⟨.component, i⟩ name with
      | some v => .ok (.made v)
      | none =>
        if reserved name then .error (.reservedName name)
        else
          match layer.fallback with
          | .object ⟨.component, j⟩ =>
            -- What an overlay is put over was there before it.
            if j < i then w.lookComponent j name
            else .error (.noAttribute (w.title ⟨.component, j⟩) name)
          | other => w.lookPlain other name
  | _ => w.lookObject ⟨.component, i⟩ name
termination_by i

/-- What a value holds under a name. -/
def look (w : World) (v : Value) (name : String) : Except Fault Found :=
  match v with
  | .object ⟨.component, i⟩ => w.lookComponent i name
  | v => w.lookPlain v name

/-- What a value holds under a name, where no registry has to be asked for it. -/
def read (w : World) (v : Value) (name : String) : Except Fault Value := do
  match ← w.look v name with
  | .held found | .made found => return found
  | .captured _ => return .none

end World

end Understudy

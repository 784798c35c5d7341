import Understudy.Assignment
import Understudy.Bootstrap
import Understudy.Operation.FiniteSet
import Understudy.Signature

/-!
# Making things by name

A scenario makes things by the name of their type, and uses a few functions by their
name. Arguments are matched with the parameters of the type before anything is made.
What a thing is made of may be of any kind; only what is taken apart when the thing is
made has to have the right form.

## Main definitions

* `Creatable`: the types that a scenario can make things of.
* `create`: a new thing.
* `Usable`: the functions that a scenario can use by name.
* `applyFunction`: the result of one.
-/

namespace Understudy

/-! ## Arguments that are taken apart -/

/-- The capabilities in an argument, which are any items that are fit for keys, each once,
and the serial number they are kept under. A set is kept as it is. -/
def readCapabilities (v : Value) : Action (Nat × List Value) := do
  match v with
  | .set (serial + 1) items => return (serial + 1, items)
  | v => return (← freshSerial, ← members v)

/-- The pairs of an argument. What is no dictionary is asked for its items. -/
def readItems (call : Caller) (v : Value) : Action (List (Value × Value)) := do
  match (← get).pairsOf? v with
  | some pairs => return pairs.toList
  | none =>
    let callee ← readAttribute call v Operation.items.word
    unpackAll (← iterate (← call callee []))
where
  /-- The pairs that values are. -/
  unpackAll : List Value → Action (List (Value × Value))
    | [] => return []
    | item :: rest => do
      let pair ← unpackPair item
      return pair :: (← unpackAll rest)

/-- What stands for attributes where none are given. -/
def noAttributes : Value := .tuple 0 []

/-- The attributes in an argument. -/
def readAttributes (call : Caller) (v : Value) : Action (List (Value × Value)) :=
  match v with
  | .tuple 0 [] => return []
  | v => readItems call v

/-- Assigns attributes to a new thing. -/
def assignAll (target : Value) : List (Value × Value) → Action Unit
  | [] => pure ()
  | (key, v) :: rest => do
    match key.text? with
    | some name => assign target name v
    | none => throw (.levelType ((← get).fullTypeName key))
    assignAll target rest

/-- The member of a closed list that a value stands for, or a fault with the value's
text. -/
def member {α : Type} (list : String) (found : Option α) (v : Value) : Action α := do
  match found with
  | some a => return a
  | none => throw (.notAMember (← quotedText v) list)

/-- The member that a value stands for. With names of members it would be a new list, and
none can be made of a closed one. -/
def lookUp {α : Type} (list : String) (found : Option α) (v names : Value) : Action α := do
  if names.isNone then member list found v
  else throw (.closedList (← quotedText v) list)

/-- The capability that a value stands for. -/
def Value.capability? : Value → Option Capability
  | .capability c => some c
  | v => v.text?.bind Capability.ofWord?

/-- The overrides of an overlay, in the order given. A key has to be a field. -/
def readOverrides (start : OrderedMap Field Value) :
    List (Value × Value) → Action (OrderedMap Field Value)
  | [] => return start
  | (k, v) :: rest => do
    let f ← member "IdentityField" k.field? k
    readOverrides (start.put f v) rest

/-! ## Types -/

/-- The types that a scenario can make things of. -/
inductive Creatable where
  | registry
  | entry
  | platform
  | collection
  | capability
  | field
  | overlay
  | overlayProvider
  | installer
  | policy
  | injector
  | host
  | hostProvider
  | bank
  | session
  | settings
  | sample
  | sampleProvider
  | recorder
  | holder
  | plain
  | reporter
  | flakyProvider
  | probe
  | timeline
  deriving Repr, DecidableEq

namespace Creatable

/-- Every type that things can be made of. -/
def all : List Creatable :=
  [.registry, .entry, .platform, .collection, .capability, .field, .overlay, .overlayProvider,
    .installer, .policy, .injector, .host, .hostProvider, .bank, .session, .settings, .sample,
    .sampleProvider, .recorder, .holder, .plain, .reporter, .flakyProvider, .probe, .timeline]

/-- The name of a type. -/
def word : Creatable → String
  | .registry => "ServiceRegistry"
  | .entry => "ServiceRegistryEntry"
  | .platform => "PlatformFlags"
  | .collection => "DailyCollection"
  | .capability => "Capability"
  | .field => "IdentityField"
  | .overlay => "RuntimeIdentity"
  | .overlayProvider => "RuntimeIdentityFactory"
  | .installer => "IdentityOverrideRegistry"
  | .policy => "SchedulingPolicy"
  | .injector => "SchedulerHookInjector"
  | .host => "HostAppInfo"
  | .hostProvider => "HostAppInfoFactory"
  | .bank => "AsyncioTimerScheduler"
  | .session => "DailySession"
  | .settings => "Settings"
  | .sample => "FakeHostIdentity"
  | .sampleProvider => "FakeIdentityFactory"
  | .recorder => "CountingScheduler"
  | .holder => "FakePolicyOwner"
  | .plain => "PlainComponent"
  | .reporter => "ReporterComponent"
  | .flakyProvider => "PlainFactory"
  | .probe => "Hook"
  | .timeline => "Loop"

/-- The type of a name. -/
def ofWord? (w : String) : Option Creatable := all.find? fun t => t.word == w

/-- The fields that are given to an identity of the machine, in order. -/
def hostFields : List Field :=
  [.vendor, .name, .id, .version, .appBuildId, .platformVersion, .platformBuildId, .inSafeMode,
    .logConsoleErrors]

/-- What a thing of a type is made of. -/
def parameters : Creatable → List Parameter
  | .registry | .recorder | .timeline | .settings => []
  | .entry => required RecordKind.entry.labels
  | .platform => required RecordKind.platform.labels
  | .collection => required RecordKind.collection.labels
  | .capability | .field => required ["value"] ++ [optional "names" .none]
  | .overlay => required ["overrides", "fallback"]
  | .overlayProvider => required ["identity"]
  | .installer =>
    required ["registry"] ++
      [optional "contract_id" (.ofText appInfoContract), optional "class_id" (.ofText appInfoClass)]
  | .policy => required ["arm", "cancel"]
  | .injector => required ["owner"]
  | .host =>
    hostFields.map fun f =>
      match f with
      | .inSafeMode | .logConsoleErrors => optional f.word (.bool false)
      | f => { name := f.word }
  | .hostProvider => required ["app_info"]
  | .bank => [optional "loop" .none]
  | .session =>
    required ["registry"] ++
      [optional "timers" .none, optional "daily_interval_seconds" .none,
        optional "clock" (.function 0 .wallClock)]
  | .sample => Field.all.map fun f => optional f.word (Component.sampleAnswer f)
  | .sampleProvider => [optional "identity" .none]
  | .holder => [optional "policy" .none]
  | .plain => required ["capabilities"] ++ [optional "attrs" noAttributes]
  | .reporter =>
    required ["capabilities"] ++ [optional "attrs" noAttributes, optional "fail" (.bool false)]
  | .flakyProvider => required ["component"] ++ [optional "fail_first" (.ofInt 0)]
  | .probe =>
    required ["name"] ++
      [optional "budget" (.ofInt 0), optional "fail" (.bool false), optional "handle" .none]

/-- The members of a closed list are looked up rather than made, and so are known by the
name of the look-up. -/
def looksUp (t : Creatable) : Bool := t == .capability || t == .field

/-- What else a look-up may be told. -/
def lookUpOptions : List Parameter :=
  ["module", "qualname", "type", "start", "boundary"].map fun name => optional name .none

/-- The signature by which things of a type are made. -/
def signature (t : Creatable) : Signature :=
  if t.looksUp then ⟨"EnumType.__call__", some typeArgument, t.parameters, lookUpOptions⟩
  else ⟨t.word ++ ".__init__", some thingName, t.parameters, []⟩

end Creatable

/-- The signature by which settings are made, as far as arguments by place go. -/
def settingsSignature : Signature :=
  ⟨"BaseSettings.__init__", some "__pydantic_self__",
    Options.names.map fun name => optional name .none, []⟩

/-- Settings of arguments. Those given by place are options. Any names are taken, and the
settings judge them themselves. -/
def settingsWith (args : List Value) (named : List (String × Value)) :
    Action (Ref .settings) := do
  let options := named.filter fun (name, _) =>
    Options.isName name || settingsSignature.receiver? = some name
  let _ ← orFail (settingsSignature.bind args options)
  newSettings (Options.names.zip args ++ named)

/-- The answers given for fields, in the order of the fields. -/
def answersGiven (fields : List Field) (args : List Value) : Field → Value :=
  fun f => ((fields.zip args).lookup f).getD .none

/-- Makes a thing and gives back a reference to it. -/
def made {kind : Kind} (action : Action (Ref kind)) : Action Value := return .ofRef (← action)

/-- A new thing of a type, of arguments in the order of the parameters. -/
def make (call : Caller) (t : Creatable) (args : List Value) : Action Value := do
  match t, args with
  | .registry, [] => made (store .registry {})
  | .entry, [classId, description, contractId, provider] =>
    return (← newEntry call classId description contractId provider).toValue
  | .platform, fields => return .record .platform (← freshSerial) fields
  | .collection, fields => return .record .collection (← freshSerial) fields
  | .capability, v :: names :: _ => return .capability (← lookUp t.word v.capability? v names)
  | .field, v :: names :: _ => return .field (← lookUp t.word v.field? v names)
  | .overlay, [overrides, fallback] =>
    let read ← readOverrides .empty (← readItems call overrides)
    made (store .component (.overlay { overrides := read, fallback := fallback }))
  | .overlayProvider, [identity] => made (store .provider (.overlay identity))
  | .installer, [registry, contractId, classId] =>
    made <| store .installer
      { registry := registry
        contractId := contractId
        classId := classId }
  | .policy, [arm, cancel] => made (newPolicy arm cancel)
  | .injector, [owner] => made (store .injector ⟨owner⟩)
  | .host, answers =>
    let machine := (← get).surroundings.machine
    let abi ← renew (.ofText machine.abiLabel)
    made (store .component (.ofMachine machine abi (answersGiven Creatable.hostFields answers)))
  | .hostProvider, [appInfo] => made (store .provider (.host appInfo))
  | .bank, [loop] => made (store .bank { timeline := loop })
  | .session, [registry, timers, interval, clock] =>
    made (newSession registry timers interval clock)
  | .sample, answers =>
    made (store .component (.sampleOf (answersGiven Field.all answers)))
  | .sampleProvider, [identity] =>
    let component ← orElse identity (made (store .component (.sampleOf Component.sampleAnswer)))
    made (store .provider (.counted component (.ofInt 0)))
  | .recorder, [] => made (store .recorder {})
  | .holder, [policy] => made (store .holder ⟨policy⟩)
  | .plain, [capabilities, attributes] =>
    let (serial, declared) ← readCapabilities capabilities
    let component ← made (store .component (.plain serial declared))
    assignAll component (← readAttributes call attributes)
    return component
  | .reporter, [capabilities, attributes, fails] =>
    let (serial, declared) ← readCapabilities capabilities
    let component ← store .component (.reporter serial declared .empty fails)
    assignAll (.ofRef component) (← readAttributes call attributes)
    -- What is its own takes the place of what was assigned under the same names.
    put component (.reporter serial declared .empty fails)
    modify fun w => w.withoutAssigned component.object "notes"
    return .ofRef component
  | .flakyProvider, [component, failures] =>
    made (store .provider (.flaky component (.ofInt 0) failures))
  | .probe, [name, budget, fails, handle] =>
    made <| store .probe
      { name := name
        budget := budget
        fails := fails
        handle := handle }
  | .timeline, [] => made (store .timeline {})
  | other, _ => throw (.unsuitable other.word "tuple")

/-- A new thing of a type. -/
def create (call : Caller) (t : Creatable) (args : List Value) (named : List (String × Value)) :
    Action Value := do
  match t with
  | .settings => made (settingsWith args named)
  | t => make call t (← orFail (t.signature.bind args named))

/-! ## Functions -/

/-- The functions that a scenario can use by name. -/
inductive Usable where
  | buildStandIn
  | detectPlatform
  | hostOfSettings
  | registerHost
  | configureLogging
  | idleArm
  | idleCancel
  deriving Repr, DecidableEq

namespace Usable

/-- Every function that can be used by name. -/
def all : List Usable :=
  [.buildStandIn, .detectPlatform, .hostOfSettings, .registerHost, .configureLogging, .idleArm,
    .idleCancel]

/-- The name of a function. -/
def word : Usable → String
  | .buildStandIn => "build_test_identity"
  | .detectPlatform => "detect_platform"
  | .hostOfSettings => "HostAppInfo.from_settings"
  | .registerHost => "register_host_app_info"
  | .configureLogging => "configure_logging"
  | .idleArm => Function.idleArm.word
  | .idleCancel => Function.idleCancel.word

/-- The function of a name. -/
def ofWord? (w : String) : Option Usable := all.find? fun f => f.word == w

/-- What a function takes. -/
def parameters : Usable → List Parameter
  | .buildStandIn => required ["id", "name", "version", "platform_version", "fallback"]
  | .detectPlatform => required ["registry"]
  | .hostOfSettings => required ["settings"]
  | .registerHost => required ["registry", "app_info"]
  | .configureLogging =>
    required ["log_level", "log_format"] ++ [optional "log_dump" (.bool true)]
  | .idleArm => required ["delay_seconds", "callback"]
  | .idleCancel => required ["handle"]

/-- The signature of a function. -/
def signature (f : Usable) : Signature :=
  ⟨f.word, if f = .hostOfSettings then some typeArgument else none, f.parameters, []⟩

end Usable

/-- What a function makes of arguments in the order of its parameters. -/
def useFunction (call : Caller) (f : Usable) (args : List Value) : Action Value := do
  match f, args with
  | .buildStandIn, [id, name, version, platformVersion, fallback] =>
    made (buildStandIn id name version platformVersion fallback)
  | .detectPlatform, [registry] => return (← detectPlatform call registry).toValue
  | .hostOfSettings, [settings] => made (newHost call settings)
  | .registerHost, [registry, appInfo] => made (registerHost call registry appInfo)
  | .configureLogging, [level, format, echo] => nothing (configureLogging level format echo)
  | .idleArm, [_, _] | .idleCancel, [_] => return .none
  | other, _ => throw (.unsuitable other.word "tuple")

/-- The result of a function used by name. -/
def applyFunction (call : Caller) (f : Usable) (args : List Value)
    (named : List (String × Value)) : Action Value := do
  useFunction call f (← orFail (f.signature.bind args named))

end Understudy

import Understudy.Operation.Order

/-!
# Looking services up

A registry is asked for the service of a contract, viewed as a capability. The entry
of the contract names a provider, the provider hands out a component, and the
component has to declare the capability. Capturing is the same look-up, made once:
from then on the captured service is given back whatever is registered.

Registries, providers and components ask one another by requests, so that each of them
can be replaced by anything that takes the same requests.

## Main definitions

* `queryInterface`, `annotate`, `getField`: what is asked of a component.
* `createInstance`: what is asked of a provider.
* `register`, `unregister`, `getService`, `captureOnce`: what is asked of a
  registry.
* `detectPlatform`: the platform, by the contracts that are registered.
-/

namespace Understudy

/-- The logger of the registry. -/
def registryLogger : String := "hostshim.core.registry"

/-! ## Components -/

/-- A component viewed as a capability, which it has to declare. -/
def queryInterface (call : Caller) (c : Ref .component) (capability : Value) : Action Value := do
  needKey capability
  if (← fetch c).capabilities.any (· == capability) then return .ofRef c
  -- What is refused is told by the name it has, if it has one.
  let label ← readAttribute call capability "name"
  throw (.noInterface (← shown label))

/-- Adds an annotation to a component that takes them. -/
def annotate (call : Caller) (c : Ref .component) (key data : Value) : Action Unit := do
  match ← fetch c with
  | .overlay layer =>
    match key.text? with
    | some _ => put c (.overlay { layer with annotations := layer.annotations.put key data })
    | none => throw (.annotationKey ((← get).typeName key))
  | .reporter _ _ _ fails =>
    if (← get).truthy fails then throw .reporterDown
    else setItem (← readAttribute call (.ofRef c) "notes") key data
  | other => throw (.noAttribute other.title Method.annotate.word)

/-- Tells a component that its caches are no longer valid. The machine's identity
notes it, the sample one counts it, and an overlay has no caches. -/
def invalidateCaches (c : Ref .component) : Action Unit := do
  match ← fetch c with
  | .host facts _ => put c (.host facts (.bool true))
  | .sample facts count => put c (.sample facts (← incremented count 1))
  | _ => pure ()

/-- The answer of a value to a field. -/
def answerOf (call : Caller) (v : Value) (f : Field) : Action Value := readAttribute call v f.word

/-- What an overlay holds for a field, or else under the name that a value spells. -/
def getField (call : Caller) (c : Ref .component) (asked : Value) : Action Value := do
  match asked.field? with
  | some f => answerOf call (.ofRef c) f
  | none =>
    -- A value without a text is refused before it is looked for.
    let _ ← quotedText asked
    readAttribute call (.ofRef c) (← shown asked)

/-- What an overlay holds for whatever has a word: its own override, or else what it
was put over holds. -/
def resolveField (call : Caller) (c : Ref .component) (asked : Value) : Action Value := do
  let word ← readAttribute call asked "value"
  needKey word
  match ((← get).overridePairs c).get? word with
  | some found => return found
  | none =>
    let layer ← readAttribute call (.ofRef c) "fallback"
    match word.text? with
    | some name => readAttribute call layer name
    | none => throw (.levelType ((← get).fullTypeName word))

/-! ## Providers -/

/-- Counts a request to a provider, if it counts. -/
def countRequest (p : Ref .provider) : Action Unit := do
  let provider ← fetch p
  match provider.calls? with
  | some calls => put p (provider.withCalls (← incremented calls 1))
  | none => pure ()

/-- Fails as long as a provider was told to fail. -/
def failAtFirst (p : Ref .provider) : Action Unit := do
  match ← fetch p with
  | .flaky _ calls failures =>
    if ← orFail ((← get).ordered "<=" calls failures) then
      throw (.providerFailed (← shown calls))
  | _ => pure ()

/-- Asks a provider for its component, viewed as a capability. A provider that counts
does so before anything can fail. Providers of identities hand out their component
itself, and the others whatever view it gave. -/
def createInstance (call : Caller) (p : Ref .provider) (outer capability : Value) :
    Action Value := do
  countRequest p
  failAtFirst p
  if !outer.isNone then throw .aggregation
  let view ← request call (← fetch p).component .queryInterface [capability] fun c =>
    queryInterface call c capability
  match ← fetch p with
  | .host component | .counted component _ => return component
  | .overlay _ | .flaky _ _ _ => return view

/-- Asks whatever an entry was registered with for its component. -/
def createFrom (call : Caller) (provider capability : Value) : Action Value :=
  request call provider .createInstance [.none, capability] fun p =>
    createInstance call p .none capability

/-! ## Entries -/

/-- Whether an id is blank. What is no text is asked to strip itself. -/
def isBlankId (call : Caller) (id : Value) : Action Bool := do
  if !(← get).truthy id then return true
  match id.text? with
  | some s => return Text.isBlankText s
  | none =>
    let callee ← readAttribute call id Operation.strip.word
    let stripped ← call callee []
    return !(← get).truthy stripped

/-- A new entry. Neither id may be blank; the contract is looked at first. -/
def newEntry (call : Caller) (classId description contractId provider : Value) :
    Action Entry := do
  if ← isBlankId call contractId then throw .blankContract
  if ← isBlankId call classId then throw .blankClass
  return ⟨← freshSerial, classId, description, contractId, provider⟩

/-! ## The registry -/

/-- The fault of asking for a contract that has no entry. -/
def noService (contractId : Value) : Action Fault := return .noService (← quotedText contractId)

/-- Registers a provider under a contract. Returns the entry that was displaced. -/
def register (call : Caller) (r : Ref .registry) (classId description contractId provider : Value) :
    Action Value := do
  let entry ← newEntry call classId description contractId provider
  let previous ← getItem call (← enterEntries r) contractId
  setItem ((← get).entriesOf r) contractId entry.toValue
  if previous.isNone then
    info registryLogger
      ("Registered " ++ (← shown description) ++ " for " ++ (← shown contractId))
  else
    let displaced ← readAttribute call previous "description"
    info registryLogger
      ("Replaced " ++ (← shown displaced) ++ " with " ++ (← shown description) ++ " for " ++
        (← shown contractId))
  return previous

/-- Removes the entry of a contract, if a provider is the one it names. -/
def unregister (call : Caller) (r : Ref .registry) (contractId provider : Value) :
    Action Unit := do
  let entry ← getItem call (← enterEntries r) contractId
  if entry.isNone then throw (← noService contractId)
  let registered ← readAttribute call entry "factory"
  if !World.indistinct registered provider then throw (← noService contractId)
  removeItem ((← get).entriesOf r) contractId
  let description ← readAttribute call entry "description"
  info registryLogger
    ("Unregistered " ++ (← shown description) ++ " for " ++ (← shown contractId))

/-- The entry of a contract. -/
def getEntry (call : Caller) (r : Ref .registry) (contractId : Value) : Action Value := do
  let entry ← getItem call (← enterEntries r) contractId
  if entry.isNone then throw (← noService contractId)
  return entry

/-- The entry of a contract, as the registry answers it. -/
def askEntry (call : Caller) (r : Ref .registry) (contractId : Value) : Action Value :=
  request call (.ofRef r) .getEntry [contractId] fun r => getEntry call r contractId

/-- The provider that a contract is served with. -/
def lookup (call : Caller) (r : Ref .registry) (contractId : Value) : Action Value := do
  readAttribute call (← askEntry call r contractId) "factory"

/-- The service of a contract, viewed as a capability. -/
def getService (call : Caller) (r : Ref .registry) (contractId capability : Value) :
    Action Value := do
  let provider ← request call (.ofRef r) .lookup [contractId] fun r => lookup call r contractId
  createFrom call provider capability

/-- The capture of a contract. The first time, the service registered at that moment
is captured; from then on nothing is asked of any provider. -/
def captureOnce (call : Caller) (r : Ref .registry) (contractId capability : Value) :
    Action Value := do
  let known ← captured call r contractId
  if !known.isNone then return known
  let entry ← askEntry call r contractId
  let provider ← readAttribute call entry "factory"
  let service ← createFrom call provider capability
  let capture : Capture := ⟨← freshSerial, entry, service⟩
  setItem ((← get).capturesOf r) contractId capture.toValue
  let description ← readAttribute call entry "description"
  debug registryLogger
    ("Captured original " ++ (← shown description) ++ " for " ++ (← shown contractId))
  return capture.toValue

/-- The registered contract ids in ascending order. -/
def contractIds (r : Ref .registry) : Action Value := do
  let ids ← iterate (← enterEntries r)
  let w ← get
  if ids.all fun id => id.text?.isSome then
    newList (ids.mergeSort Registry.contractAtMost)
  else
    match w.sorted ids with
    | (_, some fault) => throw fault
    | (arranged, none) => newList arranged

/-! ## The platform -/

/-- Contracts that only one platform registers. -/
def windowsContract : String := "@mozilla.org/windows-registry-key;1"

@[inherit_doc windowsContract]
def macContract : String := "@mozilla.org/xpcom/mac-utils;1"

@[inherit_doc windowsContract]
def androidContract : String := "@mozilla.org/android/bridge;1"

@[inherit_doc windowsContract]
def gonkContract : String := "@mozilla.org/cellbroadcast/gonkservice;1"

/-- The platform, by the contracts that are registered. -/
def detectPlatform (call : Caller) (registry : Value) : Action Platform := do
  let windows ← contains call registry (.ofText windowsContract)
  let mac ← contains call registry (.ofText macContract)
  let android ← contains call registry (.ofText androidContract)
  let gonk ← contains call registry (.ofText gonkContract)
  return ⟨← freshSerial, windows, mac, android, gonk⟩

end Understudy

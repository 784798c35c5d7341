import Understudy.Daily
import Understudy.Json
import Understudy.Settings.Options

/-!
# Setting up a test environment

Setting up reads the settings and sets up the log, makes sure that the application
has an identity, sets up a daily session and takes its timer out of action. What
comes out is a context: everything a test needs to control its environment.

The program itself sets up an environment, installs a stand-in, prints what a
session reports under it, and puts everything back.

## Main definitions

* `newSettings`, `settingsFromFile`: the settings, from direct values and from the surroundings.
* `configureLogging`: sets up the log.
* `bootstrap`: a new context.
* `installIn`, `overrideIn`, `shutdownContext`: what is asked of a context.
* `printReport`: what the program does.
-/

namespace Understudy

/-- The logger of the program itself. -/
def mainLogger : String := "hostshim.main"

/-- The logger of whatever reads files of variables. -/
def envFileLogger : String := "dotenv.main"

/-- The logger of the identity of the machine. -/
def hostLogger : String := "hostshim.adapters.host.appinfo"

/-! ## Settings -/

/-- Logs the lines on which a file of variables could not be read. -/
def warnMalformed : List Nat → Action Unit
  | [] => pure ()
  | line :: rest => do
    warn envFileLogger
      ("python-dotenv could not parse statement starting at line " ++ toString line)
    warnMalformed rest

/-- The texts of files of variables. Statements that fit no form are logged, whether the
settings are accepted or not. -/
def readEnvFiles (options : Options) : List String → Action (List String)
  | [] => return []
  | name :: rest => do
    match ← readEnvFile options name with
    | none => readEnvFiles options rest
    | some text =>
      warnMalformed (EnvFile.malformedLines text)
      return text :: (← readEnvFiles options rest)

/-- What the sources give, read as the options among the direct values ask for. -/
def readSources (direct : List (String × Value)) : Action Sources := do
  let options := direct.filter fun (name, _) => Options.isName name
  let reading ← readingOf options
  let texts ← readEnvFiles options (← envFileNames options)
  let arguments ← argumentsOf options reading
  let values ← asksForValues options
  return (← get).surroundings.sources reading arguments
    (direct.filter fun (name, _) => !Options.isName name) texts values

/-- New settings in use, from direct values and the surroundings. -/
def newSettings (direct : List (String × Value)) : Action (Ref .settings) := do
  let sources ← readSources direct
  match sources.validate with
  | .error complaints => throw (.refusedSettings complaints)
  | .ok settings => store .settings (.ofChoice (← freshSerials) sources.choice settings)
where
  /-- The first of as many serial numbers as there are settings. -/
  freshSerials : Action Nat :=
    modifyGet fun w =>
      (w.nextSerial, { w with nextSerial := w.nextSerial + Setting.all.length })

/-- New settings, with the file of variables of a name if there is one. -/
def settingsFromFile (envFile : Option String) : Action (Ref .settings) :=
  match envFile with
  | some name => newSettings (if name = "" then [] else [("_env_file", .ofText name)])
  | none => newSettings []

/-! ## The log -/

/-- The level that a value asks for. -/
def levelOf (w : World) (v : Value) : Except Fault Level :=
  match v.text? with
  | none => .error (.levelType (w.fullTypeName v))
  | some name =>
    match Level.ofName name with
    | .ok level => .ok level
    | .error (.text shown) => .error (.unknownLevel shown)
    | .error (.other shown) => .error (.notALevel shown)

/-- Sets up the log. A level that cannot be had leaves everything as it was, but the
lowest one has its name by then. -/
def configureLogging (level format echo : Value) : Action Unit := do
  modify fun w => { w with log := w.log.nameTrace }
  let w ← get
  let level ← orFail (levelOf w level)
  let layout := if format.text? = some LogFormat.json.word then LogFormat.json else .text
  set { w with log := w.log.configure level layout (w.truthy echo) }

/-! ## The identity of the machine -/

/-- Registers a value as the identity of the machine. -/
def registerHost (call : Caller) (registry host : Value) : Action (Ref .provider) := do
  let provider ← store .provider (.host host)
  askToRegister call registry (.ofText appInfoClass) (.ofText "HostAppInfo")
    (.ofText appInfoContract) (.ofRef provider)
  let id ← shown (← answerOf call host .id)
  let version ← shown (← answerOf call host .version)
  let os ← shown (← answerOf call host .os)
  debug hostLogger ("Host identity: " ++ id ++ " " ++ version ++ " on " ++ os)
  return provider

/-- The settings that go into the identity of the machine, in the order in which they are
asked for. -/
def hostSettings : List Setting :=
  [.hostVendor, .hostName, .hostId, .hostVersion, .hostBuildId, .platformVersion,
    .platformBuildId]

/-- Asks a value for settings, one after the other. -/
def settingsOf (call : Caller) (v : Value) : List Setting → Action (List (Setting × Value))
  | [] => return []
  | s :: rest => do
    let held ← readAttribute call v s.word
    return (s, held) :: (← settingsOf call v rest)

/-- The identity of the machine by its settings, as a component of its own. The name of its
instruction set is made anew for every one. -/
def newHost (call : Caller) (settings : Value) : Action (Ref .component) := do
  let held ← settingsOf call settings hostSettings
  let machine := (← get).surroundings.machine
  let abi ← renew (.ofText machine.abiLabel)
  store .component (.ofSettings machine abi fun s => (held.lookup s).getD .none)

/-- The service that the contract of an installer was captured with. -/
def originalOf (call : Caller) (i : Ref .installer) : Action Value :=
  readAttribute call (.ofRef i) "original"

/-- The host of a registry. A registry without an identity gets the machine's own; one
that was captured from has the captured service; any other is asked. -/
def hostOf (call : Caller) (settings registry : Value) (identities : Ref .installer) :
    Action Value := do
  let contract := Value.ofText appInfoContract
  if ← contains call registry contract then
    if !(← originalOf call identities).isNone then originalOf call identities
    else
      let capability := Value.capability .runtime
      request call registry .getService [contract, capability] fun r =>
        getService call r contract capability
  else
    let host ← newHost call settings
    let _ ← registerHost call registry (.ofRef host)
    return .ofRef host

/-! ## Contexts -/

/-- A value that counts as true, or else another one. -/
def orElse (v : Value) (other : Action Value) : Action Value := do
  if (← get).truthy v then return v else other

/-- A new context. Without settings they are loaded, and without a registry there is a
new one. -/
def bootstrap (call : Caller) (settings registry : Value) : Action (Ref .context) := do
  let settings ← orElse settings (Value.ofRef <$> newSettings [])
  let level ← readAttribute call settings Setting.logLevel.word
  let format ← readAttribute call settings Setting.logFormat.word
  let echo ← readAttribute call settings Setting.logDump.word
  configureLogging level format echo
  debug mainLogger "Bootstrapping test environment..."
  let registry ← orElse registry (Value.ofRef <$> store .registry {})
  let identities ← store .installer
    { registry := registry
      contractId := .ofText appInfoContract
      classId := .ofText appInfoClass }
  let host ← hostOf call settings registry identities
  let interval ← readAttribute call settings Setting.dailyInterval.word
  let session ← newSession registry .none interval (.function 0 .clock)
  let _ ← setUp call session
  let hooks ← store .injector ⟨.ofRef session⟩
  let _ ← disableTimers call hooks
  let platform ← detectPlatform call registry
  debug mainLogger
    ("Test environment ready (platform: " ++ (← shown platform.toValue) ++ ")")
  store .context
    { settings := settings
      registry := registry
      hostAppInfo := host
      identities := .ofRef identities
      session := .ofRef session
      hooks := .ofRef hooks
      platform := platform.toValue }

/-- Installs a stand-in through the installer of a context. -/
def installIn (call : Caller) (c : Ref .context) (id name version platformVersion : Value) :
    Action Value := do
  request call (← fetch c).identities .installIdentity [id, name, version, platformVersion]
    fun i => install call i id name version platformVersion

/-- Replaces hooks through the injector of a context. -/
def overrideIn (call : Caller) (c : Ref .context) (arm cancel : Value) : Action Value := do
  request call (← fetch c).hooks .overrideScheduling [arm, cancel] fun i =>
    overrideScheduling call i arm cancel

/-- Ends the session of a context, cancels its timers, and puts the captured identity
back. -/
def shutdownContext (call : Caller) (c : Ref .context) : Action Unit := do
  let _ ← request call (← fetch c).session .shutdown [] fun s => nothing (shutdown call s)
  let timers ← readAttribute call (← fetch c).session "timers"
  let _ ← request call timers .cancelAll [] fun b => nothing (cancelAll call b)
  let _ ← request call (← fetch c).identities .restore [] fun i => nothing (restore call i)

/-! ## The program -/

/-- Prints a line. -/
def printLine (line : String) : Action Unit :=
  modify fun w => { w with log := { w.log with printed := w.log.printed ++ [line ++ "\n"] } }

/-- The answer to a field as JSON. What JSON has no form for is written as its displayed
text. -/
def answerJson (v : Value) : Action Json := do
  match v with
  | .none => return .null
  | .bool b => return .bool b
  | .int _ n => return .int n
  | .float _ x => return .float x
  | .field f => return .text f.word
  | v => return .text (← shown v)

/-- The fields of a section of a report as members of an object. -/
def Report.sectionJson (r : Report) : List (String × Field) → Action (List (String × Json))
  | [] => return []
  | (name, field) :: rest => do
    let answer ← answerJson (r.answer field)
    return (name, answer) :: (← r.sectionJson rest)

/-- Sections of a report as members of an object. -/
def Report.membersJson (r : Report) :
    List (String × List (String × Field)) → Action (List (String × Json))
  | [] => return []
  | (title, fields) :: rest => do
    let members ← r.sectionJson fields
    return (title, .object members) :: (← r.membersJson rest)

/-- A report as JSON. -/
def Report.toJson (r : Report) : Action Json := return .object (← r.membersJson sections)

/-- The session of a context. -/
def sessionOf (c : Ref .context) : Action (Ref .session) := do
  match (← fetch c).session.ref? .session with
  | some s => return s
  | none => throw (.noAttribute "ShimContext" "session")

/-- What the program does when nothing goes wrong. -/
def printReport (call : Caller) : Action Unit := do
  let context ← bootstrap call .none .none
  let _ ← installIn call context (.ofText "xpcshell@tests.mozilla.org") (.ofText "XPCShell")
    (.ofText "1") (.ofText "1.9.2")
  let report ← reportOf call (← sessionOf context)
  printLine ((← report.toJson).render 0)
  shutdownContext call context

/-- What the program does. Any fault is logged and ends it with status one. -/
def runProgram (call : Caller) : Action Unit := do
  match ← attempt (printReport call) with
  | .ok () => pure ()
  | .error fault =>
    emit 40 mainLogger ("Fatal error: " ++ fault.message) (some fault.kind)
    throw (.ended 1)

end Understudy

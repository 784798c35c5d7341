import Understudy.Creation
import Understudy.Scenario.Expression

/-!
# Scenarios

A scenario is a sequence of requests to one test environment. Every request is
answered, by a value or by a fault, together with what was logged, what was printed
and which callbacks ran meanwhile. A fault does not end the scenario. What a request
answers can be given a name, by which later requests refer to it.

## Main definitions

* `Request`: what can be asked for.
* `perform`: what a request does.
* `Answer`: what comes back.
* `answer`, `run`: the answers to one request, and to a sequence of them.
* `Step`, `Scenario.take`: a request that is told by expressions, and what comes of it.
-/

namespace Understudy

/-- What can be asked for, with targets and arguments of one type. -/
inductive Request (α : Type) where
  /-- A new thing of a type. -/
  | create (type : Creatable) (args : List α) (named : List (String × α))
  /-- A call of what a value holds under a name. -/
  | call (target : α) (name : String) (args : List α) (named : List (String × α))
  /-- What a value holds under a name. -/
  | read (target : α) (name : String)
  /-- An assignment under a name. -/
  | assign (target : α) (name : String) (v : α)
  /-- The use of a function by its name. -/
  | use (function : Usable) (args : List α) (named : List (String × α))
  /-- A new context. -/
  | bootstrap (args : List α) (named : List (String × α))
  /-- An assignment to an item of a value. -/
  | setItem (target key v : α)
  /-- Whether something has an item. -/
  | contains (target item : α)
  /-- Whether two values are equal, and whether they are the same. -/
  | compare (a b : α)
  /-- The quoted text of a value. -/
  | describe (v : α)
  /-- A run of the callback of an earlier arming. -/
  | fire (target : α) (place : Int)
  /-- A new time for the clock, told by its numbers. -/
  | setClock (numbers : List Int)
  /-- The seconds until the midnight after a time. -/
  | untilMidnight (numbers : List Int)
  /-- Records of a logger, after a look at its level. -/
  | log (logger : String) (severities : List Int) (message : String)
  /-- A handler of someone else at the top of the tree of loggers. -/
  | addForeign
  /-- The handlers at the top of the tree of loggers. -/
  | handlers
  /-- The settings from direct values. -/
  | readSettings (named : List (String × α))
  /-- The settings from a file of variables and the environment. -/
  | loadSettings (envFile : Option String)
  /-- What the program does. -/
  | program
  /-- Nothing. -/
  | look

/-! ## What a request does -/

/-- The parameters of a new context. -/
def bootstrapSignature : Signature :=
  ⟨"bootstrap_test_environment", none,
    [optional "settings" .none, optional "registry" .none], []⟩

/-- A new context of arguments. -/
def bootstrapWith (args : List Value) (named : List (String × Value)) : Action Value := do
  match ← orFail (bootstrapSignature.bind args named) with
  | [settings, registry] => made (bootstrap invoke settings registry)
  | _ => throw (.unsuitable bootstrapSignature.name "tuple")

/-- How a handler is shown: its type, and whether it belongs to this program. -/
def Handler.toValue : Handler → Action Value
  | .echo _ => newList [.ofText "StreamHandler", .bool true]
  | .foreign _ => newList [.ofText "NullHandler", .bool false]

/-- Handlers as they are shown. -/
def handlerValues : List Handler → Action (List Value)
  | [] => return []
  | h :: rest => do
    let v ← h.toValue
    return v :: (← handlerValues rest)

/-- A level as a value. -/
def Level.toValue (level : Level) : Value :=
  if level.isFlag then .bool (level.severity != 0) else .ofInt level.severity

/-- The level of a logger as it is set on it, with its name, after which records are
logged. The logger is made by being asked for. -/
def logWith (logger : String) (severities : List Int) (message : String) : Action Value := do
  let name := if Logging.isRoot logger then "root" else logger
  if name != "root" then modify fun w => { w with log := w.log.addLogger name }
  let log := (← get).log
  let own := log.ownLevel logger
  severities.forM fun severity => emit severity name message
  newList [own.toValue, .ofText (log.levelName own)]

/-- The time that numbers say. -/
def momentOf (numbers : List Int) : Action Moment :=
  match Moment.ofList numbers with
  | .ok m => return m
  | .error fault => throw (.badMoment fault)

/-- What a request does. -/
def perform : Request Value → Action Value
  | .create type args named => create invoke type args named
  | .call target name args named => do
    let callee ← readAttribute invoke target name
    callOnce invoke callee args named
  | .read target name => readAttribute invoke target name
  | .assign target name v => nothing (assign target name v)
  | .use function args named => applyFunction invoke function args named
  | .bootstrap args named => bootstrapWith args named
  | .setItem target key v => nothing (setItem target key v)
  | .contains target item => return .bool (← contains invoke target item)
  | .compare a b => do
    let w ← get
    newList [.bool (w.equal a b), .bool (World.indistinct a b)]
  | .describe v => do renew (.ofText (← quotedText v))
  | .fire target place => nothing (fireAt invoke target place)
  | .setClock numbers => do
    let now ← momentOf numbers
    let serial ← freshSerial
    modify fun w => { w with clock := now, clockSerial := serial }
    return .none
  | .untilMidnight numbers => do untilMidnight (← momentOf numbers)
  | .log logger severities message => logWith logger severities message
  | .addForeign => do
    let serial ← freshSerial
    nothing (modify fun w => { w with log := w.log.addForeign serial })
  | .handlers => do newList (← handlerValues (← get).log.handlers)
  | .readSettings named => made (newSettings named)
  | .loadSettings envFile => made (settingsFromFile envFile)
  | .program => nothing (runProgram invoke)
  | .look => return .none

/-! ## Answers -/

/-- What comes back of a request. -/
structure Answer where
  result : Except Fault Value
  journal : List (String × LogRecord)
  printed : List String
  fired : List String

/-- The state with nothing logged, printed or run yet. -/
def World.quiet (w : World) : World :=
  { w with log := { w.log with journal := [], printed := [] }, fired := [] }

/-- What comes back of an action, and the state after it. -/
def answerTo (action : Action Value) (w : World) : Answer × World :=
  let (result, w') := action.run w.quiet
  (⟨result, w'.log.journal, w'.log.printed, w'.fired⟩, w')

/-- The answer to a request, and the state after it. -/
def answer (request : Request Value) (w : World) : Answer × World := answerTo (perform request) w

/-- The answers to a sequence of requests, and the state after them. -/
def run : List (Request Value) → World → List Answer × World
  | [], w => ([], w)
  | request :: rest, w =>
    let (first, w') := answer request w
    let (others, w'') := run rest w'
    (first :: others, w'')

/-! ## Requests that are told by expressions -/

/-- A request with the values of its expressions. Arguments come before targets. -/
def Request.evaluate (names : Names) : Request Expression → Action (Request Value)
  | .create type args named => do
    let args ← Expression.evaluateAll names args
    return .create type args (← Expression.evaluateNamed names named)
  | .call target name args named => do
    let args ← Expression.evaluateAll names args
    let named ← Expression.evaluateNamed names named
    return .call (← target.evaluate names) name args named
  | .read target name => return .read (← target.evaluate names) name
  | .assign target name v => do
    let v ← v.evaluate names
    return .assign (← target.evaluate names) name v
  | .use function args named => do
    let args ← Expression.evaluateAll names args
    return .use function args (← Expression.evaluateNamed names named)
  | .bootstrap args named => do
    let args ← Expression.evaluateAll names args
    return .bootstrap args (← Expression.evaluateNamed names named)
  | .setItem target key v => do
    let key ← key.evaluate names
    let v ← v.evaluate names
    return .setItem (← target.evaluate names) key v
  | .contains target item => do
    let item ← item.evaluate names
    return .contains (← target.evaluate names) item
  | .compare a b => do
    let a ← a.evaluate names
    return .compare a (← b.evaluate names)
  | .describe v => return .describe (← v.evaluate names)
  | .fire target place => return .fire (← target.evaluate names) place
  | .setClock numbers => return .setClock numbers
  | .untilMidnight numbers => return .untilMidnight numbers
  | .log logger severities message => return .log logger severities message
  | .addForeign => return .addForeign
  | .handlers => return .handlers
  | .readSettings named => return .readSettings (← Expression.evaluateNamed names named)
  | .loadSettings envFile => return .loadSettings envFile
  | .program => return .program
  | .look => return .look

/-- A request that is told by expressions, the name that its result gets, and the thing
that is looked at afterwards. -/
structure Step where
  request : Request Expression
  name? : Option String := none
  subject? : Option Expression := none

/-- A test environment and the names given in it so far. -/
structure Scenario where
  world : World
  names : Names := .empty

namespace Scenario

/-- The names that a result gets. A new context brings names for what it consists of. -/
def namesOf (w : World) (name : String) (isContext : Bool) (v : Value) :
    List (String × Value) :=
  match isContext, v.ref? .context with
  | true, some c =>
    let context := w.row c
    let timers := match w.read context.session "timers" with
      | .ok timers => timers
      | .error _ => .none
    [(name, v), (name ++ "_registry", context.registry),
      (name ++ "_host_app_info", context.hostAppInfo),
      (name ++ "_identities", context.identities), (name ++ "_session", context.session),
      (name ++ "_hooks", context.hooks), (name ++ "_timers", timers)]
  | _, _ => [(name, v)]

/-- Whether a request is for a new context. -/
def asksForContext {α : Type} : Request α → Bool
  | .bootstrap _ _ => true
  | _ => false

/-- The names after a step. -/
def namesAfter (s : Scenario) (step : Step) (w : World) (result : Except Fault Value) : Names :=
  match result, step.name? with
  | .ok v, some name =>
    (namesOf w name (asksForContext step.request) v).foldl (fun m (k, v) => m.put k v) s.names
  | _, _ => s.names

/-- What is looked at after a step: its subject, or a new context that got a name. -/
def subjectAfter (step : Step) (names : Names) (result : Except Fault Value) :
    Action (Option Value) := do
  match asksForContext step.request, step.name?, result with
  | true, some _, .ok v => return some v
  | _, _, _ =>
    match step.subject? with
    | some e => return (← attempt (e.evaluate names)).toOption
    | none => return none

/-- One step: the answer, what is to be looked at, and what there is afterwards. Finding what
is to be looked at may itself ask a thing for it. -/
def take (s : Scenario) (step : Step) : Answer × Option Value × Scenario :=
  let action := do perform (← step.request.evaluate s.names)
  let (answer, w) := answerTo action s.world
  let names := s.namesAfter step w answer.result
  let (subject, w) := (subjectAfter step names answer.result).run w
  (answer, subject.toOption.bind id, ⟨w, names⟩)

end Scenario

end Understudy

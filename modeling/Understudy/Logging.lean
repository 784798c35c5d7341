import Understudy.Settings
import Understudy.Text.Quoted

/-!
# The log

Records carry a severity and the name of the logger that issued them. Loggers form
a tree by the dots of their names; a logger without a level of its own has that of
the next one above it that has. Everything under one name of the tree can be set up
to be echoed to the standard output, and setting it up again replaces the echo that
was there.

## Main definitions

* `LogRecord`: what is logged.
* `Handler`: where the records of the tree go, besides the journal.
* `Logging`: the levels and handlers, the journal and what was printed.
* `Logging.inTree`: the tree of loggers.
* `Logging.emit`, `Logging.configure`: logging a record and setting up the echo.
* `Level.ofName`: the level that a name asks for.

## Main statements

* `Logging.withoutEchoes_eq`: taking the echoes off leaves the handlers of others in order.
-/

namespace Understudy

/-- The logger at the top of this program's tree. -/
def programLogger : String := "hostshim"

/-- A record of the log. A record about a fault names its kind. -/
structure LogRecord where
  severity : Int
  logger : String
  message : String
  fault : Option String := none
  deriving Repr, DecidableEq

/-- Where records of the tree go besides the journal. -/
inductive Handler where
  /-- The echo to the standard output. -/
  | echo (format : LogFormat)
  /-- A handler that was put there by someone else. Its serial number tells it apart. -/
  | foreign (serial : Nat)
  deriving Repr, DecidableEq

/-- Whether a handler is an echo, which is the only kind that this program puts there. -/
def Handler.isEcho : Handler → Bool
  | .echo _ => true
  | .foreign _ => false

/-- How severe a record has to be. A level may have been set as a truth value, by which
it is still shown. -/
structure Level where
  severity : Int
  isFlag : Bool := false
  deriving Repr, DecidableEq, Inhabited

/-- The loggers of the program itself. -/
def programLoggers : List String :=
  [programLogger, "hostshim.main", "hostshim.core.registry", "hostshim.core.identity",
    "hostshim.core.scheduling", "hostshim.adapters.host.appinfo",
    "hostshim.adapters.scheduler.timers", "hostshim.adapters.session.daily"]

/-- The state of the log: the level at the top of the tree, the handlers there,
whether the lowest level has its name yet, the time that records are stamped with,
the loggers that were made, the records that were let through, and the lines that
were printed. -/
structure Logging where
  level : Level := ⟨10, false⟩
  handlers : List Handler := []
  traceNamed : Bool := false
  time : String := "1970-01-01 00:00:00,000"
  loggers : List String := programLoggers
  journal : List (String × LogRecord) := []
  printed : List String := []
  deriving Inhabited

namespace Logging

/-- The severity asked for where no logger on the way up has a level. -/
def rootLevel : Int := 30

/-! ## The tree of loggers -/

/-- The names that may stand above a name, the nearest first. Names are read from their
ends: each goes up to a dot, and the character in front of that dot is passed over when
the next dot is looked for. -/
def above : List Char → List (List Char)
  | '.' :: c :: rest => (c :: rest) :: above rest
  | _ :: rest => above rest
  | [] => []

/-- The next logger above a name, both read from their ends, among those that were made. -/
def parent? (loggers : List String) (name : List Char) : Option (List Char) :=
  (above name).find? fun candidate => loggers.contains (String.ofList candidate.reverse)

/-- Whether a name, read from its end, lies at or below the top of the tree, at most
`steps` loggers down. -/
def reaches (loggers : List String) : Nat → List Char → Bool
  | 0, _ => false
  | steps + 1, name =>
    if name == programLogger.toList.reverse then true
    else
      match parent? loggers name with
      | some next => reaches loggers steps next
      | none => false

/-- Whether a logger belongs to this program's tree. Every step up is to a shorter name. -/
def inTree (log : Logging) (name : String) : Bool :=
  reaches log.loggers (name.length + 1) name.toList.reverse

/-- Whether a name is one of the root of all loggers. -/
def isRoot (name : String) : Bool := name == "" || name == "root"

/-- Makes a logger, unless it is there already. -/
def addLogger (log : Logging) (name : String) : Logging :=
  if log.loggers.contains name then log else { log with loggers := log.loggers ++ [name] }

/-- The level set on a logger itself; zero stands for none. -/
def ownLevel (log : Logging) (name : String) : Level :=
  if name == programLogger then log.level else ⟨if isRoot name then rootLevel else 0, false⟩

/-- The severity that counts for a logger. -/
def effectiveLevel (log : Logging) (name : String) : Int :=
  if log.inTree name && log.level.severity != 0 then log.level.severity else rootLevel

/-- The name of a severity. The lowest one gets its name when the log is set up. -/
def severityName (log : Logging) (severity : Int) : String :=
  if severity = 5 ∧ log.traceNamed then "TRACE"
  else if severity = 0 then "NOTSET"
  else if severity = 10 then "DEBUG"
  else if severity = 20 then "INFO"
  else if severity = 30 then "WARNING"
  else if severity = 40 then "ERROR"
  else if severity = 50 then "CRITICAL"
  else "Level " ++ toString severity

/-- The name of a level. -/
def levelName (log : Logging) (level : Level) : String :=
  if level.isFlag then if level.severity = 0 then "NOTSET" else "Level True"
  else log.severityName level.severity

/-! ## Lines -/

/-- The line of a record, before what is said about its fault. -/
def layOut (format : LogFormat) (time levelName : String) (r : LogRecord) : String :=
  match format with
  | .json =>
    "\x7b\"time\": \"" ++ time ++ "\", \"level\": \"" ++ levelName ++
      "\", \"message\": \"" ++ r.message ++ "\"\x7d"
  | .text => time ++ " - " ++ r.logger ++ " - " ++ levelName ++ " - " ++ r.message

/-- What is printed of a record: its line, and a line for its fault. -/
def printedText (format : LogFormat) (time levelName : String) (r : LogRecord) : String :=
  let line := layOut format time levelName r
  match r.fault with
  | none => line ++ "\n"
  | some kind =>
    (if line.toList.getLast? = some '\n' then line else line ++ "\n") ++ kind ++ "\n"

/-- What the handlers of the tree print of a record. -/
def echoes (log : Logging) (r : LogRecord) : List String :=
  log.handlers.filterMap fun
    | .echo format => some (printedText format log.time (log.severityName r.severity) r)
    | .foreign _ => none

/-- Logs a record, if it is severe enough for its logger and severe at all. -/
def emit (log : Logging) (r : LogRecord) : Logging :=
  if 0 < r.severity ∧ log.effectiveLevel r.logger ≤ r.severity then
    { log with
      journal := log.journal ++ [(log.severityName r.severity, r)]
      printed := if log.inTree r.logger then log.printed ++ log.echoes r else log.printed }
  else log

/-- The messages of warnings, and of what is worse, that no handler of the tree takes. -/
def unheard (log : Logging) : List String :=
  log.journal.filterMap fun (_, r) =>
    if 30 ≤ r.severity ∧ ¬(log.inTree r.logger ∧ log.handlers ≠ []) then some r.message
    else none

/-! ## Setting up -/

/-- Gives the lowest level its name. -/
def nameTrace (log : Logging) : Logging := { log with traceNamed := true }

/-- Handlers without the echoes. Of the handlers that were there, each that is an echo is
taken off in its turn. -/
def withoutEchoes (handlers : List Handler) : List Handler :=
  handlers.foldl (fun left handler => if handler.isEcho then left.erase handler else left)
    handlers

/-- Sets the level and replaces the echo. Handlers of others stay where they are. -/
def configure (log : Logging) (level : Level) (format : LogFormat) (echo : Bool) : Logging :=
  { log with
    level := level
    traceNamed := true
    handlers := withoutEchoes log.handlers ++ if echo then [.echo format] else [] }

/-- Adds a handler of someone else. -/
def addForeign (log : Logging) (serial : Nat) : Logging :=
  { log with handlers := log.handlers ++ [.foreign serial] }

/-- What is left are the handlers of others, in their order. -/
theorem withoutEchoes_eq (handlers : List Handler) :
    withoutEchoes handlers = handlers.filter fun handler => !handler.isEcho := by
  -- While the handlers are gone through, those that were passed hold no echo any more.
  suffices h : ∀ passed rest : List Handler, (∀ handler ∈ passed, handler.isEcho = false) →
      rest.foldl (fun left handler => if handler.isEcho then left.erase handler else left)
        (passed ++ rest) = passed ++ rest.filter fun handler => !handler.isEcho from
    h [] handlers nofun
  intro passed rest
  induction rest generalizing passed with
  | nil => exact fun _ => rfl
  | cons handler rest ih =>
    intro hpassed
    rw [List.foldl_cons]
    cases hecho : handler.isEcho with
    | true =>
      have hnot : handler ∉ passed := fun hmem => by
        rw [hpassed handler hmem] at hecho
        cases hecho
      rw [if_pos rfl, List.erase_append_right _ hnot, List.erase_cons_head, ih passed hpassed,
        List.filter_cons_of_neg (by simp [hecho])]
    | false =>
      rw [if_neg Bool.false_ne_true, List.append_cons, ih (passed ++ [handler]),
        List.filter_cons_of_pos (by simp [hecho]), List.append_assoc]
      · rfl
      · intro other hmem
        rcases List.mem_append.1 hmem with hmem | hmem
        · exact hpassed other hmem
        · rwa [List.mem_singleton.1 hmem]

end Logging

/-! ## Levels by name

The log is asked for a level by a name, and whatever it holds under that name is taken
for the level. Most names that it holds are not those of levels.
-/

namespace Level

/-- What the log holds under a name. -/
inductive Held where
  | severity (n : Int)
  | flag (b : Bool)
  | text (s : String)
  | other (shown : String)
  deriving Repr, DecidableEq

/-- Why what is held under a name is no level. -/
inductive Unfit where
  /-- A text that is itself the name of no level. -/
  | text (shown : String)
  | other (shown : String)
  deriving Repr, DecidableEq

/-- The severities of the names of levels. -/
def severities : List (String × Int) :=
  [("CRITICAL", 50), ("FATAL", 50), ("ERROR", 40), ("WARNING", 30), ("WARN", 30),
    ("INFO", 20), ("DEBUG", 10), ("NOTSET", 0), ("TRACE", 5)]

/-- Switches that the log holds. All of them are on. -/
def switches : List String :=
  ["raiseExceptions", "logThreads", "logMultiprocessing", "logProcesses", "logAsyncioTasks"]

/-- Texts that the log holds. -/
def texts : List (String × String) :=
  [("BASIC_FORMAT", "%(levelname)s:%(name)s:%(message)s"), ("__name__", "logging"),
    ("__package__", "logging"), ("__status__", "production"), ("__version__", "0.5.1.2"),
    ("__date__", "07 February 2010")]

/-- The names of the log's own types. -/
def types : List String :=
  ["LogRecord", "PercentStyle", "StrFormatStyle", "StringTemplateStyle", "Formatter",
    "BufferingFormatter", "Filter", "Filterer", "Handler", "StreamHandler", "FileHandler",
    "_StderrHandler", "NullHandler", "PlaceHolder", "Manager", "Logger", "RootLogger",
    "LoggerAdapter"]

/-- How a type is shown. -/
def shownType (name : String) : String := "<class '" ++ name ++ "'>"

/-- The names that the log offers to others. -/
def offered : List String :=
  ["BASIC_FORMAT", "BufferingFormatter", "CRITICAL", "DEBUG", "ERROR", "FATAL", "FileHandler",
    "Filter", "Formatter", "Handler", "INFO", "LogRecord", "Logger", "LoggerAdapter", "NOTSET",
    "NullHandler", "StreamHandler", "WARN", "WARNING", "addLevelName", "basicConfig",
    "captureWarnings", "critical", "debug", "disable", "error", "exception", "fatal",
    "getLevelName", "getLogger", "getLoggerClass", "info", "log", "makeLogRecord",
    "setLoggerClass", "shutdown", "warn", "warning", "getLogRecordFactory",
    "setLogRecordFactory", "lastResort", "raiseExceptions", "getLevelNamesMapping"]

/-- The styles of layouts: the sign of each, its type, and the layout it starts with. -/
def styles : List (String × String × String) :=
  [("%", "logging.PercentStyle", "%(levelname)s:%(name)s:%(message)s"),
    ("\x7b", "logging.StrFormatStyle", "\x7blevelname\x7d:\x7bname\x7d:\x7bmessage\x7d"),
    ("$", "logging.StringTemplateStyle",
      "$\x7blevelname\x7d:$\x7bname\x7d:$\x7bmessage\x7d")]

/-- How the styles are shown. -/
def shownStyles : String :=
  let shown := styles.map fun (sign, type, layout) =>
    Text.quoted sign ++ ": (" ++ shownType type ++ ", " ++ Text.quoted layout ++ ")"
  "\x7b" ++ ", ".intercalate shown ++ "\x7d"

/-- Everything else that the log holds and that looks the same every time. -/
def others : List (String × String) :=
  types.map (fun name => (name, shownType ("logging." ++ name))) ++
    [("_loggerClass", shownType "logging.Logger"),
      ("_logRecordFactory", shownType "logging.LogRecord"),
      ("GenericAlias", shownType "types.GenericAlias"),
      ("Template", shownType "string.Template"),
      ("StrFormatter", shownType "string.Formatter"),
      ("root", "<RootLogger root (WARNING)>"),
      ("lastResort", "<_StderrHandler <stderr> (WARNING)>"),
      ("_defaultLastResort", "<_StderrHandler <stderr> (WARNING)>"),
      ("_warnings_showwarning", "None"),
      ("os", "<module 'os' (frozen)>"),
      ("io", "<module 'io' (frozen)>"),
      ("sys", "<module 'sys' (built-in)>"),
      ("time", "<module 'time' (built-in)>"),
      ("atexit", "<module 'atexit' (built-in)>"),
      ("_STYLES", shownStyles),
      ("__all__", "[" ++ ", ".intercalate (offered.map Text.quoted) ++ "]"),
      ("_levelToName",
        "\x7b50: 'CRITICAL', 40: 'ERROR', 30: 'WARNING', 20: 'INFO', 10: 'DEBUG', " ++
          "0: 'NOTSET', 5: 'TRACE'\x7d"),
      ("_nameToLevel",
        "\x7b'CRITICAL': 50, 'FATAL': 50, 'ERROR': 40, 'WARN': 30, 'WARNING': 30, " ++
          "'INFO': 20, 'DEBUG': 10, 'NOTSET': 0, 'TRACE': 5\x7d")]

/-- What the log holds under a name. A name it does not hold asks for what is
informative. -/
def held (name : String) : Held :=
  match severities.lookup name with
  | some n => .severity n
  | none =>
    if switches.contains name then .flag true
    else
      match texts.lookup name, others.lookup name with
      | some s, _ => .text s
      | none, some shown => .other shown
      | none, none => .severity 20

/-- The level that a name asks for. -/
def ofName (name : String) : Except Unfit Level :=
  match held name with
  | .severity n => .ok ⟨n, false⟩
  | .flag b => .ok ⟨if b then 1 else 0, true⟩
  | .text s => .error (.text (Text.quoted s))
  | .other shown => .error (.other shown)

/-- A level that settings admit asks for its own severity. -/
theorem ofName_word (l : LogLevel) : ofName l.word = .ok ⟨l.severity, false⟩ := by
  cases l <;> rfl

end Level

end Understudy

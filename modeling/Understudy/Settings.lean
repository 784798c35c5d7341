import Understudy.Decimal.Read
import Understudy.Value.Number

/-!
# Settings and their validation

Eleven settings describe the host and how its log is written. Each is chosen by a
value of any type, or left at its default. Every chosen value is judged on its own,
and one that is refused gives exactly one complaint; the complaints stand in the
order of the settings, followed by one for each name that is no setting.

## Main definitions

* `Setting`: the names of the settings.
* `Settings`: a complete choice.
* `Configuration`: the values that settings hold once they can be changed.
* `Settings.validate`: from chosen values to settings, or to complaints.

## Main statements

* `Settings.validate_eq_ok_iff`: a choice is accepted exactly when no setting
  objects to its value and no name is unknown.
-/

namespace Understudy

/-- The settings, in the order in which they are declared and judged. -/
inductive Setting where
  | logLevel
  | logFormat
  | logDump
  | hostVendor
  | hostName
  | hostId
  | hostVersion
  | hostBuildId
  | platformVersion
  | platformBuildId
  | dailyInterval
  deriving Repr, DecidableEq

namespace Setting

/-- Every setting, in order. -/
def all : List Setting :=
  [.logLevel, .logFormat, .logDump, .hostVendor, .hostName, .hostId, .hostVersion,
    .hostBuildId, .platformVersion, .platformBuildId, .dailyInterval]

/-- The name of a setting. -/
def word : Setting → String
  | .logLevel => "log_level"
  | .logFormat => "log_format"
  | .logDump => "log_dump"
  | .hostVendor => "host_vendor"
  | .hostName => "host_name"
  | .hostId => "host_id"
  | .hostVersion => "host_version"
  | .hostBuildId => "host_build_id"
  | .platformVersion => "platform_version"
  | .platformBuildId => "platform_build_id"
  | .dailyInterval => "daily_interval_seconds"

/-- The setting of a name. -/
def ofWord? (w : String) : Option Setting := all.find? fun s => s.word == w

end Setting

/-- How much is logged. -/
inductive LogLevel where
  | trace
  | debug
  | info
  | warning
  | error
  | critical
  deriving Repr, DecidableEq

namespace LogLevel

/-- Every level, from the most to the least talkative. -/
def all : List LogLevel := [.trace, .debug, .info, .warning, .error, .critical]

/-- The name of a level. -/
def word : LogLevel → String
  | .trace => "TRACE"
  | .debug => "DEBUG"
  | .info => "INFO"
  | .warning => "WARNING"
  | .error => "ERROR"
  | .critical => "CRITICAL"

/-- The severity of a level; a record is written if it is at least as severe as its
logger asks for. -/
def severity : LogLevel → Int
  | .trace => 5
  | .debug => 10
  | .info => 20
  | .warning => 30
  | .error => 40
  | .critical => 50

/-- The level of a name. -/
def ofWord? (w : String) : Option LogLevel := all.find? fun l => l.word == w

end LogLevel

/-- How a line of the log is laid out. -/
inductive LogFormat where
  | json
  | text
  deriving Repr, DecidableEq

namespace LogFormat

/-- The name of a layout. -/
def word : LogFormat → String
  | .json => "json"
  | .text => "text"

/-- The layout of a name. -/
def ofWord? (w : String) : Option LogFormat := [LogFormat.json, .text].find? fun f => f.word == w

end LogFormat

/-- A complete choice. -/
structure Settings where
  logLevel : LogLevel := .trace
  logFormat : LogFormat := .text
  logDump : Bool := true
  hostVendor : String := "Mozilla"
  hostName : String := "xpcshell"
  hostId : String := "xpcshell@tests.mozilla.org"
  hostVersion : String := "1"
  hostBuildId : String := "20000101000000"
  platformVersion : String := "1"
  platformBuildId : String := "20000101000000"
  dailyInterval : Option Float := none
  deriving Inhabited

/-! ## Judging one value -/

/-- Why a value is refused. -/
inductive Reason where
  | notALevel
  | notAFormat
  | unreadableSwitch
  | notASwitch
  | notAText
  | blank
  | unreadableNumber
  | notANumber
  | notPositive
  | unknownName
  deriving Repr, DecidableEq

namespace Reason

/-- The code of a reason. -/
def code : Reason → String
  | .notALevel => "literal_error"
  | .notAFormat => "literal_error"
  | .unreadableSwitch => "bool_parsing"
  | .notASwitch => "bool_type"
  | .notAText => "string_type"
  | .blank => "value_error"
  | .unreadableNumber => "float_parsing"
  | .notANumber => "float_type"
  | .notPositive => "value_error"
  | .unknownName => "extra_forbidden"

/-- The wording of a reason. -/
def message : Reason → String
  | .notALevel =>
    "Input should be 'TRACE', 'DEBUG', 'INFO', 'WARNING', 'ERROR' or 'CRITICAL'"
  | .notAFormat => "Input should be 'json' or 'text'"
  | .unreadableSwitch => "Input should be a valid boolean, unable to interpret input"
  | .notASwitch => "Input should be a valid boolean"
  | .notAText => "Input should be a valid string"
  | .blank => "Value error, identity fields must be non-empty"
  | .unreadableNumber =>
    "Input should be a valid number, unable to parse string as a number"
  | .notANumber => "Input should be a valid number"
  | .notPositive => "Value error, daily_interval_seconds must be positive"
  | .unknownName => "Extra inputs are not permitted"

end Reason

/-- A refused value: which name it was given under, and why it is refused. -/
structure Complaint where
  place : String
  reason : Reason
  deriving Repr, DecidableEq

namespace Settings

/-- Words for true and false. They are read in any case, but not with blanks around
them. -/
def switchWords : List (String × Bool) :=
  [("0", false), ("off", false), ("f", false), ("false", false), ("n", false),
    ("no", false), ("1", true), ("on", true), ("t", true), ("true", true), ("y", true),
    ("yes", true)]

/-- A level is given by its exact name. -/
def readLevel (v : Value) : Except Reason LogLevel :=
  match v.text?.bind LogLevel.ofWord? with
  | some level => .ok level
  | none => .error .notALevel

/-- A layout is given by its exact name. -/
def readFormat (v : Value) : Except Reason LogFormat :=
  match v.text?.bind LogFormat.ofWord? with
  | some format => .ok format
  | none => .error .notAFormat

/-- The whole numbers of 64 bits. -/
def isWord (n : Int) : Bool := -Int.ofNat (Nat.pow 2 63) ≤ n && n < Int.ofNat (Nat.pow 2 63)

/-- The whole number a float stands for, if it stands for one. -/
def wholeOf? (x : Float) : Option Int :=
  match Decimal.Parts.ofFloat x with
  | .finite negative significand exponent =>
    let size := significand * Nat.pow 2 exponent.toNat
    let unit := Nat.pow 2 (-exponent).toNat
    if size % unit = 0 then
      some (if negative then -Int.ofNat (size / unit) else Int.ofNat (size / unit))
    else none
  | _ => none

/-- A switch is given by a truth value, by a one or a zero, or by a word. Any other
whole number of 64 bits cannot be read as one. -/
def readSwitch (v : Value) : Except Reason Bool :=
  match v with
  | .bool b => .ok b
  | .int _ n =>
    if n = 0 then .ok false
    else if n = 1 then .ok true
    else if isWord n then .error .unreadableSwitch
    else .error .notASwitch
  | .float _ x =>
    match wholeOf? x with
    | some n =>
      if n = 0 then .ok false
      else if n = 1 then .ok true
      -- As a float, the least of those numbers stands for what lies beyond as well.
      else if isWord n ∧ isWord (n - 1) then .error .unreadableSwitch
      else .error .notASwitch
    | none => .error .notASwitch
  | v =>
    match v.text? with
    | some s =>
      match switchWords.lookup (s.map Char.toLower) with
      | some b => .ok b
      | none => .error .unreadableSwitch
    | none => .error .notASwitch

/-- The text an identity is given by. A member of a closed list stands for its word. -/
def identityText? : Value → Option String
  | .capability c => some c.word
  | v => v.text?

/-- An identity is any text that is not blank. It is kept as it is. -/
def readIdentity (v : Value) : Except Reason String :=
  match identityText? v with
  | some s => if Text.isBlankText s then .error .blank else .ok s
  | none => .error .notAText

/-- The number an interval is given by: a number, or a text that spells one. -/
def readNumber (v : Value) : Except Reason Float :=
  match v with
  | .bool b => .ok (if b then 1.0 else 0.0)
  | .int _ n =>
    match Decimal.floatOfInt? n with
    | some x => .ok x
    | none => .error .notANumber
  | .float _ x => .ok x
  | v =>
    match v.text? with
    | some s =>
      match Decimal.readLoosely? s with
      | some x => .ok x
      | none => .error .unreadableNumber
    | none => .error .notANumber

/-- An interval is absent, or a number that is not at most zero. -/
def readInterval (v : Value) : Except Reason (Option Float) :=
  if v.isNone then .ok none
  else
    match readNumber v with
    | .error reason => .error reason
    | .ok x => if (Decimal.Parts.ofFloat x).atMostZero then .error .notPositive else .ok (some x)

/-- The reason a reading gives for a refusal. -/
def refusal {α : Type} : Except Reason α → Option Reason
  | .error reason => some reason
  | .ok _ => none

/-- The reason, if any, for which a setting refuses a value. -/
def objection (s : Setting) (v : Value) : Option Reason :=
  match s with
  | .logLevel => refusal (readLevel v)
  | .logFormat => refusal (readFormat v)
  | .logDump => refusal (readSwitch v)
  | .dailyInterval => refusal (readInterval v)
  | _ => refusal (readIdentity v)

/-! ## Judging a whole choice -/

/-- The value chosen for each setting, if one is. -/
abbrev Choice := Setting → Option Value

/-- The complaints about the chosen values and about the unknown names. -/
def complaints (choice : Choice) (unknown : List String) : List Complaint :=
  (Setting.all.filterMap fun s =>
      ((choice s).bind (objection s)).map fun reason => ⟨s.word, reason⟩) ++
    unknown.map fun name => ⟨name, .unknownName⟩

/-- What a reading yields of a chosen value, or the default. -/
def chosen {α : Type} (read : Value → Except Reason α) (given : Option Value) (default : α) :
    α :=
  match given.map read with
  | some (.ok a) => a
  | _ => default

/-- The settings that the chosen values stand for. -/
def ofChoice (choice : Choice) : Settings :=
  let base : Settings := {}
  { logLevel := chosen readLevel (choice .logLevel) base.logLevel
    logFormat := chosen readFormat (choice .logFormat) base.logFormat
    logDump := chosen readSwitch (choice .logDump) base.logDump
    hostVendor := chosen readIdentity (choice .hostVendor) base.hostVendor
    hostName := chosen readIdentity (choice .hostName) base.hostName
    hostId := chosen readIdentity (choice .hostId) base.hostId
    hostVersion := chosen readIdentity (choice .hostVersion) base.hostVersion
    hostBuildId := chosen readIdentity (choice .hostBuildId) base.hostBuildId
    platformVersion := chosen readIdentity (choice .platformVersion) base.platformVersion
    platformBuildId := chosen readIdentity (choice .platformBuildId) base.platformBuildId
    dailyInterval := chosen readInterval (choice .dailyInterval) base.dailyInterval }

/-- The settings of a choice, or every complaint about it. -/
def validate (choice : Choice) (unknown : List String) : Except (List Complaint) Settings :=
  match complaints choice unknown with
  | [] => .ok (ofChoice choice)
  | found => .error found

/-- The value of a setting. -/
def get (s : Settings) : Setting → Value
  | .logLevel => .ofText s.logLevel.word
  | .logFormat => .ofText s.logFormat.word
  | .logDump => .bool s.logDump
  | .hostVendor => .ofText s.hostVendor
  | .hostName => .ofText s.hostName
  | .hostId => .ofText s.hostId
  | .hostVersion => .ofText s.hostVersion
  | .hostBuildId => .ofText s.hostBuildId
  | .platformVersion => .ofText s.platformVersion
  | .platformBuildId => .ofText s.platformBuildId
  | .dailyInterval =>
    match s.dailyInterval with
    | some x => .ofFloat x
    | none => .none

/-- A choice is accepted exactly when no setting objects to its value and no name is
unknown. -/
theorem validate_eq_ok_iff (choice : Choice) (unknown : List String) (s : Settings) :
    validate choice unknown = .ok s ↔
      complaints choice unknown = [] ∧ s = ofChoice choice := by
  unfold validate
  cases h : complaints choice unknown with
  | nil => simp [eq_comm]
  | cons c rest => simp

end Settings

/-! ## Settings that are in use

Once settings are accepted, anything can be assigned to them, and is not judged again.
-/

/-- The values that settings hold, and which of them were given. -/
structure Configuration where
  get : Setting → Value
  given : List Setting := []

namespace Configuration

instance : Inhabited Configuration := ⟨⟨fun _ => .none, []⟩⟩

/-- Settings hold the values they stand for. -/
def ofSettings (s : Settings) : Configuration := ⟨s.get, []⟩

/-- Whether a setting keeps the text or the number that was chosen for it. The others hold
one of a few values of their own. -/
def keepsChoice : Setting → Bool
  | .logLevel | .logFormat | .logDump => false
  | _ => true

/-- What a setting that was chosen holds. A text or a number that came from outside is
kept as the very same one, and one that had to be made is a new one. -/
def held (serial : Nat) (name : Setting) (given accepted : Value) : Value :=
  if keepsChoice name then
    match given, accepted with
    | .text (k + 1) s, .text _ _ => .text (k + 1) s
    | .float (k + 1) x, .float _ _ => .float (k + 1) x
    | _, accepted => accepted.renewed (serial + Setting.all.idxOf name)
  else accepted

/-- Accepted settings hold what they were chosen by. The serial number is that of the first
value that had to be made, and as many follow as there are settings. -/
def ofChoice (serial : Nat) (choice : Settings.Choice) (s : Settings) : Configuration where
  get name :=
    match choice name with
    | some given => held serial name given (s.get name)
    | none => s.get name
  given := Setting.all.filter fun name => (choice name).isSome

/-- The values after an assignment to one setting, which counts as given from then on. -/
def set (c : Configuration) (name : Setting) (v : Value) : Configuration where
  get other := if other = name then v else c.get other
  given := if c.given.contains name then c.given else c.given ++ [name]

/-- The settings with their values, in order. -/
def toPairs (c : Configuration) : List (String × Value) :=
  Setting.all.map fun name => (name.word, c.get name)

end Configuration

end Understudy

import Understudy.Description

/-!
# Arguments of calls

A call hands over arguments by position and by name. They are matched with the
parameters before anything else happens, and a call that does not fit is refused
with the first thing that is wrong: a name that is not taken, an argument given
twice, too many arguments, or missing ones.

## Main definitions

* `Parameter`, `Signature`: what a call takes.
* `Signature.bind`: the arguments in the order of the parameters.
* `Method.parameters`, `World.signature`: the signatures of requests.

## Main statements

* `Signature.bind_eq_ok_of_length`: as many arguments as parameters, all by position,
  are taken as they are.
-/

namespace Understudy

/-- A parameter, with the value it has if none is given. -/
structure Parameter where
  name : String
  default? : Option Value := none

/-- What a call takes. Requests count the thing they are put to as an argument, which has
a name as well. The last parameters can only be given by name. -/
structure Signature where
  name : String
  receiver? : Option String
  parameters : List Parameter
  byName : List Parameter := []

namespace Signature

/-- How many arguments are given before those of the caller. -/
def offset (s : Signature) : Nat := if s.receiver?.isSome then 1 else 0

/-- The parameters that have to be given. -/
def required (s : Signature) : Nat := s.parameters.countP fun p => p.default?.isNone

/-- The first named argument that does not fit. -/
def misnamed? (s : Signature) (given : Nat) : List (String × Value) → Option Fault
  | [] => none
  | (name, _) :: rest =>
    match (s.parameters ++ s.byName).findIdx? fun p => p.name == name with
    | none =>
      if s.receiver? = some name then some (.repeatedArgument s.name name)
      else some (.unexpectedArgument s.name name)
    | some i =>
      if i < given ∧ i < s.parameters.length then some (.repeatedArgument s.name name)
      else s.misnamed? given rest

/-- The value of a parameter that was not given by position. -/
def named? (named : List (String × Value)) (p : Parameter) : Option Value :=
  (named.lookup p.name).or p.default?

/-- The arguments in the order of the parameters. -/
def bind (s : Signature) (args : List Value) (named : List (String × Value)) :
    Except Fault (List Value) :=
  match s.misnamed? args.length named with
  | some fault => .error fault
  | none =>
    let most := s.parameters.length
    if most < args.length then
      .error (.tooManyArguments s.name (s.required + s.offset) (most + s.offset)
        (args.length + s.offset)
        (named.countP fun (name, _) => s.byName.any fun p => p.name == name))
    else
      let ahead := s.parameters.drop args.length ++ s.byName
      let absent := ahead.filter fun p => (named? named p).isNone
      if absent.isEmpty then .ok (args ++ ahead.filterMap (named? named))
      else .error (.missingArguments s.name (absent.map Parameter.name))

/-- As many arguments as there are parameters, all given by position, are taken as they
are. -/
theorem bind_eq_ok_of_length {s : Signature} {args : List Value}
    (h : args.length = s.parameters.length) (hn : s.byName = []) : s.bind args [] = .ok args := by
  simp [bind, misnamed?, h, hn]

end Signature

/-- Parameters that have to be given. -/
def required (names : List String) : List Parameter := names.map fun name => { name := name }

/-- A parameter that may be left out. -/
def optional (name : String) (v : Value) : Parameter := { name := name, default? := some v }

/-- The parameters of a request. -/
def Method.parameters : Method → List Parameter
  | .registerFactory => required ["class_id", "description", "contract_id", "factory"]
  | .unregisterFactory => required ["contract_id", "factory"]
  | .includes | .lookup | .getEntry | .isRegistered | .captured => required ["contract_id"]
  | .getService | .captureOnce => required ["contract_id", "capability"]
  | .queryInterface => required ["capability"]
  | .annotate => required ["key", "data"]
  | .getField | .resolveField => required ["field"]
  | .createInstance => required ["outer", "capability"]
  | .installIdentity => required ["id", "name", "version", "platform_version"]
  | .setScheduler | .overrideScheduling => required ["arm", "cancel"]
  | .arm => required ["delay_seconds", "callback"]
  | .cancel => required ["handle"]
  | .callLater => required ["delay", "cb"]
  | .advance => required ["until"]
  | .contractIds | .invalidateCaches | .reset | .captureOriginal | .restore | .disableTimers
  | .cancelAll | .getPolicy | .setUp | .annotateSession | .requirePolicy | .nextDelay | .start
  | .armDaily | .collectDaily | .currentIdentity | .environment | .shutdown | .dailyTimeout
  | .fireLast | .dump | .dumpText | .duplicate => []

/-- What is told of settings, and what is left out. Some of it makes no difference here. -/
def selectionParameters : List Parameter :=
  [optional "include" .none, optional "exclude" .none, optional "exclude_unset" (.bool false),
    optional "exclude_defaults" (.bool false), optional "exclude_none" (.bool false),
    optional "context" .none, optional "by_alias" .none,
    optional "exclude_computed_fields" (.bool false), optional "round_trip" (.bool false),
    optional "warnings" (.bool true), optional "fallback" .none,
    optional "serialize_as_any" (.bool false)]

/-- The parameters of a request that can only be given by name. -/
def Method.namedParameters : Method → List Parameter
  | .dump => optional "mode" (.ofText "python") :: selectionParameters
  | .dumpText =>
    optional "indent" .none :: optional "ensure_ascii" (.bool false) :: selectionParameters
  | .duplicate => [optional "update" .none, optional "deep" (.bool false)]
  | _ => []

/-- What things are called among the arguments of requests to them. -/
def thingName : String := "self"

/-- What types are called among the arguments of requests to them. -/
def typeArgument : String := "cls"

namespace World

/-- The signature of a request to a thing. -/
def signature (w : World) (o : Object) (m : Method) : Signature :=
  ⟨w.qualifiedName o m, some thingName, m.parameters, m.namedParameters⟩

end World

end Understudy

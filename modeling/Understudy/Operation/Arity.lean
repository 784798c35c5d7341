import Understudy.Asking
import Understudy.Signature

/-!
# Arguments of requests to plain values

How many arguments a request to a plain value takes, and whether some of them can be
given by name, is told by the request and by the type of the value. A call that does
not fit is refused in the words that belong to the way the request takes arguments.

## Main definitions

* `Arity`: the ways of taking arguments.
* `Operation.arity`: the way of a request.
* `Operation.arrange`: the arguments in the order of the parameters.
-/

namespace Understudy

/-- The ways of taking arguments. -/
inductive Arity where
  /-- None at all. -/
  | nothing
  /-- Exactly one. -/
  | single
  /-- Not fewer than one number and not more than another. -/
  | between (least most : Nat)
  /-- The same, for requests that look for a part of a text. -/
  | search (most : Nat)
  /-- Any number. -/
  | any
  /-- As many as an operator has operands besides the value itself. -/
  | operands (n : Nat)
  /-- The same, for operators that can do with more or fewer of them. -/
  | furtherOperands (least most : Nat)
  /-- Parameters, of which only the first ones can be given by place. -/
  | parameters (byPlace : Nat) (known : List Parameter)
  /-- At most one by place, and further ones under any names. -/
  | names

namespace Operation

/-- The parameters by which a date and time is replaced. -/
def momentParameters (m : Moment) : List Parameter :=
  let number := fun (name : String) (n : Nat) => optional name (.ofInt n)
  [number "year" m.date.year, number "month" m.date.month, number "day" m.date.day,
    number "hour" m.hour, number "minute" m.minute, number "second" m.second,
    number "microsecond" m.microsecond, optional "tzinfo" .none, number "fold" 0]

/-- How a request to a value takes its arguments. -/
def arity (op : Operation) (owner : Value) : Arity :=
  match op with
  | .size | .displayed | .quoted | .digest | .iterator => .operands 0
  | .equals | .differs | .deleteItem | .compared _ => .operands 1
  | .combined .power _ => .furtherOperands 1 2
  | .combined .multiply _ =>
    -- How often a sequence is repeated is counted like a place in it.
    if owner.number?.isSome then .operands 1 else .furtherOperands 1 1
  | .combined _ _ => .operands 1
  | .converted _ => if op.wraps owner then .operands 0 else .nothing
  | .setItem => .furtherOperands 2 2
  | .getItem | .containsItem => if op.wraps owner then .operands 1 else .single
  | .append | .extend | .remove | .isDisjoint | .isSubset | .isSuperset | .symmetricDifference
  | .join | .padZeros | .partition | .partitionLast | .removePrefix | .removeSuffix
  | .formatted => .single
  | .count =>
    match owner with
    | .text _ _ | .field _ => .search 3
    | _ => .single
  | .index =>
    match owner with
    | .text _ _ | .field _ => .search 3
    | _ => .between 1 3
  | .find | .findLast | .indexLast | .startsWith | .endsWith => .search 3
  | .get | .setDefault | .fromKeys | .center | .padLeft | .padRight => .between 1 2
  | .insert => .between 2 2
  | .pop =>
    match owner with
    | .list _ => .between 0 1
    | _ => .between 1 2
  | .strip | .stripLeft | .stripRight | .rounded => .between 0 1
  | .union | .difference | .intersection => .any
  | .sort => .parameters 0 [optional "key" .none, optional "reverse" (.bool false)]
  | .split | .splitLast =>
    .parameters 2 [optional "sep" .none, optional "maxsplit" (.ofInt (-1))]
  | .encode =>
    .parameters 2 [optional "encoding" (.ofText "utf-8"), optional "errors" (.ofText "strict")]
  | .expandTabs => .parameters 1 [optional "tabsize" (.ofInt 8)]
  | .byPattern => .parameters 1 (required ["format"])
  | .splitLines => .parameters 1 [optional "keepends" (.bool false)]
  | .isoFormat =>
    .parameters 2 [optional "sep" (.ofText "T"), optional "timespec" (.ofText "auto")]
  | .replace =>
    match owner with
    | .moment _ m => .parameters 8 (momentParameters m)
    | _ => .between 2 3
  | .update => .names
  | _ => .nothing

/-- What is said of a number of arguments that are no parameters of a request. -/
def tooMany (word extent kind : String) (most given : Nat) : String :=
  word ++ "() takes " ++ extent ++ " " ++ toString most ++ " " ++ kind ++ "argument" ++
    Fault.plural most ++ " (" ++ toString given ++ " given)"

/-- What is wrong with the name of an argument. -/
def wrongName? (word : String) (known : List Parameter) (given : Nat) (name : String) :
    Option String :=
  match known.findIdx? fun p => p.name == name with
  | none => some ("'" ++ name ++ "' is an invalid keyword argument for " ++ word ++ "()")
  | some i =>
    if i < given then
      some ("argument for " ++ word ++ "() given by name ('" ++ name ++ "') and position (" ++
        toString (i + 1) ++ ")")
    else none

/-- What is wrong with the arguments of a request that takes parameters. -/
def complaint? (word : String) (byPlace : Nat) (known : List Parameter)
    (args : List Value) (named : List (String × Value)) : Option String :=
  if known.length < args.length + named.length then
    some (tooMany word "at most" (if args.isEmpty then "keyword " else "") known.length
      (args.length + named.length))
  else if byPlace < args.length then
    some (if byPlace = 0 then word ++ "() takes no positional arguments"
      else tooMany word "at most" "positional " byPlace args.length)
  else
    match (known.drop args.length).find? fun p => (Signature.named? named p).isNone with
    | some p =>
      some (word ++ "() missing required argument '" ++ p.name ++ "' (pos " ++
        toString ((known.findIdx fun q => q.name == p.name) + 1) ++ ")")
    | none => named.findSome? fun (name, _) => wrongName? word known args.length name

/-- What is said of a number of arguments outside of a range. -/
def outside? (word : String) (least most given : Nat) : Option String :=
  let expected := fun (bound : String) (n : Nat) =>
    word ++ " expected " ++ (if least = most then "" else bound ++ " ") ++ toString n ++
      " argument" ++ Fault.plural n ++ ", got " ++ toString given
  if given < least then some (expected "at least" least)
  else if most < given then some (expected "at most" most)
  else none

/-- What is wrong with a number of arguments given by place. -/
def miscount? (op : Operation) (type : String) (way : Arity) (given : Nat) : Option String :=
  let whole := type ++ "." ++ op.word ++ "() takes "
  let count := " (" ++ toString given ++ " given)"
  match way with
  | .nothing => if given = 0 then none else some (whole ++ "no arguments" ++ count)
  | .single => if given = 1 then none else some (whole ++ "exactly one argument" ++ count)
  | .between least most => outside? op.word least most given
  | .search most =>
    if given = 0 then some (op.word ++ "() takes at least 1 argument (0 given)")
    else if most < given then some (tooMany op.word "at most" "" most given)
    else none
  | .operands n =>
    if given = n then none
    else
      some ("expected " ++ toString n ++ " argument" ++ Fault.plural n ++ ", got " ++
        toString given)
  -- What is asked for goes without a name here.
  | .furtherOperands least most => outside? "" least most given
  | .names => outside? op.word 0 1 given
  | .any | .parameters _ _ => none

/-- What is wrong with named arguments where there can be none. -/
def misnamed? (op : Operation) (type : String) (way : Arity) (named : List (String × Value)) :
    Option String :=
  match way, named with
  | .names, _ | .parameters _ _, _ | _, [] => none
  | .operands _, _ | .furtherOperands _ _, _ => some ("wrapper " ++ op.word ++ "() takes no keyword arguments")
  | _, _ => some (type ++ "." ++ op.word ++ "() takes no keyword arguments")

/-- The arguments of a request in the order of its parameters. -/
def arrange (op : Operation) (w : World) (owner : Value) (args : List Value)
    (named : List (String × Value)) : Except Fault (List Value) :=
  let type := w.typeName owner
  let way := op.arity owner
  match (op.misnamed? type way named).or (op.miscount? type way args.length) with
  | some message => .error (.operationArguments message)
  | none =>
    match way with
    | .parameters byPlace known =>
      match complaint? op.word byPlace known args named with
      | some message => .error (.operationArguments message)
      | none =>
        .ok (args ++ (known.drop args.length).filterMap (Signature.named? named))
    | _ => .ok args

end Operation

end Understudy

import Understudy.Operation.Arithmetic
import Understudy.Operation.Arity
import Understudy.Operation.FiniteSet
import Understudy.Operation.Mapping
import Understudy.Operation.Order
import Understudy.Operation.Sequence
import Understudy.Operation.Time
import Understudy.Operation.Wording

/-!
# Requests to plain values

Lists, dictionaries, tuples, sets, texts, numbers and times take requests of their own.
Some tell about what the value holds, others change it where it is kept. Operators can be
asked for by name as well, and mean the same thing for every value. An operator that does
not know the other operand says so instead of answering.

## Main definitions

* `World.comparable`: whether an operator knows the other operand.
* `general?`: what comes of a request that means the same for every value.
* `operate`: what comes of a request to a plain value.
-/

namespace Understudy

namespace World

/-- Whether two values are of types that an operator of the first one compares. -/
def comparable (w : World) (a b : Value) : Bool :=
  match a, b with
  | .list _, .list _ | .tuple _ _, .tuple _ _ | .moment _ _, .moment _ _ => true
  | .dict _, .dict _ | .set _ _, .set _ _ | .view _, _ => true
  | .record k _ _, .record l _ _ => k == l
  | .function _ f, .function _ g => f.bound && g.bound
  | .operation _ o p, .operation _ o' q => p.wraps o == q.wraps o'
  | a, b =>
    match a with
    | .bool _ | .int _ _ => b.whole?.isSome
    | .float _ _ => b.number?.isSome
    | .text _ _ | .field _ => b.text?.isSome
    | .aspect _ .keys _ | .aspect _ .items _ => (w.setItems? b).isSome
    | _ => false

/-- Whether two values are equal, if an operator of the first one can tell. -/
def equality? (w : World) (a b : Value) : Option Bool :=
  if w.comparable a b then some (w.equal a b)
  else if indistinct a b then some true
  else none

/-- What a comparison says of two values, if an operator of the first one can tell. The
overrides of an overlay leave it to what they are kept in. -/
def comparison? (w : World) (c : Comparison) (a b : Value) : Option (Except Fault Bool) :=
  match a with
  | .view _ => some (.error (.noOrder c.sign "dict" (w.fullTypeName b)))
  | a => if w.comparable a b then w.compare? c a b else none

end World

/-- An answer, unless an operator does not know the other operand. -/
def orUndecided (answer? : Option Bool) : Value := (answer?.map Value.bool).getD .undecided

/-- The text of a value in a format. Without one, it is the displayed text; only texts,
numbers and times know others. -/
def formatted (owner format : Value) : Action Value := do
  let w ← get
  let place := match owner with
    | .moment _ _ => " 1"
    | _ => ""
  match format.text? with
  | none =>
    throw (.operationArguments
      ("__format__() argument" ++ place ++ " must be str, not " ++
        (if format.isNone then "None" else w.fullTypeName format)))
  | some "" => renew (.ofText (← shown owner))
  | some format =>
    match owner with
    | .moment _ m => renew (.ofText (m.byPattern format))
    | _ => throw (.noFixedFormat (w.typeName owner))

/-- What goes through the items of a value, or through them from the end. -/
def iterator (owner : Value) (backwards : Bool) : Action Value := do
  let kind : String := match owner, backwards with
    | .list _, false => "list_iterator"
    | .list _, true => "list_reverseiterator"
    | .tuple _ _, _ => "tuple_iterator"
    | .text _ s, _ => if TextClass.ascii.holds s.toList then "str_ascii_iterator" else "str_iterator"
    | .field _, _ => "str_ascii_iterator"
    | .set _ _, _ => "set_iterator"
    | .aspect _ .values _, false => "dict_valueiterator"
    | .aspect _ .values _, true => "dict_reversevalueiterator"
    | .aspect _ .items _, false => "dict_itemiterator"
    | .aspect _ .items _, true => "dict_reverseitemiterator"
    | _, false => "dict_keyiterator"
    | _, true => "dict_reversekeyiterator"
  return .thing kind ("<" ++ kind ++ " object>")

/-- What comes of asking for something by its name that means the same for every value
that has it. -/
def general? (owner : Value) (op : Operation) (args : List Value) : Option (Action Value) :=
  match op, args with
  | .equals, [other] => some do return orUndecided ((← get).equality? owner other)
  | .differs, [other] =>
    some do return orUndecided (((← get).equality? owner other).map Bool.not)
  | .compared c, [other] =>
    some do
      match (← get).comparison? c owner other with
      | some answer => return .bool (← orFail answer)
      | none => return .undecided
  | .digest, _ => owner.number?.map fun n => renew (.ofInt n.digest)
  | .displayed, _ => some do renew (.ofText (← shown owner))
  | .quoted, _ => some do renew (.ofText (← quotedText owner))
  | .formatted, [format] => some (formatted owner format)
  | .size, _ => some do renew (.ofInt (← lengthOf owner))
  | .containsItem, [item] => some do return .bool (← holds owner item)
  | .getItem, [key] => some (subscript owner key)
  | .iterator, _ => some (iterator owner false)
  | .backIterator, _ => some (iterator owner true)
  | _, _ => none

/-- What comes of a request to a plain value, with its arguments in order. -/
def operateOn (call : Caller) (owner : Value) (op : Operation) (args : List Value)
    (named : List (String × Value)) : Action Value := do
  match general? owner op args with
  | some answer => answer
  | none =>
    match owner with
    | .list l => operateList call l op args
    | .tuple _ items => operateTuple owner items op args
    | .dict d => operateDict d op args named
    | .view _ => readDict owner op args
    | .set _ items => operateSet owner items op args
    | .aspect _ what source => operateAspect owner ((← get).aspectItems what source) op args
    | .moment _ m => operateMoment m op args
    | .text _ _ | .field _ => operateText owner op args
    | .bool _ | .int _ _ | .float _ _ => operateNumber owner op args
    -- What is absent does not count.
    | _ => return .bool false

/-- What comes of a request to a plain value. -/
def operate (call : Caller) (owner : Value) (op : Operation) (args : List Value)
    (named : List (String × Value)) : Action Value := do
  let arranged ← orFail (op.arrange (← get) owner args named)
  operateOn call owner op arranged named

end Understudy

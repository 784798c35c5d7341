import Understudy.Calls

/-!
# Expressions

What a scenario hands over is told by expressions: plain values, members of the closed
lists, functions, and things that it has named before, with the attributes that lead on
from them. Every list and dictionary that is told is a new one, and so is every text and
number that is not so small that there is only one of it.

## Main definitions

* `Expression`: what can be told.
* `Names`: the names given so far.
* `Expression.evaluate`: the value of an expression.
-/

namespace Understudy

/-- What can be told. -/
inductive Expression where
  | none
  | bool (b : Bool)
  | int (n : Int)
  | float (x : Float)
  | text (s : String)
  | list (items : List Expression)
  | dict (pairs : List (Expression × Expression))
  | capability (c : Capability)
  | field (f : Field)
  | function (f : Function)
  /-- A named thing, and the attributes that lead on from it. -/
  | path (name : String) (attributes : List String)
  deriving Inhabited

/-- Names in the order in which they were first given. -/
abbrev Names := OrderedMap String Value

/-- What attributes lead to, one after the other. -/
def follow (v : Value) : List String → Action Value
  | [] => return v
  | name :: rest => do follow (← readAttribute invoke v name) rest

/-- A function as a value. Every callback and every clock that is told is one of its own. -/
def newFunction (f : Function) : Action Value := do
  match f with
  | .callback _ | .clock => return .function (← freshSerial) f
  | f => return .function 0 f

namespace Expression

mutual

/-- The value of an expression. -/
def evaluate (names : Names) : Expression → Action Value
  | .none => return .none
  | .bool b => return .bool b
  | .int n => renew (.ofInt n)
  | .float x => renew (.ofFloat x)
  | .text s => renew (.ofText s)
  | .list items => do newList (← evaluateAll names items)
  | .dict pairs => do newDict (← evaluatePairs names .empty pairs)
  | .capability c => return .capability c
  | .field f => return .field f
  | .function f => newFunction f
  | .path name attributes => follow ((names.get? name).getD .none) attributes

/-- The values of expressions, one after the other. -/
def evaluateAll (names : Names) : List Expression → Action (List Value)
  | [] => return []
  | e :: rest => do
    let v ← evaluate names e
    return v :: (← evaluateAll names rest)

/-- The values of pairs, written into a dictionary one after the other. -/
def evaluatePairs (names : Names) (d : Dict) : List (Expression × Expression) → Action Dict
  | [] => return d
  | (key, e) :: rest => do
    let key ← evaluate names key
    let v ← evaluate names e
    needKey key
    evaluatePairs names (d.put key v) rest

end

/-- The values of named expressions. -/
def evaluateNamed (names : Names) : List (String × Expression) → Action (List (String × Value))
  | [] => return []
  | (name, e) :: rest => do
    let v ← evaluate names e
    return (name, v) :: (← evaluateNamed names rest)

end Expression

end Understudy

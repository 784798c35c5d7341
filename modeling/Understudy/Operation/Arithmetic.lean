import Understudy.Operation.Place
import Understudy.Decimal.Quotient

/-!
# Requests to numbers

Numbers can be asked for what operators make of them and another number, and for what
they are as numbers of another type. Whole numbers have no bounds, and a truth value
counts as one of them. Whatever a number cannot be combined with is left to be decided
by the other operand.

## Main definitions

* `combineWhole`, `combineFloat`: what an operator makes of two numbers.
* `convertWhole`, `convertFloat`: what a number is turned into by itself.
* `operateNumber`: what comes of a request to a number.
-/

namespace Understudy

/-! ## Bits of whole numbers

A number below zero has infinitely many leading ones. -/

/-- The bits that two whole numbers share. -/
def bitsBoth : Int → Int → Int
  | .ofNat m, .ofNat n => .ofNat (m &&& n)
  | .ofNat m, .negSucc n => .ofNat (m ^^^ (m &&& n))
  | .negSucc m, .ofNat n => .ofNat (n ^^^ (n &&& m))
  | .negSucc m, .negSucc n => .negSucc (m ||| n)

/-- The bits of either of two whole numbers. -/
def bitsEither (a b : Int) : Int := -(bitsBoth (-a - 1) (-b - 1)) - 1

/-- The bits of one of two whole numbers but not of the other. -/
def bitsOneOf (a b : Int) : Int := bitsEither a b - bitsBoth a b

/-- The number of binary digits of a whole number, without its sign. -/
def bitLength (n : Int) : Nat := if n = 0 then 0 else n.natAbs.log2 + 1

/-- The number of binary digits of a whole number that are ones, without its sign. -/
def bitCount (n : Int) : Nat :=
  (List.range (bitLength n)).countP fun i => n.natAbs.testBit i

/-! ## Operators -/

/-- A float to the power of another one. -/
def raiseFloat (x y : Float) : Except Fault Value :=
  let power := x.pow y
  let finite := x.isFinite && y.isFinite
  if x == 0.0 && y < 0.0 then
    .error (.divisionByZero "0.0 cannot be raised to a negative power")
  else if finite && x < 0.0 && y != y.floor then .ok (.thing "complex" "complex")
  else if finite && power.isInf then
    .error (.resultRange "(34, 'Numerical result out of range')")
  else .ok (.ofFloat power)

/-- The float of a whole number. -/
def floatOfWhole (n : Int) : Except Fault Float :=
  match Decimal.floatOfInt? n with
  | some x => .ok x
  | none => .error .floatRange

/-- More binary digits than this no number has. -/
def mostBits : Nat := Nat.pow 2 36

/-- A power of a whole number, if it can be kept. -/
def raiseWhole (a : Int) (n : Nat) : Except Fault Int :=
  if a.natAbs ≤ 1 then .ok (if n = 0 then 1 else if n % 2 = 0 then a * a else a)
  else if mostBits < n * a.natAbs.log2 then .error .exhausted
  else .ok (Int.pow a n)

/-- A whole number times a power of two, if it can be kept. -/
def shiftUp (a : Int) (n : Nat) : Except Fault Int :=
  if a = 0 then .ok 0
  else if Nat.pow 2 63 ≤ n then .error (.resultRange "too many digits in integer")
  else if mostBits < n then .error .exhausted
  else .ok (a * Int.pow 2 n)

/-- A whole number over a power of two, rounded down. -/
def shiftDown (a : Int) (n : Nat) : Int :=
  if bitLength a < n then (if a < 0 then -1 else 0) else a.fdiv (Int.pow 2 n)

/-- What an operator makes of two whole numbers. -/
def combineWhole (o : Operator) (a b : Int) : Except Fault Value :=
  let byZero := fun (message : String) => Except.error (Fault.divisionByZero message)
  match o with
  | .add => .ok (.ofInt (a + b))
  | .subtract => .ok (.ofInt (a - b))
  | .multiply => .ok (.ofInt (a * b))
  | .divide =>
    if b = 0 then byZero "division by zero"
    else
      match Decimal.quotient? a b with
      | some x => .ok (.ofFloat x)
      | none => .error (.resultRange "integer division result too large for a float")
  | .floorDivide =>
    if b = 0 then byZero "integer division or modulo by zero" else .ok (.ofInt (a.fdiv b))
  | .remainder =>
    if b = 0 then byZero "integer modulo by zero" else .ok (.ofInt (a.fmod b))
  | .divideWithRemainder =>
    if b = 0 then byZero "integer division or modulo by zero"
    else .ok (.tuple 0 [.ofInt (a.fdiv b), .ofInt (a.fmod b)])
  | .power =>
    if 0 ≤ b then (raiseWhole a b.toNat).map .ofInt
    else do raiseFloat (← floatOfWhole a) (← floatOfWhole b)
  | .shiftLeft =>
    if b < 0 then .error (.unfitOperand "negative shift count")
    else (shiftUp a b.toNat).map .ofInt
  | .shiftRight =>
    if b < 0 then .error (.unfitOperand "negative shift count")
    else .ok (.ofInt (shiftDown a b.toNat))
  | .both => .ok (.ofInt (bitsBoth a b))
  | .either => .ok (.ofInt (bitsEither a b))
  | .oneOf => .ok (.ofInt (bitsOneOf a b))

/-- What an operator makes of two floats. -/
def combineFloat (o : Operator) (x y : Float) : Except Fault Value :=
  let unlessZero := fun (message : String) (v : Value) =>
    if y == 0.0 then Except.error (Fault.divisionByZero message) else .ok v
  let (whole, left) := Decimal.floorDivide x y
  match o with
  | .add => .ok (.ofFloat (x + y))
  | .subtract => .ok (.ofFloat (x - y))
  | .multiply => .ok (.ofFloat (x * y))
  | .divide => unlessZero "float division by zero" (.ofFloat (x / y))
  | .floorDivide => unlessZero "float floor division by zero" (.ofFloat whole)
  | .remainder => unlessZero "float modulo" (.ofFloat left)
  | .divideWithRemainder => unlessZero "float divmod()" (.tuple 0 [.ofFloat whole, .ofFloat left])
  | .power => raiseFloat x y
  | _ => .ok .undecided

/-- What an operator makes of two truth values, if that is one of them. -/
def combineTruth? : Operator → Bool → Bool → Option Bool
  | .both, a, b => some (a && b)
  | .either, a, b => some (a || b)
  | .oneOf, a, b => some (a != b)
  | _, _, _ => none

/-- The remainder of a power. -/
def powerRemainder (m base n : Nat) : Nat :=
  if n = 0 then 1 % m
  else
    let half := powerRemainder m (base * base % m) (n / 2)
    if n % 2 = 0 then half else half * base % m
termination_by n

/-- The number that a number is multiplied with so that the greatest common divisor of it
and another one remains. -/
def cofactor (a b : Nat) : Int × Int :=
  if b = 0 then (1, 0)
  else
    let (x, y) := cofactor b (a % b)
    (y, x - Int.ofNat (a / b) * y)
termination_by b
decreasing_by exact Nat.mod_lt _ (by omega)

/-- A power of a whole number, less as many times another one as go into it. A power below
zero is one of the number by which the remainder becomes one. -/
def powerModulo (a b m : Int) : Except Fault Value :=
  let size := m.natAbs
  let base := (a.fmod size).toNat
  let answer := fun (n : Nat) => Except.ok (Value.ofInt ((Int.ofNat n).fmod m))
  if m = 0 then .error (.unfitOperand "pow() 3rd argument cannot be 0")
  else if 0 ≤ b then answer (powerRemainder size base b.toNat)
  else if Nat.gcd base size = 1 then
    answer (powerRemainder size ((cofactor base size).1.fmod size).toNat b.natAbs)
  else .error (.unfitOperand "base is not invertible for the given modulus")

/-- What an operator makes of a number and further operands. -/
def combineNumbers (o : Operator) (owner other : Value) (third : Option Value) (side : Side) :
    Except Fault Value :=
  let ordered := fun {α : Type} (a b : α) => if side = .right then (b, a) else (a, b)
  match owner.whole?, other.whole?, third with
  | some a, some b, none =>
    match owner, other with
    | .bool p, .bool q =>
      match combineTruth? o p q with
      | some r => .ok (.bool r)
      | none => combineWhole o (ordered a b).1 (ordered a b).2
    | _, _ => combineWhole o (ordered a b).1 (ordered a b).2
  | some a, some b, some v =>
    match v.whole? with
    | some m => powerModulo (ordered a b).1 (ordered a b).2 m
    | none =>
      if v.isNone then combineWhole o (ordered a b).1 (ordered a b).2 else .ok .undecided
  | some _, none, _ => .ok .undecided
  | none, _, third =>
    if !(third.map Value.isNone).getD true then
      .error (.operationArguments
        "pow() 3rd argument not allowed unless all arguments are integers")
    else
      match owner.float?, other.float? with
      | some (some x), some (some y) => combineFloat o (ordered x y).1 (ordered x y).2
      | _, some none => .error .floatRange
      | _, _ => .ok .undecided

/-! ## Conversions -/

/-- What a whole number is turned into by itself. -/
def convertWhole (n : Int) : Conversion → Except Fault Value
  | .negated => .ok (.ofInt (-n))
  | .magnitude => .ok (.ofInt n.natAbs)
  | .complement => .ok (.ofInt (-n - 1))
  | .float => do return .ofFloat (← floatOfWhole n)
  | .switch => .ok (.bool (n != 0))
  | .same | .whole | .place | .truncated | .floor | .ceiling => .ok (.ofInt n)

/-- What a float is turned into by itself. -/
def convertFloat (x : Float) (c : Conversion) : Except Fault Value :=
  let whole := fun (y : Float) =>
    match Decimal.Parts.ofFloat y with
    | .nan => .error (.unfitOperand "cannot convert float NaN to integer")
    | .infinite _ => .error (.resultRange "cannot convert float infinity to integer")
    | .finite negative significand exponent =>
      .ok (.ofInt (Decimal.wholeNear negative significand exponent))
  match c with
  | .negated => .ok (.ofFloat (-x))
  | .magnitude => .ok (.ofFloat x.abs)
  | .switch => .ok (.bool (x != 0.0))
  | .floor => whole x.floor
  | .ceiling => whole x.ceil
  | .same | .float | .complement => .ok (.ofFloat x)
  | .whole | .place | .truncated => whole (if x < 0.0 then x.ceil else x.floor)

/-- A whole number rounded to a power of ten. -/
def roundWhole (n places : Int) : Int :=
  if 0 ≤ places then n
  else
    let unit := Nat.pow 10 places.natAbs
    let size := Int.ofNat (Decimal.roundEven n.natAbs unit * unit)
    if n < 0 then -size else size

/-- A number rounded. Without a number of places, what comes of it is a whole number. -/
def roundNumber (owner : Value) (places : List Value) : Action Value := do
  match owner, places with
  | .float _ x, [] | .float _ x, [.none] =>
    match Decimal.Parts.ofFloat x with
    | .finite negative significand exponent =>
      return .ofInt (Decimal.wholeNear negative significand exponent)
    | _ => orFail (convertFloat x .truncated)
  | .float _ x, v :: _ =>
    match Decimal.roundedTo? (← needPlace v) x with
    | some y => return .ofFloat y
    | none => throw (.resultRange "rounded value too large to represent")
  | v, [] => return .ofInt ((v.whole?).getD 0)
  | v, places :: _ => return .ofInt (roundWhole ((v.whole?).getD 0) (← needPlace places))

/-- A number as a fraction in lowest terms. -/
def fractionOf (owner : Value) : Except Fault Value :=
  match owner with
  | .float _ x =>
    match Decimal.ratio? (Decimal.Parts.ofFloat x), x.isNaN with
    | some (n, d), _ => .ok (.tuple 0 [.ofInt n, .ofInt d])
    | none, true => .error (.unfitOperand "cannot convert NaN to integer ratio")
    | none, false => .error (.resultRange "cannot convert Infinity to integer ratio")
  | v => .ok (.tuple 0 [.ofInt ((v.whole?).getD 0), .ofInt 1])

/-! ## Requests -/

/-- What comes of a request to a number. -/
def answerNumber (owner : Value) (op : Operation) (args : List Value) : Action Value := do
  let whole := (owner.whole?).getD 0
  match op, args with
  | .combined o side, other :: rest => orFail (combineNumbers o owner other rest.head? side)
  | .converted c, _ =>
    match owner with
    | .float _ x => orFail (convertFloat x c)
    | _ => orFail (convertWhole whole c)
  | .rounded, args => roundNumber owner args
  | .ratio, _ => orFail (fractionOf owner)
  | .conjugate, _ =>
    match owner with
    | .float _ _ => return owner
    | _ => return .ofInt whole
  | .bitLength, _ => return .ofInt (bitLength whole)
  | .bitCount, _ => return .ofInt (bitCount whole)
  | .isInteger, _ =>
    match owner with
    | .float _ x => return .bool (x == x.floor && !x.isInf)
    | _ => return .none
  | .hexadecimal, _ =>
    match owner with
    | .float _ x => return .ofText (Decimal.hexadecimal x)
    | _ => return .none
  | _, _ => return .none

/-- What comes of a request to a number, as a number of its own unless it is the number
that was asked. -/
def operateNumber (owner : Value) (op : Operation) (args : List Value) : Action Value := do
  match owner, op with
  | .bool _, .conjugate | .bool _, .converted _ => answerNumber owner op args
  | .int _ _, .conjugate | .int _ _, .converted .same | .int _ _, .converted .whole
  | .int _ _, .converted .place | .int _ _, .converted .truncated
  | .int _ _, .converted .floor | .int _ _, .converted .ceiling | .float _ _, .conjugate
  | .float _ _, .converted .same | .float _ _, .converted .float => return owner
  | _, _ =>
    match ← answerNumber owner op args with
    | .tuple _ items => hold (.tuple 0 (← items.mapM renew))
    | v => renew v

end Understudy

import Understudy.Value

/-!
# The requests that plain values take

Every plain value takes requests that go with its type, and some that every value takes.
An operator that is asked for by its name is no function but the operator itself.

## Main definitions

* `Value.operations`: the requests that a value takes.
* `Operation.wraps`: whether a request is for an operator.
-/

namespace Understudy

/-- What an operator answers that does not know the other operand. -/
def Value.undecided : Value := .thing "NotImplementedType" "NotImplemented"

/-- Whether a request to a plain value stands for an operator, so that it is no function
but the operator itself. -/
def Operation.wraps : Operation → Value → Bool
  | .size, _ | .equals, _ | .differs, _ | .quoted, _ | .displayed, _ | .setItem, _
  | .deleteItem, _ | .digest, _ | .iterator, _ | .compared _, _ | .combined _ _, _ => true
  | .converted c, _ => c != .truncated && c != .floor && c != .ceiling
  | .containsItem, .dict _ | .containsItem, .set _ _ => false
  | .containsItem, _ => true
  | .getItem, .dict _ | .getItem, .list _ => false
  | .getItem, _ => true
  | _, _ => false

/-- Whether the type of a plain value is one whose values are no keys. -/
def Value.keyless : Value → Bool
  | .list _ | .dict _ | .view _ | .aspect _ .keys _ | .aspect _ .items _ => true
  | _ => false

/-- The requests that every value takes. -/
def Operation.common : List Operation :=
  [.equals, .differs, .quoted, .displayed, .formatted, .digest] ++ Comparison.all.map .compared

/-- The requests that every plain value with items takes. -/
def Operation.ofContainers : List Operation :=
  [.containsItem, .size, .iterator] ++ Operation.common

/-- The requests that every text takes. -/
def Operation.ofTexts : List Operation :=
  [.capitalize, .caseFold, .center, .count, .encode, .endsWith, .expandTabs, .find, .findLast,
    .getItem, .index, .indexLast, .join, .lower, .padLeft, .padRight, .padZeros, .partition,
    .partitionLast, .removePrefix, .removeSuffix, .replace, .split, .splitLast, .splitLines,
    .startsWith, .strip, .stripLeft, .stripRight, .swapCase, .title, .upper] ++
    TextClass.all.map .classified

/-- Operators that a value can be asked for on either side. -/
def Operation.bothSides (operators : List Operator) : List Operation :=
  operators.flatMap fun o => [.combined o .left, .combined o .right]

/-- The operators that sets take. -/
def Operator.ofSets : List Operator := [.both, .either, .subtract, .oneOf]

/-- The operators that a float takes. -/
def Operator.ofFloats : List Operator :=
  [.add, .subtract, .multiply, .divide, .floorDivide, .remainder, .divideWithRemainder, .power]

/-- The conversions that a float takes. -/
def Conversion.ofFloats : List Conversion :=
  [.negated, .same, .magnitude, .whole, .truncated, .floor, .ceiling, .float, .switch]

/-- The conversions that a whole number takes. -/
def Conversion.ofWhole : List Conversion := Conversion.ofFloats ++ [.complement, .place]

/-- The requests a plain value takes. -/
def Value.operations : Value → List Operation
  | .list _ =>
    [.append, .clear, .copy, .count, .extend, .index, .insert, .pop, .remove, .reverse, .sort,
      .getItem, .setItem, .deleteItem, .backIterator, .combined .add .left,
      .combined .multiply .left, .combined .multiply .right, .combined .add .own,
      .combined .multiply .own] ++ Operation.ofContainers
  | .tuple _ _ =>
    [.count, .index, .getItem, .combined .add .left, .combined .multiply .left,
      .combined .multiply .right] ++ Operation.ofContainers
  | .dict _ =>
    [.clear, .copy, .fromKeys, .get, .items, .keys, .pop, .popItem, .setDefault, .update, .values,
      .getItem, .setItem, .deleteItem, .backIterator, .combined .either .own] ++
      Operation.bothSides [.either] ++ Operation.ofContainers
  | .view _ =>
    [.copy, .get, .items, .keys, .values, .getItem, .backIterator, .combined .either .own] ++
      Operation.bothSides [.either] ++ Operation.ofContainers
  | .aspect _ .values _ => [.size, .iterator, .backIterator] ++ Operation.common
  | .aspect _ _ _ =>
    [.isDisjoint, .backIterator] ++ Operation.bothSides Operator.ofSets ++ Operation.ofContainers
  | .set _ _ =>
    [.copy, .difference, .intersection, .isDisjoint, .isSubset, .isSuperset,
      .symmetricDifference, .union] ++ Operation.bothSides Operator.ofSets ++ Operation.ofContainers
  | .text _ _ | .field _ =>
    [.combined .add .left, .combined .multiply .left, .combined .multiply .right] ++
      Operation.ofTexts ++ Operation.ofContainers
  | .moment _ _ =>
    [.isoFormat, .weekday, .isoWeekday, .calendarDate, .calendarWeek, .clockTime, .epochSeconds,
      .byPattern, .ordinal, .timeText, .replace, .zoneOffset, .zoneName, .shiftSaving,
      .combined .add .left, .combined .add .right, .combined .subtract .left,
      .combined .subtract .right] ++ Operation.common
  | .int _ _ | .bool _ =>
    [.bitCount, .bitLength, .conjugate, .ratio, .rounded] ++ Operation.bothSides Operator.all ++
      Conversion.ofWhole.map .converted ++ Operation.common
  | .float _ _ =>
    [.isInteger, .conjugate, .hexadecimal, .ratio, .rounded] ++
      Operation.bothSides Operator.ofFloats ++ Conversion.ofFloats.map .converted ++
      Operation.common
  | .none => .converted .switch :: Operation.common
  | _ => Operation.common

end Understudy

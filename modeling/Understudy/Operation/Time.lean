import Understudy.Calendar.Pattern
import Understudy.Operation.Place

/-!
# Requests to dates with a time

A date with a time tells its day of the week and its text in several forms, and hands
out others like it. It belongs to no zone.

## Main definitions

* `needNumbers`: the numbers that arguments stand for.
* `operateMoment`: what comes of a request to a date and time.
-/

namespace Understudy

/-- The numbers that arguments stand for, none of which may be too wide. -/
def needNumbers : List Value → Action (List Int)
  | [] => return []
  | v :: rest => do
    let some n := v.whole?
      | throw (.operationArguments
          ("'" ++ (← get).fullTypeName v ++ "' object cannot be interpreted as an integer"))
    match Moment.widthFault? n with
    | some fault => throw (.badMoment fault)
    | none => return n :: (← needNumbers rest)

/-- A date and time with some of its parts replaced. It may be told to be the second one of
two that a clock shows alike. -/
def replaceParts (parts : List Value) (zone fold : Value) : Action Value := do
  let numbers ← needNumbers parts
  let folds ← needNumbers [fold]
  if !folds.all fun n => n = 0 || n = 1 then
    throw (.unfitOperand "fold must be either 0 or 1")
  match Moment.ofList numbers with
  | .ok m =>
    if !zone.isNone then
      throw (.operationArguments
        ("tzinfo argument must be None or of a tzinfo subclass, not type '" ++
          (← get).fullTypeName zone ++ "'"))
    hold (.moment 0 m)
  | .error fault => throw (.badMoment fault)

/-- What comes of asking for the text of a date and time. -/
def isoText (m : Moment) (separator part : Value) : Action Value := do
  let w ← get
  let misfit := fun type =>
    Fault.operationArguments ("isoformat() argument 1 must be a unicode character, not " ++ type)
  let some mark := separator.text? | throw (misfit (w.fullTypeName separator))
  if mark.length ≠ 1 then throw (misfit "str")
  let some word := part.text?
    | throw (.operationArguments
        ("isoformat() argument 2 must be str, not " ++ w.fullTypeName part))
  match m.isoText? mark word with
  | some text => renew (.ofText text)
  | none => throw (.missingItem "Unknown timespec value")

/-- The time of a day, by itself. -/
def clockTime (m : Moment) : Value :=
  let parts := [m.hour, m.minute] ++
    (if m.microsecond = 0 then if m.second = 0 then [] else [m.second]
     else [m.second, m.microsecond])
  .thing "time" (Value.bracketed "datetime.time(" ")" (parts.map toString))

/-- The time between two dates with a time, in days and what is left over of them. -/
def timeBetween (later earlier : Moment) : Value :=
  let micros := Int.ofNat later.micros - Int.ofNat earlier.micros
  let left := micros.fmod (Int.ofNat microsPerDay)
  let parts :=
    [("days", micros.fdiv (Int.ofNat microsPerDay)), ("seconds", left / Int.ofNat microsPerSecond),
      ("microseconds", left % Int.ofNat microsPerSecond)]
  let told := (parts.filter fun (_, n) => n != 0).map fun (name, n) => name ++ "=" ++ toString n
  .thing "timedelta"
    (Value.bracketed "datetime.timedelta(" ")" (if told.isEmpty then ["0"] else told))

/-- The seconds since the beginning of the year 1970, with their parts. The zone of a time on
the first day of all would have to be looked up before that day. -/
def epochTime (m : Moment) : Except Fault Value :=
  if m.date.number ≤ 1 then .error (.badMoment (.year 0))
  else .ok (.ofFloat (Float.ofInt m.epochSeconds + Float.ofNat m.microsecond / 1000000.0))

/-- What comes of a request to a date and time. -/
def operateMoment (m : Moment) (op : Operation) (args : List Value) : Action Value := do
  match op, args with
  | .weekday, _ => return .ofInt m.date.weekday
  | .isoWeekday, _ => return .ofInt (m.date.weekday + 1)
  | .ordinal, _ => renew (.ofInt m.date.number)
  | .timeText, _ => renew (.ofText (m.calendarText 4))
  | .clockTime, _ => return clockTime m
  | .calendarDate, _ =>
    let parts := [m.date.year, m.date.month, m.date.day].map toString
    return .thing "date" (Value.bracketed "datetime.date(" ")" parts)
  | .calendarWeek, _ =>
    let (year, week) := m.date.isoWeek
    hold (.tuple 0 [.ofInt year, .ofInt week, .ofInt (m.date.weekday + 1)])
  | .epochSeconds, _ => renew (← orFail (epochTime m))
  | .byPattern, [pattern] =>
    let w ← get
    match pattern.text? with
    | some pattern => renew (.ofText (m.byPattern pattern))
    | none =>
      throw (.operationArguments ("strftime() argument 1 must be str, not " ++
        (if pattern.isNone then "None" else w.fullTypeName pattern)))
  | .isoFormat, [separator, part] => isoText m separator part
  | .replace, [year, month, day, hour, minute, second, microsecond, zone, fold] =>
    replaceParts [year, month, day, hour, minute, second, microsecond] zone fold
  | .combined .subtract .right, [.moment _ other] => return timeBetween other m
  | .combined .subtract _, [.moment _ other] => return timeBetween m other
  | .combined _ _, _ => return .undecided
  | _, _ => return .none

end Understudy

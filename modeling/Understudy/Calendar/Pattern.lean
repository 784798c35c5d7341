import Understudy.Calendar
import Understudy.Decimal.Fixed

/-!
# The text of a date and time

A date and time is written as the standard for such texts has it, or by a pattern in
which every directive stands for one part of it. A directive is a percent sign, a flag
that may be left out, and a letter.

## Main definitions

* `Date.weekday`, `Date.isoWeek`: the day of the week, and the week of the year.
* `Moment.isoText?`: the text of a date and time down to a part of it.
* `Moment.byPattern`: the text of a date and time by a pattern.
-/

namespace Understudy

namespace Date

/-- The day of the week, counted from Monday. The first day of all is a Monday. -/
def weekday (d : Date) : Nat := (d.number + 6) % 7

/-- The number of a day within its year, counted from one. -/
def dayOfYear (d : Date) : Nat := d.number - daysBeforeYear d.year

/-- The number of the Monday with which the weeks of a year begin. The first week is the
one with the first Thursday. -/
def firstWeek (year : Nat) : Nat :=
  let newYear : Date := ⟨year, 1, 1⟩
  newYear.number - newYear.weekday + (if 3 < newYear.weekday then 7 else 0)

/-- The year and the week that a day belongs to. -/
def isoWeek (d : Date) : Nat × Nat :=
  let year :=
    if d.number < firstWeek d.year then d.year - 1
    else if firstWeek (d.year + 1) ≤ d.number then d.year + 1
    else d.year
  (year, (d.number - firstWeek year) / 7 + 1)

/-- The names of the days of the week. -/
def dayNames : List String :=
  ["Monday", "Tuesday", "Wednesday", "Thursday", "Friday", "Saturday", "Sunday"]

/-- The names of the months. -/
def monthNames : List String :=
  ["January", "February", "March", "April", "May", "June", "July", "August", "September",
    "October", "November", "December"]

/-- The name of the day of the week. -/
def dayName (d : Date) : String := dayNames.getD d.weekday ""

/-- The name of the month. -/
def monthName (d : Date) : String := monthNames.getD (d.month - 1) ""

end Date

/-- The first three letters of a name. -/
def shortName (name : String) : String := String.ofList (name.toList.take 3)

namespace Moment

/-- A number with zeros before it. -/
def digits (width n : Nat) : String := Decimal.padLeft width (toString n)

/-- A date, the year first. -/
def dateText (d : Date) : String :=
  digits 4 d.year ++ "-" ++ digits 2 d.month ++ "-" ++ digits 2 d.day

/-- The hours and the minutes. -/
def minutesText (m : Moment) : String := digits 2 m.hour ++ ":" ++ digits 2 m.minute

/-- The hours, the minutes and the seconds. -/
def secondsText (m : Moment) : String := m.minutesText ++ ":" ++ digits 2 m.second

/-- The text of a date and time, with a separator between them, down to a part of it. By
itself the text goes down to the seconds, and further if there are parts of them. -/
def isoText? (m : Moment) (separator part : String) : Option String :=
  let micros := m.secondsText ++ "." ++ digits 6 m.microsecond
  let time? := match part with
    | "auto" => some (if m.microsecond = 0 then m.secondsText else micros)
    | "hours" => some (digits 2 m.hour)
    | "minutes" => some m.minutesText
    | "seconds" => some m.secondsText
    | "milliseconds" => some (m.secondsText ++ "." ++ digits 3 (m.microsecond / 1000))
    | "microseconds" => some micros
    | _ => none
  time?.map fun time => dateText m.date ++ separator ++ time

/-- The seconds since the beginning of the year 1970. -/
def epochSeconds (m : Moment) : Int :=
  (Int.ofNat m.date.number - Int.ofNat (Date.number ⟨1970, 1, 1⟩)) * 86400 +
    Int.ofNat (m.hour * 3600 + m.minute * 60 + m.second)

/-! ## Patterns -/

/-- What a directive stands for: a text, or a number with the least width it is filled up
to, and what it is filled up with. -/
inductive Part where
  | word (s : String)
  | number (n width : Nat) (filler : Char)

/-- The flags of a directive. -/
def flags : List Char := ['-', '_', '0', '^']

/-- The text of a part. A flag tells to fill it up with nothing, with blanks or with zeros,
or to write it in capitals. -/
def Part.render (flag? : Option Char) : Part → String
  | .word s => if flag? = some '^' then s.map Char.toUpper else s
  | .number n width filler =>
    let shown := toString n
    let filler := match flag? with
      | some '_' => ' '
      | some '0' => '0'
      | _ => filler
    if flag? = some '-' then shown
    else String.ofList (List.replicate (width - shown.length) filler) ++ shown

/-- The hour on a clock face. -/
def faceHour (m : Moment) : Nat := (m.hour + 11) % 12 + 1

/-- The half of the day. -/
def dayHalf (m : Moment) : String := if m.hour < 12 then "AM" else "PM"

/-- The date as it is written in short. -/
def slashedDate (d : Date) : String :=
  digits 2 d.month ++ "/" ++ digits 2 d.day ++ "/" ++ digits 2 (d.year % 100)

/-- The text of a date and time with the names of the day and the month, the year filled up
to a width. -/
def calendarText (m : Moment) (width : Nat) : String :=
  shortName m.date.dayName ++ " " ++ shortName m.date.monthName ++ " " ++
    (Part.number m.date.day 2 ' ').render none ++ " " ++ m.secondsText ++ " " ++
    digits width m.date.year

/-- What the letter of a directive stands for. -/
def part? (m : Moment) (letter : Char) : Option Part :=
  let d := m.date
  let (weekYear, week) := d.isoWeek
  match letter with
  | '%' => some (.word "%")
  | 'n' => some (.word "\n")
  | 't' => some (.word "\t")
  | 'z' | 'Z' => some (.word "")
  | 'a' => some (.word (shortName d.dayName))
  | 'A' => some (.word d.dayName)
  | 'b' | 'h' => some (.word (shortName d.monthName))
  | 'B' => some (.word d.monthName)
  | 'c' => some (.word (m.calendarText 1))
  | 'D' | 'x' => some (.word (slashedDate d))
  | 'F' => some (.word (toString d.year ++ "-" ++ digits 2 d.month ++ "-" ++ digits 2 d.day))
  | 'R' => some (.word m.minutesText)
  | 'T' | 'X' => some (.word m.secondsText)
  | 'r' =>
    some (.word (digits 2 m.faceHour ++ ":" ++ digits 2 m.minute ++ ":" ++ digits 2 m.second ++
      " " ++ m.dayHalf))
  | 'p' => some (.word m.dayHalf)
  | 'P' => some (.word (m.dayHalf.map Char.toLower))
  | 'f' => some (.word (digits 6 m.microsecond))
  | 's' => some (.word (toString m.epochSeconds))
  | 'Y' => some (.number d.year 1 '0')
  | 'C' => some (.number (d.year / 100) 2 '0')
  | 'y' => some (.number (d.year % 100) 2 '0')
  | 'G' => some (.number weekYear 1 '0')
  | 'g' => some (.number (weekYear % 100) 2 '0')
  | 'V' => some (.number week 2 '0')
  | 'U' => some (.number ((d.dayOfYear + 6 - (d.weekday + 1) % 7) / 7) 2 '0')
  | 'W' => some (.number ((d.dayOfYear + 6 - d.weekday) / 7) 2 '0')
  | 'u' => some (.number (d.weekday + 1) 1 '0')
  | 'w' => some (.number ((d.weekday + 1) % 7) 1 '0')
  | 'm' => some (.number d.month 2 '0')
  | 'd' => some (.number d.day 2 '0')
  | 'e' => some (.number d.day 2 ' ')
  | 'j' => some (.number d.dayOfYear 3 '0')
  | 'H' => some (.number m.hour 2 '0')
  | 'k' => some (.number m.hour 2 ' ')
  | 'I' => some (.number m.faceHour 2 '0')
  | 'l' => some (.number m.faceHour 2 ' ')
  | 'M' => some (.number m.minute 2 '0')
  | 'S' => some (.number m.second 2 '0')
  | _ => none

/-- What a pattern says of a date and time, given what was read of a directive. A directive
that stands for nothing is left as it is. -/
def written (m : Moment) : List Char → List Char → List Char
  | pending, [] => pending
  | [], c :: rest => if c = '%' then m.written ['%'] rest else c :: m.written [] rest
  | mark :: given, c :: rest =>
    if given.isEmpty && flags.contains c then m.written [mark, c] rest
    else
      match m.part? c with
      | some part => (part.render given.head?).toList ++ m.written [] rest
      | none => mark :: given ++ c :: m.written [] rest

/-- The text of a date and time by a pattern. -/
def byPattern (m : Moment) (pattern : String) : String :=
  String.ofList (m.written [] pattern.toList)

end Moment

end Understudy

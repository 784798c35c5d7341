/-!
# Dates, times of day and the next midnight

A daily task that has no fixed interval runs at midnight. The delay until then is
the difference of two instants of the proleptic Gregorian calendar, exact to the
microsecond. The calendar ends with the year 9999, and the last day has no
midnight after it.

## Main definitions

* `Date`, `Moment`: a day, and a time on a day.
* `Date.next?`: the following day.
* `Date.number`, `Moment.micros`: positions on the line of days and of
  microseconds.
* `Moment.ofNumbers`, `Moment.ofList`: the time that numbers say.
* `Moment.untilMidnight?`: the microseconds until the following midnight.

## Main statements

* `Moment.valid_of_ofNumbers`, `Moment.ofNumbers_of_valid`: the numbers that are taken for
  a time are those of the times that the calendar holds.
* `Date.number_of_next?`: following days have following numbers.
* `Moment.untilMidnight?_eq_some_iff`: the delay, when there is one, leads to the
  start of the following day.
-/

namespace Understudy

/-- A calendar day. -/
structure Date where
  year : Nat
  month : Nat
  day : Nat
  deriving Repr, DecidableEq, Inhabited

/-- A time on a calendar day. -/
structure Moment where
  date : Date
  hour : Nat
  minute : Nat
  second : Nat
  microsecond : Nat
  deriving Repr, DecidableEq, Inhabited

/-! ## The calendar -/

/-- Every fourth year is a leap year, but of the full centuries only every fourth. -/
def isLeap (year : Nat) : Bool := year % 4 == 0 && (year % 100 != 0 || year % 400 == 0)

/-- How many days a month of a year has. -/
def daysIn (year month : Nat) : Nat :=
  match month with
  | 2 => if isLeap year then 29 else 28
  | 4 | 6 | 9 | 11 => 30
  | _ => 31

/-- How many days of a year lie before a month of it. -/
def daysBeforeMonth (year : Nat) : Nat → Nat
  | 0 => 0
  | 1 => 0
  | month + 1 => daysBeforeMonth year month + daysIn year month

/-- How many days lie before a year, counted from the start of year 1. -/
def daysBeforeYear (year : Nat) : Nat :=
  let past := year - 1
  365 * past + past / 4 - past / 100 + past / 400

namespace Date

/-- The last year of the calendar. -/
def lastYear : Nat := 9999

/-- A day the calendar holds. -/
def Valid (d : Date) : Prop :=
  1 ≤ d.year ∧ d.year ≤ lastYear ∧ 1 ≤ d.month ∧ d.month ≤ 12 ∧ 1 ≤ d.day ∧
    d.day ≤ daysIn d.year d.month

instance (d : Date) : Decidable d.Valid := by unfold Valid; infer_instance

/-- The following day, if the calendar holds one. -/
def next? (d : Date) : Option Date :=
  if d.day < daysIn d.year d.month then some { d with day := d.day + 1 }
  else if d.month < 12 then some { d with month := d.month + 1, day := 1 }
  else if d.year < lastYear then some { year := d.year + 1, month := 1, day := 1 }
  else none

/-- The position of a day on the line of days. -/
def number (d : Date) : Nat :=
  daysBeforeYear d.year + daysBeforeMonth d.year d.month + d.day

end Date

/-! ## The line of days

The number of a day is a sum over years and months, and the following day is
found by carrying. Both agree because a year is exactly as long as its months.
-/

/-- A year has 365 days, and one more when it is a leap year. -/
theorem daysBeforeYear_succ (year : Nat) (h : 1 ≤ year) :
    daysBeforeYear (year + 1) = daysBeforeYear year + 365 + if isLeap year then 1 else 0 := by
  obtain ⟨past, rfl⟩ : ∃ past, year = past + 1 := ⟨year - 1, by omega⟩
  have h4 : (past + 1) / 4 = past / 4 + if (past + 1) % 4 = 0 then 1 else 0 := by
    split <;> omega
  have h100 : (past + 1) / 100 = past / 100 + if (past + 1) % 100 = 0 then 1 else 0 := by
    split <;> omega
  have h400 : (past + 1) / 400 = past / 400 + if (past + 1) % 400 = 0 then 1 else 0 := by
    split <;> omega
  have centuries : past / 100 ≤ past / 4 := Nat.div_le_div_left (by decide) (by decide)
  have full : (past + 1) % 400 = 0 → (past + 1) % 100 = 0 := by omega
  have fourth : (past + 1) % 100 = 0 → (past + 1) % 4 = 0 := by omega
  simp only [daysBeforeYear, isLeap, Nat.add_sub_cancel, h4, h100, h400]
  generalize past / 4 = a at *
  generalize past / 100 = b at *
  generalize past / 400 = c at *
  by_cases h1 : (past + 1) % 4 = 0 <;> by_cases h2 : (past + 1) % 100 = 0 <;>
    by_cases h3 : (past + 1) % 400 = 0 <;> simp_all <;> omega

/-- The months of a year before December, with 31 days to come. -/
theorem daysBeforeMonth_december (year : Nat) :
    daysBeforeMonth year 12 + 31 = 365 + if isLeap year then 1 else 0 := by
  cases h : isLeap year <;> simp [daysBeforeMonth, daysIn, h]

/-- The months before the following month are those before this one and this one. -/
theorem daysBeforeMonth_succ (year month : Nat) (h : 1 ≤ month) :
    daysBeforeMonth year (month + 1) = daysBeforeMonth year month + daysIn year month := by
  cases month with
  | zero => omega
  | succ m => rfl

namespace Date

/-- The following day is held by the calendar too. -/
theorem Valid.of_next? {d e : Date} (hd : d.Valid) (h : d.next? = some e) : e.Valid := by
  obtain ⟨hy, hy', hm, hm', hday, hday'⟩ := hd
  have pos : ∀ y m, 1 ≤ daysIn y m := by
    intro y m
    unfold daysIn
    split <;> first | (split <;> omega) | omega
  unfold next? at h
  split at h
  · cases h
    exact ⟨hy, hy', hm, hm', by simp, by simpa using by assumption⟩
  · split at h
    · cases h
      exact ⟨hy, hy', by simp, by simp; omega, by simp, pos _ _⟩
    · split at h
      · cases h
        exact ⟨by simp, by simpa using by assumption, by simp, by simp, by simp, pos _ _⟩
      · cases h

/-- Following days have following numbers. -/
theorem number_of_next? {d e : Date} (hd : d.Valid) (h : d.next? = some e) :
    e.number = d.number + 1 := by
  obtain ⟨hy, hy', hm, hm', hday, hday'⟩ := hd
  unfold next? at h
  split at h
  · cases h
    simp only [number]
    omega
  · split at h
    · cases h
      simp only [number, daysBeforeMonth_succ _ _ hm]
      omega
    · split at h
      · cases h
        rename_i hlast hdecember _
        have hmonth : d.month = 12 := by omega
        have hyear := daysBeforeMonth_december d.year
        have hlen : daysIn d.year 12 = 31 := rfl
        have hfirst : daysBeforeMonth (d.year + 1) 1 = 0 := rfl
        rw [hmonth] at hday' hlast
        simp only [number, daysBeforeYear_succ _ hy, hmonth, hfirst]
        omega
      · cases h

end Date

/-! ## Times -/

/-- Microseconds of one second and of one day. -/
def microsPerSecond : Nat := 1000000

@[inherit_doc microsPerSecond]
def microsPerDay : Nat := 86400 * microsPerSecond

/-- Why numbers are no time. -/
inductive MomentFault where
  /-- A number of more than 64 bits. -/
  | beyondLong
  /-- A number that is too large for 32 bits. -/
  | tooLarge
  /-- A number that is too far below zero for 32 bits. -/
  | tooSmall
  /-- A year that the calendar does not hold. -/
  | year (n : Int)
  | month
  | day
  | hour
  | minute
  | second
  | microsecond
  deriving Repr, DecidableEq

namespace Moment

/-- A time the calendar holds. -/
def Valid (m : Moment) : Prop :=
  m.date.Valid ∧ m.hour < 24 ∧ m.minute < 60 ∧ m.second < 60 ∧
    m.microsecond < microsPerSecond

instance (m : Moment) : Decidable m.Valid := by unfold Valid; infer_instance

/-- Why a number can be no part of a time, whichever part it is: a part has 32 bits and
is read as a word of 64 bits. -/
def widthFault? (n : Int) : Option MomentFault :=
  if n < -9223372036854775808 ∨ 9223372036854775808 ≤ n then some .beyondLong
  else if 2147483648 ≤ n then some .tooLarge
  else if n < -2147483648 then some .tooSmall
  else none

/-- The time that seven numbers say, from the year to the microsecond. Of several faults
the first one counts, and a number that is too wide counts before any other fault. -/
def ofNumbers (year month day hour minute second microsecond : Int) :
    Except MomentFault Moment :=
  match [year, month, day, hour, minute, second, microsecond].findSome? widthFault? with
  | some fault => .error fault
  | none =>
    if ¬(1 ≤ year ∧ year ≤ Date.lastYear) then .error (.year year)
    else if ¬(1 ≤ month ∧ month ≤ 12) then .error .month
    else if ¬(1 ≤ day ∧ day ≤ daysIn year.toNat month.toNat) then .error .day
    else if ¬(0 ≤ hour ∧ hour < 24) then .error .hour
    else if ¬(0 ≤ minute ∧ minute < 60) then .error .minute
    else if ¬(0 ≤ second ∧ second < 60) then .error .second
    else if ¬(0 ≤ microsecond ∧ microsecond < microsPerSecond) then .error .microsecond
    else .ok ⟨⟨year.toNat, month.toNat, day.toNat⟩, hour.toNat, minute.toNat, second.toNat,
      microsecond.toNat⟩

/-- The time that a list of numbers says. Those that are left out at its end are zero. -/
def ofList (numbers : List Int) : Except MomentFault Moment :=
  let n := fun i => numbers.getD i 0
  ofNumbers (n 0) (n 1) (n 2) (n 3) (n 4) (n 5) (n 6)

/-- The calendar holds whatever numbers are taken for a time. -/
theorem valid_of_ofNumbers {year month day hour minute second microsecond : Int} {m : Moment}
    (h : ofNumbers year month day hour minute second microsecond = .ok m) : m.Valid := by
  unfold ofNumbers at h
  split at h
  · cases h
  · -- Every test that is not passed ends in a fault.
    repeat' split at h
    all_goals cases h
    simp only [Valid, Date.Valid] at *
    omega

/-- A time that the calendar holds is said by its own numbers. -/
theorem ofNumbers_of_valid {m : Moment} (h : m.Valid) :
    ofNumbers m.date.year m.date.month m.date.day m.hour m.minute m.second m.microsecond =
      .ok m := by
  obtain ⟨⟨hy, hy', hm, hm', hd, hd'⟩, hh, hmin, hs, hu⟩ := h
  have short : daysIn m.date.year m.date.month ≤ 31 := by
    unfold daysIn
    split <;> (try split) <;> omega
  have fits : ∀ n : Nat, n < 2147483648 → widthFault? (n : Int) = none := by
    intro n hn
    unfold widthFault?
    rw [if_neg (by omega), if_neg (by omega), if_neg (by omega)]
  have narrow : [(m.date.year : Int), m.date.month, m.date.day, m.hour, m.minute, m.second,
      m.microsecond].findSome? widthFault? = none := by
    simp only [Date.lastYear, microsPerSecond] at hy' hu
    simp only [List.findSome?_eq_none_iff, List.mem_cons, List.not_mem_nil, or_false]
    rintro n (rfl | rfl | rfl | rfl | rfl | rfl | rfl) <;> exact fits _ (by omega)
  unfold ofNumbers
  rw [narrow]
  simp only [Int.toNat_natCast]
  rw [if_neg (by omega), if_neg (by omega), if_neg (by omega), if_neg (by omega),
    if_neg (by omega), if_neg (by omega), if_neg (by omega)]

end Moment

/-! ## Midnight -/

namespace Moment

/-- Microseconds since the day began. -/
def sinceMidnight (m : Moment) : Nat :=
  ((m.hour * 60 + m.minute) * 60 + m.second) * microsPerSecond + m.microsecond

/-- The position of a time on the line of microseconds. -/
def micros (m : Moment) : Nat := m.date.number * microsPerDay + m.sinceMidnight

/-- The start of a day. -/
def midnightOf (d : Date) : Moment := ⟨d, 0, 0, 0, 0⟩

/-- Microseconds until the start of the following day, if the calendar holds that
day. -/
def untilMidnight? (now : Moment) : Option Nat :=
  now.date.next?.map fun day => (midnightOf day).micros - now.micros

/-- A day is longer than any time of day. -/
theorem sinceMidnight_lt {m : Moment} (h : m.Valid) : m.sinceMidnight < microsPerDay := by
  obtain ⟨-, hh, hm, hs, hu⟩ := h
  unfold sinceMidnight
  simp only [microsPerDay, microsPerSecond] at *
  omega

/-- The delay, when there is one, is at most a day, and leads to the start of the
following day. -/
theorem untilMidnight?_eq_some_iff {now : Moment} (h : now.Valid) (delay : Nat) :
    now.untilMidnight? = some delay ↔
      ∃ day, now.date.next? = some day ∧ now.micros + delay = (midnightOf day).micros := by
  unfold untilMidnight?
  constructor
  · intro hd
    obtain ⟨day, hday, rfl⟩ := Option.map_eq_some_iff.1 hd
    refine ⟨day, hday, ?_⟩
    have hn := Date.number_of_next? h.1 hday
    have hs := sinceMidnight_lt h
    simp only [micros, midnightOf, sinceMidnight, hn, Nat.add_mul, Nat.one_mul] at *
    omega
  · rintro ⟨day, hday, he⟩
    simp only [hday, Option.map_some, Option.some.injEq]
    omega

/-- Seconds until the following midnight, as a float. A whole day has fewer
microseconds than a float has whole numbers, so the quotient is rounded once. -/
def secondsUntilMidnight? (now : Moment) : Option Float :=
  now.untilMidnight?.map fun delay => Float.ofNat delay / Float.ofNat microsPerSecond

end Moment

end Understudy

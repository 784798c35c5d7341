import Mathlib.Logic.ExistsUnique
import Understudy.Daily
import Understudy.Proofs.Running

/-!
# One midnight after the other

The delay until midnight is found by carrying: a day more, then the month, then the year. Whether
it leads where it should is a question about the line of days, on which every day of the calendar
has its place. So days are read off the line again, without any carrying, and so are times. To wait
for a delay is to move on along the line and to read off the time there.

Whoever waits for one midnight after the other then meets every later day of the calendar, each of
them once and in order.

## Main definitions

* `Date.ofNumber?`, `Moment.ofMicros?`: what lies at a place of the line.
* `Moment.plus?`: the time a delay after another time.
* `Moment.midnight?`: the time after waiting for a number of midnights.
* `Moment.MeetsMidnights`: what is to be expected of the delay until midnight.

## Main statements

* `Date.ofNumber?_eq_some_iff`, `Moment.ofMicros?_eq_some_iff`: what is read off is what lies there.
* `Date.number_lt_iff`: the line has the days in the order of the calendar.
* `Moment.meetsMidnights`: the delay until midnight is what is to be expected.
-/

namespace Understudy

/-! ## Places that are reached by steps of some length -/

/-- Where the steps up to a place are summed up in `before`, the places in between have their
own steps between them. -/
theorem add_step_le {before step : Nat → Nat}
    (hstep : ∀ k, 1 ≤ k → before (k + 1) = before k + step k) {k j : Nat} (hk : 1 ≤ k)
    (hlt : k < j) : before k + step k ≤ before j := by
  induction hlt with
  | refl => exact Nat.le_of_eq (hstep k hk).symm
  | @step j hj ih =>
    have hnext : before (j + 1) = before j + step j :=
      hstep j (Nat.le_trans hk (Nat.le_of_lt hj))
    exact Nat.le_trans ih (hnext ▸ Nat.le_add_right _ _)

/-- The last place from one up to a limit that has fewer than `n` before it. Zero if there is
none. -/
def lastBelow (before : Nat → Nat) (n : Nat) : Nat → Nat
  | 0 => 0
  | k + 1 => if before (k + 1) < n then k + 1 else lastBelow before n k

/-- The place that is found has fewer before it, and the ones after it have not. -/
theorem lastBelow_eq {before : Nat → Nat} {n k limit : Nat} (hk : before k < n)
    (hlimit : k ≤ limit) (hlate : ∀ j, k < j → n ≤ before j) : lastBelow before n limit = k := by
  induction limit with
  | zero => exact (Nat.le_zero.1 hlimit).symm
  | succ limit ih =>
    unfold lastBelow
    by_cases hlast : k = limit + 1
    · rw [if_pos (hlast ▸ hk), hlast]
    · have hlt : k < limit + 1 := Nat.lt_of_le_of_ne hlimit hlast
      rw [if_neg (Nat.not_lt.2 (hlate _ hlt))]
      exact ih (Nat.le_of_lt_succ hlt)

/-! ## Days by their numbers -/

/-- How many days a year has. -/
def daysOf (year : Nat) : Nat := 365 + if isLeap year then 1 else 0

/-- The days of a year before a later year. -/
theorem daysBeforeYear_add_le {year other : Nat} (h : 1 ≤ year) (hlt : year < other) :
    daysBeforeYear year + daysOf year ≤ daysBeforeYear other := by
  have hsucc (y : Nat) (hy : 1 ≤ y) : daysBeforeYear (y + 1) = daysBeforeYear y + daysOf y :=
    (daysBeforeYear_succ y hy).trans (Nat.add_assoc _ _ _)
  exact add_step_le hsucc h hlt

/-- The days of a month before a later month. -/
theorem daysBeforeMonth_add_le (year : Nat) {month other : Nat} (h : 1 ≤ month)
    (hlt : month < other) :
    daysBeforeMonth year month + daysIn year month ≤ daysBeforeMonth year other :=
  add_step_le (daysBeforeMonth_succ year) h hlt

namespace Date

/-- The last day of the calendar. -/
def last : Date := ⟨lastYear, 12, 31⟩

/-- The day that has a number, if the calendar holds one: the last year that begins before it, the
last month of that year that does, and the days that are left. -/
def ofNumber? (n : Nat) : Option Date :=
  let year := lastBelow daysBeforeYear n lastYear
  let ofYear := n - daysBeforeYear year
  let month := lastBelow (daysBeforeMonth year) ofYear 12
  let day : Date := ⟨year, month, ofYear - daysBeforeMonth year month⟩
  if day.Valid ∧ day.number = n then some day else none

/-- A day lies in its year. -/
theorem Valid.ofYear_le {d : Date} (h : d.Valid) :
    daysBeforeMonth d.year d.month + d.day ≤ daysOf d.year := by
  obtain ⟨_, _, hm, hm', _, hday⟩ := h
  have hend : daysBeforeMonth d.year 13 = daysOf d.year := daysBeforeMonth_december d.year
  have hmonth : daysBeforeMonth d.year d.month + daysIn d.year d.month ≤
      daysBeforeMonth d.year 13 := daysBeforeMonth_add_le d.year hm (Nat.lt_succ_of_le hm')
  omega

/-- What is read off at a place of the line is the day that has this number. -/
theorem ofNumber?_eq_some_iff {n : Nat} {d : Date} :
    ofNumber? n = some d ↔ d.Valid ∧ d.number = n := by
  constructor
  · intro h
    simp only [ofNumber?] at h
    split at h
    · rename_i hheld
      exact Option.some.inj h ▸ hheld
    · cases h
  · rintro ⟨hvalid, rfl⟩
    have hofYear := hvalid.ofYear_le
    obtain ⟨hy, hy', hm, hm', hday, hday'⟩ := hvalid
    have hyear : lastBelow daysBeforeYear d.number lastYear = d.year := by
      refine lastBelow_eq ?_ hy' fun other hother => ?_
      · rw [number]
        omega
      · have := daysBeforeYear_add_le hy hother
        rw [number]
        omega
    have hrest : d.number - daysBeforeYear d.year = daysBeforeMonth d.year d.month + d.day := by
      rw [number]
      omega
    have hmonth : lastBelow (daysBeforeMonth d.year) (daysBeforeMonth d.year d.month + d.day) 12 =
        d.month := by
      refine lastBelow_eq (by omega) hm' fun other hother => ?_
      have := daysBeforeMonth_add_le d.year hm hother
      omega
    simp only [ofNumber?, hyear, hrest, hmonth, Nat.add_sub_cancel_left]
    exact if_pos ⟨⟨hy, hy', hm, hm', hday, hday'⟩, trivial⟩

/-- One day comes before another one in the calendar. -/
def Before (d e : Date) : Prop :=
  d.year < e.year ∨ d.year = e.year ∧ (d.month < e.month ∨ d.month = e.month ∧ d.day < e.day)

theorem number_lt_of_before {d e : Date} (hd : d.Valid) (he : e.Valid) (h : d.Before e) :
    d.number < e.number := by
  have hofYear := hd.ofYear_le
  obtain ⟨hy, _, hm, _, _, hday⟩ := hd
  obtain ⟨_, _, _, _, hday', _⟩ := he
  unfold number
  rcases h with hyear | ⟨hyear, hmonth | ⟨hmonth, hlt⟩⟩
  · have := daysBeforeYear_add_le hy hyear
    omega
  · have := daysBeforeMonth_add_le d.year hm hmonth
    rw [← hyear]
    omega
  · rw [← hyear, ← hmonth]
    omega

/-- The line has the days in the order of the calendar. -/
theorem number_lt_iff {d e : Date} (hd : d.Valid) (he : e.Valid) :
    d.number < e.number ↔ d.Before e := by
  refine ⟨fun hlt => ?_, number_lt_of_before hd he⟩
  -- Of two days one is before the other, or they are the same one.
  have htotal : d.Before e ∨ e.Before d ∨ d = e := by
    obtain ⟨y, m, a⟩ := d
    obtain ⟨y', m', a'⟩ := e
    simp only [Before, mk.injEq]
    omega
  rcases htotal with hbefore | hafter | rfl
  · exact hbefore
  · exact absurd hlt (Nat.lt_asymm (number_lt_of_before he hd hafter))
  · exact absurd hlt (Nat.lt_irrefl _)

/-- No day of the calendar comes after the last one. -/
theorem Valid.number_le {d : Date} (h : d.Valid) : d.number ≤ last.number := by
  refine Nat.not_lt.1 fun hlt => ?_
  have hbefore : last.Before d := (number_lt_iff (by decide) h).1 hlt
  obtain ⟨_, hy', _, hm', _, hday'⟩ := h
  rcases hbefore with hyear | ⟨_, hmonth | ⟨hmonth, hday⟩⟩
  · exact absurd hy' (Nat.not_le.2 hyear)
  · exact absurd hm' (Nat.not_le.2 hmonth)
  · rw [← hmonth] at hday'
    exact absurd hday' (Nat.not_le.2 hday)

/-- Beyond the last day the line is empty. -/
theorem ofNumber?_eq_none {n : Nat} (h : last.number < n) : ofNumber? n = none := by
  cases hday : ofNumber? n with
  | none => rfl
  | some d =>
    obtain ⟨hvalid, rfl⟩ := ofNumber?_eq_some_iff.1 hday
    exact absurd hvalid.number_le (Nat.not_le.2 h)

/-- Only the last day of the calendar has none after it. -/
theorem next?_eq_none_iff {d : Date} (h : d.Valid) : d.next? = none ↔ d = last := by
  obtain ⟨hy, hy', hm, hm', hday, hday'⟩ := h
  constructor
  · intro hnone
    unfold next? at hnone
    split at hnone
    · cases hnone
    split at hnone
    · cases hnone
    split at hnone
    · cases hnone
    rename_i hmonthEnd hdecember hyearEnd
    have hmonth : d.month = 12 := by omega
    have hlength : daysIn d.year 12 = 31 := rfl
    rw [hmonth, hlength] at hday' hmonthEnd
    obtain ⟨y, m, a⟩ := d
    simp only [last, mk.injEq]
    dsimp only at hy' hyearEnd hmonth hday' hmonthEnd
    omega
  · rintro rfl
    rfl

/-- The following day is the one with the next number. -/
theorem next?_eq (d : Date) (h : d.Valid) : d.next? = ofNumber? (d.number + 1) := by
  cases hnext : d.next? with
  | some e => exact (ofNumber?_eq_some_iff.2 ⟨h.of_next? hnext, number_of_next? h hnext⟩).symm
  | none =>
    obtain rfl := (next?_eq_none_iff h).1 hnext
    exact (ofNumber?_eq_none (Nat.lt_succ_self _)).symm

end Date

/-! ## Times by their places -/

namespace Moment

/-- The time at a place of the line of microseconds, if the calendar holds it. -/
def ofMicros? (n : Nat) : Option Moment :=
  let seconds := n % microsPerDay / microsPerSecond
  (Date.ofNumber? (n / microsPerDay)).map fun date =>
    ⟨date, seconds / 3600, seconds / 60 % 60, seconds % 60, n % microsPerSecond⟩

/-- The time that lies a number of microseconds after another one, if the calendar holds it. -/
def plus? (m : Moment) (delay : Nat) : Option Moment := ofMicros? (m.micros + delay)

/-- What is read off at a place of the line is the time that lies there. -/
theorem ofMicros?_eq_some_iff {n : Nat} {m : Moment} :
    ofMicros? n = some m ↔ m.Valid ∧ m.micros = n := by
  constructor
  · intro h
    obtain ⟨date, hdate, rfl⟩ := Option.map_eq_some_iff.1 h
    obtain ⟨hvalid, hnumber⟩ := Date.ofNumber?_eq_some_iff.1 hdate
    refine ⟨⟨hvalid, ?_⟩, ?_⟩
    · simp only [microsPerDay, microsPerSecond]
      omega
    · simp only [micros, sinceMidnight, hnumber, microsPerDay, microsPerSecond]
      omega
  · rintro ⟨hvalid, rfl⟩
    have hdate := Date.ofNumber?_eq_some_iff.2 ⟨hvalid.1, rfl⟩
    have hlt := sinceMidnight_lt hvalid
    obtain ⟨-, hh, hm, hs, hu⟩ := hvalid
    have hday : m.micros / microsPerDay = m.date.number := by
      simp only [micros, microsPerDay, microsPerSecond] at *
      omega
    have hrest : m.micros % microsPerDay = m.sinceMidnight := by
      simp only [micros, microsPerDay, microsPerSecond] at *
      omega
    have hmicros : m.micros % microsPerSecond = m.microsecond := by
      simp only [micros, sinceMidnight, microsPerDay, microsPerSecond] at *
      omega
    rw [ofMicros?, hday, hdate, hrest, hmicros, Option.map_some]
    obtain ⟨date, hour, minute, second, microsecond⟩ := m
    simp only [sinceMidnight, microsPerSecond, Option.some.injEq, mk.injEq, true_and, and_true] at *
    omega

/-- A day begins at midnight. -/
theorem valid_midnightOf {d : Date} (h : d.Valid) : (midnightOf d).Valid :=
  ⟨h, Nat.succ_pos 23, Nat.succ_pos 59, Nat.succ_pos 59, Nat.succ_pos 999999⟩

/-- The time after waiting for a number of midnights, each found from the one before. -/
def midnight? : Nat → Moment → Option Moment
  | 0, now => some now
  | k + 1, now => (now.untilMidnight?.bind now.plus?).bind (midnight? k)

/-- To wait for midnight is to wait until the following day begins. -/
theorem onward (now : Moment) (h : now.Valid) :
    now.untilMidnight?.bind now.plus? =
      (Date.ofNumber? (now.date.number + 1)).map midnightOf := by
  rw [← now.date.next?_eq h.1]
  cases hnext : now.date.next? with
  | none => simp [untilMidnight?, hnext]
  | some day =>
    have hdelay : now.untilMidnight? = some ((midnightOf day).micros - now.micros) := by
      rw [untilMidnight?, hnext]
      rfl
    obtain ⟨day', hday', hlands⟩ := (untilMidnight?_eq_some_iff h _).1 hdelay
    obtain rfl : day = day' := Option.some.inj (hnext.symm.trans hday')
    rw [hdelay, Option.bind_some, Option.map_some, plus?, ofMicros?_eq_some_iff]
    exact ⟨valid_midnightOf (h.1.of_next? hnext), hlands.symm⟩

/-- After waiting for one midnight and more, it is the beginning of the day that is as many days
later. -/
theorem midnight?_succ (now : Moment) (h : now.Valid) (k : Nat) :
    now.midnight? (k + 1) = (Date.ofNumber? (now.date.number + (k + 1))).map midnightOf := by
  induction k generalizing now with
  | zero =>
    rw [midnight?, now.onward h]
    cases Date.ofNumber? (now.date.number + 1) <;> rfl
  | succ k ih =>
    rw [midnight?, now.onward h]
    cases hday : Date.ofNumber? (now.date.number + 1) with
    | some day =>
      obtain ⟨hvalid, hnumber⟩ := Date.ofNumber?_eq_some_iff.1 hday
      have hrest := ih (midnightOf day) (valid_midnightOf hvalid)
      have hplace : day.number + (k + 1) = now.date.number + (k + 1 + 1) := by omega
      exact hrest.trans (congrArg (fun n => (Date.ofNumber? n).map midnightOf) hplace)
    | none =>
      have hlast := (Date.next?_eq_none_iff h.1).1 ((now.date.next?_eq h.1).trans hday)
      rw [hlast, Date.ofNumber?_eq_none (by omega)]
      rfl

/-- After waiting for some midnights it is the beginning of a day exactly if the day is as many days
later. -/
theorem midnight?_eq_some_iff {now : Moment} (h : now.Valid) {k : Nat} (hk : 1 ≤ k) {d : Date}
    (hd : d.Valid) :
    now.midnight? k = some (midnightOf d) ↔ d.number = now.date.number + k := by
  obtain ⟨k, rfl⟩ := Nat.exists_eq_succ_of_ne_zero (Nat.one_le_iff_ne_zero.1 hk)
  rw [now.midnight?_succ h, Option.map_eq_some_iff]
  constructor
  · rintro ⟨day, hday, hsame⟩
    obtain rfl : day = d := congrArg Moment.date hsame
    exact (Date.ofNumber?_eq_some_iff.1 hday).2
  · exact fun hnumber => ⟨d, Date.ofNumber?_eq_some_iff.2 ⟨hd, hnumber⟩, rfl⟩

/-! ## What is to be expected -/

/-- The delay until midnight is what is to be expected at a time. -/
structure MeetsMidnights (now : Moment) : Prop where
  /-- There is none on the last day, because the calendar has no day after it. -/
  fails (w : World) : (∃ fault, w.outcome (untilMidnight now) = .error fault ∧
    fault.kind = "OverflowError") ↔ now.date = Date.last
  /-- On every other day it is answered in seconds, is a day at most, and leads to the beginning of
  the following day. -/
  leads (h : now.date ≠ Date.last) : ∃ delay : Nat, now.untilMidnight? = some delay ∧
    (∀ w : World, ∃ serial, w.outcome (untilMidnight now) =
      .ok (.float serial (Float.ofNat delay / Float.ofNat microsPerSecond))) ∧
    0 < delay ∧ delay ≤ 86400 * microsPerSecond ∧
    ∃ day, Date.ofNumber? (now.date.number + 1) = some day ∧
      now.plus? delay = some (midnightOf day)
  /-- One after the other the midnights are those of the days that follow, as long as there are
  any. -/
  follows (k : Nat) (hk : 1 ≤ k) :
    now.midnight? k = (Date.ofNumber? (now.date.number + k)).map midnightOf
  /-- Every later day of the calendar is met, and once only. -/
  meets (d : Date) (hd : d.Valid) (hlater : now.date.Before d) :
    ∃! k, 1 ≤ k ∧ now.midnight? k = some (midnightOf d)

/-- A delay is answered as it is, and a missing one is a date beyond the calendar. -/
theorem outcome_untilMidnight (now : Moment) (w : World) :
    (∃ delay serial, now.untilMidnight? = some delay ∧ w.outcome (Understudy.untilMidnight now) =
        .ok (.float serial (Float.ofNat delay / Float.ofNat microsPerSecond))) ∨
      now.untilMidnight? = none ∧
        w.outcome (Understudy.untilMidnight now) = .error .dateRange := by
  unfold Understudy.untilMidnight secondsUntilMidnight?
  cases now.untilMidnight? with
  | some delay => exact .inl ⟨delay, w.nextSerial, rfl, rfl⟩
  | none => exact .inr ⟨rfl, rfl⟩

/-- At every time of the calendar the delay until midnight is what is to be expected. -/
theorem meetsMidnights {now : Moment} (h : now.Valid) : now.MeetsMidnights := by
  have hnone : now.untilMidnight? = none ↔ now.date = Date.last := by
    rw [untilMidnight?, Option.map_eq_none_iff, Date.next?_eq_none_iff h.1]
  refine ⟨fun w => ?_, fun hlast => ?_, fun k hk => ?_, fun d hd hlater => ?_⟩
  · rw [← hnone]
    rcases now.outcome_untilMidnight w with ⟨delay, serial, hdelay, hok⟩ | ⟨hdelay, hfault⟩
    · rw [hok, hdelay]
      simp only [reduceCtorEq, false_and, exists_false]
    · exact ⟨fun _ => hdelay, fun _ => ⟨_, hfault, rfl⟩⟩
  · obtain ⟨delay, hdelay⟩ := Option.ne_none_iff_exists'.1 (mt hnone.1 hlast)
    have honward := now.onward h
    obtain ⟨day, hday, hlands⟩ := (untilMidnight?_eq_some_iff h delay).1 hdelay
    have hnumber := Date.number_of_next? h.1 hday
    have hsince := sinceMidnight_lt h
    rw [hdelay, Option.bind_some, ← now.date.next?_eq h.1, hday] at honward
    refine ⟨delay, hdelay, fun w => ?_, ?_, ?_, day, (now.date.next?_eq h.1) ▸ hday, honward⟩
    · rcases now.outcome_untilMidnight w with ⟨_, serial, hsame, hok⟩ | ⟨hno, _⟩
      · obtain rfl := Option.some.inj (hdelay.symm.trans hsame)
        exact ⟨serial, hok⟩
      · cases hno.symm.trans hdelay
    all_goals
      simp only [micros, midnightOf, sinceMidnight, hnumber, microsPerDay, microsPerSecond] at *
      omega
  · obtain ⟨k, rfl⟩ := Nat.exists_eq_succ_of_ne_zero (Nat.one_le_iff_ne_zero.1 hk)
    exact now.midnight?_succ h k
  · have hlt := (Date.number_lt_iff h.1 hd).2 hlater
    refine ⟨d.number - now.date.number, ⟨by omega, ?_⟩, ?_⟩
    · exact (midnight?_eq_some_iff h (by omega) hd).2 (by omega)
    · rintro k ⟨hk, hmet⟩
      have := (midnight?_eq_some_iff h hk hd).1 hmet
      omega

/-- The last microsecond but one of a February with a leap day to come. -/
def leapEve : Moment := ⟨⟨2024, 2, 28⟩, 23, 59, 59, 999998⟩

/-- The leap day begins two microseconds later, and March on the day after. -/
theorem leapEve_meetsMidnights :
    leapEve.Valid ∧ leapEve.untilMidnight? = some 2 ∧
      leapEve.midnight? 1 = some (midnightOf ⟨2024, 2, 29⟩) ∧
      leapEve.midnight? 2 = some (midnightOf ⟨2024, 3, 1⟩) ∧ leapEve.MeetsMidnights := by
  have h : leapEve.Valid := by decide
  have hmeets := meetsMidnights h
  have hday (d : Date) (hd : d.Valid) (k : Nat) (hk : 1 ≤ k)
      (hnumber : d.number = leapEve.date.number + k) :
      leapEve.midnight? k = some (midnightOf d) := by
    rw [hmeets.follows k hk, Date.ofNumber?_eq_some_iff.2 ⟨hd, hnumber⟩]
    rfl
  exact ⟨h, by decide +kernel, hday _ (by decide) 1 (Nat.le_refl 1) (by decide +kernel),
    hday _ (by decide) 2 (by decide) (by decide +kernel), hmeets⟩

end Moment

end Understudy

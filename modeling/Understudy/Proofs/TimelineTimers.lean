import Understudy.Timeline

/-!
# The timers of a timeline

A timer is known by its number for good. Arming gives out the next number, and every other
operation changes one timer in place. The timer that is taken next is one that was not taken
before, however the others stand in the row.

## Main statements

* `Timeline.timer?_schedule`, `Timeline.timer?_take`: what an operation changes.
* `Timeline.timer?_of_next?`: the next timer is one that waits.
-/

namespace Understudy

/-- What was taken is no longer live. -/
theorem Timer.live_of_taken {found : Option Timer} {timer : Timer}
    (h : found.map (fun timer => { timer with taken := true }) = some timer) :
    timer.live = false := by
  obtain ⟨_, _, rfl⟩ := Option.map_eq_some_iff.1 h
  exact Bool.and_false _

/-- What was cancelled is no longer live. -/
theorem Timer.live_of_cancelled {found : Option Timer} {timer : Timer}
    (h : found.map (fun timer => { timer with cancelled := true }) = some timer) :
    timer.live = false := by
  obtain ⟨_, _, rfl⟩ := Option.map_eq_some_iff.1 h
  rfl

namespace Timeline

variable (t : Timeline)

/-! ## What an operation changes -/

/-- The number that is given out next is that of a timer added at the end. -/
theorem timer?_append (timer : Timer) (seq : Nat) (waiting : Array Nat) :
    Timeline.timer? ⟨t.now, t.timers ++ [timer], waiting⟩ seq =
      if seq = t.nextSeq then some timer else t.timer? seq := by
  cases seq with
  | zero => rfl
  | succ i =>
    simp only [timer?, nextSeq, Nat.add_right_cancel_iff]
    by_cases h : i = t.timers.length
    · rw [if_pos h, h, List.getElem?_concat_length]
    · rw [if_neg h, List.getElem?_append]
      split
      · rfl
      · rename_i hge
        have hlt : t.timers.length < i := Nat.lt_of_le_of_ne (Nat.le_of_not_lt hge) (Ne.symm h)
        rw [List.getElem?_eq_none (Nat.le_of_lt hlt), List.getElem?_eq_none]
        simp only [List.length_cons, List.length_nil]
        omega

theorem timer?_schedule (due : Float) (alarm : Alarm) (seq : Nat) :
    (t.schedule due alarm).timer? seq =
      if seq = t.nextSeq then some { due := due, alarm := alarm } else t.timer? seq :=
  t.timer?_append _ seq _

theorem timer?_skip (seq : Nat) :
    t.skip.timer? seq =
      if seq = t.nextSeq then some { due := 0.0, alarm := .direct .none, taken := true }
      else t.timer? seq :=
  t.timer?_append _ seq _

/-- A change of one timer, with the timer that it changes. -/
theorem timer?_modify_eq (seq other : Nat) (f : Timer → Timer) :
    (t.modify seq f).timer? other =
      if other = seq then (t.timer? seq).map f else t.timer? other := by
  rw [timer?_modify]
  by_cases h : other = seq
  · rw [if_pos h, if_pos h, h]
  · rw [if_neg h, if_neg h]

theorem timer?_take (seq other : Nat) :
    (t.take seq).timer? other =
      if other = seq then (t.timer? seq).map fun timer => { timer with taken := true }
      else t.timer? other := by
  rw [← timer?_modify_eq]
  rfl

theorem timer?_reach (seq other : Nat) (due : Float) :
    (t.reach seq due).timer? other =
      if other = seq then (t.timer? seq).map fun timer => { timer with taken := true }
      else t.timer? other := t.timer?_take seq other

theorem timer?_cancel (seq other : Nat) :
    (t.cancel seq).timer? other =
      if other = seq then (t.timer? seq).map fun timer => { timer with cancelled := true }
      else t.timer? other :=
  t.timer?_modify_eq seq other _

/-- A number that was not given out yet is that of no timer. -/
theorem timer?_nextSeq : t.timer? t.nextSeq = none := by
  simp [timer?, nextSeq]

/-! ## The next timer -/

/-- What is found to be the earliest was found before, or it is one that was not taken. -/
theorem of_earliest {found : Option (Nat × Timer)} {start : Nat} {timers : List Timer} {seq : Nat}
    {timer : Timer} (h : earliest found start timers = some (seq, timer)) :
    found = some (seq, timer) ∨
      ∃ i, seq = start + i ∧ timers[i]? = some timer ∧ timer.taken = false := by
  induction timers generalizing found start with
  | nil => exact .inl h
  | cons first rest ih =>
    rcases ih h with hfound | ⟨i, hseq, hi, htaken⟩
    · unfold earlier at hfound
      by_cases hfirst : first.taken = true
      · rw [if_pos hfirst] at hfound
        exact .inl hfound
      · have hself : some (start, first) = some (seq, timer) → found = some (seq, timer) ∨
            ∃ i, seq = start + i ∧ (first :: rest)[i]? = some timer ∧ timer.taken = false := by
          intro hsame
          cases hsame
          exact .inr ⟨0, rfl, rfl, Bool.eq_false_iff.2 hfirst⟩
        rw [if_neg hfirst] at hfound
        cases found with
        | none => exact hself hfound
        | some best =>
          obtain ⟨other, bestTimer⟩ := best
          by_cases hdue : first.due < bestTimer.due
          · exact hself ((if_pos hdue).symm.trans hfound)
          · exact .inl ((if_neg hdue).symm.trans hfound)
    · refine .inr ⟨i + 1, ?_, hi, htaken⟩
      rw [hseq]
      omega

variable {t}

/-- The timer that is first on the line was not taken yet. -/
theorem timer?_of_first? {seq : Nat} {timer : Timer} (h : t.first? = some (seq, timer)) :
    t.timer? seq = some timer ∧ timer.taken = false := by
  unfold first? at h
  split at h
  · simp only [firstWaiting?, Option.bind_eq_some_iff, Option.map_eq_some_iff,
      Option.filter_eq_some_iff, Prod.mk.injEq] at h
    obtain ⟨_, _, _, ⟨htimer, htaken⟩, rfl, rfl⟩ := h
    exact ⟨htimer, by simpa using htaken⟩
  · rcases of_earliest h with hnone | ⟨i, rfl, hi, htaken⟩
    · cases hnone
    · rw [Nat.add_comm]
      exact ⟨hi, htaken⟩

/-- The timer that is taken next was not taken yet. -/
theorem timer?_of_next? {goal : Decimal.Parts} {seq : Nat} {timer : Timer}
    (h : t.next? goal = some (seq, timer)) : t.timer? seq = some timer ∧ timer.taken = false := by
  unfold next? at h
  exact timer?_of_first? (Option.filter_eq_some_iff.1 h).1

end Timeline

end Understudy

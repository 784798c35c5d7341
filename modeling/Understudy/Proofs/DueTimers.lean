import Understudy.Proofs.Hooks
import Understudy.Proofs.TimelineTimers

/-!
# Timers that are due

Timers that are due are taken off their line one after the other. In a round of that no timer is
due any more, or one is passed over because it was cancelled, or one fires, and how that ended is
noted. Whatever holds however many of them fire is shown for the three ways a round can go.

Once they have fired, the line shows the time that it was moved to.

## Main definitions

* `Timer.note`: what is noted of a timer that fired.
* `World.withNote`: the state with one more note.

## Main statements

* `run_ring`: a timer that fires calls back.
* `fireDue_cases`: a round, by its three ways.
* `advance_cases`: what becomes of a state whose line is moved.
-/

namespace Understudy

/-- What is noted of a timer that fired: when it was due, which one it is, and how it ended. -/
def Timer.note (timer : Timer) (seq : Nat) (ended : Except Fault Unit) : List Value :=
  let outcome := match ended with
    | .ok _ => "ok"
    | .error fault => fault.kind
  [.ofFloat timer.due, .ofInt seq, .ofText outcome]

/-- The state with one more list, which is a note. -/
def World.withNote (w : World) (items : List Value) : World :=
  { w with lists := w.lists.push items }

section

variable (w : World) (call : Caller) (t : Ref .timeline)

/-- A timer that fires calls back, and nothing is made of the answer. -/
theorem run_ring (seq : Nat) (timer : Timer) :
    (w.withRow t ((w.row t : Timeline).reach seq timer.due)).run (ring call t seq timer.alarm) =
      (w.ringing t seq timer).run (do
        let _ ← call timer.callback []) := by
  unfold World.ringing Timer.callback
  cases timer.alarm <;> rfl

variable {w t} {goal : Decimal.Parts} (limit : Nat)

theorem run_fireDue_of_none (hnext : (w.row t : Timeline).next? goal = none) :
    w.run (fireDue call t goal (limit + 1)) = (.ok [], w) := by
  rw [fireDue, World.run_bind_of_run (World.run_fetch w t), hnext]
  rfl

variable {seq : Nat} {timer : Timer}

theorem run_fireDue_of_cancelled (hnext : (w.row t : Timeline).next? goal = some (seq, timer))
    (hcancelled : timer.cancelled = true) :
    w.run (fireDue call t goal (limit + 1)) =
      (w.withRow t ((w.row t : Timeline).take seq)).run (fireDue call t goal limit) := by
  rw [fireDue, World.run_bind_of_run (World.run_fetch w t), hnext]
  dsimp only
  rw [if_pos hcancelled, World.run_bind_of_run (World.run_update w t _)]

/-- A timer fires, how that ended is noted, and the others follow. -/
theorem run_fireDue_of_rung (hnext : (w.row t : Timeline).next? goal = some (seq, timer))
    (hcancelled : timer.cancelled = false) {ended : Except Fault Unit} {w₁ : World}
    (hrung : (w.withRow t ((w.row t : Timeline).reach seq timer.due)).run
      (ring call t seq timer.alarm) = (ended, w₁)) :
    w.run (fireDue call t goal (limit + 1)) =
      (w₁.withNote (timer.note seq ended)).run
        ((Value.list (.loose w₁.lists.size) :: ·) <$> fireDue call t goal limit) := by
  have hattempt : (w.withRow t ((w.row t : Timeline).reach seq timer.due)).run
      (attempt (ring call t seq timer.alarm)) = (.ok ended, w₁) := by
    rw [World.run_attempt, World.outcome, World.after, hrung]
  rw [fireDue, World.run_bind_of_run (World.run_fetch w t), hnext]
  dsimp only
  rw [if_neg (Bool.eq_false_iff.1 hcancelled), World.run_bind_of_run (World.run_update w t _),
    World.run_bind_of_run hattempt]
  rfl

/-- A round: no timer is due, or one is passed over, or one fires and is noted. -/
theorem fireDue_cases (w : World) (t : Ref .timeline) (goal : Decimal.Parts) :
    w.after (fireDue call t goal (limit + 1)) = w ∨
    (∃ seq timer, (w.row t : Timeline).timer? seq = some timer ∧ timer.cancelled = true ∧
      w.after (fireDue call t goal (limit + 1)) =
        (w.withRow t ((w.row t : Timeline).take seq)).after (fireDue call t goal limit)) ∨
    ∃ seq timer note, (w.row t : Timeline).timer? seq = some timer ∧ timer.live = true ∧
      w.after (fireDue call t goal (limit + 1)) =
        (World.withNote ((w.withRow t ((w.row t : Timeline).reach seq timer.due)).after
          (ring call t seq timer.alarm)) note).after (fireDue call t goal limit) := by
  cases hnext : (w.row t : Timeline).next? goal with
  | none => exact .inl (World.after_of_run (run_fireDue_of_none call limit hnext))
  | some first =>
    obtain ⟨seq, timer⟩ := first
    obtain ⟨htimer, htaken⟩ := Timeline.timer?_of_next? hnext
    cases hcancelled : timer.cancelled with
    | true =>
      exact .inr (.inl ⟨seq, timer, htimer, hcancelled,
        congrArg Prod.snd (run_fireDue_of_cancelled call limit hnext hcancelled)⟩)
    | false =>
      have hlive : timer.live = true := by rw [Timer.live, hcancelled, htaken]; rfl
      have hrun := run_fireDue_of_rung call limit hnext hcancelled (World.run_eq _ _)
      rw [map_eq_pure_bind] at hrun
      exact .inr (.inr ⟨seq, timer, _, htimer, hlive,
        (congrArg Prod.snd hrun).trans (World.after_bind_pure _ _ fun _ => _)⟩)

theorem quiet_spelledFloat (v : Value) : Quiet (spelledFloat v) := by
  unfold spelledFloat
  split
  · exact Quiet.pure _
  · exact Quiet.throw _
  · split
    · exact Quiet.pure _
    · exact (Quiet.quotedText _).bind fun _ => Quiet.throw _
  · exact Quiet.get.bind fun _ => Quiet.throw _

/-- Shows the time that a line is moved to, once timers have fired. -/
def showTime (t : Ref .timeline) (goal : Value) (fired : List Value) : Action (List Value) := do
  let now ← spelledFloat goal
  update t fun timeline => { timeline with now := now }
  return fired

/-- Where something is no time after all, no other time is shown. -/
theorem showTime_cases (w : World) (t : Ref .timeline) (goal : Value) (fired : List Value) :
    ∃ w', w.Alike w' ∧ (w.after (showTime t goal fired) = w' ∨
      ∃ now, w.after (showTime t goal fired) =
        w'.withRow t { (w'.row t : Timeline) with now := now }) := by
  refine ⟨_, quiet_spelledFloat goal w, ?_⟩
  cases hspelled : w.outcome (spelledFloat goal) with
  | error fault => exact .inl (World.after_of_run (World.run_bind_of_error hspelled))
  | ok now => exact .inr ⟨now, World.after_bind_of_ok hspelled⟩

/-- A line is moved: timers fire, and then it shows another time. What it is moved to may be no
time, and then either is left out. -/
theorem advance_cases (w : World) (call : Caller) (t : Ref .timeline) (goal : Value) :
    ∃ w₁ w₂, (w₁ = w ∨ ∃ limit, w₁ = w.after (fireDue call t limit fireLimit)) ∧ w₁.Alike w₂ ∧
      (w.after (advance call t goal) = w₂ ∨ ∃ now, w.after (advance call t goal) =
        w₂.withRow t { (w₂.row t : Timeline) with now := now }) := by
  unfold advance
  rw [World.after_bind_of_run (World.run_fetch w t)]
  cases goal.number? with
  | some limit =>
    dsimp only
    cases hfired : w.outcome (fireDue call t limit fireLimit) with
    | error fault =>
      exact ⟨_, _, .inr ⟨limit, rfl⟩, .refl _,
        .inl (World.after_of_run (World.run_bind_of_error hfired))⟩
    | ok fired =>
      obtain ⟨w₂, hlike, hshown⟩ := showTime_cases (w.after (fireDue call t limit fireLimit)) t goal
        fired
      refine ⟨_, w₂, .inr ⟨limit, rfl⟩, hlike, ?_⟩
      rw [World.after_bind_of_ok hfired]
      exact hshown
  | none =>
    cases (w.row t : Timeline).first? with
    | none =>
      obtain ⟨w₂, hlike, hshown⟩ := showTime_cases w t goal []
      exact ⟨w, w₂, .inl rfl, hlike, hshown⟩
    | some first => exact ⟨w, w, .inl rfl, .refl w, .inl rfl⟩

end

end Understudy

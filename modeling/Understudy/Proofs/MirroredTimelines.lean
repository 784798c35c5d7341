import Understudy.Proofs.MirroredSessions
import Understudy.Proofs.TimelineTimers

/-!
# Moving the clock in states that mirror each other

The timers of both states are due at the same times, and their callbacks come to the same. So the
same timers fire when the clock is moved on, and end alike.

## Main statements

* `Timeline.next?_guise`: which timer is taken next has nothing to do with what it calls.
* `Tally.fireDue`: the timers that are due fire in both.
* `Tally.advance`: the clock moves on in both.
-/

namespace Understudy

/-! ## The timer that is next -/

namespace Timer

variable (timer : Timer)

theorem due_guise : timer.guise.due = timer.due := rfl

theorem cancelled_guise : timer.guise.cancelled = timer.cancelled := rfl

theorem taken_guise : timer.guise.taken = timer.taken := rfl

end Timer

namespace Timeline

variable (t : Timeline)

/-- A timer is earlier than another one whatever it calls. -/
theorem earlier_guise (found : Option (Nat × Timer)) (seq : Nat) (timer : Timer) :
    earlier (found.map (Prod.map id Timer.guise)) seq timer.guise =
      (earlier found seq timer).map (Prod.map id Timer.guise) := by
  unfold earlier
  rw [Timer.taken_guise]
  split
  · rfl
  · rcases found with _ | ⟨i, best⟩
    · rfl
    · show (if timer.due < best.due then _ else _) =
        Option.map _ (if timer.due < best.due then _ else _)
      split <;> rfl

theorem earliest_guise (found : Option (Nat × Timer)) (seq : Nat) (timers : List Timer) :
    earliest (found.map (Prod.map id Timer.guise)) seq (timers.map Timer.guise) =
      (earliest found seq timers).map (Prod.map id Timer.guise) := by
  induction timers generalizing found seq with
  | nil => rfl
  | cons timer rest ih => rw [List.map_cons, earliest, earliest, earlier_guise, ih]

theorem firstWaiting?_guise :
    t.guise.firstWaiting? = t.firstWaiting?.map (Prod.map id Timer.guise) := by
  have hwaiting : t.guise.waiting = t.waiting := rfl
  rw [firstWaiting?, firstWaiting?, hwaiting]
  cases t.waiting[0]? with
  | none => rfl
  | some seq =>
    simp only [Option.bind_some, timer?_guise]
    cases t.timer? seq with
    | none => rfl
    | some timer => cases ht : timer.taken <;> simp [Option.filter, timer.taken_guise, ht]

/-- Which timer is first has nothing to do with what the timers call. -/
theorem first?_guise : t.guise.first? = t.first?.map (Prod.map id Timer.guise) := by
  have hblocked : t.guise.blocked = t.blocked := by
    rw [blocked, blocked, guise, List.any_map]
    rfl
  rw [first?, first?, hblocked]
  split
  · exact t.firstWaiting?_guise
  · exact earliest_guise none 1 t.timers

theorem next?_guise (goal : Decimal.Parts) :
    t.guise.next? goal = (t.next? goal).map (Prod.map id Timer.guise) := by
  rw [next?, next?, first?_guise]
  rcases t.first? with _ | ⟨seq, timer⟩
  · rfl
  · show (if (Decimal.Parts.ofFloat timer.due).atMost goal = true then _ else none) =
      Option.map _ (if (Decimal.Parts.ofFloat timer.due).atMost goal = true then _ else none)
    split <;> rfl

theorem take_guise (seq : Nat) : (t.take seq).guise = t.guise.take seq := by
  have hmodify := t.modify_guise (f := fun timer => { timer with taken := true }) (fun _ => rfl) seq
  rw [take, take, before_guise, ← hmodify]
  rfl

theorem reach_guise (seq : Nat) (due : Float) :
    (t.reach seq due).guise = t.guise.reach seq due := by
  show { (t.take seq).guise with now := due } = { t.guise.take seq with now := due }
  rw [take_guise]

variable {t}

theorem mem_of_timer? {seq : Nat} {timer : Timer} (h : t.timer? seq = some timer) :
    timer ∈ t.timers := by
  cases seq with
  | zero => cases h
  | succ i => exact List.mem_of_getElem? h

theorem Regular.take (h : t.Regular) (seq : Nat) : (t.take seq).Regular :=
  h.modify (f := fun timer => { timer with taken := true }) (fun _ => rfl) seq

end Timeline

/-- The timer that is next is the same in both, if there is one. -/
theorem World.Mirrors.next_cases {w v : World} (h : w.Mirrors v) (t : Ref .timeline)
    (goal : Decimal.Parts) :
    ((w.row t : Timeline).next? goal = none ∧ (v.row t : Timeline).next? goal = none) ∨
      ∃ (seq : Nat) (timer timer' : Timer),
        (w.row t : Timeline).next? goal = some (seq, timer) ∧
        (v.row t : Timeline).next? goal = some (seq, timer') ∧ timer.guise = timer'.guise ∧
        timer'.cancelled = timer.cancelled ∧ timer'.due = timer.due ∧ timer.callback.Rings := by
  have hrow : (w.row t : Timeline).guise = (v.row t : Timeline).guise := h.row t
  have hnext : ((w.row t : Timeline).next? goal).map (Prod.map id Timer.guise) =
      ((v.row t : Timeline).next? goal).map (Prod.map id Timer.guise) := by
    rw [← Timeline.next?_guise, ← Timeline.next?_guise, hrow]
  rcases found_cases hnext with hnone | ⟨⟨seq, timer⟩, ⟨seq', timer'⟩, hw, hv, heq⟩
  · exact .inl hnone
  · obtain ⟨rfl, hsame⟩ : seq = seq' ∧ timer.guise = timer'.guise := Prod.mk.inj heq
    have hcancelled : timer'.cancelled = timer.cancelled := by
      rw [← Timer.cancelled_guise, ← hsame, Timer.cancelled_guise]
    have hdue : timer'.due = timer.due := by rw [← Timer.due_guise, ← hsame, Timer.due_guise]
    exact .inr ⟨seq, timer, timer', hw, hv, hsame, hcancelled, hdue,
      h.left.timeline t timer (Timeline.mem_of_timer? (Timeline.timer?_of_next? hw).1)⟩

/-! ## Firing -/

namespace Tally

variable {w v : World} (h : w.Mirrors v) (depth : Nat)
include h

/-- The callbacks of timers come to the same. -/
theorem callBack {callback callback' : Value} (hrings : callback.Rings)
    (hsame : callback.Alike callback') :
    Tally Value.Alike w v (invokeWithin depth callback []) (invokeWithin depth callback' []) := by
  cases depth with
  | zero => exact throw h .tooDeep
  | succ depth =>
    cases hrings with
    | none =>
      obtain rfl := hsame.eq_none rfl
      exact settled (x := .error (.notCallable "NoneType")) rfl rfl (.fault _) h
    | session serial s =>
      obtain ⟨other, rfl⟩ := Value.Alike.function hsame
      exact congr (run_invoke_dailyTimeout w depth serial s)
        (run_invoke_dailyTimeout v depth other s) (onDailyTimeout h s depth).nothing
    | note serial name =>
      obtain ⟨other, rfl⟩ := Value.Alike.function hsame
      let noted (w : World) : World := { w with fired := w.fired ++ [name] }
      have hrun (w : World) (serial : Nat) :
          w.run (invokeWithin (depth + 1) (.function serial (.callback name)) []) =
            (.ok .none, noted w) := rfl
      have hfired : w.guise.fired = v.guise.fired := congrArg World.fired h.same
      have hguise (w : World) : (noted w).guise = noted w.guise := rfl
      exact of_run (hrun w serial) (hrun v other) (.result (.refl _))
        ⟨{ h.left with }, { h.right with }, by rw [hguise, hguise, h.same]⟩ (.of_eq rfl rfl rfl)
        (.of_eq rfl rfl rfl)

/-- What happens when a timer fires happens in both. -/
theorem ring (t : Ref .timeline) (seq : Nat) {timer timer' : Timer}
    (hrings : timer.callback.Rings) (hsame : timer.guise = timer'.guise) :
    Tally (fun _ _ => True) w v (Understudy.ring (invokeWithin depth) t seq timer.alarm)
      (Understudy.ring (invokeWithin depth) t seq timer'.alarm) := by
  have halarm : timer.alarm.guise = timer'.alarm.guise := congrArg Timer.alarm hsame
  unfold Timer.callback at hrings
  cases ha : timer.alarm with
  | banked b callback =>
    rw [ha] at halarm hrings
    cases ha' : timer'.alarm with
    | banked b' callback' =>
      rw [ha'] at halarm
      obtain ⟨rfl, hcallback⟩ := Alarm.banked.inj halarm
      refine bind_run (run_needKey_handle w t seq) (run_needKey_handle v t seq) ?_
      refine bind (updateBank h b (f := List.filter fun other => !(other == .handle t seq))
        fun x hx => hx.discard _) fun _ _ w v h _ => ?_
      exact bind (callBack h depth hrings hcallback) fun _ _ w v h _ => pure h trivial
    | direct callback' =>
      rw [ha'] at halarm
      cases halarm
  | direct callback =>
    rw [ha] at halarm hrings
    cases ha' : timer'.alarm with
    | banked b' callback' =>
      rw [ha'] at halarm
      cases halarm
    | direct callback' =>
      rw [ha'] at halarm
      exact bind (callBack h depth hrings (Alarm.direct.inj halarm)) fun _ _ w v h _ =>
        pure h trivial

/-- A list that is new to both. -/
theorem newList {xs ys : List Value} (hxy : xs.map Value.unstamped = ys.map Value.unstamped) :
    Tally Value.Alike w v (Understudy.newList xs) (Understudy.newList ys) := by
  refine of_run (World.run_modifyGet w _) (World.run_modifyGet v _) (.result ?_) (h.pushList hxy)
    (.of_eq rfl rfl rfl) (.of_eq rfl rfl rfl)
  rw [h.size_lists]
  exact .refl _

/-- What is done to a timeline is done to its guise. -/
theorem updateTimeline (t : Ref .timeline) {f : Timeline → Timeline}
    (hf : ∀ x : Timeline, x.Regular → (f x).Regular)
    (hguise : ∀ x : Timeline, (f x).guise = f x.guise) :
    Tally (fun _ _ => True) w v (update t f) (update t f) := by
  refine of_run (World.run_update w t f) (World.run_update v t f) (.result trivial)
    (h.withRow t (h.left.withRow_timeline t (hf _ (h.left.timeline t)))
      (h.right.withRow_timeline t (hf _ (h.right.timeline t))) ?_)
    (.of_eq rfl rfl rfl) (.of_eq rfl rfl rfl)
  show (f (w.row t)).guise = (f (v.row t)).guise
  rw [hguise, hguise, show (w.row t : Timeline).guise = _ from h.row t]
  rfl

/-- The timers that are due fire in both, and end alike. -/
theorem fireDue (t : Ref .timeline) (goal : Decimal.Parts) (limit : Nat) :
    Tally (List.Forall₂ Value.Alike) w v (Understudy.fireDue (invokeWithin depth) t goal limit)
      (Understudy.fireDue (invokeWithin depth) t goal limit) := by
  induction limit generalizing w v with
  | zero => exact pure h .nil
  | succ limit ih =>
    refine bind_run (World.run_fetch w t) (World.run_fetch v t) ?_
    rcases h.next_cases t goal with
      ⟨hnone, hnone'⟩ | ⟨seq, timer, timer', hw, hv, hsame, hcancelled, hdue, hrings⟩
    · rw [hnone, hnone']
      exact pure h .nil
    · rw [hw, hv]
      dsimp only
      rw [hcancelled, hdue]
      cases timer.cancelled with
      | true =>
        exact bind (updateTimeline h t (fun _ hx => hx.take seq) fun x => x.take_guise seq)
          fun _ _ w v h _ => ih h
      | false =>
        refine bind (updateTimeline h t (f := (Timeline.reach · seq timer.due))
          (fun _ hx => hx.take seq) fun x => x.reach_guise seq _) fun _ _ w v h _ => ?_
        refine bind (attempt (ring h depth t seq hrings hsame)) fun x y w v h hxy => ?_
        refine bind (newList h ?_) fun entry entry' w v h hentry => ?_
        · -- How a timer ended is told by the kind of its fault.
          cases hxy <;> rfl
        · exact bind (ih h) fun rest rest' w v h hrest => pure h (.cons hentry hrest)

/-- What spells a number spells it in both. -/
theorem spelledFloat {goal : Value} (hgoal : goal.Simple) :
    Tally Eq w v (Understudy.spelledFloat goal) (Understudy.spelledFloat goal) := by
  unfold Understudy.spelledFloat
  split
  · exact pure h rfl
  · exact throw h _
  · split
    · exact pure h rfl
    · exact bind (quotedText h hgoal (.refl _)) fun _ _ w v h heq => heq ▸ throw h _
  · refine bind_run (World.run_get w) (World.run_get v) ?_
    rw [hgoal.fullTypeName (.refl goal) w v]
    exact throw h _

/-- The clock moves on in both, and the same timers fire. -/
theorem advance (t : Ref .timeline) {goal : Value} (hgoal : goal.Simple) :
    Tally (List.Forall₂ Value.Alike) w v (Understudy.advance (invokeWithin depth) t goal)
      (Understudy.advance (invokeWithin depth) t goal) := by
  have hshow {w v : World} (h : w.Mirrors v) {fired fired' : List Value}
      (hfired : List.Forall₂ Value.Alike fired fired') :
      Tally (List.Forall₂ Value.Alike) w v
        (do
          let now ← Understudy.spelledFloat goal
          update t fun timeline => { timeline with now := now }
          return fired)
        (do
          let now ← Understudy.spelledFloat goal
          update t fun timeline => { timeline with now := now }
          return fired') := by
    refine bind (spelledFloat h hgoal) fun now _ w v h heq => ?_
    subst heq
    exact bind (updateTimeline h t (f := fun timeline => { timeline with now := now })
      (fun _ hx => hx) fun _ => rfl) fun _ _ w v h _ => pure h hfired
  have hfirst : (w.row t : Timeline).first?.isSome = (v.row t : Timeline).first?.isSome := by
    have hsame : (w.row t : Timeline).guise = (v.row t : Timeline).guise := h.row t
    rw [← Option.isSome_map (f := Prod.map id Timer.guise), ← Timeline.first?_guise, hsame,
      Timeline.first?_guise, Option.isSome_map]
  refine bind_run (World.run_fetch w t) (World.run_fetch v t) ?_
  cases goal.number? with
  | some limit =>
    exact bind (fireDue h depth t limit fireLimit) fun _ _ w v h hfired => hshow h hfired
  | none =>
    cases hw : (w.row t : Timeline).first? <;> cases hv : (v.row t : Timeline).first? <;>
      rw [hw, hv] at hfirst <;> try cases hfirst
    · exact hshow h .nil
    · refine bind_run (World.run_get w) (World.run_get v) ?_
      rw [hgoal.fullTypeName (.refl goal) w v]
      exact throw h _

end Tally

end Understudy

import Understudy.Proofs.RecorderHooks
import Understudy.Proofs.Tallying

/-!
# Timers in states that mirror each other

Hooks that are called in both states arm timers that are due at the same time, or fail for the same
reason, and what they give back differs in its serial number at most.

## Main statements

* `Tally.callArm`, `Tally.callCancel`: the hooks of a policy.
-/

namespace Understudy

/-! ## Timelines -/

namespace Timeline

variable (t : Timeline)

theorem nextSeq_guise : t.guise.nextSeq = t.nextSeq := by
  simp [nextSeq, guise]

theorem timer?_guise (seq : Nat) : t.guise.timer? seq = (t.timer? seq).map Timer.guise := by
  cases seq <;> simp [timer?, guise]

/-- When timers are due does not depend on what they call. -/
theorem before_guise : t.guise.before = t.before := by
  funext a b
  rw [before, before, timer?_guise, timer?_guise]
  cases t.timer? a <;> cases t.timer? b <;> rfl

theorem schedule_guise (due : Float) (alarm : Alarm) :
    (t.schedule due alarm).guise = t.guise.schedule due alarm.guise := by
  have hbefore := before_guise { t with timers := t.timers ++ [{ due := due, alarm := alarm }] }
  have htimers : (t.timers ++ [({ due := due, alarm := alarm } : Timer)]).map Timer.guise =
      t.timers.map Timer.guise ++ [{ due := due, alarm := alarm.guise }] := List.map_append
  rw [schedule, schedule, nextSeq_guise]
  simp only [guise, htimers] at hbefore ⊢
  rw [hbefore]

theorem skip_guise : t.skip.guise = t.guise.skip := by
  simp [skip, guise, Timer.guise, Alarm.guise, Value.unstamped]

theorem modify_guise {f : Timer → Timer} (hf : ∀ timer, (f timer).guise = f timer.guise)
    (seq : Nat) : (t.modify seq f).guise = t.guise.modify seq f := by
  cases seq with
  | zero => rfl
  | succ i =>
    simp only [modify, guise, mk.injEq, true_and, and_true]
    refine List.ext_getElem? fun j => ?_
    simp only [List.getElem?_map, List.getElem?_modify]
    cases t.timers[j]? with
    | none => rfl
    | some timer =>
      by_cases hj : i = j
      · simp [hj, hf]
      · simp [hj]

theorem cancel_guise (seq : Nat) : (t.cancel seq).guise = t.guise.cancel seq :=
  t.modify_guise (f := fun timer => { timer with cancelled := true }) (fun _ => rfl) seq

variable {t}

theorem Regular.schedule (h : t.Regular) (due : Float) {alarm : Alarm}
    (halarm : (Timer.callback { due := due, alarm := alarm }).Rings) :
    (t.schedule due alarm).Regular := by
  intro timer htimer
  rcases List.mem_append.1 htimer with hold | hnew
  · exact h timer hold
  · obtain rfl := List.mem_singleton.1 hnew
    exact halarm

theorem Regular.skip (h : t.Regular) : t.skip.Regular := by
  intro timer htimer
  rcases List.mem_append.1 htimer with hold | hnew
  · exact h timer hold
  · obtain rfl := List.mem_singleton.1 hnew
    exact .none

theorem Regular.modify (h : t.Regular) {f : Timer → Timer}
    (hf : ∀ timer, (f timer).callback = timer.callback) (seq : Nat) : (t.modify seq f).Regular := by
  cases seq with
  | zero => exact h
  | succ i =>
    intro timer htimer
    obtain ⟨j, hj⟩ := List.mem_iff_getElem?.1 htimer
    rw [Timeline.modify, List.getElem?_modify] at hj
    cases hold : t.timers[j]? with
    | none =>
      rw [hold] at hj
      cases hj
    | some old =>
      have hrings := h old (List.mem_iff_getElem?.2 ⟨j, hold⟩)
      rw [hold] at hj
      obtain rfl := Option.some.inj hj
      split
      · rwa [hf]
      · exact hrings

end Timeline

/-! ## Banks -/

namespace Bank

variable {x y : Bank}

/-- Banks with one guise keep track of the same timers. -/
theorem Regular.active_eq (hx : x.Regular) (hy : y.Regular) (h : x.guise = y.guise) :
    x.active = y.active := by
  have hown {b : Bank} (hb : b.Regular) : b.active.map Value.unstamped = b.active := by
    refine (List.map_congr_left fun v hv => ?_).trans (List.map_id _)
    obtain ⟨t, seq, rfl⟩ := hb.active v hv
    rfl
  have hsame : x.active.map Value.unstamped = y.active.map Value.unstamped :=
    congrArg Bank.active h
  rwa [hown hx, hown hy] at hsame

theorem Regular.add (hx : x.Regular) (t : Ref .timeline) (seq : Nat) :
    (x.add (.handle t seq)).Regular := by
  refine ⟨hx.timeline, fun v hv => ?_⟩
  rw [Bank.add] at hv
  split at hv
  · exact hx.active v hv
  · rcases List.mem_append.1 hv with hold | hnew
    · exact hx.active v hold
    · exact ⟨t, seq, List.mem_singleton.1 hnew⟩

theorem Regular.discard (hx : x.Regular) (handle : Value) : (x.discard handle).Regular :=
  ⟨hx.timeline, fun v hv => hx.active v (List.mem_filter.1 hv).1⟩

/-- What is done to the timers that two banks keep track of is done in their guises. -/
theorem Regular.guise_congr (hx : x.Regular) (hy : y.Regular) (h : x.guise = y.guise)
    (f : List Value → List Value) :
    Bank.guise { x with active := f x.active } = Bank.guise { y with active := f y.active } := by
  have htimeline : x.timeline.unstamped = y.timeline.unstamped := congrArg Bank.timeline h
  have hlearned : x.guise.learned = y.guise.learned := congrArg Bank.learned h
  rw [hx.active_eq hy h, guise, guise, htimeline, show x.learned = y.learned from hlearned]

end Bank

/-! ## Arming -/

/-- A timer can be a key. -/
theorem run_needKey_handle (w : World) (t : Ref .timeline) (seq : Nat) :
    w.run (needKey (.handle t seq)) = (.ok (), w) := rfl

namespace Tally

variable {w v : World} (h : w.Mirrors v)
include h

/-- A delay is written by the same text in both, or refused for the same reason. -/
theorem fixedText {delay delay' : Value} (hdelay : delay.Simple) (halike : delay.Alike delay')
    (places : Nat) :
    Tally Eq w v (Understudy.orFail (Understudy.fixedText w places delay))
      (Understudy.orFail (Understudy.fixedText v places delay')) := by
  rw [hdelay.fixedText halike w v]
  exact orFail h _

/-- A timer that is armed in both is due at the same time. -/
theorem schedule (t : Ref .timeline) {delay delay' : Value} (hdelay : delay.Simple)
    (halike : delay.Alike delay') {b : Ref .bank} {callback callback' : Value}
    (hrings : callback.Rings) (hrings' : callback'.Rings) (hcallback : callback.Alike callback') :
    Tally Eq w v (Understudy.schedule t delay (.banked b callback))
      (Understudy.schedule t delay' (.banked b callback')) := by
  have hrow : (w.row t : Timeline).guise = (v.row t : Timeline).guise := h.row t
  have hnow : (w.row t : Timeline).guise.now = (v.row t : Timeline).guise.now :=
    congrArg Timeline.now hrow
  have hseq : (w.row t : Timeline).nextSeq = (v.row t : Timeline).nextSeq := by
    rw [← Timeline.nextSeq_guise, hrow, Timeline.nextSeq_guise]
  have hl : (w.row t : Timeline).Regular := h.left.timeline t
  have hr : (v.row t : Timeline).Regular := h.right.timeline t
  refine bind_run (World.run_fetch w t) (World.run_fetch v t) ?_
  refine bind_run (World.run_get w) (World.run_get v) ?_
  rw [show (w.row t : Timeline).now = (v.row t : Timeline).now from hnow,
    hdelay.dueAfter halike w v, hseq]
  cases Understudy.dueAfter v (v.row t : Timeline).now delay' with
  | ok due =>
    have harmed {line : Timeline} (hline : line.Regular) {callback : Value}
        (hrings : callback.Rings) : (line.schedule due (.banked b callback)).Regular :=
      hline.schedule due hrings
    refine of_run rfl rfl (.result rfl) (h.withRow t
      (h.left.withRow_timeline t (harmed hl hrings))
      (h.right.withRow_timeline t (harmed hr hrings')) ?_) (.of_eq rfl rfl rfl) (.of_eq rfl rfl rfl)
    show Timeline.guise _ = Timeline.guise _
    rw [Timeline.schedule_guise, Timeline.schedule_guise, hrow, Alarm.guise, Alarm.guise, hcallback]
  | error fault =>
    refine of_run rfl rfl (.fault fault) (h.withRow t
      (h.left.withRow_timeline t hl.skip) (h.right.withRow_timeline t hr.skip) ?_)
      (.of_eq rfl rfl rfl) (.of_eq rfl rfl rfl)
    show Timeline.guise _ = Timeline.guise _
    rw [Timeline.skip_guise, Timeline.skip_guise, hrow]

/-- What a bank does to the timers it keeps track of is done in both. -/
theorem updateBank (b : Ref .bank) {f : List Value → List Value}
    (hf : ∀ x : Bank, x.Regular → Bank.Regular { x with active := f x.active }) :
    Tally (fun _ _ => True) w v (update b fun x : Bank => { x with active := f x.active })
      (update b fun x : Bank => { x with active := f x.active }) :=
  of_run (World.run_update w b _) (World.run_update v b _) (.result trivial)
    (h.withRow b (h.left.withRow_bank b (hf _ (h.left.bank b)))
      (h.right.withRow_bank b (hf _ (h.right.bank b)))
      ((h.left.bank b).guise_congr (h.right.bank b) (h.row b) f))
    (.of_eq rfl rfl rfl) (.of_eq rfl rfl rfl)

/-- What has a callback called later is the same timeline in both. -/
theorem callLaterOn (call : Caller) (b : Ref .bank) (t : Ref .timeline) {delay delay' : Value}
    (hdelay : delay.Simple) (halike : delay.Alike delay') {callback callback' : Value}
    (hrings : callback.Rings) (hrings' : callback'.Rings) (hcallback : callback.Alike callback') :
    Tally (fun x y => x = y ∧ ∃ seq, x = .handle t seq) w v
      (Understudy.callLaterOn call b (.ofRef t) delay callback)
      (Understudy.callLaterOn call b (.ofRef t) delay' callback') := by
  refine bind_run (World.run_get w) (World.run_get v) ?_
  rw [h.left.intact.taker? t rfl, h.right.intact.taker? t rfl]
  refine bind (schedule h t hdelay halike hrings hrings' hcallback) fun seq _ w v h heq => ?_
  subst heq
  exact pure h ⟨rfl, seq, rfl⟩

/-- A bank arms a timer in both, or refuses to for the same reason. -/
theorem armTimer (call : Caller) (b : Ref .bank) {delay delay' : Value} (hdelay : delay.Simple)
    (halike : delay.Alike delay') {callback callback' : Value} (hrings : callback.Rings)
    (hrings' : callback'.Rings) (hcallback : callback.Alike callback') :
    Tally (fun x y => x = y ∧ x.Grip) w v (Understudy.armTimer call b delay callback)
      (Understudy.armTimer call b delay' callback') := by
  have hline : (w.row b : Bank).timeline.Alike (v.row b : Bank).timeline :=
    congrArg Bank.timeline (h.row b)
  refine bind_run (World.run_fetch w b) (World.run_fetch v b) ?_
  rw [hline.eq_of_names (h.left.bank b).timeline]
  refine bind_run (World.run_get w) (World.run_get v) ?_
  rcases (h.left.bank b).timeline with hnone | ⟨t, ht⟩
  · rw [hnone]
    exact throw h _
  · rw [ht]
    refine bind (a := Understudy.callLaterOn call b (.ofRef t) delay callback)
      (callLaterOn h call b t hdelay halike hrings hrings' hcallback) fun x y w v h hxy => ?_
    obtain ⟨rfl, seq, rfl⟩ := hxy
    refine bind_run (run_needKey_handle w t seq) (run_needKey_handle v t seq) ?_
    refine bind (updateBank h b (f := fun active =>
      if active.any (· == .handle t seq) then active else active ++ [Value.handle t seq])
      fun x hx => hx.add t seq) fun _ _ w v h _ => ?_
    refine bind_run (World.run_get w) (World.run_get v) ?_
    refine bind (fixedText h hdelay halike 3) fun text _ w v h heq => ?_
    subst heq
    exact bind (emit h _ _ _ _ _) fun _ _ w v h _ => pure h ⟨rfl, trivial⟩

end Tally

/-! ## Cancelling -/

/-- What was assigned may be taken back from a timer. -/
theorem World.Regular.erase {w : World} (h : w.Regular) (t : Ref .timeline) (seq : Nat)
    (name : String) :
    World.Regular { w with assigned := w.assigned.erase (.timer t seq, name) } := by
  have hkept (bearer : Bearer) (other : String) {v : Value}
      (hv : (w.assigned.erase (.timer t seq, name)).get? (bearer, other) = some v) :
      w.assigned.get? (bearer, other) = some v := by
    rw [OrderedMap.get?_erase] at hv
    split at hv
    · cases hv
    · exact hv
  have hnone (bearer : Bearer) (other : String) (hn : w.assigned.get? (bearer, other) = none) :
      (w.assigned.erase (.timer t seq, name)).get? (bearer, other) = none := by
    rw [OrderedMap.get?_erase, hn, ite_self]
  exact { h with
    intact := h.intact.erase rfl
    capability := fun c => hnone _ _ (h.capability c)
    own := fun o other ho => hnone _ _ (h.own o other ho)
    answer := fun o f v hv => h.answer o f v (hkept _ _ hv) }

theorem World.Retains.erase (w : World) (t : Ref .timeline) (seq : Nat) (name : String) :
    w.Retains { w with assigned := w.assigned.erase (.timer t seq, name) } :=
  { World.Retains.refl w with
    intact := fun hw => hw.erase rfl
    assigned := fun bearer other hspared => by
      rw [OrderedMap.get?_erase, if_neg]
      intro heq
      obtain ⟨rfl, rfl⟩ := Prod.mk.inj (eq_of_beq heq)
      exact hspared }

namespace Tally

variable {w v : World} (h : w.Mirrors v)
include h

theorem cancelOn (t : Ref .timeline) (seq : Nat) :
    Tally (fun _ _ => True) w v (Understudy.cancelOn t seq) (Understudy.cancelOn t seq) := by
  let erased (w : World) : World :=
    { w with assigned := w.assigned.erase (.timer t seq, cancelledName) }
  have hnext : (erased w).Mirrors (erased v) := by
    have hguise (w : World) : (erased w).guise = erased w.guise := rfl
    refine ⟨h.left.erase t seq _, h.right.erase t seq _, ?_⟩
    rw [hguise, hguise, h.same]
  have hrow : (w.row t : Timeline).guise = (v.row t : Timeline).guise := h.row t
  have hregular {line : Timeline} (hline : line.Regular) : (line.cancel seq).Regular :=
    hline.modify (f := fun timer => { timer with cancelled := true }) (fun _ => rfl) seq
  have hrun (w : World) : w.run (Understudy.cancelOn t seq) =
      (.ok (), (erased w).withRow t ((w.row t : Timeline).cancel seq)) := rfl
  refine of_run (hrun w) (hrun v) (.result trivial)
    (hnext.withRow t
      (hnext.left.withRow_timeline t (hregular (h.left.timeline t)))
      (hnext.right.withRow_timeline t (hregular (h.right.timeline t))) ?_)
    ((World.Retains.erase w t seq _).trans (.of_eq rfl rfl rfl))
    ((World.Retains.erase v t seq _).trans (.of_eq rfl rfl rfl))
  show Timeline.guise _ = Timeline.guise _
  rw [Timeline.cancel_guise, Timeline.cancel_guise, hrow]

/-- A timer is asked to cancel itself, and does. -/
theorem cancelHandle (call : Caller) (t : Ref .timeline) (seq : Nat) :
    Tally (fun _ _ => True) w v (Understudy.cancelHandle call (.handle t seq))
      (Understudy.cancelHandle call (.handle t seq)) := by
  have hrun {w : World} (hw : w.Intact) :
      w.run (Understudy.cancelHandle call (.handle t seq)) =
        w.run (Understudy.cancelOn t seq) := by
    have hown : w.assigned.get? (.timer t seq, Method.cancel.word) = none :=
      hw _ _ (.inl ⟨.cancel, rfl⟩)
    rw [Understudy.cancelHandle, World.run_bind_of_run (World.run_get w), hown]
  exact congr (hrun h.left.intact) (hrun h.right.intact) (cancelOn h t seq)

/-- A number does not know how to cancel itself. -/
theorem cancelHandle_int (call : Caller) (i j : Nat) (n : Int) :
    Tally (fun _ _ => False) w v (Understudy.cancelHandle call (.int i n))
      (Understudy.cancelHandle call (.int j n)) := by
  have hlook (w : World) (k : Nat) : w.look (.int k n) Method.cancel.word =
      .error (.noAttribute "int" Method.cancel.word) := rfl
  have hread : Tally (fun _ _ => False) w v (readAttribute call (.int i n) Method.cancel.word)
      (readAttribute call (.int j n) Method.cancel.word) :=
    settled (run_readAttribute_error call (hlook w i)) (run_readAttribute_error call (hlook v j))
      (.fault _) h
  exact hread.bind fun _ _ _ _ _ hno => hno.elim

/-- A timer is cancelled in both, and a number is refused. -/
theorem cancelTimer (call : Caller) (b : Ref .bank) {handle handle' : Value} (hgrip : handle.Grip)
    (hhandle : handle.Alike handle') :
    Tally (fun _ _ => True) w v (Understudy.cancelTimer call b handle)
      (Understudy.cancelTimer call b handle') := by
  cases handle with
  | none =>
    obtain rfl := hhandle.eq_none rfl
    exact pure h trivial
  | handle t seq =>
    cases handle' with
    | handle t' seq' =>
      obtain ⟨rfl, rfl⟩ := Value.handle.inj hhandle
      refine bind (a := Understudy.cancelHandle call (.handle t seq)) (cancelHandle h call t seq)
        fun _ _ w v h _ => ?_
      refine bind_run (run_needKey_handle w t seq) (run_needKey_handle v t seq) ?_
      refine bind (updateBank h b (f := fun active =>
        active.filter fun other => !(other == Value.handle t seq)) fun x hx => hx.discard _)
        fun _ _ w v h _ => ?_
      exact emit h _ _ _ _ _
    | _ => cases hhandle
  | int i n =>
    obtain ⟨j, rfl⟩ := Value.Alike.int hhandle
    exact bind (a := Understudy.cancelHandle call (.int i n)) (cancelHandle_int h call i j n)
      fun _ _ _ _ _ hno => hno.elim
  | _ => cases hgrip

end Tally

/-! ## Recorders -/

/-- Nothing was put in the place of what the recorders of a regular state have noted. -/
theorem World.Regular.records {w : World} (h : w.Regular) (r : Ref .recorder) : w.Records r :=
  ⟨h.own _ _ (by decide), h.own _ _ (by decide)⟩

/-- What was armed may be noted. -/
theorem Recorder.Regular.arm {x : Recorder} (hx : x.Regular) (serial : Nat) (delay : Value)
    {callback : Value} (hrings : callback.Rings) (k : Nat) (n : Int) : Recorder.Regular
      { x with arms := x.arms ++ [.tuple serial [delay, callback]], lastHandle := .int k n } := by
  refine ⟨⟨k, n, rfl⟩, fun item hitem => ?_⟩
  rcases List.mem_append.1 hitem with hold | hnew
  · exact hx.arms item hold
  · exact ⟨serial, delay, callback, List.mem_singleton.1 hnew, hrings⟩

/-- Recorders have noted the same in both, and have counted as far. -/
theorem World.Mirrors.noted {w v : World} (h : w.Mirrors v) (r : Ref .recorder) :
    (w.row r : Recorder).arms.map Value.unstamped = (v.row r : Recorder).arms.map Value.unstamped ∧
      (w.row r : Recorder).cancels.map Value.unstamped =
        (v.row r : Recorder).cancels.map Value.unstamped ∧
      (w.row r : Recorder).lastHandle.Alike (v.row r : Recorder).lastHandle := by
  have hrow : (w.row r : Recorder).guise = (v.row r : Recorder).guise := h.row r
  exact ⟨congrArg Recorder.arms hrow, congrArg Recorder.cancels hrow,
    congrArg Recorder.lastHandle hrow⟩

/-- Values that are alike, and that a session can hold of its timer. -/
def Value.Held (x y : Value) : Prop := x.Alike y ∧ x.Grip ∧ y.Grip

namespace Tally

variable {w v : World} (h : w.Mirrors v) (call : Caller) (r : Ref .recorder)
include h

/-- A recorder notes the same in both, and gives out the same number. -/
theorem recordArm {delay delay' callback callback' : Value} (hdelay : delay.Alike delay')
    (hrings : callback.Rings) (hrings' : callback'.Rings) (hcallback : callback.Alike callback') :
    Tally Value.Held w v (Understudy.recordArm call r delay callback)
      (Understudy.recordArm call r delay' callback') := by
  obtain ⟨harms, hcancels, hcount⟩ := h.noted r
  obtain ⟨i, last, hlast⟩ := (h.left.recorder r).lastHandle
  rw [hlast] at hcount
  obtain ⟨j, hlast'⟩ := Value.Alike.int hcount
  obtain ⟨arm, k, _, hrun⟩ := (h.left.records r).run_recordArm call delay callback ⟨i, hlast⟩
  obtain ⟨arm', k', _, hrun'⟩ := (h.right.records r).run_recordArm call delay' callback' ⟨j, hlast'⟩
  have hnoted : (w.withArm r (.tuple arm [delay, callback]) (.int k (last + 1))).Mirrors
      (v.withArm r (.tuple arm' [delay', callback']) (.int k' (last + 1))) := by
    refine h.withRow r
      (h.left.withRow_recorder r ((h.left.recorder r).arm _ _ hrings _ _))
      (h.right.withRow_recorder r ((h.right.recorder r).arm _ _ hrings' _ _)) ?_
    show Recorder.mk _ _ _ = Recorder.mk _ _ _
    rw [List.map_append, List.map_append, harms, hcancels]
    simp only [List.map_cons, List.map_nil, Value.unstamped, Value.allUnstamped]
    rw [hdelay, hcallback]
  exact of_run hrun hrun' (.result ⟨rfl, trivial, trivial⟩)
    (hnoted.alike ⟨_, _, rfl⟩ ⟨_, _, rfl⟩) (.of_eq rfl rfl rfl) (.of_eq rfl rfl rfl)

/-- A recorder notes in both what was cancelled. -/
theorem recordCancel {handle handle' : Value} (hhandle : handle.Alike handle') :
    Tally (fun _ _ => True) w v (Understudy.recordCancel call r handle)
      (Understudy.recordCancel call r handle') := by
  obtain ⟨harms, hcancels, hcount⟩ := h.noted r
  refine of_run ((h.left.records r).run_recordCancel call handle)
    ((h.right.records r).run_recordCancel call handle') (.result trivial)
    (h.withRow r (h.left.withRow_recorder r { h.left.recorder r with })
      (h.right.withRow_recorder r { h.right.recorder r with }) ?_)
    (.of_eq rfl rfl rfl) (.of_eq rfl rfl rfl)
  show Recorder.mk _ _ _ = Recorder.mk _ _ _
  rw [List.map_append, List.map_append, harms, hcancels, hcount, List.map_singleton,
    List.map_singleton, hhandle]

end Tally

/-! ## Hooks -/

namespace Tally

variable {w v : World} (h : w.Mirrors v)
include h

/-- A hook arms the same in both. -/
theorem callArm {arm arm' : Value} (harm : arm.Arms) (hsame : arm.Alike arm')
    {delay delay' : Value} (hdelay : delay.Simple) (halike : delay.Alike delay')
    {callback callback' : Value} (hrings : callback.Rings) (hrings' : callback'.Rings)
    (hcallback : callback.Alike callback') (depth : Nat) :
    Tally Value.Held w v (invokeWithin depth arm [delay, callback])
      (invokeWithin depth arm' [delay', callback']) := by
  cases depth with
  | zero => exact throw h .tooDeep
  | succ depth =>
    cases harm with
    | idle serial =>
      obtain ⟨other, rfl⟩ := Value.Alike.function hsame
      exact pure h ⟨rfl, trivial, trivial⟩
    | bank serial b =>
      obtain ⟨other, rfl⟩ := Value.Alike.function hsame
      refine congr (run_invoke_arm w depth serial b delay callback)
        (run_invoke_arm v depth other b delay' callback')
        ((armTimer h _ b hdelay halike hrings hrings' hcallback).mono fun x y hxy => ?_)
      obtain ⟨rfl, hx⟩ := hxy
      exact ⟨rfl, hx, hx⟩
    | recorder serial r =>
      obtain ⟨other, rfl⟩ := Value.Alike.function hsame
      exact congr (run_invoke_recordArm w depth serial r delay callback)
        (run_invoke_recordArm v depth other r delay' callback')
        (recordArm h _ r halike hrings hrings' hcallback)

/-- A hook cancels the same in both. -/
theorem callCancel {cancel cancel' : Value} (hcancel : cancel.Cancels)
    (hsame : cancel.Alike cancel') {handle handle' : Value} (hhandle : Value.Held handle handle')
    (depth : Nat) :
    Tally (fun _ _ => True) w v (invokeWithin depth cancel [handle])
      (invokeWithin depth cancel' [handle']) := by
  cases depth with
  | zero => exact throw h .tooDeep
  | succ depth =>
    cases hcancel with
    | idle serial =>
      obtain ⟨other, rfl⟩ := Value.Alike.function hsame
      exact pure h trivial
    | bank serial b =>
      obtain ⟨other, rfl⟩ := Value.Alike.function hsame
      refine congr (run_invoke_cancel w depth serial b handle)
        (run_invoke_cancel v depth other b handle') ?_
      exact (cancelTimer h _ b hhandle.2.1 hhandle.1).bind fun _ _ w v h _ => pure h trivial
    | recorder serial r =>
      obtain ⟨other, rfl⟩ := Value.Alike.function hsame
      refine congr (run_invoke_recordCancel w depth serial r handle)
        (run_invoke_recordCancel v depth other r handle') ?_
      exact (recordCancel h _ r hhandle.1).bind fun _ _ w v h _ => pure h trivial

end Tally

end Understudy

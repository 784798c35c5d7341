import Mathlib.Data.Set.Card
import Understudy.Proofs.Lifetime

/-!
# Sessions with timers that they do not know

The hooks of a session may be replaced while one of its timers waits, and then the session may
lose the handle of it. The timer still calls the session when its time comes. So a session may
have any number of timers. What still holds is that all of them are on its timeline, and that
there are no new ones as long as its hooks do nothing.

A collection that the passing of time makes is paid for by a timer. This module keeps that
account through every turn in the life of a session.

## Main definitions

* `World.Idling`: a session whose hooks do nothing.
* `World.waiting`: how many timers will call a session.
* `World.Spends`: what was collected was paid for by timers.
* `Attended`: what holds of a session however its hooks were replaced.

## Main statements

* `Attended.turn`: what one turn keeps, and what it costs.
* `Lifetime.attended`: what a lifetime keeps.
-/

namespace Understudy

/-! ## The account -/

/-- The hooks of a session are those that do nothing. -/
def World.Idling (w : World) (s : Ref .session) : Prop :=
  ∃ (p : Ref .policy) (i j : Nat), (w.row s : Session).policy = .ofRef p ∧
    (w.row p : Policy).arm = .function i .idleArm ∧
    (w.row p : Policy).cancel = .function j .idleCancel

/-- How many timers of a timeline will call a session. -/
noncomputable def World.waiting (w : World) (s : Ref .session) (t : Ref .timeline) : Nat :=
  {seq | w.Awaits s t seq}.ncard

/-- The timers that will call a session are no more than they were, and what was collected since
was paid for by those that are gone, or by credit. -/
def World.Spends (s : Ref .session) (t : Ref .timeline) (credit : Nat) (w w' : World) : Prop :=
  w'.waiting s t ≤ w.waiting s t ∧
    ∃ added, (w'.row s : Session).collections = (w.row s : Session).collections ++ added ∧
      added.length + w'.waiting s t ≤ w.waiting s t + credit

namespace World

variable {s : Ref .session} {t : Ref .timeline} {w w' w'' : World}

/-- A timeline has no timers beyond the number that it gives out next. -/
theorem finite_awaits (w : World) (s : Ref .session) (t : Ref .timeline) :
    {seq | w.Awaits s t seq}.Finite := by
  refine (Set.finite_lt_nat (w.row t : Timeline).nextSeq).subset ?_
  rintro seq ⟨timer, htimer, _⟩
  cases seq with
  | zero => cases htimer
  | succ i =>
    obtain ⟨hlt, _⟩ := List.getElem?_eq_some_iff.1 htimer
    exact Nat.succ_lt_succ hlt

/-- No timer waits exactly if there is none that will call. -/
theorem waiting_eq_zero_iff : w.waiting s t = 0 ↔ ∀ seq, ¬w.Awaits s t seq := by
  rw [waiting, Set.ncard_eq_zero (w.finite_awaits s t), Set.eq_empty_iff_forall_notMem]
  rfl

theorem waiting_mono (h : ∀ seq, w'.Awaits s t seq → w.Awaits s t seq) :
    w'.waiting s t ≤ w.waiting s t := Set.ncard_le_ncard h (w.finite_awaits s t)

/-- A timer that is gone is one less. -/
theorem waiting_lt {seq : Nat} (h : w.Awaits s t seq)
    (hdropped : ∀ other, w'.Awaits s t other → w.Awaits s t other ∧ other ≠ seq) :
    w'.waiting s t < w.waiting s t := by
  refine Set.ncard_lt_ncard ⟨fun other hother => (hdropped other hother).1, fun hall => ?_⟩
    (w.finite_awaits s t)
  exact (hdropped seq (hall h)).2 rfl

namespace Spends

/-- Where nothing was collected it is enough that there are no new timers. -/
theorem of_collections
    (hcollections : (w'.row s : Session).collections = (w.row s : Session).collections)
    (hless : w'.waiting s t ≤ w.waiting s t) : Spends s t 0 w w' :=
  ⟨hless, [], by rw [hcollections, List.append_nil], by simpa using hless⟩

theorem trans {m n : Nat} (h : Spends s t m w w') (h' : Spends s t n w' w'') :
    Spends s t (m + n) w w'' := by
  obtain ⟨hless, added, hcollections, hpaid⟩ := h
  obtain ⟨hless', added', hcollections', hpaid'⟩ := h'
  refine ⟨hless'.trans hless, added ++ added', ?_, ?_⟩
  · rw [hcollections', hcollections, List.append_assoc]
  · rw [List.length_append]
    omega

end Spends

/-- What leaves a timeline alone leaves the timers alone. -/
theorem Filled.awaits {reg : Ref .registry} (h : w.Filled reg s w') (t : Ref .timeline)
    (seq : Nat) : w'.Awaits s t seq ↔ w.Awaits s t seq := by
  have hline : w'.row t = (w.row t : Timeline) := congrArg (Table.get · t.index) h.timelines
  rw [Awaits, Awaits, hline]

theorem Filled.waiting_le {reg : Ref .registry} (h : w.Filled reg s w') (t : Ref .timeline) :
    w'.waiting s t ≤ w.waiting s t := waiting_mono fun seq => (h.awaits t seq).1

end World

/-! ## Attended sessions -/

/-- What holds of a session however its hooks were replaced. If it is idle, its hooks do
nothing. -/
structure Attended (idle : Prop) (reg : Ref .registry) (s : Ref .session) (t : Ref .timeline)
    (w : World) : Prop where
  equipped : Equipped reg s t w
  running : ∃ b, (w.row s : Session).running = .bool b
  /-- It is not running before it has been set up. -/
  unready (h : (w.row s : Session).policy = .none) : (w.row s : Session).running = .bool false
  /-- The timers of the timeline that do not call it leave it alone. -/
  others (seq : Nat) (timer : Timer) (h : (w.row t : Timeline).timer? seq = some timer)
    (hlive : timer.live = true) : timer.Calls s ∨ Aloof reg s timer.callback
  /-- No timer of another timeline calls it. -/
  elsewhere (t' : Ref .timeline) (seq : Nat) (h : w.Awaits s t' seq) : t' = t
  handle : (w.row s : Session).handle = .none ∨ ∃ seq, (w.row s : Session).handle = .handle t seq
  idling (h : idle) : w.Idling s

/-- A state that an attended session is led to without collecting anything. If it is idle, it
has no new timers there. -/
structure Attending (idle : Prop) (reg : Ref .registry) (s : Ref .session) (t : Ref .timeline)
    (w w' : World) : Prop where
  attended : Attended idle reg s t w'
  collections : (w'.row s : Session).collections = (w.row s : Session).collections
  fewer (h : idle) : w'.waiting s t ≤ w.waiting s t

/-- A state that an attended session is led to. If it is idle, what it collected was paid for. -/
structure Spending (idle : Prop) (credit : Nat) (reg : Ref .registry) (s : Ref .session)
    (t : Ref .timeline) (w w' : World) : Prop where
  attended : Attended idle reg s t w'
  spends (h : idle) : w.Spends s t credit w'

theorem World.Fresh.attended {reg : Ref .registry} {s : Ref .session} {t : Ref .timeline}
    {w : World} (h : w.Fresh reg s t) : Attended False reg s t w where
  equipped := (h.tended False).equipped
  running := ⟨false, h.running⟩
  unready _ := h.running
  others seq timer htimer hlive := .inr (h.others seq timer htimer hlive)
  elsewhere t' seq ha := absurd ha (h.unawaited t' seq)
  handle := .inl h.handle
  idling := False.elim

section

variable {idle : Prop} {reg : Ref .registry} {s : Ref .session} {t : Ref .timeline}
  {w w' w'' : World}

theorem Attending.trans (h : Attending idle reg s t w w') (h' : Attending idle reg s t w' w'') :
    Attending idle reg s t w w'' :=
  ⟨h'.attended, h'.collections.trans h.collections,
    fun hidle => (h'.fewer hidle).trans (h.fewer hidle)⟩

theorem Attending.spending (h : Attending idle reg s t w w') : Spending idle 0 reg s t w w' :=
  ⟨h.attended, fun hidle => .of_collections h.collections (h.fewer hidle)⟩

theorem Spending.trans {m n : Nat} (h : Spending idle m reg s t w w')
    (h' : Spending idle n reg s t w' w'') : Spending idle (m + n) reg s t w w'' :=
  ⟨h'.attended, fun hidle => (h.spends hidle).trans (h'.spends hidle)⟩

/-- Hooks that do nothing stay in place. -/
theorem Equipped.idling (h : Equipped reg s t w) (hs : w.Steady reg w')
    (hg : (w'.row s : Session).gear = (w.row s : Session).gear) (hi : w.Idling s) :
    w'.Idling s := by
  obtain ⟨_, _, _, hpolicy⟩ := Session.gear_inj hg
  obtain ⟨p, i, j, hp, harm, hcancel⟩ := hi
  have hkept := hs.policy p (h.hooked hp).1
  exact ⟨p, i, j, hpolicy.trans hp, (congrArg Policy.arm hkept).trans harm,
    (congrArg Policy.cancel hkept).trans hcancel⟩

/-- A run adds one collection to those of its session, or none if it fails. -/
theorem Equipped.exists_collections_of_collectDaily (h : Equipped reg s t w) (depth : Nat) :
    ∃ added : List Value,
      ((w.after (collectDaily (invokeWithin depth) s)).row s : Session).collections =
        (w.row s : Session).collections ++ added ∧ added.length ≤ 1 := by
  have hgathered := h.untouched_gather depth
  have hintact := (hgathered.filled.equipped h).sane.intact
  rw [collectDaily_eq]
  refine World.after_bind_cases (P := fun w' => ∃ added : List Value,
    (w'.row s : Session).collections = (w.row s : Session).collections ++ added ∧
      added.length ≤ 1) (fun _ _ => ?_) fun collection _ => ?_
  · exact ⟨[], by rw [hgathered.session, List.append_nil], Nat.zero_le _⟩
  · obtain ⟨log, serial, hafter⟩ := hintact.alike_keepCollection (invokeWithin depth) s collection
    rw [hafter]
    refine ⟨[collection.toValue], ?_, Nat.le_refl _⟩
    show ((World.collected _ s _).row s : Session).collections = _
    rw [World.collected, World.row_withRow_self, hgathered.session]

namespace Attended

theorem attending (h : Attended idle reg s t w) : Attending idle reg s t w w :=
  ⟨h, rfl, fun _ => Nat.le_refl _⟩

/-- A session stays attended where its equipment stays and where timers that it did not have
call it, whatever becomes of its handle. -/
theorem change (h : Attended idle reg s t w) (hs : w.Steady reg w')
    (hg : (w'.row s : Session).gear = (w.row s : Session).gear)
    (hlines : ∀ t', t' ≠ t → w'.row t' = (w.row t' : Timeline))
    (hline : ∀ seq timer, (w'.row t : Timeline).timer? seq = some timer → timer.live = true →
      (w.row t : Timeline).timer? seq = some timer ∨ timer.Calls s)
    (hhandle : (w'.row s : Session).handle = .none ∨
      ∃ seq, (w'.row s : Session).handle = .handle t seq)
    (hrunning : ∃ b, (w'.row s : Session).running = .bool b)
    (hunready : (w.row s : Session).policy = .none →
      (w'.row s : Session).running = .bool false) : Attended idle reg s t w' where
  equipped := h.equipped.steady hs hg
  running := hrunning
  unready hn := hunready ((Session.gear_inj hg).2.2.2.symm.trans hn)
  others seq timer htimer hlive :=
    (hline seq timer htimer hlive).elim (h.others seq timer · hlive) .inl
  elsewhere t' seq ha := by
    refine Classical.byContradiction fun ht => ht (h.elsewhere t' seq ?_)
    rwa [World.Awaits, hlines t' ht] at ha
  handle := hhandle
  idling hidle := h.equipped.idling hs hg (h.idling hidle)

/-- What leaves alone what counts keeps a session attended. -/
theorem filled (h : Attended idle reg s t w) (hf : w.Filled reg s w') :
    Attended idle reg s t w' := by
  have hfield {α : Type} (f : Session → α) (hu : ∀ x : Session, f x.unfilled = f x) :
      f (w'.row s) = f (w.row s) := by
    rw [← hu (w'.row s), hf.session, hu]
  have hrunning := hfield Session.running fun _ => rfl
  have hline (t' : Ref .timeline) : w'.row t' = (w.row t' : Timeline) :=
    congrArg (Table.get · t'.index) hf.timelines
  refine h.change hf.toSteady (hfield Session.gear fun _ => rfl) (fun t' _ => hline t')
    (fun seq timer htimer _ => .inl (hline t ▸ htimer)) ?_ (hrunning ▸ h.running)
    fun hn => hrunning.trans (h.unready hn)
  exact (hfield Session.handle fun _ => rfl) ▸ h.handle

theorem untouched (h : Attended idle reg s t w) (hu : w.Untouched reg s w') :
    Attending idle reg s t w w' :=
  ⟨h.filled hu.filled, congrArg Session.collections hu.session, fun _ => hu.filled.waiting_le t⟩

theorem alike (h : Attended idle reg s t w) (ha : w.Alike w') : Attending idle reg s t w w' :=
  h.untouched (.of_alike ha)

/-- One timer of the timeline may be given up, whether the session has the handle of it or
not. -/
theorem drop (h : Attended idle reg s t w) (hs : w.Steady reg w')
    (hg : (w'.row s : Session).gear = (w.row s : Session).gear)
    (hlines : ∀ t', t' ≠ t → w'.row t' = (w.row t' : Timeline)) {seq : Nat}
    {dropped : Option Timer} (hdropped : ∀ timer, dropped = some timer → timer.live = false)
    (hline : ∀ other, (w'.row t : Timeline).timer? other =
      if other = seq then dropped else (w.row t : Timeline).timer? other)
    (hhandle : (w'.row s : Session).handle = .none ∨
      (w'.row s : Session).handle = (w.row s : Session).handle)
    (hrunning : ∃ b, (w'.row s : Session).running = .bool b)
    (hunready : (w.row s : Session).policy = .none →
      (w'.row s : Session).running = .bool false) : Attended idle reg s t w' := by
  refine h.change hs hg hlines (fun q timer htimer hlive => .inl ?_) ?_ hrunning hunready
  · rw [hline] at htimer
    by_cases hq : q = seq
    · rw [if_pos hq] at htimer
      rw [hdropped timer htimer] at hlive
      cases hlive
    · rwa [if_neg hq] at htimer
  · rcases hhandle with hnone | hkept
    · exact .inl hnone
    · exact hkept ▸ h.handle

/-- A timer that is on the line no more is given up, if nothing else is different. -/
theorem dropTimer (h : Attended idle reg s t w) {line : Timeline} {seq : Nat}
    {dropped : Option Timer} (hdropped : ∀ timer, dropped = some timer → timer.live = false)
    (hline : ∀ other, line.timer? other =
      if other = seq then dropped else (w.row t : Timeline).timer? other) :
    Attending idle reg s t w (w.withRow t line) := by
  have hlines (t' : Ref .timeline) (ht : t' ≠ t) :
      (w.withRow t line).row t' = (w.row t' : Timeline) := by
    rw [World.row_withRow, if_neg ht]
  have hrow (other : Nat) : ((w.withRow t line).row t : Timeline).timer? other =
      if other = seq then dropped else (w.row t : Timeline).timer? other := by
    rw [World.row_withRow_self]
    exact hline other
  refine ⟨h.drop (.withRow_timeline w t _) rfl hlines hdropped hrow (.inr rfl) h.running h.unready,
    rfl, fun _ => World.waiting_mono fun other ha => ?_⟩
  exact ((World.awaits_of_dropped hlines hdropped hrow t other).1 ha).1

/-- A running session has a policy. -/
theorem policy_of_running (h : Attended idle reg s t w)
    (hrunning : (w.row s : Session).running = .bool true) :
    ∃ p : Ref .policy, (w.row s : Session).policy = .ofRef p := by
  rcases h.equipped.policy with hnone | ⟨p, hp, _⟩
  · rw [h.unready hnone] at hrunning
    cases hrunning
  · exact ⟨p, hp⟩

/-- A session may have another handle of the timeline, or none, and a session with a policy may
run or not. -/
theorem withSession (h : Attended idle reg s t w) (session : Session)
    (hg : session.gear = (w.row s : Session).gear)
    (hcollections : session.collections = (w.row s : Session).collections)
    (hhandle : session.handle = .none ∨ ∃ seq, session.handle = .handle t seq)
    (hrunning : ∃ b, session.running = .bool b)
    (hunready : (w.row s : Session).policy = .none → session.running = .bool false) :
    Attending idle reg s t w (w.withRow s session) := by
  have hsession : (w.withRow s session).row s = session := World.row_withRow_self _ s _
  refine ⟨h.change (.withRow_session w s _) ?_ (fun _ _ => rfl) (fun _ _ htimer _ => .inl htimer)
    ?_ ?_ ?_, ?_, fun _ => Nat.le_refl _⟩
  all_goals rwa [hsession]

/-! ## The daily cycle -/

/-- A number that could not be used for a timer makes no difference. -/
theorem skip (h : Attended idle reg s t w) :
    Attending idle reg s t w (w.withRow t (w.row t : Timeline).skip) := by
  refine h.dropTimer (fun timer htimer => ?_) fun other => Timeline.timer?_skip _ other
  cases htimer
  rfl

/-- A session with hooks that arm may be given the handle of one more timer. -/
theorem armed (h : Attended idle reg s t w) (hbusy : ¬idle) (b : Ref .bank) (due : Float)
    {serial : Nat} {timeout : Value}
    (htimeout : timeout = .function serial (.method s.object .dailyTimeout)) :
    Attending idle reg s t w ((w.armed t b due timeout).withRow s
      { (w.row s : Session) with handle := .handle t (w.row t : Timeline).nextSeq }) := by
  let w' : World := (w.armed t b due timeout).withRow s
    { (w.row s : Session) with handle := .handle t (w.row t : Timeline).nextSeq }
  have hsession : w'.row s =
      { (w.row s : Session) with handle := .handle t (w.row t : Timeline).nextSeq } :=
    World.row_withRow_self _ s _
  have hrow (t' : Ref .timeline) : w'.row t' =
      (w.withRow t ((w.row t : Timeline).schedule due (.banked b timeout))).row t' := rfl
  have hsteady : w.Steady reg w' := (World.Steady.armed w t b due timeout).trans
    (.withRow_session _ s _)
  refine ⟨h.change hsteady ?_ (fun t' ht => ?_) (fun seq timer htimer _ => ?_)
    (.inr ⟨(w.row t : Timeline).nextSeq, ?_⟩) ?_ ?_, ?_, fun hidle => absurd hidle hbusy⟩
  · rw [hsession]
    rfl
  · rw [hrow, World.row_withRow, if_neg ht]
  · rw [hrow, World.row_withRow_self, Timeline.timer?_schedule] at htimer
    split at htimer
    · cases htimer
      exact .inr ⟨serial, htimeout⟩
    · exact .inl htimer
  · rw [hsession]
  · rw [hsession]
    exact h.running
  · rw [hsession]
    exact h.unready
  · rw [hsession]

/-- Calling the first hook arms a timer, unless the hooks do nothing. -/
theorem arm (h : Attended idle reg s t w) {p : Ref .policy}
    (hp : (w.row s : Session).policy = .ofRef p) (depth : Nat) (delay : Value) {serial : Nat}
    {timeout : Value} (htimeout : timeout = .function serial (.method s.object .dailyTimeout)) :
    Attending idle reg s t w (w.after (do
      let handle ← invokeWithin depth (w.row p : Policy).arm [delay, timeout]
      keepHandle s delay handle)) := by
  cases h.equipped.arm_cases hp depth delay timeout with
  | failed same => exact same.symm ▸ h.attending
  | skipped skipped => exact skipped.symm ▸ h.skip
  | idled _ kept =>
    have hgiven := h.withSession { (w.row s : Session) with handle := .none } rfl rfl (.inl rfl)
      h.running h.unready
    exact hgiven.trans (hgiven.attended.alike kept)
  | @armed b j due cancels kept =>
    have hbusy : ¬idle := fun hidle => by
      obtain ⟨p', _, _, hp', _, hcancel⟩ := h.idling hidle
      obtain rfl := Value.ofRef_injective (hp.symm.trans hp')
      cases cancels.symm.trans hcancel
    have hgiven := h.armed hbusy b due htimeout
    exact hgiven.trans (hgiven.attended.alike kept)

/-- A session with a policy arms a timer, or fails to, or its hooks do nothing. -/
theorem armDaily (h : Attended idle reg s t w) (depth : Nat) {p : Ref .policy}
    (hp : (w.row s : Session).policy = .ofRef p) :
    Attending idle reg s t w (w.after (armDaily (invokeWithin depth) s)) := by
  rw [armDaily_eq, World.after_bind_of_run (h.equipped.sane.intact.run_askPolicy _ hp)]
  have huntouched := h.equipped.untouched_askDelay depth
  have h₁ := h.untouched huntouched
  refine World.after_bind_cases (fun _ _ => h₁) fun delay _ => ?_
  have hp₁ := (congrArg Session.policy huntouched.session).trans hp
  revert h₁ hp₁
  generalize w.after (askDelay (invokeWithin depth) s) = w₁
  intro h₁ hp₁
  have hintact := h₁.attended.equipped.sane.intact
  rw [World.after_bind_of_run (hintact.run_readAttribute_armHook _ p),
    World.after_bind_of_run (hintact.run_readAttribute_dailyTimeout _ s)]
  have h₂ : Attending idle reg s t w₁ { w₁ with nextSerial := w₁.nextSerial + 1 } :=
    h₁.attended.alike ⟨w₁.log, w₁.nextSerial + 1, rfl⟩
  exact (h₁.trans h₂).trans (h₂.attended.arm (p := p) hp₁ depth delay rfl)

theorem askToArm (h : Attended idle reg s t w) (depth : Nat)
    (hrunning : (w.row s : Session).running = .bool true) :
    Attending idle reg s t w (w.after (askToArm (invokeWithin depth) s)) := by
  obtain ⟨p, hp⟩ := h.policy_of_running hrunning
  have hrun : w.run (askSession (invokeWithin depth) s .armDaily
      fun s => nothing (Understudy.armDaily (invokeWithin depth) s)) =
      w.run (nothing (Understudy.armDaily (invokeWithin depth) s)) :=
    h.equipped.sane.intact.run_request _ s [] _ rfl
  rw [Understudy.askToArm, World.after_bind_pure, World.after, hrun, run_nothing]
  exact h.armDaily depth hp

/-- Starting a session arms a timer, unless it is running already, or its hooks do nothing. -/
theorem start (h : Attended idle reg s t w) (depth : Nat) :
    Attending idle reg s t w (w.after (start (invokeWithin depth) s)) := by
  rcases h.equipped.askPolicy_cases (invokeWithin depth) with
    ⟨p, hp, hrun⟩ | ⟨⟨fault, hfault⟩, hlike⟩
  · rw [Understudy.start, World.after_bind_of_run hrun,
      World.after_bind_of_run (World.run_get w), World.after_bind_of_run (World.run_fetch w s)]
    obtain ⟨b, hb⟩ := h.running
    rw [hb]
    cases b with
    | true => exact h.alike (Quiet.emit _ _ _ _ w)
    | false =>
      show Attending idle reg s t w (w.after (update s _ >>= fun _ =>
        Understudy.askToArm (invokeWithin depth) s))
      rw [World.after_bind_of_run (World.run_update w s _)]
      have hready : (w.row s : Session).policy ≠ .none := hp ▸ Value.ofRef_ne_none p
      have hrunning := h.withSession { (w.row s : Session) with running := .bool true } rfl rfl
        h.handle ⟨true, rfl⟩ fun hnone => absurd hnone hready
      refine hrunning.trans (hrunning.attended.askToArm depth ?_)
      rw [World.row_withRow_self]
  · rw [Understudy.start, World.after, World.run_bind_of_error hfault]
    exact h.alike hlike

/-- Collecting costs one credit, whether it fails or not. -/
theorem collectDaily (h : Attended idle reg s t w) (depth : Nat) :
    Spending idle 1 reg s t w (w.after (collectDaily (invokeWithin depth) s)) := by
  have hfilled := h.equipped.filled_collectDaily depth
  refine ⟨h.filled hfilled, fun _ => ?_⟩
  obtain ⟨added, hadded, hlength⟩ := h.equipped.exists_collections_of_collectDaily depth
  have hless := hfilled.waiting_le t
  exact ⟨hless, added, hadded, by omega⟩

/-- A session arms a timer if it is running, whatever comes after that. -/
theorem armAgain (h : Attended idle reg s t w) (depth : Nat) {finish : Action Unit}
    (hfinish : Quiet finish) :
    Attending idle reg s t w (w.after (do
      if (← get).truthy (← fetch s).running then
        Understudy.askToArm (invokeWithin depth) s
        finish
      else finish)) := by
  rw [World.after_bind_of_run (World.run_get w), World.after_bind_of_run (World.run_fetch w s)]
  obtain ⟨b, hb⟩ := h.running
  rw [hb]
  cases b with
  | true =>
    have harmed := h.askToArm depth hb
    exact World.after_bind_cases (fun _ _ => harmed) fun _ _ =>
      harmed.trans (harmed.attended.alike (hfinish _))
  | false => exact h.alike (hfinish w)

/-- When a timer fires its session collects, which costs one credit, and arms the next timer if
it is running. -/
theorem onDailyTimeout (h : Attended idle reg s t w) (depth : Nat) :
    Spending idle 1 reg s t w (w.after (onDailyTimeout (invokeWithin depth) s)) := by
  rw [World.after, h.equipped.sane.intact.run_onDailyTimeout, ← World.after]
  have hgiven := h.withSession { (w.row s : Session) with handle := .none } rfl rfl (.inl rfl)
    h.running h.unready
  revert hgiven
  generalize w.withRow s { (w.row s : Session) with handle := .none } = w₀
  intro hgiven
  have h₁ := hgiven.spending.trans (hgiven.attended.collectDaily depth)
  cases w₀.outcome (Understudy.collectDaily (invokeWithin depth) s) with
  | error fault =>
    have hquiet : Quiet (emit 40 sessionLogger
      ("Error in daily collection: " ++ fault.message) (some fault.kind)) := Quiet.emit _ _ _ _
    have h₂ := h₁.trans (h₁.attended.alike (hquiet _)).spending
    exact World.after_bind_cases (fun _ _ => h₂) fun _ _ =>
      h₂.trans (h₂.attended.armAgain depth (Quiet.throw fault)).spending
  | ok v => exact h₁.trans (h₁.attended.armAgain depth (Quiet.pure ())).spending

/-! ## The passing of time -/

/-- When a timer is about to call back it has left the line. -/
theorem ringing (h : Attended idle reg s t w) (seq : Nat) (timer : Timer) :
    Attended idle reg s t (w.ringing t seq timer) := by
  have hsession := w.row_ringing_session t seq timer s
  refine h.drop (w.steady_ringing t seq timer reg) (congrArg Session.gear hsession)
    (fun t' ht => ?_) (fun _ => Timer.live_of_taken) (Tended.timer?_ringing w t seq timer)
    (.inr (congrArg Session.handle hsession)) ?_ fun hnone => ?_
  · rw [World.row_ringing_timeline, World.row_withRow, if_neg ht]
  · rw [hsession]
    exact h.running
  · rw [hsession]
    exact h.unready hnone

end Attended

/-- A timer that is about to call back is one less, and the others are as before. -/
theorem World.awaits_ringing {seq other : Nat} {timer : Timer} :
    (w.ringing t seq timer).Awaits s t other ↔ w.Awaits s t other ∧ other ≠ seq := by
  rw [World.awaits_of_dropped (t := t) (fun t' ht => ?_) (fun _ => Timer.live_of_taken)
    (Tended.timer?_ringing w t seq timer) t other]
  · simp
  · rw [World.row_ringing_timeline, World.row_withRow, if_neg ht]

namespace Attended

/-- A timer that fires pays for what its session collects. -/
theorem fire (h : Attended idle reg s t w) {seq : Nat} {timer : Timer}
    (htimer : (w.row t : Timeline).timer? seq = some timer) (hlive : timer.live = true)
    (depth : Nat) :
    Spending idle 0 reg s t w ((w.withRow t ((w.row t : Timeline).reach seq timer.due)).after
      (ring (invokeWithin (depth + 1)) t seq timer.alarm)) := by
  rw [after_ring]
  have hringing := h.ringing seq timer
  have hcollections : ((w.ringing t seq timer).row s : Session).collections =
      (w.row s : Session).collections :=
    congrArg Session.collections (w.row_ringing_session t seq timer s)
  by_cases hcalls : timer.Calls s
  · have hless : (w.ringing t seq timer).waiting s t < w.waiting s t :=
      World.waiting_lt ⟨timer, htimer, hlive, hcalls⟩ fun _ => World.awaits_ringing.1
    obtain ⟨serial, hcallback⟩ := hcalls
    rw [hcallback, World.after, run_invoke_dailyTimeout, run_nothing]
    dsimp only
    obtain ⟨hattended, hspends⟩ := hringing.onDailyTimeout depth
    refine ⟨hattended, fun hidle => ?_⟩
    -- The credit of one is the timer that has just left the line.
    obtain ⟨hmore, added, hadded, hpaid⟩ := hspends hidle
    exact ⟨by omega, added, hadded.trans (by rw [hcollections]), by omega⟩
  · have haloof := (h.others seq timer htimer hlive).resolve_left hcalls
    have hreached : Attending idle reg s t w (w.ringing t seq timer) :=
      ⟨hringing, hcollections, fun _ =>
        World.waiting_mono fun _ ha => (World.awaits_ringing.1 ha).1⟩
    exact (hreached.trans (hringing.untouched (haloof (depth + 1) _))).spending

/-- However many timers fire, they pay for what the session collects. -/
theorem fireDue (goal : Decimal.Parts) (depth limit : Nat) (h : Attended idle reg s t w) :
    Spending idle 0 reg s t w (w.after (fireDue (invokeWithin (depth + 1)) t goal limit)) := by
  induction limit generalizing w with
  | zero => exact h.attending.spending
  | succ limit ih =>
    obtain hafter | ⟨seq, timer, htimer, hcancelled, hafter⟩ |
      ⟨seq, timer, note, htimer, hlive, hafter⟩ :=
        fireDue_cases (invokeWithin (depth + 1)) limit w t goal
    · rw [hafter]
      exact h.attending.spending
    · rw [hafter]
      have htook := h.dropTimer (fun _ => Timer.live_of_taken) (Timeline.timer?_take _ seq)
      exact htook.spending.trans (ih htook.attended)
    · rw [hafter]
      have hfired := h.fire htimer hlive depth
      have hnoted := hfired.trans (hfired.attended.untouched (.withNote _ note)).spending
      exact hnoted.trans (ih hnoted.attended)

/-- Showing another time changes no timer. -/
theorem showTime (h : Attended idle reg s t w) (now : Float) :
    Attending idle reg s t w (w.withRow t { (w.row t : Timeline) with now := now }) := by
  -- No timer has the number zero, so that none is given up.
  have hline (line : Timeline) (other : Nat) :
      Timeline.timer? { line with now := now } other =
        if other = 0 then none else line.timer? other := by
    cases other <;> rfl
  exact h.dropTimer (fun _ hno => by cases hno) (hline _)

/-- However far time is moved on, timers pay for what the session collects. -/
theorem advance (h : Attended idle reg s t w) (depth : Nat) (goal : Value) :
    Spending idle 0 reg s t w (w.after (advance (invokeWithin (depth + 1)) t goal)) := by
  obtain ⟨w₁, w₂, hfirst, hlike, hlast⟩ := advance_cases w (invokeWithin (depth + 1)) t goal
  have hfired : Spending idle 0 reg s t w w₁ := by
    obtain rfl | ⟨limit, rfl⟩ := hfirst
    · exact h.attending.spending
    · exact h.fireDue limit depth fireLimit
  have hspelled := hfired.trans (hfired.attended.alike hlike).spending
  obtain hafter | ⟨now, hafter⟩ := hlast
  · rw [hafter]
    exact hspelled
  · rw [hafter]
    exact hspelled.trans (hspelled.attended.showTime now).spending

/-! ## The hooks -/

/-- A session that is given hooks has no new timer for it. -/
theorem provided (h : Attended idle reg s t w) (hbusy : ¬idle) {policy : Policy}
    (hhooked : w.Hooked t policy.arm policy.cancel) :
    Attended idle reg s t (w.provided s policy) := by
  have hsession : (w.provided s policy).row s =
      { (w.row s : Session) with policy := .ofRef (⟨w.policies.size⟩ : Ref .policy) } :=
    World.row_withRow_self _ s _
  refine ⟨h.equipped.provided hhooked, ?_, fun hno => ?_, h.others, h.elsewhere, ?_,
    fun hidle => absurd hidle hbusy⟩
  · rw [hsession]
    exact h.running
  · rw [hsession] at hno
    cases hno
  · rw [hsession]
    exact h.handle

/-- Setting up gives hooks to a session that has none, and to another one it does nothing. -/
theorem setUp (h : Attended idle reg s t w) (call : Caller) :
    Attending idle reg s t w (w.after (setUp call s)) := by
  rcases h.equipped.policy with hnone | ⟨p, hp, _⟩
  · have hbusy : ¬idle := fun hidle => by
      obtain ⟨p, _, _, hp, _⟩ := h.idling hidle
      cases hnone.symm.trans hp
    obtain ⟨b, hb, hon⟩ := h.equipped.timers
    obtain ⟨w₁, serial, i, j, hlike, hafter⟩ := h.equipped.sane.intact.after_setUp call hb hnone
    have h₁ : Attended idle reg s t w₁ := (h.alike hlike).attended
    have hhooked : w₁.Hooked t (.function i (.method b.object .arm))
        (.function j (.method b.object .cancel)) := by
      obtain ⟨_, _, rfl⟩ := hlike
      exact .banked i j hon
    have h₂ : Attended idle reg s t (w₁.provided s ⟨serial, _, _⟩) :=
      h₁.provided hbusy hhooked
    rw [hafter]
    refine ⟨h₂.filled (h₂.equipped.filled_identify call), ?_, fun hidle => absurd hidle hbusy⟩
    have htold := (h₂.equipped.sane.told_identify h₂.equipped.registry call).untouched reg s
    obtain ⟨_, _, rfl⟩ := hlike
    rw [htold.session, World.named, World.row_withRow_self, World.provided, World.row_withRow_self]
    rfl
  · rw [setUp_eq, World.after_bind_of_run (World.run_fetch w s), hp]
    exact h.attending

/-- A session may be given other hooks. If these do nothing, it is idle from then on. -/
theorem rehooked (h : Attended idle reg s t w) {p : Ref .policy}
    (hp : (w.row s : Session).policy = .ofRef p) {policy : Policy}
    (hhooked : w.Hooked t policy.arm policy.cancel) {idle' : Prop}
    (hidling : idle' → ∃ i j, policy.arm = .function i .idleArm ∧
      policy.cancel = .function j .idleCancel) :
    Attending idle' reg s t w (w.rehooked p policy) where
  attended :=
    { equipped := h.equipped.rehooked hp hhooked
      running := h.running
      unready := h.unready
      others := h.others
      elsewhere := h.elsewhere
      handle := h.handle
      idling := fun hidle => by
        obtain ⟨i, j, harm, hcancel⟩ := hidling hidle
        have hrow : (w.rehooked p policy).row p = policy := World.row_withRow_self _ p _
        exact ⟨p, i, j, hp, (congrArg Policy.arm hrow).trans harm,
          (congrArg Policy.cancel hrow).trans hcancel⟩ }
  collections := rfl
  fewer _ := Nat.le_refl _

/-- Replacing the hooks of a session that has been set up, at any moment. -/
theorem overrideScheduling (h : Attended idle reg s t w) (call : Caller) {i : Ref .injector}
    (hi : (w.row i : Injector).owner = .ofRef s) {arm cancel : Value}
    (hhooked : w.Hooked t arm cancel) {p : Ref .policy}
    (hp : (w.row s : Session).policy = .ofRef p) {idle' : Prop}
    (hidling : idle' → ∃ i j, arm = .function i .idleArm ∧ cancel = .function j .idleCancel) :
    Attending idle' reg s t w (w.after (overrideScheduling call i arm cancel)) := by
  have h₁ : Attending idle reg s t w { w with nextSerial := w.nextSerial + 1 } :=
    h.alike ⟨w.log, w.nextSerial + 1, rfl⟩
  have hhooked₁ : World.Hooked { w with nextSerial := w.nextSerial + 1 } t arm cancel :=
    hhooked.of_banks fun b hb => hb
  have h₂ : Attending idle' reg s t _ (World.rehooked _ p ⟨w.nextSerial, arm, cancel⟩) :=
    h₁.attended.rehooked hp hhooked₁ hidling
  have h₃ := h₂.attended.alike
    (h.equipped.sane.intact.alike_overrideScheduling call hi hp (hhooked.checkHooks w))
  have h₄ := h₂.trans h₃
  exact ⟨h₄.attended, h₄.collections, h₄.fewer⟩

/-! ## Shutting down -/

/-- The session that is left when it has let go of its handle. -/
theorem released (h : Attended idle reg s t w) : Attending idle reg s t w (w.released s) :=
  h.withSession _ rfl rfl (.inl rfl) ⟨false, rfl⟩ fun _ => rfl

/-- A timer that a bank has cancelled is given up. -/
theorem cancelled (h : Attended idle reg s t w) (b : Ref .bank) (seq : Nat) :
    Attending idle reg s t w (w.cancelled t b seq) := by
  have hrow (t' : Ref .timeline) : (w.cancelled t b seq).row t' =
      (w.withRow t ((w.row t : Timeline).cancel seq)).row t' := rfl
  have hlines (t' : Ref .timeline) (ht : t' ≠ t) :
      (w.cancelled t b seq).row t' = (w.row t' : Timeline) := by
    rw [hrow, World.row_withRow, if_neg ht]
  have hline (other : Nat) : ((w.cancelled t b seq).row t : Timeline).timer? other =
      if other = seq then
        ((w.row t : Timeline).timer? seq).map fun timer => { timer with cancelled := true }
      else (w.row t : Timeline).timer? other := by
    rw [hrow, World.row_withRow_self, Timeline.timer?_cancel]
  refine ⟨h.drop (.cancelled w t b seq) rfl hlines (fun _ => Timer.live_of_cancelled) hline
    (.inr rfl) h.running h.unready, rfl, fun _ => World.waiting_mono fun other ha => ?_⟩
  exact ((World.awaits_of_dropped hlines (fun _ => Timer.live_of_cancelled) hline t other).1 ha).1

/-- Shutting down cancels a timer, or leaves it. -/
theorem shutdown (h : Attended idle reg s t w) (depth : Nat) :
    Attending idle reg s t w (w.after (shutdown (invokeWithin (depth + 1)) s)) := by
  cases h.equipped.shutdown_cases h.running h.policy_of_running h.handle depth with
  | idle _ same => exact same.symm ▸ h.attending
  | kept _ _ released => exact h.released.trans (h.released.attended.alike released)
  | @cancelled b seq _ _ _ released =>
    have hcancelled := h.cancelled b seq
    have hreleased := hcancelled.trans hcancelled.attended.released
    exact hreleased.trans (hreleased.attended.alike released)

end Attended

end

/-! ## Turns -/

namespace Turn

/-- Hooks are replaced only by those that do nothing. -/
def Idles : Turn → Prop
  | override _ arm cancel => ∃ i j, arm = .function i .idleArm ∧ cancel = .function j .idleCancel
  | _ => True

/-- How much is collected without a timer. -/
def credit : Turn → Nat
  | collect => 1
  | _ => 0

end Turn

section

variable {idle : Prop} {reg : Ref .registry} {s : Ref .session} {t : Ref .timeline} {w : World}

/-- Every turn keeps a session attended, whatever the hooks are replaced by and when. As long as
the hooks do nothing, timers pay for what is collected in it. -/
theorem Attended.turn (h : Attended idle reg s t w) (turn : Turn) (fits : turn.Fits reg s t w)
    (hidles : idle → turn.Idles) :
    Spending idle turn.credit reg s t w (turn.after reg s t w) := by
  cases turn with
  | setUp => exact (h.setUp invoke).spending
  | start => exact (h.start depthLimit).spending
  | shutdown => exact (h.shutdown 999).spending
  | collect => exact h.collectDaily depthLimit
  | advance goal => exact h.advance 999 goal
  | override i arm cancel =>
    rcases h.equipped.policy with hnone | ⟨p, hp, _⟩
    · have hrefused : w.after (Understudy.overrideScheduling invoke i arm cancel) =
          w.after (refuseOwner invoke i) := by
        rw [overrideScheduling_eq, World.after_bind_of_run (World.run_fetch w i), fits.1,
          World.after_bind_of_run (h.equipped.sane.intact.run_policyOf invoke s), hnone]
        rfl
      have hquiet := h.untouched (.of_quiet (quiet_refuseOwner invoke i))
      rw [← hrefused] at hquiet
      exact hquiet.spending
    · exact (h.overrideScheduling invoke fits.1 fits.2 hp hidles).spending
  | deal d => exact (h.untouched (h.equipped.sane.untouched_deal fits s)).spending

/-- A session stays attended for its whole life. As long as its hooks do nothing it has no new
timers. -/
theorem Lifetime.attended {Allowed : World → Turn → Prop} {w₀ : World}
    (h : Lifetime reg s t Allowed w₀ w) (h₀ : Attended idle reg s t w₀)
    (hidles : ∀ w turn, Allowed w turn → idle → turn.Idles) :
    Attended idle reg s t w ∧ (idle → w.waiting s t ≤ w₀.waiting s t) := by
  induction h with
  | begin => exact ⟨h₀, fun _ => Nat.le_refl _⟩
  | turn _ turn fits allowed ih =>
    obtain ⟨hattended, hspends⟩ := ih.1.turn turn fits (hidles _ turn allowed)
    exact ⟨hattended, fun hidle => (hspends hidle).1.trans (ih.2 hidle)⟩
  | elsewhere _ aside ih =>
    exact ⟨ih.1.filled aside.filled, fun hidle => (aside.filled.waiting_le t).trans (ih.2 hidle)⟩

end

end Understudy

import Understudy.Proofs.DailyCycle

/-!
# Shutting down

A session that is shut down stops, calls its second hook for the timer that it has the handle
of, and lets go of the handle. It does so whatever the hook makes of it. So there is no timer
left if the hook can cancel one, and otherwise there is the one that was to be cancelled.

## Main definitions

* `ShutdownStep`: what shutting down can do.

## Main statements

* `Equipped.shutdown_cases`: shutting down does nothing else.
* `Tended.shutdown`: a session that can be stopped stays tended.
* `Tended.shutdown_iff`: it is exactly then that no timer is left.
-/

namespace Understudy

/-! ## What shutting down can do -/

/-- The state in which a session has stopped and let go of its handle. -/
def World.released (w : World) (s : Ref .session) : World :=
  w.withRow s { (w.row s : Session) with running := .bool false, handle := .none }

/-- All that shutting down can do to a session. -/
inductive ShutdownStep (s : Ref .session) (t : Ref .timeline) (w w' : World) : Prop
  | idle (running : (w.row s : Session).running = .bool false) (same : w' = w)
  /-- Nothing is cancelled, because there is nothing to cancel, or because nothing can. -/
  | kept (running : (w.row s : Session).running = .bool true)
      (uncancelled : (w.row s : Session).handle = .none ∨ ¬w.CanCancel s)
      (released : (w.released s).Alike w')
  | cancelled {b : Ref .bank} {seq : Nat} (running : (w.row s : Session).running = .bool true)
      (handle : (w.row s : Session).handle = .handle t seq) (cancels : w.CanCancel s)
      (released : ((w.cancelled t b seq).released s).Alike w')

/-- Lets go of the handle of a session. -/
def letGo (s : Ref .session) : Action Unit := do
  update s fun session => { session with handle := .none }
  debug sessionLogger "Daily session shut down"

/-- Shutting down is stopping, calling the second hook, and letting go of the handle. -/
theorem shutdown_eq (call : Caller) (s : Ref .session) :
    shutdown call s = (do
      if (← get).truthy (← fetch s).running then
        update s fun session => { session with running := .bool false }
        let policy ← askPolicy call s
        let hook ← readAttribute call policy "clear_daily_timeout"
        let _ ← call hook [(← fetch s).handle]
        letGo s) := rfl

/-- Of two writes of a session the later one counts. -/
theorem World.withRow_session_twice (w : World) (s : Ref .session) (x y : Session) :
    (w.withRow s x).withRow s y = w.withRow s y :=
  congrArg (fun sessions => { w with sessions := sessions }) (Table.set_set _ _ _ _)

/-- A session that has stopped lets go of its handle. -/
theorem World.Alike.letGo {w w' : World} {s : Ref .session}
    (h : (w.withRow s { (w.row s : Session) with running := .bool false }).Alike w') :
    (w.released s).Alike (w'.after (letGo s)) := by
  obtain ⟨log, serial, rfl⟩ := h
  let stopped : World := w.withRow s { (w.row s : Session) with running := .bool false }
  have hreleased : stopped.withRow s { (stopped.row s : Session) with handle := .none } =
      w.released s := by
    rw [World.row_withRow_self, World.withRow_session_twice]
    rfl
  rw [Understudy.letGo, World.after_bind_of_run (World.run_update _ s _)]
  show (w.released s).Alike (World.after (World.retold (stopped.withRow s
    { (stopped.row s : Session) with handle := .none }) log serial) _)
  rw [hreleased]
  exact World.Alike.trans ⟨log, serial, rfl⟩ (Quiet.emit _ _ _ _ _)

/-- Shutting down is not running any more, calling the second hook, and letting go of the handle.
A session that does not run is left as it is. -/
theorem World.Intact.run_shutdown {s : Ref .session} {w : World} (hw : w.Intact) (call : Caller)
    {p : Ref .policy} (hp : (w.row s : Session).policy = .ofRef p) :
    let stopped := w.withRow s { (w.row s : Session) with running := .bool false }
    w.run (shutdown call s) =
      if w.truthy (w.row s : Session).running then
        stopped.run (do
          let _ ← call (w.row p : Policy).cancel [(w.row s : Session).handle]
          letGo s)
      else (.ok (), w) := by
  intro stopped
  have hsession : stopped.row s = { (w.row s : Session) with running := .bool false } :=
    World.row_withRow_self _ s _
  have hstopped : stopped.Intact := hw.congr rfl
  have hp' : (stopped.row s : Session).policy = .ofRef p := by rw [hsession, hp]
  rw [shutdown_eq, World.run_bind_of_run (World.run_get w),
    World.run_bind_of_run (World.run_fetch w s), World.run_ite]
  split
  · rw [World.run_bind_of_run (World.run_update w s _),
      World.run_bind_of_run (hstopped.run_askPolicy call hp'),
      World.run_bind_of_run (hstopped.run_readAttribute_cancelHook call p),
      World.run_bind_of_run (World.run_fetch stopped s), hsession]
    rfl
  · rfl

/-- A session that does not run is not shut down again. -/
theorem after_shutdown_of_stopped {s : Ref .session} {w : World} (call : Caller)
    (hrunning : (w.row s : Session).running = .bool false) : w.after (shutdown call s) = w := by
  rw [shutdown, World.after_bind_of_run (World.run_get w),
    World.after_bind_of_run (World.run_fetch w s), hrunning]
  rfl

/-- What a session that runs does when it is shut down. -/
theorem World.Intact.after_shutdown {s : Ref .session} {w : World} (hw : w.Intact) (call : Caller)
    (hrunning : (w.row s : Session).running = .bool true) {p : Ref .policy}
    (hp : (w.row s : Session).policy = .ofRef p) :
    let stopped := w.withRow s { (w.row s : Session) with running := .bool false }
    w.after (shutdown call s) = stopped.after (do
      let _ ← call (w.row p : Policy).cancel [(w.row s : Session).handle]
      letGo s) := by
  intro stopped
  have hruns : w.truthy (w.row s : Session).running = true := by rw [hrunning]; rfl
  rw [World.after, hw.run_shutdown call hp, if_pos hruns]
  rfl

/-- A bank that has cancelled a timer is on its line as before. -/
theorem World.Steady.cancelled {reg : Ref .registry} (w : World) (t : Ref .timeline)
    (b : Ref .bank) (seq : Nat) : w.Steady reg (w.cancelled t b seq) := by
  have hline : w.Steady reg (World.withRow
      { w with assigned := w.assigned.erase (.timer t seq, cancelledName) } t
        ((w.row t : Timeline).cancel seq)) :=
    .of_eq (fun hs => ⟨hs.intact.cancelled t b seq, hs.sound⟩) rfl rfl
  exact hline.withRow_bank rfl

/-- Shutting down does nothing else, to a session that has a policy if it runs, and the handle
of a timer of the timeline or none. -/
theorem Equipped.shutdown_cases {reg : Ref .registry} {s : Ref .session} {t : Ref .timeline}
    {w : World} (h : Equipped reg s t w) (hrunning : ∃ b, (w.row s : Session).running = .bool b)
    (hready : (w.row s : Session).running = .bool true →
      ∃ p : Ref .policy, (w.row s : Session).policy = .ofRef p)
    (hhandle : (w.row s : Session).handle = .none ∨
      ∃ seq, (w.row s : Session).handle = .handle t seq) (depth : Nat) :
    ShutdownStep s t w (w.after (shutdown (invokeWithin (depth + 1)) s)) := by
  obtain ⟨b, hrunning⟩ := hrunning
  cases b with
  | false => exact .idle hrunning (after_shutdown_of_stopped _ hrunning)
  | true =>
    obtain ⟨p, hp⟩ := hready hrunning
    rw [h.sane.intact.after_shutdown _ hrunning hp]
    obtain ⟨_, hhooked⟩ := h.hooked hp
    generalize (w.row p : Policy).arm = arm at hhooked
    generalize hcancel : (w.row p : Policy).cancel = cancel at hhooked
    cases hhooked with
    | idle i j =>
      rw [World.after_bind_of_run (run_invoke_idleCancel _ depth j _)]
      refine .kept hrunning (.inr ?_) (World.Alike.refl _).letGo
      rintro ⟨p', j', b, hp', hcancel'⟩
      obtain rfl := Value.ofRef_injective (hp.symm.trans hp')
      cases hcancel.symm.trans hcancel'
    | @banked i j b on =>
      rcases hhandle with hn | ⟨seq, hhandle⟩
      · rw [hn, World.after_bind_of_run (run_invoke_cancel _ depth j b .none)]
        exact .kept hrunning (.inl hn) (World.Alike.refl _).letGo
      · let stopped : World := w.withRow s { (w.row s : Session) with running := .bool false }
        have hintact : stopped.Intact := h.sane.intact.congr rfl
        have hrun := run_invoke_cancel stopped depth j b (.handle t seq)
        rw [run_nothing, World.outcome, World.after, hintact.run_cancelTimer _ t b seq] at hrun
        rw [hhandle, World.after_bind_of_run hrun]
        have htold : (stopped.cancelled t b seq).Alike _ :=
          Quiet.emit 10 timersLogger "Cancelled timer" .none _
        have hcancels : w.CanCancel s := ⟨p, j, b, hp, hcancel⟩
        exact .cancelled (b := b) hrunning hhandle hcancels
          (World.Alike.letGo (w := w.cancelled t b seq) htold)

namespace Tended

variable {guarded : Prop} {reg : Ref .registry} {s : Ref .session} {t : Ref .timeline}
  {w : World}

theorem shutdown_cases (h : Tended guarded reg s t w) (depth : Nat) :
    ShutdownStep s t w (w.after (shutdown (invokeWithin (depth + 1)) s)) :=
  h.equipped.shutdown_cases h.running h.policy_of_running h.handle depth

/-! ## What is left of the timer -/

/-- A session without a timer may stop. -/
theorem released (h : Tended guarded reg s t w) (hready : (w.row s : Session).policy ≠ .none)
    (hn : (w.row s : Session).handle = .none) : Tended guarded reg s t (w.released s) := by
  have hsame : w.released s =
      w.withRow s { (w.row s : Session) with running := .bool false } := by
    rw [World.released, ← hn]
  rw [hsame]
  exact h.withRunning hready hn false

/-- The session that is left when its timer was cancelled and it has stopped. -/
theorem cancelled (h : Tended guarded reg s t w) {seq : Nat}
    (hhandle : (w.row s : Session).handle = .handle t seq) (b : Ref .bank) :
    Tended guarded reg s t ((w.cancelled t b seq).released s) := by
  let w' : World := (w.cancelled t b seq).released s
  have hsession : w'.row s =
      { (w.row s : Session) with running := .bool false, handle := .none } :=
    World.row_withRow_self _ s _
  have hrow (t' : Ref .timeline) : w'.row t' =
      (w.withRow t ((w.row t : Timeline).cancel seq)).row t' := rfl
  have hline (other : Nat) : (w'.row t : Timeline).timer? other =
      if other = seq then
        ((w.row t : Timeline).timer? seq).map fun timer => { timer with cancelled := true }
      else (w.row t : Timeline).timer? other := by
    rw [hrow, World.row_withRow_self, Timeline.timer?_cancel]
  have hcancelled : w.Steady reg (w.cancelled t b seq) := .cancelled w t b seq
  refine h.drop (hcancelled.trans (.withRow_session _ s _)) ?_ (fun t' ht => ?_)
    (fun _ => Timer.live_of_cancelled) hline (fun _ => ?_) (fun hno => absurd hhandle hno)
    ⟨false, ?_⟩ (fun _ => ?_) (fun _ => ?_)
  · rw [hsession]
    rfl
  · rw [hrow, World.row_withRow, if_neg ht]
  all_goals rw [hsession]

/-- A session that was shut down does not run and has no handle, whatever its hooks did. -/
theorem shutdown_rests (h : Tended guarded reg s t w) (depth : Nat) :
    ((w.after (shutdown (invokeWithin (depth + 1)) s)).row s : Session).running = .bool false ∧
      ((w.after (shutdown (invokeWithin (depth + 1)) s)).row s : Session).handle = .none := by
  have hrow (w : World) : (w.released s).row s =
      { (w.row s : Session) with running := .bool false, handle := .none } :=
    World.row_withRow_self _ s _
  cases h.shutdown_cases depth with
  | idle running same => exact same.symm ▸ ⟨running, h.stopped running⟩
  | kept _ _ released | cancelled _ _ _ released =>
    obtain ⟨log, serial, hafter⟩ := released
    rw [hafter]
    exact ⟨congrArg Session.running (hrow _), congrArg Session.handle (hrow _)⟩

/-- A session that can be stopped stays tended when it is shut down. -/
theorem shutdown (h : Tended guarded reg s t w) (depth : Nat) (hstop : w.CanStop s) :
    Tended guarded reg s t (w.after (shutdown (invokeWithin (depth + 1)) s)) := by
  cases h.shutdown_cases depth with
  | idle _ same => exact same.symm ▸ h
  | kept running uncancelled released =>
    have hn : (w.row s : Session).handle = .none :=
      uncancelled.elim id fun hno => hstop.resolve_right hno
    obtain ⟨p, hp⟩ := h.policy_of_running running
    have hready : (w.row s : Session).policy ≠ .none := hp ▸ Value.ofRef_ne_none p
    exact (h.released hready hn).alike released
  | @cancelled b _ _ handle _ released => exact (h.cancelled handle b).alike released

/-- A session that cannot be stopped has a handle, and all that it does with it when it is shut
down is to let go of it. -/
theorem shutdown_kept (h : Tended guarded reg s t w) (depth : Nat) (hstop : ¬w.CanStop s) :
    (∃ seq, (w.row s : Session).handle = .handle t seq) ∧
      (w.released s).Alike (w.after (Understudy.shutdown (invokeWithin (depth + 1)) s)) := by
  obtain ⟨hhandle, hcan⟩ := not_or.1 hstop
  refine ⟨h.handle.resolve_left hhandle, ?_⟩
  cases h.shutdown_cases depth with
  | idle running _ => exact absurd (h.stopped running) hhandle
  | kept _ _ released => exact released
  | cancelled _ _ cancels _ => exact absurd cancels hcan

/-- No timer is left that will call a session which was shut down, exactly if it could be
stopped. -/
theorem shutdown_iff (h : Tended guarded reg s t w) (depth : Nat) :
    (∀ t' seq, ¬(w.after (Understudy.shutdown (invokeWithin (depth + 1)) s)).Awaits s t' seq) ↔
      w.CanStop s := by
  constructor
  · intro hnone
    refine Classical.byContradiction fun hstop => ?_
    obtain ⟨⟨seq, hhandle⟩, log, serial, hafter⟩ := h.shutdown_kept depth hstop
    apply hnone t seq
    rw [hafter]
    exact (h.awaits t seq).2 hhandle
  · intro hstop t' seq hawaits
    have hhandle := ((h.shutdown depth hstop).awaits t' seq).1 hawaits
    rw [(h.shutdown_rests depth).2] at hhandle
    cases hhandle

end Tended

end Understudy

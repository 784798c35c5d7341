import Understudy.Proofs.SessionHistory
import Understudy.Proofs.DormantBanks

/-!
# The collections of a session

The collections of a session are a log: there is an entry for each run, with the number that comes
next, and no entry is ever taken out. Whatever may happen to the session, and however it ends, what
was collected is still there, and every element that was added since is what some run noted in the
state in which it was begun. The proof goes by induction on what happens, into the hooks that are
called.

A run that fails leaves nothing behind, except for one whose answers cannot be told.

## Main definitions

* `Written`: the runs that have been recorded on the way from one state to another.
* `CollectionRun.Stands`: what holds of a recorded run, with those that were recorded before it.
* `CollectionLog`: what holds of the collections at any time.

## Main statements

* `SessionHistory.written`: whatever happens, all that is added to the collections are recorded
  runs.
* `SessionHistory.collectionLog`: the collections are a log at any time.
-/

namespace Understudy

/-! ## Recorded runs -/

/-- A recorded run: the state in which it was begun, how deep it could call, and what it noted. -/
structure CollectionRun where
  depth : Nat
  before : World
  collection : Collection

/-- The element of the collections that records a run. -/
def CollectionRun.value (run : CollectionRun) : Value := run.collection.toValue

/-- The state that a run has left. -/
def CollectionRun.after (s : Ref .session) (run : CollectionRun) : World :=
  run.before.after (collectDaily (invokeWithin run.depth) s)

/-- The runs that have been recorded on the way from one state to another. -/
inductive Written (r : Ref .registry) (s : Ref .session) (w₀ : World) :
    List CollectionRun → World → Prop
  | blank : Written r s w₀ [] w₀
  | aside {runs : List CollectionRun} {w w' : World} (before : Written r s w₀ runs w)
      (aside : w.Adds r s [] w') : Written r s w₀ runs w'
  | run {runs : List CollectionRun} (run : CollectionRun) (before : Written r s w₀ runs run.before)
      (notes : run.before.Notes (invokeWithin run.depth) r s run.collection)
      (added : run.before.Adds r s [run.value] (run.after s)) :
      Written r s w₀ (runs ++ [run]) (run.after s)

/-- Elements that are collections, numbered from one on. -/
def Numbered (items : List Value) : Prop :=
  ∀ i item, items[i]? = some item → ∃ c : Collection, item = c.toValue ∧ c.sequence = i + 1

theorem numbered_nil : Numbered [] := fun _ _ h => nomatch h

/-- A collection with the number that comes next may be added. -/
theorem Numbered.concat {items : List Value} (h : Numbered items) {c : Collection}
    (hc : c.sequence = items.length + 1) : Numbered (items ++ [c.toValue]) := by
  intro i item hitem
  rcases Nat.lt_trichotomy i items.length with hlt | rfl | hgt
  · rw [List.getElem?_append_left hlt] at hitem
    exact h i item hitem
  · rw [List.getElem?_concat_length] at hitem
    exact ⟨c, (Option.some.inj hitem).symm, hc⟩
  · rw [List.getElem?_eq_none (by simp; omega)] at hitem
    cases hitem

/-- What holds of a recorded run, with those that were recorded before it. -/
structure CollectionRun.Stands (r : Ref .registry) (s : Ref .session) (w₀ : World)
    (earlier : List CollectionRun) (run : CollectionRun) : Prop where
  reached : SessionHistory r s w₀ run.before
  found : (run.before.row s : Session).collections =
    (w₀.row s : Session).collections ++ earlier.map CollectionRun.value
  notes : run.before.Notes (invokeWithin run.depth) r s run.collection
  added : run.before.Adds r s [run.value] (run.after s)

namespace Written

variable {r : Ref .registry} {s : Ref .session} {w₀ w w' : World} {runs more : List CollectionRun}

theorem trans (h : Written r s w₀ runs w) (h' : Written r s w more w') :
    Written r s w₀ (runs ++ more) w' := by
  induction h' with
  | blank =>
    rw [List.append_nil]
    exact h
  | aside _ aside ih => exact ih.aside aside
  | run run _ notes added ih =>
    rw [← List.append_assoc]
    exact ih.run run notes added

/-- What has been added records the runs. -/
theorem adds (h : Written r s w₀ runs w) : w₀.Adds r s (runs.map CollectionRun.value) w := by
  induction h with
  | blank => exact .refl w₀
  | aside _ aside ih => exact ih.before aside
  | run run _ _ added ih =>
    rw [List.map_append]
    exact ih.trans added

/-- It is by what may happen that runs are recorded. -/
theorem history (h : Written r s w₀ runs w) : SessionHistory r s w₀ w := by
  induction h with
  | blank => exact .nothing w₀
  | aside _ aside ih => exact ih.more (.elsewhere aside)
  | run run _ _ _ ih => exact ih.more (.collect run.before run.depth)

/-- Recorded runs have the numbers that come next. -/
theorem numbered (h : Written r s w₀ runs w) (h₀ : Numbered (w₀.row s : Session).collections) :
    Numbered (w.row s : Session).collections := by
  induction h with
  | blank => exact h₀
  | aside _ aside ih =>
    rw [aside.collections, List.append_nil]
    exact ih
  | run run _ notes added ih =>
    rw [added.collections]
    exact ih.concat notes.sequence

theorem stands (h : Written r s w₀ runs w) {earlier later : List CollectionRun}
    {run : CollectionRun}
    (hsplit : runs = earlier ++ run :: later) : run.Stands r s w₀ earlier := by
  induction h generalizing later with
  | blank => exact absurd hsplit (by simp)
  | aside _ _ ih => exact ih hsplit
  | @run runs last before notes added ih =>
    rcases List.eq_nil_or_concat later with rfl | ⟨rest, other, rfl⟩
    · obtain ⟨rfl, hlast⟩ := List.append_inj' hsplit rfl
      obtain rfl := (List.cons.inj hlast).1
      exact ⟨before.history, before.adds.collections, notes, added⟩
    · have hlast : runs ++ [last] = (earlier ++ run :: rest) ++ [other] := by
        rw [hsplit, List.concat_eq_append, List.append_assoc, List.cons_append]
      exact ih (List.append_inj' hlast rfl).1

end Written

/-! ## Whatever happens is written down -/

/-- Some runs have been recorded on the way from one state to another. -/
def World.Writes (r : Ref .registry) (s : Ref .session) (w w' : World) : Prop :=
  ∃ runs, Written r s w runs w'

namespace World.Writes

variable {α β : Type} {r : Ref .registry} {s : Ref .session} {w w' w'' : World}

theorem of_adds (h : w.Adds r s [] w') : w.Writes r s w' := ⟨[], .aside .blank h⟩

theorem trans (h : w.Writes r s w') (h' : w'.Writes r s w'') : w.Writes r s w'' := by
  obtain ⟨runs, hruns⟩ := h
  obtain ⟨more, hmore⟩ := h'
  exact ⟨runs ++ more, hruns.trans hmore⟩

/-- A sequence writes what its parts write. -/
theorem bind {a : Action α} {f : α → Action β} (ha : w.Writes r s (w.after a))
    (hf : ∀ x, w.outcome a = .ok x → (w.after a).Writes r s ((w.after a).after (f x))) :
    w.Writes r s (w.after (a >>= f)) :=
  World.after_bind_cases (fun _ _ => ha) fun x hx => ha.trans (hf x hx)

theorem collecting (h : w.Writes r s w') (hd : Collecting r s w) : Collecting r s w' := by
  obtain ⟨_, hruns⟩ := h
  exact hd.adds hruns.adds

end World.Writes

/-- What a firing leaves is what is left of its run, and of the next timer if the session runs. -/
theorem World.Intact.after_onDailyTimeout {w : World} (hw : w.Intact) (call : Caller)
    (s : Ref .session) :
    w.after (onDailyTimeout call s) =
      if (w.ran call s).truthy ((w.ran call s).row s : Session).running then
        (w.ran call s).after (askToArm call s)
      else w.ran call s := by
  rw [World.after, hw.run_onDailyTimeout_ran]
  split
  · exact World.after_bind_cases (P := (· = _)) (fun _ _ => rfl) fun _ _ => after_rethrow _ _
  · exact after_rethrow _ _

namespace Collecting

variable {r : Ref .registry} {s : Ref .session} {w : World} (h : Collecting r s w) (depth : Nat)
include h

/-- A run is recorded once at most. -/
theorem writes_collectDaily : w.Writes r s (w.after (collectDaily (invokeWithin depth) s)) := by
  rcases (h.collectStep depth).adds with hnothing | ⟨collection, notes, added⟩
  · exact .of_adds hnothing
  · exact ⟨_, .run ⟨depth, w, collection⟩ .blank notes added⟩

/-- Arming writes what the hook writes that is called. -/
theorem writes_askToArm (hooked : ∀ aim asked,
      w.run (aimToArm (invokeWithin depth) s) = (.ok aim, asked) → Collecting r s asked →
        asked.Writes r s (asked.after (invokeWithin depth aim.hook [aim.delay, aim.timeout]))) :
    w.Writes r s (w.after (askToArm (invokeWithin depth) s)) := by
  have haimed := h.askable.keeps_aimToArm depth w (.refl w)
  rw [World.after, h.sane.intact.run_askToArm, armDaily_aim]
  refine .bind (.of_adds haimed) fun aim haim => ?_
  exact .bind (hooked aim _ (haim ▸ World.run_eq w _) (h.adds haimed)) fun handle _ =>
    .of_adds (.keepHandle _ aim.delay handle)

/-- Starting writes what the hook writes that is called, unless the session runs already. -/
theorem writes_start (hooked : w.truthy (w.row s : Session).running = false → ∀ aim asked,
      (w.withRunning s true).run (aimToArm (invokeWithin depth) s) = (.ok aim, asked) →
        Collecting r s asked →
          asked.Writes r s (asked.after (invokeWithin depth aim.hook [aim.delay, aim.timeout]))) :
    w.Writes r s (w.after (start (invokeWithin depth) s)) := by
  rcases h.sane.intact.askPolicy_cases (invokeWithin depth) (s := s) with
    ⟨_, hrun⟩ | ⟨_, ⟨fault, hfault⟩, hlike⟩
  · rw [start, World.after_bind_of_run hrun, World.after_bind_of_run (World.run_get w),
      World.after_bind_of_run (World.run_fetch w s)]
    cases hruns : w.truthy (w.row s : Session).running with
    | true => exact .of_adds (.of_alike (Quiet.emit _ _ _ _ w))
    | false =>
      rw [if_neg Bool.false_ne_true, World.after_bind_of_run (World.run_update w s _)]
      have hrunning : w.Adds r s [] (w.withRunning s true) := .withRunning w true
      exact (World.Writes.of_adds hrunning).trans
        ((h.adds hrunning).writes_askToArm depth (hooked hruns))
  · rw [start, World.after, World.run_bind_of_error hfault]
    exact .of_adds (.of_alike hlike)

/-- Shutting down writes what the hook writes that is called, if the session runs. -/
theorem writes_shutdown (hooked : w.truthy (w.row s : Session).running = true → ∀ hook asked,
      (w.withRunning s false).run (aimToCancel (invokeWithin depth) s) = (.ok hook, asked) →
        Collecting r s asked → asked.Writes r s
          (asked.after (invokeWithin depth hook [(asked.row s : Session).handle]))) :
    w.Writes r s (w.after (shutdown (invokeWithin depth) s)) := by
  rw [shutdown_aim, World.after_bind_of_run (World.run_get w),
    World.after_bind_of_run (World.run_fetch w s)]
  cases hruns : w.truthy (w.row s : Session).running with
  | false => exact .of_adds (.refl w)
  | true =>
    rw [if_pos rfl, World.after_bind_of_run (World.run_update w s _)]
    have hstopped : w.Adds r s [] (w.withRunning s false) := .withRunning w false
    have haimed := (h.adds hstopped).askable.keeps_aimToCancel (invokeWithin depth) _ (.refl _)
    refine (World.Writes.of_adds hstopped).trans (.bind (.of_adds haimed) fun hook hhook => ?_)
    rw [World.after_bind_of_run (World.run_fetch _ s)]
    have hasked := (h.adds hstopped).adds haimed
    exact .bind (hooked hruns hook _ (hhook ▸ World.run_eq _ _) hasked) fun _ _ =>
      .of_adds (.letGo _)

/-- A firing writes what its run writes, and what the hook writes that is called for the next
timer. -/
theorem writes_onDailyTimeout (hooked : (w.ran (invokeWithin depth) s).truthy
        ((w.ran (invokeWithin depth) s).row s : Session).running = true → ∀ aim asked,
      (w.ran (invokeWithin depth) s).run (aimToArm (invokeWithin depth) s) = (.ok aim, asked) →
        Collecting r s asked →
          asked.Writes r s (asked.after (invokeWithin depth aim.hook [aim.delay, aim.timeout]))) :
    w.Writes r s (w.after (onDailyTimeout (invokeWithin depth) s)) := by
  have hdropped : w.Adds r s [] (w.dropped s) := .dropped w
  have hran : w.Writes r s (w.ran (invokeWithin depth) s) :=
    (World.Writes.of_adds hdropped).trans (((h.adds hdropped).writes_collectDaily depth).trans
      (.of_adds (.of_alike (quiet_tellFault _ _))))
  rw [h.sane.intact.after_onDailyTimeout]
  split
  · rename_i hruns
    exact hran.trans ((hran.collecting h).writes_askToArm depth (hooked hruns))
  · exact hran

end Collecting

/-- Whatever happens, all that is added to the collections records runs. -/
theorem SessionHistory.written {r : Ref .registry} {s : Ref .session} {w w' : World}
    (h : SessionHistory r s w w') (hd : Collecting r s w) : w.Writes r s w' := by
  induction h with
  | nothing w => exact .of_adds (.refl w)
  | more _ _ ih₁ ih₂ => exact (ih₁ hd).trans (ih₂ ((ih₁ hd).collecting hd))
  | elsewhere aside => exact .of_adds aside
  | deal call fits => exact .of_adds (.deal hd.sane call fits)
  | swap call fits => exact .of_adds (.of_swapStep (Swap.step hd.sane.intact fits))
  | setUp w call => exact .of_adds (.setUp hd.sane hd.registry call)
  | report w call =>
    exact .of_adds (hd.askable.keeps_environment
      (fun _ _ ha => ha.before (.of_eq rfl rfl rfl)) call w (.refl w))
  | collect w depth => exact hd.writes_collectDaily depth
  | start depth _ ih => exact hd.writes_start depth ih
  | shutdown depth _ ih => exact hd.writes_shutdown depth ih
  | fire depth _ ih => exact hd.writes_onDailyTimeout depth ih

/-! ## The log -/

/-- What holds of the collections at any time since a state in which they were the same list or a
shorter one. -/
structure CollectionLog (r : Ref .registry) (s : Ref .session) (w₀ w : World) : Prop where
  /-- What has been added since records runs, one after the other. -/
  runs : ∃ runs : List CollectionRun,
    (w.row s : Session).collections =
      (w₀.row s : Session).collections ++ runs.map CollectionRun.value ∧
    ∀ earlier run later, runs = earlier ++ run :: later → run.Stands r s w₀ earlier
  grows : (w₀.row s : Session).collections <+: (w.row s : Session).collections
  numbered (h : Numbered (w₀.row s : Session).collections) :
    Numbered (w.row s : Session).collections
  collects (depth : Nat) : CollectStep (invokeWithin depth) r s w
    (w.after (collectDaily (invokeWithin depth) s))
    (w.outcome (collectDaily (invokeWithin depth) s))

/-- Whatever happens to a session whose clock does not call back into it, its collections are a
log. -/
theorem SessionHistory.collectionLog {r : Ref .registry} {s : Ref .session} {w₀ w : World}
    (h : SessionHistory r s w₀ w) (h₀ : Collecting r s w₀) : CollectionLog r s w₀ w := by
  obtain ⟨runs, hruns⟩ := h.written h₀
  have hadded := hruns.adds
  exact
    { runs := ⟨runs, hadded.collections, fun _ _ _ hsplit => hruns.stands hsplit⟩
      grows := ⟨runs.map CollectionRun.value, hadded.collections.symm⟩
      numbered := hruns.numbered
      collects := (h₀.adds hadded).collectStep }

/-! ### Two recorded runs -/

/-- The timer of the session that was started fires, and then another run is asked for. -/
def sessionKept : World :=
  (sessionStarted.after (onDailyTimeout invoke ⟨0⟩)).after (collectDaily invoke ⟨0⟩)

theorem sessionKept_history : SessionHistory ⟨0⟩ ⟨0⟩ sessionBench sessionKept := by
  have hlifetime : Lifetime ⟨0⟩ ⟨0⟩ ⟨0⟩ (fun w turn => turn.Timely ⟨0⟩ w) sessionBench
      sessionStarted :=
    sessionStarted_lifetime (fun _ _ => trivial) (fun _ => trivial) fun _ => trivial
  have hallowed (w : World) (turn : Turn) (h : Tended True ⟨0⟩ ⟨0⟩ ⟨0⟩ w)
      (timely : turn.Timely ⟨0⟩ w) : (True → turn.Timely ⟨0⟩ w) ∧ turn.Clean ⟨0⟩ w :=
    ⟨fun _ => timely, h.clean turn⟩
  have htended := hlifetime.tended (sessionBench_fresh.tended True) hallowed
  have hstarted : SessionHistory ⟨0⟩ ⟨0⟩ sessionBench sessionStarted :=
    hlifetime.history (sessionBench_fresh.tended True) hallowed
  have hfired : SessionHistory ⟨0⟩ ⟨0⟩ sessionStarted
    (sessionStarted.after (onDailyTimeout invoke ⟨0⟩)) :=
    htended.equipped.dropped.days_fire depthLimit
  have hcollected : SessionHistory ⟨0⟩ ⟨0⟩
    (sessionStarted.after (onDailyTimeout invoke ⟨0⟩)) sessionKept :=
    .collect _ depthLimit
  exact hstarted.more (hfired.more hcollected)

theorem sessionKept_collectionLog :
    SessionHistory ⟨0⟩ ⟨0⟩ sessionBench sessionKept ∧ Collecting ⟨0⟩ ⟨0⟩ sessionBench ∧
      CollectionLog ⟨0⟩ ⟨0⟩ sessionBench sessionKept ∧
      Numbered (sessionKept.row (⟨0⟩ : Ref .session) : Session).collections ∧
      (sessionKept.row (⟨0⟩ : Ref .session) : Session).collections.length = 2 := by
  have hcollecting := (sessionBench_fresh.tended True).equipped.collecting
  have hlog := SessionHistory.collectionLog sessionKept_history hcollecting
  exact ⟨sessionKept_history, hcollecting, hlog, hlog.numbered numbered_nil, by decide +kernel⟩

/-! ### A run that cannot be told -/

/-- The bench with another identity, which is said to be known by an overlay that cannot be told
because what it was put over has no id. -/
def wordlessBench : World :=
  { sessionBench with
    components := ⟨[.sampleOf Component.sampleAnswer, .plain 2 [],
      .overlay { overrides := .empty, fallback := .ofRef (⟨1⟩ : Ref .component) },
      .overlay
        { overrides := ⟨[(.id, .ofRef (⟨2⟩ : Ref .component))]⟩
          fallback := .ofRef (⟨0⟩ : Ref .component) }]⟩
    providers := ⟨[.counted (.ofRef (⟨3⟩ : Ref .component)) (.ofInt 0)]⟩ }

theorem wordlessBench_collecting : Collecting ⟨0⟩ ⟨0⟩ wordlessBench where
  sane := ⟨fun _ _ _ => rfl, .empty⟩
  registry := rfl
  clock := (Value.Harmless.aloof (v := .function 0 .clock) trivial _ _).discreet

/-- The other identity is registered. -/
def wordlessRegistered : World := wordlessBench.after (benchRegister.dealing.perform invoke ⟨0⟩)

/-- A run that fails may have added to the collections, because it fails in telling of what it has
added. -/
theorem wordlessRegistered_adds :
    ¬∀ (r : Ref .registry) (s : Ref .session) (w₀ w : World) (depth : Nat) (fault : Fault),
      Collecting r s w₀ → SessionHistory r s w₀ w →
        w.outcome (collectDaily (invokeWithin depth) s) = .error fault →
          ((w.after (collectDaily (invokeWithin depth) s)).row s : Session).collections =
            (w.row s : Session).collections := by
  intro hgeneral
  have hhistory : SessionHistory ⟨0⟩ ⟨0⟩ wordlessBench wordlessRegistered :=
    .deal invoke ⟨⟨_, rfl⟩, ⟨_, rfl⟩, ⟨_, rfl⟩⟩
  have hfails : (wordlessRegistered.outcome (collectDaily invoke ⟨0⟩)).isOk = false := by
    decide +kernel
  have hadded : ((wordlessRegistered.after (collectDaily invoke ⟨0⟩)).row
      (⟨0⟩ : Ref .session) : Session).collections.length = 1 := by decide +kernel
  have hnone : (wordlessRegistered.row (⟨0⟩ : Ref .session) : Session).collections.length = 0 := by
    decide +kernel
  cases houtcome : wordlessRegistered.outcome (collectDaily invoke ⟨0⟩) with
  | ok v =>
    rw [houtcome] at hfails
    cases hfails
  | error fault =>
    have hsame := hgeneral ⟨0⟩ ⟨0⟩ _ _ depthLimit fault wordlessBench_collecting hhistory houtcome
    have hlength := hadded.symm.trans ((congrArg List.length hsame).trans hnone)
    cases hlength

end Understudy

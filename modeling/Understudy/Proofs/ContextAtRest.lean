import Understudy.Proofs.ContextParts

/-!
# A context at rest

A context that was shut down is at rest: the host is found again, the session does not run, its
timers are cancelled, and there is nothing left to put back. It stays at rest as long as nothing is
installed through it and its session is not started, and to shut it down again makes no difference.

## Main definitions

* `World.Calm`: a state in which registries, sessions and installers are exactly as they were.
* `Rested`: a context at rest.

## Main statements

* `Occupied.shutdown`: a context can be shut down, and is at rest then.
* `Rested.shutdown_again`: to shut it down again makes no difference.
-/

namespace Understudy

/-! ## What changes nothing of importance -/

/-- Everything that was made is still there, and registries, sessions and installers are exactly as
they were. -/
structure World.Calm (w w' : World) : Prop extends w.Continues w' where
  registries : w'.registries = w.registries
  sameSessions : w'.sessions = w.sessions
  sameInstallers : w'.installers = w.installers

namespace World.Calm

variable {w w' w'' : World}

theorem trans (h : w.Calm w') (h' : w'.Calm w'') : w.Calm w'' where
  toContinues := h.toContinues.trans h'.toContinues
  registries := h'.registries.trans h.registries
  sameSessions := h'.sameSessions.trans h.sameSessions
  sameInstallers := h'.sameInstallers.trans h.sameInstallers

theorem of_alike (h : w.Alike w') : w.Calm w' where
  toContinues := .of_alike h
  registries := by
    obtain ⟨_, _, rfl⟩ := h
    rfl
  sameSessions := by
    obtain ⟨_, _, rfl⟩ := h
    rfl
  sameInstallers := by
    obtain ⟨_, _, rfl⟩ := h
    rfl

theorem refl (w : World) : w.Calm w := of_alike (.refl w)

theorem row_registry (h : w.Calm w') (r : Ref .registry) : w'.row r = (w.row r : Registry) :=
  congrArg (Table.get · r.index) h.registries

theorem row_session (h : w.Calm w') (s : Ref .session) : w'.row s = (w.row s : Session) :=
  congrArg (Table.get · s.index) h.sameSessions

theorem row_installer (h : w.Calm w') (i : Ref .installer) : w'.row i = (w.row i : Installer) :=
  congrArg (Table.get · i.index) h.sameInstallers

/-- A timer of a timeline may be cancelled. -/
theorem cancelled (w : World) (t : Ref .timeline) (b : Ref .bank) (seq : Nat) :
    w.Calm (w.cancelled t b seq) where
  intact hw := hw.cancelled t b seq
  assigned bearer name hspared := by
    have hother : ¬((Bearer.timer t seq, cancelledName) == (bearer, name)) = true := by
      rw [beq_iff_eq]
      intro heq
      obtain ⟨rfl, rfl⟩ := Prod.mk.inj heq
      exact hspared
    exact (OrderedMap.get?_erase _ _ _).trans (if_neg hother)
  moreComponents := Nat.le_refl _
  bare _ _ := rfl
  moreProviders := Nat.le_refl _
  provider _ _ := rfl
  contexts := .refl (fun _ => rfl) _
  injectors := .refl (fun _ => rfl) _
  installers := .of_eq (fun _ => rfl) rfl
  policies := .refl (fun _ => trivial) _
  sessions := .refl Session.Later.refl _
  banks := Table.Grows.set (R := fun x y : Bank => x.Tidy → y.Tidy) (fun _ h => h)
    fun h => h.discard _
  registries := rfl
  sameSessions := rfl
  sameInstallers := rfl

end World.Calm

/-- A bank that cancelled a timer keeps track of no more timers than before, and not of that one. -/
theorem World.of_mem_active_cancelled (w : World) (t : Ref .timeline) (b : Ref .bank) (seq : Nat)
    {v : Value} (hv : v ∈ ((w.cancelled t b seq).row b : Bank).active) :
    v ∈ (w.row b : Bank).active ∧ v ≠ .handle t seq := by
  rw [World.cancelled, World.row_withRow_self] at hv
  obtain ⟨hold, hother⟩ := List.mem_filter.1 hv
  refine ⟨hold, fun heq => ?_⟩
  rw [heq, Value.beq_iff.2 ⟨[.handle t seq], rfl, rfl⟩] at hother
  cases hother

/-- Timers of timelines are cancelled without a fault, and the bank keeps track of none of them. -/
theorem World.Intact.run_cancelEach (call : Caller) (b : Ref .bank) (handles : List Value)
    (hhandles : ∀ v ∈ handles, ∃ t seq, v = Value.handle t seq) {w : World} (hw : w.Intact) :
    ∃ w', w.run (cancelEach call b handles) = (.ok (), w') ∧ w.Calm w' ∧
      ∀ v ∈ (w'.row b : Bank).active, v ∈ (w.row b : Bank).active ∧ v ∉ handles := by
  induction handles generalizing w with
  | nil => exact ⟨w, rfl, .refl w, fun v hv => ⟨hv, List.not_mem_nil⟩⟩
  | cons handle rest ih =>
    obtain ⟨t, seq, rfl⟩ := hhandles handle List.mem_cons_self
    let told : World := (w.cancelled t b seq).after (debug timersLogger "Cancelled timer")
    have hcalm : w.Calm told := (World.Calm.cancelled w t b seq).trans
      (.of_alike (Quiet.emit 10 timersLogger "Cancelled timer" none _))
    have hcancel : w.run (request call (.ofRef b) .cancel [.handle t seq] fun b => do
        cancelTimer call b (.handle t seq)
        return .none) = (.ok .none, told) := by
      rw [hw.run_request call b _ _ rfl, World.run_bind_of_run (hw.run_cancelTimer call t b seq)]
      rfl
    obtain ⟨w', hrun, hrest, hactive⟩ := ih (fun v hv => hhandles v (List.mem_cons_of_mem _ hv))
      (hcalm.intact hw)
    refine ⟨w', ?_, hcalm.trans hrest, fun v hv => ?_⟩
    · rw [cancelEach, World.run_bind_of_run hcancel]
      exact hrun
    · obtain ⟨htold, hkept⟩ := hactive v hv
      obtain ⟨hold, hother⟩ := w.of_mem_active_cancelled t b seq htold
      exact ⟨hold, fun hv' => (List.mem_cons.1 hv').elim hother hkept⟩

namespace ContextParts.Stands

variable {l : ContextParts} {r : Ref .registry} {host : Ref .component} {c : Ref .context}
  {w w' : World}
  (h : l.Stands r host c w) (hw : w.Intact) (call : Caller)
include h hw

theorem run_installIn (id name version platformVersion : Value) :
    w.run (installIn call c id name version platformVersion) =
      w.run (install call l.installer id name version platformVersion) := by
  rw [installIn, World.run_bind_of_run (World.run_fetch w c), h.identities]
  exact hw.run_request call l.installer _ _ rfl

/-- To shut the session of a context down makes no difference if it does not run. -/
theorem run_shutdown_stopped (hstopped : (w.row l.session : Session).running = .bool false) :
    w.run (shutdown call l.session) = (.ok (), w) := by
  rw [hw.run_shutdown call h.policy, hstopped]
  rfl

/-- Hooks are refused, and nothing happens, or they are replaced, whatever comes after that. -/
theorem overrideIn_cases (arm cancel : Value) :
    (∃ fault, checkHooks w arm cancel = .error fault ∧
      w.run (overrideIn call c arm cancel) = (.error fault, w)) ∨
    checkHooks w arm cancel = .ok () ∧
      (World.rehooked { w with nextSerial := w.nextSerial + 1 } l.policy
        ⟨w.nextSerial, arm, cancel⟩).Alike (w.after (overrideIn call c arm cancel)) := by
  have hrun : w.run (overrideIn call c arm cancel) =
      w.run (overrideScheduling call l.injector arm cancel) := by
    rw [overrideIn, World.run_bind_of_run (World.run_fetch w c), h.hooks]
    exact hw.run_request call l.injector _ _ rfl
  cases hcheck : checkHooks w arm cancel with
  | error fault =>
    exact .inl ⟨fault, rfl,
      hrun.trans (hw.run_overrideScheduling_refused call h.owner h.policy hcheck)⟩
  | ok _ =>
    refine .inr ⟨rfl, ?_⟩
    rw [World.after, hrun]
    exact hw.alike_overrideScheduling call h.owner h.policy hcheck

/-- Hooks are replaced, or refused. Either way nothing else changes. -/
theorem overrideIn (arm cancel : Value) : w.Calm (w.after (overrideIn call c arm cancel)) := by
  rcases h.overrideIn_cases hw call arm cancel with ⟨fault, _, hrun⟩ | ⟨_, hlike⟩
  · rw [World.after_of_run hrun]
    exact .refl w
  · let counted : World := { w with nextSerial := w.nextSerial + 1 }
    let policy : Policy := ⟨w.nextSerial, arm, cancel⟩
    have hrehooked : counted.Calm (counted.rehooked l.policy policy) :=
      ⟨.rehooked counted l.policy policy, rfl, rfl, rfl⟩
    have hcounted : w.Calm counted := .of_alike ⟨w.log, _, rfl⟩
    exact hcounted.trans (hrehooked.trans (.of_alike hlike))

/-- The timers of a context are cancelled without a fault, all of them. -/
theorem run_cancelAll : ∃ w', w.run (cancelAll call l.bank) = (.ok (), w') ∧ w.Calm w' ∧
    (w'.row l.bank : Bank).active = [] := by
  obtain ⟨w', hrun, hcalm, hactive⟩ :=
    hw.run_cancelEach call l.bank (w.row l.bank : Bank).active h.tidy.handles
  refine ⟨w', ?_, hcalm, List.eq_nil_iff_forall_not_mem.2 fun v hv => ?_⟩
  · rw [cancelAll, World.run_bind_of_run (World.run_fetch w l.bank)]
    exact hrun
  · exact (hactive v hv).2 (hactive v hv).1

omit hw in
/-- The session of a context is asked for its timers without a fault. -/
theorem run_readAttribute_timers :
    w.run (readAttribute call (.ofRef l.session) "timers") = (.ok (.ofRef l.bank), w) := by
  refine run_readAttribute_held call ?_
  show w.lookObject l.session.object "timers" = _
  unfold World.lookObject
  rw [h.unassigned]
  exact congrArg (fun v => Except.ok (World.Found.held v)) h.timers

/-- Once the session of a context was shut down, its timers are cancelled, and the captured identity
is put back. -/
theorem run_shutdownContext (h' : Sane r w') (hstands : l.Stands r host c w')
    (hshutdown : w.run (shutdown call l.session) = (.ok (), w')) :
    ∃ w₁, w'.Calm w₁ ∧ (w₁.row l.bank : Bank).active = [] ∧
      w.run (shutdownContext call c) = (.ok (), w₁.after (restore call l.installer)) := by
  have hended : w.run (request call (.ofRef l.session) .shutdown [] fun s =>
      nothing (shutdown call s)) = (.ok .none, w') := by
    rw [hw.run_request call l.session _ _ rfl, run_nothing, World.outcome, World.after, hshutdown]
    rfl
  have hw' := h'.intact
  obtain ⟨w₁, hall, hcalm, hactive⟩ := hstands.run_cancelAll hw' call
  have hcancel : w'.run (request call (.ofRef l.bank) .cancelAll [] fun b =>
      nothing (cancelAll call b)) = (.ok .none, w₁) := by
    rw [hw'.run_request call l.bank _ _ rfl, run_nothing, World.outcome, World.after, hall]
    rfl
  have hw₁ := hcalm.intact hw'
  have hsound : (w₁.row r : Registry).Sound := hcalm.row_registry r ▸ h'.sound
  have hstands₁ := hstands.continues hcalm.toContinues
  have hrestore : w₁.run (request call (.ofRef l.installer) .restore [] fun i =>
      nothing (restore call i)) = (.ok .none, w₁.after (restore call l.installer)) := by
    rw [hw₁.run_request call l.installer _ _ rfl, run_nothing,
      (hw₁.restore_cases call l.installer hstands₁.ofHost.over hsound).1]
    rfl
  refine ⟨w₁, hcalm, hactive, ?_⟩
  rw [shutdownContext, World.run_bind_of_run (World.run_fetch w c), h.session,
    World.run_bind_of_run hended, World.run_bind_of_run (World.run_fetch w' c), hstands.session,
    World.run_bind_of_run (hstands.run_readAttribute_timers call),
    World.run_bind_of_run hcancel, World.run_bind_of_run (World.run_fetch w₁ c),
    hstands₁.identities, World.run_bind_of_run hrestore]
  rfl

end ContextParts.Stands

/-- A stand-in that is described by texts is installed without a fault. -/
theorem Occupied.outcome_installIn {l : ContextParts} {r : Ref .registry} {host : Ref .component}
    {c : Ref .context} {w : World} (h : Occupied r host w) (hl : l.Stands r host c w)
    (call : Caller) {id version platformVersion : Value} (hid : ∃ s, id.text? = some s)
    (hversion : ∃ s, version.text? = some s) (hplatform : ∃ s, platformVersion.text? = some s)
    (name : Value) : ∃ o : Ref .component,
      w.outcome (installIn call c id name version platformVersion) = .ok (.ofRef o) := by
  obtain ⟨o, told, houtcome, _⟩ := h.install call hl.ofHost id name version platformVersion
  obtain ⟨_, hid⟩ := hid
  obtain ⟨_, hversion⟩ := hversion
  obtain ⟨_, hplatform⟩ := hplatform
  refine ⟨o, ?_⟩
  rw [World.outcome, hl.run_installIn h.sane.intact call, ← World.outcome, houtcome]
  exact outcome_tellInstalled_of_text? told hid hversion hplatform o

/-! ## A context at rest -/

/-- A state near another one has everything that was made. -/
theorem World.Near.continues {s : Ref .session} {w w₁ : World} (h : w.Near s w₁) :
    w.Continues w₁ := by
  rcases h with rfl | ⟨b, rfl⟩
  · exact .refl _
  · exact .withRow_session ⟨rfl, fun _ => ⟨b, rfl⟩⟩

theorem World.Near.row_registry {s : Ref .session} {w w₁ : World} (h : w.Near s w₁)
    (r : Ref .registry) : w₁.row r = (w.row r : Registry) := by
  rcases h with rfl | ⟨b, rfl⟩ <;> rfl

section

variable {l : ContextParts} {r : Ref .registry} {host : Ref .component} {c : Ref .context}
  {w w₁ w' : World} (hl : l.Stands r host c w)
include hl

/-- What disturbs nobody leaves the installer of a context alone. -/
theorem ContextParts.Stands.row_installer (hn : w.Near l.session w₁) (hu : w₁.Undisturbed r w') :
    w'.row l.installer = (w.row l.installer : Installer) := by
  have hthere := hl.ofHost.over.lt_size
  rcases hn with rfl | ⟨b, rfl⟩
  all_goals exact (hu.installers.row l.installer.index hthere).symm

/-- The session of a context is shut down without a fault, if its hook returns or is not called. The
registry and the installer stay as they are. -/
theorem ContextParts.Stands.shutdownSession (h : Sane r w) {depth : Nat}
    (hcancelled : (w.withRunning l.session false).Undisturbed r
      ((w.withRunning l.session false).after (invokeWithin depth (w.row l.policy : Policy).cancel
        [(w.row l.session : Session).handle])))
    (hreturns : (w.row l.session : Session).running = .bool false ∨
      ∃ v, (w.withRunning l.session false).outcome (invokeWithin depth
        (w.row l.policy : Policy).cancel [(w.row l.session : Session).handle]) = .ok v) :
    ∃ ended, w.run (shutdown (invokeWithin depth) l.session) = (.ok (), ended) ∧
      w.Continues ended ∧ ended.row r = (w.row r : Registry) ∧
      ended.row l.installer = (w.row l.installer : Installer) ∧
      (ended.row l.session : Session).running = .bool false := by
  obtain ⟨hok, w₁, hnear, hstopped, hundisturbed⟩ := (hl.driven h).shutdown hcancelled hreturns
  have hrun := World.run_eq w (shutdown (invokeWithin depth) l.session)
  rw [hok] at hrun
  have hseated := Nat.lt_of_lt_of_le hl.seated hnear.continues.sessions.size
  exact ⟨_, hrun, hnear.continues.trans hundisturbed.continues,
    hundisturbed.registry.trans (hnear.row_registry r), hl.row_installer hnear hundisturbed,
    (hundisturbed.session hseated).2.trans hstopped⟩

end

/-- A context that was shut down: the host is shown, the session does not run, and there is nothing
left to put back. -/
structure Rested (r : Ref .registry) (host : Ref .component) (l : ContextParts) (c : Ref .context)
    (w : World) : Prop where
  occupied : Occupied r host w
  stands : l.Stands r host c w
  shows : w.Shows r host
  stopped : (w.row l.session : Session).running = .bool false
  current (h : (w.row r : Registry).captureOf? (.ofText appInfoContract) ≠ none) :
    (w.row l.installer : Installer).current = .none
  settled (serial : Nat) (e : Entry)
    (h : (w.row r : Registry).captureOf? (.ofText appInfoContract) =
      some (Capture.toValue ⟨serial, e.toValue, .ofRef host⟩)) :
    ∃ e', e.Anew e' ∧ (w.row r : Registry).entryOf? (.ofText appInfoContract) = some e'.toValue

namespace Rested

variable {r : Ref .registry} {host : Ref .component} {l : ContextParts} {c : Ref .context}
  {w w' : World}
  (h : Rested r host l c w)
include h

/-- A context rests as long as the registry and its installer are left alone and its session is not
started. -/
theorem continues (hc : w.Continues w') (hr : w'.row r = (w.row r : Registry))
    (hi : w'.row l.installer = (w.row l.installer : Installer))
    (hs : (w'.row l.session : Session).running = (w.row l.session : Session).running) :
    Rested r host l c w' where
  occupied := h.occupied.continues hc hr
  stands := h.stands.continues hc
  shows := h.shows.retains hc.toRetains (congrArg _ hr)
  stopped := hs.trans h.stopped
  current hcaptured := by
    rw [hi]
    exact h.current (hr ▸ hcaptured)
  settled serial e hcaptured := by
    rw [hr]
    exact h.settled serial e (hr ▸ hcaptured)

theorem undisturbed (hu : w.Undisturbed r w') : Rested r host l c w' :=
  h.continues hu.continues hu.registry
    (hu.installers.row l.installer.index h.stands.ofHost.over.lt_size).symm
    (hu.session h.stands.seated).2

end Rested

/-- A context can be shut down, and is at rest then. -/
theorem Occupied.shutdown {r : Ref .registry} {host : Ref .component} {l : ContextParts}
    {c : Ref .context} {w : World} (h : Occupied r host w) (hl : l.Stands r host c w)
    (hc : Considerate r l.session l.policy w) (depth : Nat)
    (hreturns : ∃ v, (w.withRunning l.session false).outcome
      (invokeWithin depth (w.row l.policy : Policy).cancel
        [(w.row l.session : Session).handle]) = .ok v) :
    w.outcome (shutdownContext (invokeWithin depth) c) = .ok () ∧
      w.Continues (w.after (shutdownContext (invokeWithin depth) c)) ∧
      Rested r host l c (w.after (shutdownContext (invokeWithin depth) c)) := by
  obtain ⟨ended, hshutdown, hcontinues, hregistry, _, hrunning⟩ :=
    hl.shutdownSession h.sane (hc.cancel depth) (.inr hreturns)
  have hended := h.continues hcontinues hregistry
  have hstands := hl.continues hcontinues
  obtain ⟨w₂, hcalm, _, hrun⟩ := hl.run_shutdownContext h.sane.intact (invokeWithin depth)
    hended.sane hstands hshutdown
  have h₂ := hended.continues hcalm.toContinues (hcalm.row_registry r)
  have hstands₂ := hstands.continues hcalm.toContinues
  obtain ⟨_, hrestored⟩ := h₂.restore (invokeWithin depth) hstands₂.ofHost
  refine ⟨World.outcome_of_run hrun, ?_⟩
  rw [World.after_of_run hrun]
  have hall := hcontinues.trans (hcalm.toContinues.trans hrestored.continues)
  refine ⟨hall, hrestored.occupied, hl.continues hall, hrestored.shows, ?_, hrestored.current,
    hrestored.settled⟩
  exact (congrArg (fun t => (Table.get t l.session.index).running) hrestored.sessions).trans
    ((congrArg Session.running (hcalm.row_session l.session)).trans hrunning)

end Understudy

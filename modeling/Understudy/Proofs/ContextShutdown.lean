import Understudy.Proofs.DormantContexts

/-!
# Shutting a context down

A context is shut down in three steps: its session stops, the timers of its bank are cancelled,
and the captured identity is put back. The first step calls the cancelling hook. If the hook fails,
there are no further steps: no timer is cancelled, and nothing is put back. The session does not run
any more by then, so that shutting the session down again makes no difference to it.

Where nothing was captured there is nothing to be put back, and no stand-in either: an install
captures before it puts a stand-in in place. So in the whole life of a context its installer has a
stand-in of its own only over a capture.

## Main definitions

* `World.Backed`, `ContextParts.Life`: a stand-in over a capture, and the life of a context.
* `ContextParts.Cleared`: what a context leaves that was shut down.
* `ContextParts.ShutsDown`: the two ways in which shutting a context down ends.

## Main statements

* `ContextParts.Life.backed`: at any time of its life the stand-in of a context is one over a
  capture.
* `ContextParts.Stands.cleared`: a context whose session has stopped is cleared.
* `ContextParts.Stands.shutsDown`: a context is cleared, or it is left as its hook left it.
-/

namespace Understudy

/-! ## What is installed is captured -/

/-- What an installer of the identity has installed stands over a capture. -/
def World.Backed (w : World) (r : Ref .registry) (i : Ref .installer) : Prop :=
  (w.row i : Installer).current ≠ .none →
    ∃ found, (w.row r : Registry).captureOf? (.ofText appInfoContract) = some found

/-- After a request an installer has the stand-in that it had before, or none, or else its contract
is captured. -/
theorem Dealing.Step.current_cases {call : Caller} {r : Ref .registry} {w w' : World} {d : Dealing}
    (hd : Dealing.Step call r w w' d) (hs : (w.row r : Registry).Sound) (i : Ref .installer) :
    (w'.row i : Installer).current = (w.row i : Installer).current ∨
      (w'.row i : Installer).current = .none ∨
        ∃ found, (w'.row r : Registry).captureOf? (w.row i : Installer).contractId = some found := by
  cases hd with
  | served served => exact .inl (congrArg Installer.current (served.row_installer i))
  | registered _ placed | unregistered placed =>
    exact .inl (congrArg Installer.current (placed.row_installer i))
  | captured captured => exact .inl (congrArg Installer.current (captured.row_installer i))
  | refused captured made =>
    rw [made]
    exact .inl (congrArg Installer.current (captured.row_installer i))
  | @installed j _ _ _ _ capture w₁ captured _ _ placed =>
    by_cases hsame : i = j
    · refine .inr (.inr ⟨capture.toValue, ?_⟩)
      rw [placed.row_registry, World.row_installed_registry, Registry.captureOf?_register, hsame]
      exact captured.captured hs
    · refine .inl (congrArg Installer.current ?_)
      rw [placed.row_installer, World.installed, World.row_withRow, if_neg hsame]
      exact captured.row_installer i
  | @restored j _ e _ _ replaced =>
    rw [replaced.row_installer, World.row_withRow]
    by_cases hsame : i = j
    · rw [if_pos hsame]
      exact .inr (.inl rfl)
    · rw [if_neg hsame]
      exact .inl rfl

namespace World.Backed

variable {r : Ref .registry} {i : Ref .installer} {w w' : World}

/-- Where the installer is left alone and no capture is lost, a stand-in stands over a capture as
before. -/
theorem onward (h : w.Backed r i) (hi : w'.row i = (w.row i : Installer))
    (hr : ∀ found, (w.row r : Registry).captureOf? (.ofText appInfoContract) = some found →
      (w'.row r : Registry).captureOf? (.ofText appInfoContract) = some found) :
    w'.Backed r i := by
  intro hcurrent
  rw [hi] at hcurrent
  obtain ⟨found, hfound⟩ := h hcurrent
  exact ⟨found, hr found hfound⟩

/-- Whatever is requested of the registry, a stand-in stands over a capture. -/
theorem deal (h : w.Backed r i) (hs : Sane r w) (hi : (w.row i : Installer).OfHost r)
    (call : Caller) {d : Dealing} (fits : d.Fits r w) :
    (w.after (d.perform call r)).Backed r i := by
  have hstep : Dealing.Step call r w (w.after (d.perform call r)) d := d.step hs fits
  intro hcurrent
  rcases hstep.current_cases hs.sound i with hsame | hnone | ⟨found, hfound⟩
  · rw [hsame] at hcurrent
    obtain ⟨found, hfound⟩ := h hcurrent
    exact ⟨found, hstep.onward.captures _ _ hfound⟩
  · exact absurd hnone hcurrent
  · rw [hi.contractId] at hfound
    exact ⟨found, hfound⟩

end World.Backed

/-- The life of a context from a time on at which nothing is installed through it: requests to its
registry, and to any installers over it, its own included, and whatever else leaves its installer
alone and loses no capture. -/
inductive ContextParts.Life (l : ContextParts) (r : Ref .registry) (host : Ref .component)
    (c : Ref .context) :
    World → Prop
  | begin {w : World} (stands : l.Stands r host c w) (sane : Sane r w)
      (clear : (w.row l.installer : Installer).current = .none) : Life l r host c w
  | deal {w : World} (before : Life l r host c w) (call : Caller) (d : Dealing)
      (fits : d.Fits r w) : Life l r host c (w.after (d.perform call r))
  | elsewhere {w w' : World} (before : Life l r host c w) (continues : w.Continues w')
      (sane : Sane r w → Sane r w')
      (captures : ∀ contract found, (w.row r : Registry).captureOf? contract = some found →
        (w'.row r : Registry).captureOf? contract = some found)
      (installer : w'.row l.installer = (w.row l.installer : Installer)) : Life l r host c w'

/-- The life of a context begins when it has been set up. -/
theorem ContextParts.Begun.life {l : ContextParts} {r : Ref .registry} {host : Ref .component}
    {c : Ref .context} {w w' : World} (h : l.Begun r host c w w') : l.Life r host c w' := by
  obtain ⟨_, _, _, hmade⟩ := h.made
  refine .begin hmade.stands h.sane ?_
  rw [hmade.installer]
  rfl

namespace ContextParts.Life

variable {l : ContextParts} {r : Ref .registry} {host : Ref .component} {c : Ref .context}
  {w w' : World}

/-- At any time of its life a context stands over a sane registry, and the stand-in that was
installed through it, if there is one, over a capture. -/
theorem backed (h : l.Life r host c w) :
    l.Stands r host c w ∧ Sane r w ∧ w.Backed r l.installer := by
  induction h with
  | begin stands sane clear => exact ⟨stands, sane, fun hcurrent => absurd clear hcurrent⟩
  | @deal w _ call d fits ih =>
    obtain ⟨hstands, hsane, hbacked⟩ := ih
    have hstep : Dealing.Step call r w (w.after (d.perform call r)) d := d.step hsane fits
    exact ⟨hstands.continues hstep.continues, hstep.sane hsane,
      hbacked.deal hsane hstands.ofHost call fits⟩
  | elsewhere _ continues sane captures installer ih =>
    obtain ⟨hstands, hsane, hbacked⟩ := ih
    exact ⟨hstands.continues continues, sane hsane, hbacked.onward installer (captures _)⟩

/-- It is part of the life of a context that its registry and its installer are left alone. -/
theorem spared (h : l.Life r host c w) (continues : w.Continues w')
    (registry : w'.row r = (w.row r : Registry))
    (installer : w'.row l.installer = (w.row l.installer : Installer)) : l.Life r host c w' :=
  .elsewhere h continues (fun hs => ⟨continues.intact hs.intact, registry ▸ hs.sound⟩)
    (fun _ _ hfound => registry ▸ hfound) installer

end ContextParts.Life

/-! ## What is left -/

/-- A context that was cleared: its session does not run, its bank keeps track of no timer, and what
was captured for the identity is registered anew, with no stand-in left. Where nothing was captured
there is nothing to be put back. -/
structure ContextParts.Cleared (l : ContextParts) (r : Ref .registry) (w w' : World) : Prop where
  stopped : (w'.row l.session : Session).running = .bool false
  idle : (w'.row l.bank : Bank).active = []
  restored (serial : Nat) (e : Entry) (service : Value)
    (h : (w.row r : Registry).captureOf? (.ofText appInfoContract) =
      some (Capture.toValue ⟨serial, e.toValue, service⟩)) :
    (w'.row l.installer : Installer).current = .none ∧
      ∃ e', e.Anew e' ∧ (w'.row r : Registry).entryOf? (.ofText appInfoContract) = some e'.toValue
  kept (h : (w.row r : Registry).captureOf? (.ofText appInfoContract) = none) :
    w'.row r = (w.row r : Registry) ∧ w'.row l.installer = (w.row l.installer : Installer)

namespace ContextParts.Cleared

variable {l : ContextParts} {r : Ref .registry} {w w₁ w' : World}

/-- What comes before makes no difference if it leaves the registry and the installer alone. -/
theorem before (h : l.Cleared r w₁ w') (hr : w₁.row r = (w.row r : Registry))
    (hi : w₁.row l.installer = (w.row l.installer : Installer)) : l.Cleared r w w' where
  stopped := h.stopped
  idle := h.idle
  restored serial e service hcaptured := h.restored serial e service (hr ▸ hcaptured)
  kept hno := by
    rw [← hr, ← hi]
    exact h.kept (hr ▸ hno)

/-- No stand-in is left, if what there was stood over a capture. -/
theorem current (h : l.Cleared r w w') (hs : (w.row r : Registry).Sound)
    (hbacked : w.Backed r l.installer) : (w'.row l.installer : Installer).current = .none := by
  cases hcaptured : (w.row r : Registry).captureOf? (.ofText appInfoContract) with
  | some found =>
    obtain ⟨serial, e, service, rfl, _⟩ := hs.captures _ _ hcaptured
    exact (h.restored serial e _ hcaptured).1
  | none =>
    rw [(h.kept hcaptured).2]
    refine Classical.byContradiction fun hcurrent => ?_
    obtain ⟨found, hfound⟩ := hbacked hcurrent
    rw [hcaptured] at hfound
    cases hfound

end ContextParts.Cleared

/-- A call of the cancelling hook of a session for the timer that it has the handle of. -/
def ContextParts.cancelling (l : ContextParts) (depth : Nat) (w : World) : Action Value :=
  invokeWithin depth (w.row l.policy : Policy).cancel [(w.row l.session : Session).handle]

/-- The two ways in which shutting a context down ends. It is cleared, if its session did not run or
the hook gives something back; no stand-in is left of a context at any time of its life. Otherwise
the fault is that of the hook, and all that was done before it is that the session has stopped. -/
inductive ContextParts.ShutsDown (l : ContextParts) (r : Ref .registry) (depth : Nat) (w : World) :
    Except Fault Unit → World → Prop
  | cleared {w' : World}
      (lets : (w.row l.session : Session).running = .bool false ∨
        ∃ v, (w.withRunning l.session false).outcome (l.cancelling depth w) = .ok v)
      (cleared : l.Cleared r w w')
      (clear : ∀ (host : Ref .component) (c : Ref .context), l.Life r host c w →
        (w'.row l.installer : Installer).current = .none) : l.ShutsDown r depth w (.ok ()) w'
  | stuck {fault : Fault} {w' : World}
      (running : (w.row l.session : Session).running = .bool true)
      (fails : (w.withRunning l.session false).outcome (l.cancelling depth w) = .error fault)
      (left : w' = (w.withRunning l.session false).after (l.cancelling depth w))
      (stopped : (w'.row l.session : Session).running = .bool false)
      (registry : w'.row r = (w.row r : Registry))
      (installer : w'.row l.installer = (w.row l.installer : Installer)) :
      l.ShutsDown r depth w (.error fault) w'

/-- A context whose session has stopped and whose timers are cancelled, before anything is put
back. -/
structure ContextParts.Stilled (l : ContextParts) (r : Ref .registry) (w w' : World) : Prop where
  continues : w.Continues w'
  registry : w'.row r = (w.row r : Registry)
  installer : w'.row l.installer = (w.row l.installer : Installer)
  stopped : (w'.row l.session : Session).running = .bool false
  idle : (w'.row l.bank : Bank).active = []

/-! ## How it ends -/

namespace ContextParts.Stands

variable {l : ContextParts} {r : Ref .registry} {host : Ref .component} {c : Ref .context}
  {w ended : World}

/-- A context whose session has stopped is cleared when the captured identity is put back. -/
theorem cleared (hl : l.Stands r host c w) (hs : Sane r w) (call : Caller)
    (hstopped : (w.row l.session : Session).running = .bool false)
    (hidle : (w.row l.bank : Bank).active = []) :
    l.Cleared r w (w.after (restore call l.installer)) := by
  have hcontract := hl.ofHost.contractId
  have hstep := (hs.intact.restore_cases call l.installer hl.ofHost.over hs.sound).2
  generalize w.after (restore call l.installer) = w' at hstep
  cases hstep with
  | nothing uncaptured same =>
    rw [hcontract] at uncaptured
    rw [same]
    refine ⟨hstopped, hidle, fun serial e service hcaptured => ?_, fun _ => ⟨rfl, rfl⟩⟩
    rw [hcaptured] at uncaptured
    cases uncaptured
  | @restored serial e service captured replaced =>
    have hback : (w.putBack r l.installer e).Alike w' := replaced
    have hsame := (hs.sound.of_captured captured).2.1
    rw [hcontract] at captured hsame
    refine ⟨?_, ?_, fun serial' e' service' hcaptured => ⟨?_, ?_⟩, fun hno => ?_⟩
    · obtain ⟨log, next, rfl⟩ := hback
      exact hstopped
    · obtain ⟨log, next, rfl⟩ := hback
      exact hidle
    · rw [hback.installer_putBack, if_pos rfl]
    · rw [captured] at hcaptured
      obtain ⟨rfl, _⟩ := Capture.eq_of_toValue (Option.some.inj hcaptured)
      refine ⟨_, ⟨w.nextSerial, rfl⟩, ?_⟩
      rw [hback.registry_putBack]
      exact (Registry.entryOf?_register _ _ _).trans (if_pos hsame)
    · rw [hno] at captured
      cases captured

/-- A fault in shutting down the session is one in shutting down the context, and ends it. -/
theorem run_shutdownContext_fails (hl : l.Stands r host c w) (hw : w.Intact) (call : Caller)
    {fault : Fault} (hfails : w.run (Understudy.shutdown call l.session) = (.error fault, ended)) :
    w.run (shutdownContext call c) = (.error fault, ended) := by
  have hrequest : w.run (request call (.ofRef l.session) .shutdown [] fun s =>
      nothing (Understudy.shutdown call s)) = (.error fault, ended) := by
    rw [hw.run_request call l.session _ _ rfl, run_nothing, World.outcome, World.after, hfails]
    rfl
  rw [shutdownContext, World.run_bind_of_run (World.run_fetch w c), hl.session,
    World.run_bind_of_error (World.outcome_of_run hrequest), World.after_of_run hrequest]

/-- A session that runs cannot be shut down if its cancelling hook fails. It has stopped by then. -/
theorem run_shutdown_fails (hl : l.Stands r host c w) (hw : w.Intact) {depth : Nat}
    (hruns : (w.row l.session : Session).running = .bool true) {fault : Fault}
    (hfails : (w.withRunning l.session false).outcome (l.cancelling depth w) = .error fault) :
    w.run (Understudy.shutdown (invokeWithin depth) l.session) =
      (.error fault, (w.withRunning l.session false).after (l.cancelling depth w)) := by
  rw [hw.run_shutdown _ hl.policy, hruns]
  exact World.run_bind_of_error hfails

section

variable (hl : l.Stands r host c w) (h : Sane r w) {depth : Nat}
  (hconsiderate : (w.withRunning l.session false).Undisturbed r
    ((w.withRunning l.session false).after (l.cancelling depth w)))
include hl h hconsiderate

/-- The session stops, the timers are cancelled, and then the identity is put back, unless the
cancelling hook fails before that. -/
theorem shutdownContext_cases :
    (((w.row l.session : Session).running = .bool false ∨
        ∃ v, (w.withRunning l.session false).outcome (l.cancelling depth w) = .ok v) ∧
      ∃ stilled, l.Stilled r w stilled ∧ w.run (shutdownContext (invokeWithin depth) c) =
        (.ok (), stilled.after (restore (invokeWithin depth) l.installer))) ∨
    ((w.row l.session : Session).running = .bool true ∧
      ∃ fault, (w.withRunning l.session false).outcome (l.cancelling depth w) = .error fault ∧
        w.run (shutdownContext (invokeWithin depth) c) =
          (.error fault, (w.withRunning l.session false).after (l.cancelling depth w))) := by
  by_cases hlets : (w.row l.session : Session).running = .bool false ∨
      ∃ v, (w.withRunning l.session false).outcome (l.cancelling depth w) = .ok v
  · obtain ⟨ended, hshutdown, hcontinues, hregistry, hinstaller, hstopped⟩ :=
      hl.shutdownSession h hconsiderate hlets
    have hsane : Sane r ended := ⟨hcontinues.intact h.intact, hregistry ▸ h.sound⟩
    obtain ⟨stilled, hcalm, hidle, hrun⟩ := hl.run_shutdownContext h.intact (invokeWithin depth)
      hsane (hl.continues hcontinues) hshutdown
    exact .inl ⟨hlets, stilled,
      { continues := hcontinues.trans hcalm.toContinues
        registry := (hcalm.row_registry r).trans hregistry
        installer := (hcalm.row_installer _).trans hinstaller
        stopped := (congrArg Session.running (hcalm.row_session l.session)).trans hstopped
        idle := hidle }, hrun⟩
  · obtain ⟨hruns, hfails⟩ := not_or.1 hlets
    have hruns : (w.row l.session : Session).running = .bool true := by
      obtain ⟨b, hb⟩ := hl.decided
      cases b with
      | true => exact hb
      | false => exact absurd hb hruns
    cases hcalled : (w.withRunning l.session false).outcome (l.cancelling depth w) with
    | ok v => exact absurd ⟨v, hcalled⟩ hfails
    | error fault =>
      exact .inr ⟨hruns, fault, rfl, hl.run_shutdownContext_fails h.intact (invokeWithin depth)
        (hl.run_shutdown_fails h.intact hruns hcalled)⟩

omit h in
/-- What is left where the cancelling hook fails: the session has stopped, and the registry and the
installer are as before. -/
theorem left_of_cancelling :
    let left := (w.withRunning l.session false).after (l.cancelling depth w)
    w.Continues left ∧ (left.row l.session : Session).running = .bool false ∧
      left.row r = (w.row r : Registry) ∧
        left.row l.installer = (w.row l.installer : Installer) := by
  have hnear : w.Near l.session (w.withRunning l.session false) := .inr ⟨false, rfl⟩
  have hsession := (hconsiderate.session (Nat.lt_of_lt_of_le hl.seated
    hnear.continues.sessions.size)).2
  rw [w.row_withRunning] at hsession
  exact ⟨hnear.continues.trans hconsiderate.continues, hsession,
    hconsiderate.registry.trans (hnear.row_registry r), hl.row_installer hnear hconsiderate⟩

/-- A context that is shut down is cleared, or else it is left as the cancelling hook of its session
left it, provided that the hook leaves the registry and the environments over it alone. -/
theorem shutsDown :
    l.ShutsDown r depth w (w.outcome (shutdownContext (invokeWithin depth) c))
      (w.after (shutdownContext (invokeWithin depth) c)) := by
  rcases hl.shutdownContext_cases h hconsiderate with
    ⟨hlets, stilled, hstilled, hrun⟩ | ⟨hruns, fault, hfails, hrun⟩
  · rw [World.outcome_of_run hrun, World.after_of_run hrun]
    have hsane : Sane r stilled :=
      ⟨hstilled.continues.intact h.intact, hstilled.registry ▸ h.sound⟩
    have hcleared := ((hl.continues hstilled.continues).cleared hsane (invokeWithin depth)
      hstilled.stopped hstilled.idle).before hstilled.registry hstilled.installer
    exact .cleared hlets hcleared fun _ _ hlife => hcleared.current h.sound hlife.backed.2.2
  · obtain ⟨_, hstopped, hregistry, hinstaller⟩ := hl.left_of_cancelling hconsiderate
    rw [World.outcome_of_run hrun, World.after_of_run hrun]
    exact .stuck hruns hfails rfl hstopped hregistry hinstaller

end

/-- Hooks that can be called are given to a context, and it keeps its parts. -/
theorem rehooked (hl : l.Stands r host c w) (h : Sane r w) (call : Caller) {arm cancel : Value}
    (hcheck : checkHooks w arm cancel = .ok ()) :
    Sane r (w.after (Understudy.overrideIn call c arm cancel)) ∧
      l.Stands r host c (w.after (Understudy.overrideIn call c arm cancel)) ∧
      ((w.after (Understudy.overrideIn call c arm cancel)).row l.policy : Policy).cancel =
        cancel := by
  have hcalm := hl.overrideIn h.intact call arm cancel
  have hregistry := hcalm.row_registry r
  refine ⟨⟨hcalm.intact h.intact, hregistry ▸ h.sound⟩, hl.continues hcalm.toContinues, ?_⟩
  rcases hl.overrideIn_cases h.intact call arm cancel with ⟨fault, hrefused, _⟩ | ⟨_, hlike⟩
  · rw [hcheck] at hrefused
    cases hrefused
  · obtain ⟨log, serial, hafter⟩ := hlike
    rw [hafter]
    exact congrArg Policy.cancel (World.row_withRow_self _ l.policy (⟨_, arm, cancel⟩ : Policy))

end ContextParts.Stands

/-- The life of a context goes on after it was shut down, whether that was done or failed. -/
theorem ContextParts.Life.shutdown {l : ContextParts} {r : Ref .registry} {host : Ref .component}
    {c : Ref .context} {w : World} (hlife : l.Life r host c w) {depth : Nat}
    (hconsiderate : (w.withRunning l.session false).Undisturbed r
      ((w.withRunning l.session false).after (l.cancelling depth w))) :
    l.Life r host c (w.after (shutdownContext (invokeWithin depth) c)) := by
  obtain ⟨hl, h, _⟩ := hlife.backed
  rcases hl.shutdownContext_cases h hconsiderate with
    ⟨_, stilled, hstilled, hrun⟩ | ⟨_, fault, _, hrun⟩
  · have hlives := hlife.spared hstilled.continues hstilled.registry hstilled.installer
    have hfits : (Dealing.restore l.installer).Fits r stilled :=
      (hl.continues hstilled.continues).ofHost.over
    have hrestored := hlives.deal (invokeWithin depth) (.restore l.installer) hfits
    rw [Dealing.perform, World.after_bind_pure] at hrestored
    rw [World.after_of_run hrun]
    exact hrestored
  · obtain ⟨hcontinues, _, hregistry, hinstaller⟩ := hl.left_of_cancelling hconsiderate
    rw [World.after_of_run hrun]
    exact hlife.spared hcontinues hregistry hinstaller

/-! ### A hook that fails -/

/-- The environment with the overlay that cannot be told, after an identity was installed. -/
def touchyInstalled : World :=
  touchyOpened.after (installIn invoke ⟨0⟩ (.ofText "xpcshell@tests") (.ofText "XPCShell")
    (.ofText "1") (.ofText "1"))

/-- Then the session is started. -/
def touchyStarted : World := touchyInstalled.after (start invoke ⟨0⟩)

/-- A request to the overlay is to cancel from now on. -/
def touchyHooked : World :=
  touchyStarted.after (overrideIn invoke ⟨0⟩ (.function 0 .idleArm) touchyCancel)

theorem touchyStarted_accepts :
    checkHooks touchyStarted (.function 0 .idleArm) touchyCancel = .ok () := rfl

theorem touchyOpened_unused : ∃ (l : ContextParts) (host : Ref .component),
    l.Life ⟨0⟩ host ⟨0⟩ touchyOpened ∧ l.Unused ⟨0⟩ host ⟨0⟩ idleOutsiders [] touchyOpened ∧
      l.session = ⟨0⟩ ∧ l.installer = ⟨1⟩ := by
  have hc : touchyBench.outcome setUpHost = .ok ⟨0⟩ := outcome_of_toOption (by decide +kernel)
  have hboot : touchyBench.BootRegistry (.ofRef (⟨0⟩ : Ref .registry)) ⟨0⟩ :=
    .given ⟨fun _ _ _ => rfl, .empty⟩
  have horderly : touchyBench.Orderly := ⟨fun _ _ _ => rfl, fun _ _ _ => rfl, fun _ => rfl,
    fun _ _ => rfl⟩
  obtain ⟨l, host, hbegun⟩ := hboot.begun (.given (.inl rfl)) horderly invoke hc
  have hnone (v : Value) : touchyBench.Due v → idleOutsiders.alarm v := by
    rintro ⟨t, seq, timer, htimer, _⟩
    cases seq <;> cases htimer
  have hopened : l.Unused ⟨0⟩ host ⟨0⟩ idleOutsiders [] touchyOpened :=
    hbegun.unused (idleOutsiders_comply l ⟨0⟩ host ⟨0⟩) hnone
  refine ⟨l, host, hbegun.life, hopened, ?_, ?_⟩
  · have hfound : (touchyOpened.row (⟨0⟩ : Ref .context) : Context).session =
        .ofRef (⟨0⟩ : Ref .session) := Value.eq_ofRef_of_ref? (by decide +kernel)
    exact Value.ofRef_injective (hopened.session.symm.trans hfound)
  · have hfound : (touchyOpened.row (⟨0⟩ : Ref .context) : Context).identities =
        .ofRef (⟨1⟩ : Ref .installer) := Value.eq_ofRef_of_ref? (by decide +kernel)
    exact Value.ofRef_injective (hopened.identities.symm.trans hfound)

theorem touchyInstalled_unused : ∃ (l : ContextParts) (host : Ref .component),
    l.Life ⟨0⟩ host ⟨0⟩ touchyInstalled ∧
      l.Unused ⟨0⟩ host ⟨0⟩ idleOutsiders [] touchyInstalled ∧
        l.session = ⟨0⟩ ∧ l.installer = ⟨1⟩ := by
  obtain ⟨l, host, hlife, hopened, hsession, hinstaller⟩ := touchyOpened_unused
  have hinstalled := hopened.contextRequest (idleOutsiders_comply l ⟨0⟩ host ⟨0⟩) depthLimit
    (.install (.ofText "xpcshell@tests") (.ofText "XPCShell") (.ofText "1") (.ofText "1"))
    trivial rfl
  have hlives := hlife.deal invoke
    (.install l.installer (.ofText "xpcshell@tests") (.ofText "XPCShell") (.ofText "1")
      (.ofText "1")) hopened.ofHost.over
  rw [Dealing.perform, World.after, ← hopened.run_installIn hopened.sane.intact] at hlives
  exact ⟨l, host, hlives, hinstalled, hsession, hinstaller⟩

theorem touchyHooked_stands : ∃ (l : ContextParts) (host : Ref .component), Sane ⟨0⟩ touchyHooked ∧
    l.Stands ⟨0⟩ host ⟨0⟩ touchyHooked ∧ l.installer = ⟨1⟩ ∧
      (touchyHooked.row l.policy : Policy).cancel = touchyCancel := by
  obtain ⟨l, host, _, hinstalled, hsession, hinstaller⟩ := touchyInstalled_unused
  have hstarted := hinstalled.start depthLimit
  rw [hsession] at hstarted
  change l.Unused ⟨0⟩ host ⟨0⟩ idleOutsiders _ touchyStarted at hstarted
  obtain ⟨hsane, hstands, hcancel⟩ :=
    hstarted.toStands.rehooked hstarted.sane invoke touchyStarted_accepts
  exact ⟨l, host, hsane, hstands, hinstaller, hcancel⟩

theorem touchyHooked_considerate (l : ContextParts)
    (h : (touchyHooked.row l.policy : Policy).cancel = touchyCancel) :
    (touchyHooked.withRunning l.session false).Undisturbed ⟨0⟩
      ((touchyHooked.withRunning l.session false).after
        (l.cancelling depthLimit touchyHooked)) := by
  rw [ContextParts.cancelling, h]
  exact .of_alike (touchyCancel_quiet _ _ _)

theorem touchyInstalled_considerate {l : ContextParts} {host : Ref .component}
    (h : l.Unused ⟨0⟩ host ⟨0⟩ idleOutsiders [] touchyInstalled) :
    (touchyInstalled.withRunning l.session false).Undisturbed ⟨0⟩
      ((touchyInstalled.withRunning l.session false).after
        (l.cancelling depthLimit touchyInstalled)) := by
  rw [ContextParts.cancelling, h.idleCancel]
  exact .of_alike (.refl _)

/-- The environment is shut down with a hook that fails. With the hooks that it was set up with it
is shut down before, its stand-in is gone then, and its life goes on. -/
theorem touchyHooked_shutsDown :
    (∃ (l : ContextParts) (host : Ref .component), Sane ⟨0⟩ touchyHooked ∧
      l.Stands ⟨0⟩ host ⟨0⟩ touchyHooked ∧
        (touchyHooked.withRunning l.session false).Undisturbed ⟨0⟩
          ((touchyHooked.withRunning l.session false).after
            (l.cancelling depthLimit touchyHooked)) ∧
        l.ShutsDown ⟨0⟩ depthLimit touchyHooked (touchyHooked.outcome (shutdownContext invoke ⟨0⟩))
          (touchyHooked.after (shutdownContext invoke ⟨0⟩)) ∧
        (touchyHooked.outcome (shutdownContext invoke ⟨0⟩)).isOk = false) ∧
    ∃ (l : ContextParts) (host : Ref .component),
      l.ShutsDown ⟨0⟩ depthLimit touchyInstalled
          (touchyInstalled.outcome (shutdownContext invoke ⟨0⟩))
          (touchyInstalled.after (shutdownContext invoke ⟨0⟩)) ∧
        l.Life ⟨0⟩ host ⟨0⟩ (touchyInstalled.after (shutdownContext invoke ⟨0⟩)) ∧
        ((touchyInstalled.row l.installer : Installer).current.ref? .component).isSome = true ∧
        ((touchyInstalled.after (shutdownContext invoke ⟨0⟩)).row l.installer :
          Installer).current = .none := by
  constructor
  · obtain ⟨l, host, hsane, hstands, _, hcancel⟩ := touchyHooked_stands
    have hconsiderate := touchyHooked_considerate l hcancel
    exact ⟨l, host, hsane, hstands, hconsiderate,
      ContextParts.Stands.shutsDown hstands hsane hconsiderate,
      by decide +kernel⟩
  · obtain ⟨l, host, hlife, hinstalled, _, hinstaller⟩ := touchyInstalled_unused
    have hconsiderate := touchyInstalled_considerate hinstalled
    have hshutsDown : l.ShutsDown ⟨0⟩ depthLimit touchyInstalled
        (touchyInstalled.outcome (shutdownContext invoke ⟨0⟩))
        (touchyInstalled.after (shutdownContext invoke ⟨0⟩)) :=
      ContextParts.Stands.shutsDown hinstalled.toStands hinstalled.sane hconsiderate
    have hshown : ((touchyInstalled.row l.installer : Installer).current.ref?
        .component).isSome = true := by
      rw [hinstaller]
      decide +kernel
    refine ⟨l, host, hshutsDown, hlife.shutdown hconsiderate, hshown, ?_⟩
    have hok : (touchyInstalled.outcome (shutdownContext invoke ⟨0⟩)).isOk = true := by
      decide +kernel
    revert hshutsDown hok
    generalize touchyInstalled.after (shutdownContext invoke ⟨0⟩) = w'
    generalize touchyInstalled.outcome (shutdownContext invoke ⟨0⟩) = outcome
    intro hshutsDown hok
    cases hshutsDown with
    | cleared _ _ clear => exact clear host ⟨0⟩ hlife
    | stuck _ _ _ _ _ _ => cases hok

/-- To shut a context down does not always put the captured identity back. -/
theorem touchyHooked_keepsStandIn :
    ¬∀ (l : ContextParts) (r : Ref .registry) (host : Ref .component) (c : Ref .context)
      (w : World),
      Sane r w → l.Stands r host c w →
        (w.withRunning l.session false).Undisturbed r
          ((w.withRunning l.session false).after (l.cancelling depthLimit w)) →
          ((w.after (shutdownContext invoke c)).row l.installer : Installer).current = .none := by
  intro hgeneral
  obtain ⟨l, host, hsane, hstands, hinstaller, hcancel⟩ := touchyHooked_stands
  have hnone := hgeneral l ⟨0⟩ host ⟨0⟩ _ hsane hstands (touchyHooked_considerate l hcancel)
  rw [hinstaller] at hnone
  have hkept : (((touchyHooked.after (shutdownContext invoke ⟨0⟩)).row
      (⟨1⟩ : Ref .installer) : Installer).current.ref? .component).isSome = true := by
    decide +kernel
  rw [hnone] at hkept
  cases hkept

end Understudy

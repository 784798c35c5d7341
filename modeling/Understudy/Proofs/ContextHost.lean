import Understudy.Proofs.Bootstrapping
import Understudy.Proofs.Lifetime

/-!
# The host of an environment

An environment takes something for the host of its registry when it is set up. As long as
nobody else changes the registry, every stand-in that is installed through the environment
falls back to that host, and the host is served again once the environment was shut down, if
the contract of the application's identity was covered when the environment was set up. If it
was captured and had no entry any more, neither of the two is the case.

## Main definitions

* `ContextInstalls`: what goes on in an environment until it is shut down.
* `Ends`: a session that ends without a fault.
* `KeepsHost`: what holds of an environment until it is shut down, and afterwards.

## Main statements

* `History.keepsHost`: what an environment does that is set up for a registry, whatever the
  history of the registry is.
* `hostRemove_forgets`: an environment that does not.
-/

namespace Understudy

/-! ## Staying in an environment -/

/-- What may go on besides: the registry is left alone, and so are the things there are, the
context, and its installer. -/
structure Elsewhere (r : Ref .registry) (c : Ref .context) (w w' : World) : Prop
    extends Aside r w w' where
  context : w'.row c = (w.row c : Context)
  installer (i : Ref .installer) (hi : (w.row c : Context).identities = .ofRef i) :
    w'.row i = (w.row i : Installer)

/-- What goes on in an environment: installs through its context, however they end, and
whatever goes on besides. -/
inductive ContextInstalls (call : Caller) (r : Ref .registry) (c : Ref .context) (w₀ : World) :
    World → Prop
  | begin : ContextInstalls call r c w₀ w₀
  | install {w : World} (before : ContextInstalls call r c w₀ w)
      (id name version platformVersion : Value) :
      ContextInstalls call r c w₀ (w.after (installIn call c id name version platformVersion))
  | elsewhere {w w' : World} (before : ContextInstalls call r c w₀ w) (aside : Elsewhere r c w w') :
      ContextInstalls call r c w₀ w'

namespace HostedContext

variable {call : Caller} {r : Ref .registry} {c : Ref .context} {i : Ref .installer}
  {host : Ref .component} {covered : Prop} {w w' : World} (h : HostedContext r c i host covered w)
include h

theorem elsewhere (he : Elsewhere r c w w') : HostedContext r c i host covered w' where
  toHosted := h.toHosted.beside ⟨he.toAside, he.installer i h.identities⟩
  identities := he.context ▸ h.identities
  hostAppInfo := he.context ▸ h.hostAppInfo

/-- The installer of a context is one over its registry. -/
theorem installer_over : (w.row i : Installer).Over r := by
  obtain ⟨_, hi⟩ := h.installer
  rw [hi]
  exact ⟨rfl, ⟨_, rfl⟩, ⟨_, rfl⟩⟩

theorem contractId : (w.row i : Installer).contractId = .ofText appInfoContract := by
  obtain ⟨_, hi⟩ := h.installer
  rw [hi]
  rfl

theorem run_installIn (id name version platformVersion : Value) :
    w.run (installIn call c id name version platformVersion) =
      w.run (install call i id name version platformVersion) := by
  rw [installIn, World.run_bind_of_run (World.run_fetch w c), h.identities]
  exact h.sane.intact.run_request call i _ _ rfl

/-- Whatever is installed, the context stays what it is. -/
theorem install (call : Caller) (id name version platformVersion : Value) :
    HostedContext r c i host covered
      (w.after (installIn call c id name version platformVersion)) := by
  have hstep : Dealing.Step call r w _ (.install i id name version platformVersion) :=
    Dealing.step h.sane _ h.installer_over
  rw [World.after, h.run_installIn]
  change HostedContext r c i host covered (w.after _)
  change Dealing.Step call r w (w.after (Understudy.install call i _ _ _ _)) _ at hstep
  generalize w.after (Understudy.install call i _ _ _ _) = w' at hstep ⊢
  have hcontext : w'.row c = (w.row c : Context) := by
    rw [hstep.dealt.frame]
    rfl
  obtain ⟨current, hcurrent⟩ := hstep.current
  obtain ⟨_, hi⟩ := h.installer
  obtain ⟨ground, hground, hiff⟩ := h.ground
  refine ⟨⟨hstep.sane h.sane, hstep.rooted h.sane h.rooted, ⟨current, ?_⟩, ground, ?_, hiff⟩,
    ?_, ?_⟩
  · rw [hcurrent, hi]
  · exact hground.step hstep h.sane trivial
  · exact hcontext ▸ h.identities
  · exact hcontext ▸ h.hostAppInfo

/-- What goes on in an environment makes no difference to its host. -/
theorem stay (hinstalls : ContextInstalls call r c w w') : HostedContext r c i host covered w' := by
  induction hinstalls with
  | begin => exact h
  | install _ id name version platformVersion ih =>
    exact ih.install call id name version platformVersion
  | elsewhere _ aside ih => exact ih.elsewhere aside

/-- A stand-in falls back to the host, exactly if the contract was covered. -/
theorem fallback {id name version platformVersion v : Value}
    (hv : w.outcome (installIn call c id name version platformVersion) = .ok v) :
    ∃ (o : Ref .component) (fallback : Value), v = .ofRef o ∧
      ((w.after (installIn call c id name version platformVersion)).row o :
        Component).fallback? = some fallback ∧
      (fallback = .ofRef host ↔ covered) := by
  obtain ⟨ground, hground, hiff⟩ := h.ground
  rw [World.outcome, h.run_installIn, ← World.outcome] at hv
  obtain ⟨o, hreturned, hfallback⟩ := hground.install h.sane h.installer_over h.contractId hv
  refine ⟨o, .ofRef ground, hreturned, ?_, ?_⟩
  · rw [World.after, h.run_installIn]
    exact hfallback
  · exact ⟨fun heq => hiff.1 (Value.ofRef_injective heq), fun hc => congrArg _ (hiff.2 hc)⟩

end HostedContext

/-! ## Shutting an environment down -/

/-- Ends the session of a context, and cancels its timers. -/
def endSession (call : Caller) (c : Ref .context) : Action Unit := do
  let _ ← request call (← fetch c).session .shutdown [] fun s => nothing (shutdown call s)
  let timers ← readAttribute call (← fetch c).session "timers"
  let _ ← request call timers .cancelAll [] fun b => nothing (cancelAll call b)

/-- Shutting down is ending the session, and then restoring. -/
theorem shutdownContext_eq (call : Caller) (c : Ref .context) :
    shutdownContext call c = (do
      endSession call c
      let _ ← request call (← fetch c).identities .restore [] fun i =>
        nothing (restore call i)) := by
  simp only [endSession, bind_assoc, pure_bind]
  rfl

/-- The session of a context ends without a fault, and whatever that comes to, the registry is
left alone. -/
structure Ends (call : Caller) (r : Ref .registry) (c : Ref .context) (w w' : World) : Prop where
  run : w.run (endSession call c) = (.ok (), w')
  elsewhere : Elsewhere r c w w'

/-- A session that was not started ends without any change. -/
theorem World.Unstarted.ends {call : Caller} {r : Ref .registry} {c : Ref .context} {w : World}
    (h : w.Unstarted c) (hw : w.Intact)
    (ht : ∀ s : Ref .session, w.assigned? s.object "timers" = none) : Ends call r c w w := by
  obtain ⟨s, b, hs, hrunning, hb, hactive⟩ := h
  have hshutdown : w.run (request call (.ofRef s) .shutdown [] fun s =>
      nothing (shutdown call s)) = (.ok .none, w) := by
    have hfalse : w.truthy (.bool false) = false := rfl
    rw [hw.run_request call s _ _ rfl, run_nothing]
    simp only [World.outcome, World.after, shutdown, World.run_bind, World.run_get,
      World.run_fetch, hrunning, hfalse, if_neg Bool.false_ne_true, World.run_pure]
    rfl
  have htimers : w.run (readAttribute call (.ofRef s) "timers") = (.ok (.ofRef b), w) := by
    refine run_readAttribute_held call ?_
    show w.lookObject s.object "timers" = _
    unfold World.lookObject
    rw [ht]
    exact congrArg (fun v => Except.ok (Found.held v)) hb
  have hcancel : w.run (request call (.ofRef b) .cancelAll [] fun b =>
      nothing (cancelAll call b)) = (.ok .none, w) := by
    rw [hw.run_request call b _ _ rfl, run_nothing]
    simp only [World.outcome, World.after, cancelAll, World.run_bind, World.run_fetch, hactive,
      cancelEach, World.run_pure]
    rfl
  have hrun : w.run (endSession call c) = (.ok (), w) := by
    rw [endSession, World.run_bind_of_run (World.run_fetch w c), hs,
      World.run_bind_of_run hshutdown, World.run_bind_of_run (World.run_fetch w c), hs,
      World.run_bind_of_run htimers, World.run_bind_of_run hcancel]
    rfl
  exact ⟨hrun, ⟨⟨rfl, .refl w⟩, rfl, fun _ _ => rfl⟩⟩

/-- A registry whose providers hand out what they hold when they are asked for it. -/
def World.Dependable (call : Caller) (r : Ref .registry) (w : World) : Prop :=
  ∀ (contract : Value) (e : Entry) (p : Ref .provider),
    (w.row r : Registry).entryOf? contract = some e.toValue → e.provider = .ofRef p →
      ∃ v, w.outcome (createFrom call (.ofRef p) (.capability .runtime)) = .ok v

namespace HostedContext

variable {call : Caller} {r : Ref .registry} {c : Ref .context} {i : Ref .installer}
  {host : Ref .component} {covered : Prop} {w w' : World} (h : HostedContext r c i host covered w)
include h

/-- Once a session has ended, the rest of shutting down is restoring. -/
theorem run_shutdown (he : Ends call r c w w') :
    w.run (shutdownContext call c) = (.ok (), w'.after (restore call i)) := by
  have h' := h.elsewhere he.elsewhere
  have hrestore : w'.run (request call (.ofRef i) .restore [] fun i =>
      nothing (restore call i)) = (.ok .none, w'.after (restore call i)) := by
    rw [h'.sane.intact.run_request call i _ _ rfl, run_nothing,
      (h'.sane.intact.restore_cases call i h'.installer_over h'.sane.sound).1]
    rfl
  rw [shutdownContext_eq, World.run_bind_of_run he.run,
    World.run_bind_of_run (World.run_fetch w' c), h'.identities, World.run_bind_of_run hrestore]
  rfl

/-- After an environment was shut down its host is served, exactly if the contract was
covered. -/
theorem served (he : Ends call r c w w')
    (hdependable : (w.after (shutdownContext call c)).Dependable call r) :
    (w.after (shutdownContext call c)).outcome
        (getService call r (.ofText appInfoContract) (.capability .runtime)) = .ok (.ofRef host) ↔
      covered := by
  have h' := h.elsewhere he.elsewhere
  obtain ⟨ground, hground, hiff⟩ := h'.ground
  obtain ⟨e, p, hentry, hprovider, hserves⟩ :=
    hground.restore call h'.sane h'.rooted h'.installer_over h'.contractId
  have hsane : Sane r (w'.after (restore call i)) := by
    have hstep : Dealing.Step call r w' _ (.restore i) := Dealing.step h'.sane _ h'.installer_over
    rw [Dealing.perform, World.after_bind_pure] at hstep
    exact hstep.sane h'.sane
  rw [World.after_of_run (h.run_shutdown he)] at hdependable ⊢
  generalize w'.after (restore call i) = restored at hentry hserves hsane hdependable
  obtain ⟨v, hv⟩ := hdependable _ e p hentry hprovider
  obtain ⟨c', rfl, hserves'⟩ := hsane.intact.serves call hv
  obtain rfl := hserves.unique hserves'
  have hrun := hsane.intact.run_getService call r rfl hentry (.capability .runtime)
  rw [World.outcome, hrun, hprovider, ← World.outcome, hv]
  exact ⟨fun heq => hiff.1 (Value.ofRef_injective (Except.ok.inj heq)),
    fun hcovered => by rw [hiff.2 hcovered]⟩

end HostedContext

/-! ## What an environment promises -/

/-- What holds of an environment from a state on until it is shut down, and afterwards, given
whether the contract of the application's identity was covered when it was set up. -/
structure KeepsHost (call : Caller) (r : Ref .registry) (c : Ref .context) (covered : Prop)
    (w₁ : World) : Prop where
  /-- What is installed falls back to the host of the context, exactly if it was. -/
  install (w : World) (hinstalls : ContextInstalls call r c w₁ w)
    (id name version platformVersion v : Value)
    (hv : w.outcome (installIn call c id name version platformVersion) = .ok v) :
    ∃ (o : Ref .component) (fallback : Value), v = .ofRef o ∧
      ((w.after (installIn call c id name version platformVersion)).row o :
        Component).fallback? = some fallback ∧
      (fallback = (w₁.row c : Context).hostAppInfo ↔ covered)
  /-- Once the session has ended, nothing fails any more, and the host of the context is served
  afterwards, exactly if it was. -/
  shutdown (w w' : World) (hinstalls : ContextInstalls call r c w₁ w) (hends : Ends call r c w w') :
    w.outcome (shutdownContext call c) = .ok () ∧
      ((w.after (shutdownContext call c)).Dependable call r →
        ((w.after (shutdownContext call c)).outcome
            (getService call r (.ofText appInfoContract) (.capability .runtime)) =
              .ok (w₁.row c : Context).hostAppInfo ↔ covered))
  /-- The session is not started when the environment is set up. -/
  unstarted : w₁.Unstarted c
  /-- As long as nobody starts it, and its timers are its own, it ends without a fault. -/
  rests (w : World) (hinstalls : ContextInstalls call r c w₁ w) (hun : w.Unstarted c)
    (ht : ∀ s : Ref .session, w.assigned? s.object "timers" = none) : Ends call r c w w

/-- Whatever the history of a registry is, an environment that is set up for it keeps its host,
exactly if the contract of the application's identity has an entry at the time, or was never
captured. -/
theorem History.keepsHost {call : Caller} {r : Ref .registry} {w₀ w : World} {es : List Event}
    (hintact : w₀.Intact) (hnew : w₀.row r = ({} : Registry)) (h : History call r w₀ es w)
    {s : Ref .settings} {c : Ref .context}
    (hc : w.outcome (bootstrap call (.ofRef s) (.ofRef r)) = .ok c) :
    KeepsHost call r c ((w.row r : Registry).Covered (.ofText appInfoContract))
      (w.after (bootstrap call (.ofRef s) (.ofRef r))) := by
  have h₀ : Sane r w₀ := ⟨hintact, hnew ▸ .empty⟩
  obtain ⟨i, host, hcontext, hunstarted⟩ :=
    (h.sane h₀).bootstrapped (h.rooted h₀ hnew) call rfl hc
  refine ⟨?_, ?_, hunstarted, fun w hinstalls hun ht =>
    hun.ends (hcontext.stay hinstalls).sane.intact ht⟩
  · intro w hinstalls id name version platformVersion v hv
    rw [hcontext.hostAppInfo]
    exact (hcontext.stay hinstalls).fallback hv
  · intro w w' hinstalls hends
    rw [hcontext.hostAppInfo]
    have hstayed := hcontext.stay hinstalls
    exact ⟨World.outcome_of_run (hstayed.run_shutdown hends), hstayed.served hends⟩

/-! ## Two environments -/

/-- The bench with settings that nobody chose anything for. -/
def hostBench : World := { bench with settings := ⟨[.ofSettings {}]⟩ }

/-- The sample identity is registered. -/
def hostRegister : Event := ⟨hostBench, benchRegister.dealing⟩

/-- Then it is captured. -/
def hostCapture : Event :=
  ⟨hostRegister.after invoke ⟨0⟩, .capture (.ofText appInfoContract) (.capability .runtime)⟩

/-- Then it is removed. -/
def hostRemove : Event :=
  ⟨hostCapture.after invoke ⟨0⟩,
    .unregister (.ofText appInfoContract) (.ofRef (⟨0⟩ : Ref .provider))⟩

/-- An environment is set up for the registry of the bench. -/
def setUpHost : Action (Ref .context) :=
  bootstrap invoke (.ofRef (⟨0⟩ : Ref .settings)) (.ofRef (⟨0⟩ : Ref .registry))

/-- A stand-in is installed through the environment. -/
def hostInstall : Action Value :=
  installIn invoke ⟨0⟩ (.ofText "xpcshell@tests") (.ofText "XPCShell") (.ofText "1") (.ofText "1")

theorem hostBench_intact : hostBench.Intact := fun _ _ _ => rfl

theorem hostCapture_history :
    History invoke ⟨0⟩ hostBench [hostRegister, hostCapture] (hostCapture.after invoke ⟨0⟩) :=
  .deal (.deal .start hostRegister.dealing ⟨⟨_, rfl⟩, ⟨_, rfl⟩, ⟨_, rfl⟩⟩)
    hostCapture.dealing trivial

theorem hostRemove_history :
    History invoke ⟨0⟩ hostBench [hostRegister, hostCapture, hostRemove]
      (hostRemove.after invoke ⟨0⟩) :=
  .deal hostCapture_history hostRemove.dealing trivial

/-- An environment for a registry whose identity was captured, and is still registered. -/
theorem hostCapture_keepsHost :
    (hostCapture.after invoke ⟨0⟩).outcome setUpHost = .ok ⟨0⟩ ∧
      ((hostCapture.after invoke ⟨0⟩).row (⟨0⟩ : Ref .registry) : Registry).Covered
        (.ofText appInfoContract) ∧
      KeepsHost invoke ⟨0⟩ ⟨0⟩
        (((hostCapture.after invoke ⟨0⟩).row (⟨0⟩ : Ref .registry) : Registry).Covered
          (.ofText appInfoContract))
        ((hostCapture.after invoke ⟨0⟩).after setUpHost) := by
  have hc : (hostCapture.after invoke ⟨0⟩).outcome setUpHost = .ok ⟨0⟩ :=
    outcome_of_toOption (by decide +kernel)
  have hentry : (((hostCapture.after invoke ⟨0⟩).row (⟨0⟩ : Ref .registry) : Registry).entryOf?
      (.ofText appInfoContract)).isSome := by decide +kernel
  exact ⟨hc, fun _ => Option.ne_none_iff_isSome.2 hentry,
    History.keepsHost hostBench_intact rfl hostCapture_history hc⟩

/-- The environment that is set up after the identity was removed. -/
def hostForgotten : World := (hostRemove.after invoke ⟨0⟩).after setUpHost

/-- Where the identity was captured and then removed, a stand-in of an environment that is set
up afterwards does not fall back to the host of the environment. -/
theorem hostRemove_forgets :
    ¬∀ (r : Ref .registry) (s : Ref .settings) (c : Ref .context) (w₀ w : World)
      (es : List Event), w₀.Intact → w₀.row r = ({} : Registry) → History invoke r w₀ es w →
        w.outcome (bootstrap invoke (.ofRef s) (.ofRef r)) = .ok c →
          ∀ (id name version platformVersion : Value) (o : Ref .component),
            let w₁ := w.after (bootstrap invoke (.ofRef s) (.ofRef r))
            w₁.outcome (installIn invoke c id name version platformVersion) = .ok (.ofRef o) →
              ((w₁.after (installIn invoke c id name version platformVersion)).row o :
                Component).fallback? = some (w₁.row c : Context).hostAppInfo := by
  intro hgeneral
  have hc : (hostRemove.after invoke ⟨0⟩).outcome setUpHost = .ok ⟨0⟩ :=
    outcome_of_toOption (by decide +kernel)
  have hv : (hostForgotten.outcome hostInstall).toOption.bind (·.ref? .component) = some ⟨2⟩ := by
    decide +kernel
  obtain ⟨v, hv, ho⟩ := Option.bind_eq_some_iff.1 hv
  have hv : hostForgotten.outcome hostInstall = .ok (.ofRef (⟨2⟩ : Ref .component)) :=
    (outcome_of_toOption hv).trans (congrArg Except.ok (Value.eq_ofRef_of_ref? ho))
  have hsame : ((hostForgotten.after hostInstall).row (⟨2⟩ : Ref .component) :
      Component).fallback? = some (hostForgotten.row (⟨0⟩ : Ref .context) : Context).hostAppInfo :=
    hgeneral ⟨0⟩ ⟨0⟩ ⟨0⟩ hostBench _ _ hostBench_intact rfl hostRemove_history hc _ _ _ _ ⟨2⟩ hv
  have hfallback : ((hostForgotten.after hostInstall).row (⟨2⟩ : Ref .component) :
      Component).fallback?.bind (·.ref? .component) = some ⟨0⟩ := by decide +kernel
  have hhost : (hostForgotten.row (⟨0⟩ : Ref .context) :
      Context).hostAppInfo.ref? .component = some ⟨1⟩ := by decide +kernel
  rw [hsame, Option.bind_some, hhost] at hfallback
  cases hfallback

end Understudy

import Understudy.Proofs.DrivenSessions
import Understudy.Proofs.BootstrapSucceeds

/-!
# What belongs to a context

To a context belong an installer, a session with a policy and a bank of timers, and an injector. A
context that stands with these parts stands with them in every later state, so that what is asked
of it at any time is asked of the things that were made when it was set up.

## Main definitions

* `ContextParts`, `ContextParts.Stands`: the parts of a context.
* `ContextParts.Opened`: a context as it is when it was just set up.

## Main statements

* `ContextParts.Stands.continues`: a context keeps its parts.
* `Receptive.bootWithHost`: what comes after the host is set up wherever a session can tell its id.
* `World.Orderly.bootWithRegistry`: a host and the rest are set up where no identity is served.
* `Occupied.bootstrap`: an environment is set up on a registry with a host.
* `World.Accepts.bootstrap`: an environment is set up on a new registry.
-/

namespace Understudy

/-- What belongs to a context. -/
structure ContextParts where
  installer : Ref .installer
  session : Ref .session
  injector : Ref .injector
  policy : Ref .policy
  bank : Ref .bank

/-- A context with all that belongs to it, over a registry with a host. -/
structure ContextParts.Stands (l : ContextParts) (r : Ref .registry) (host : Ref .component)
    (c : Ref .context) (w : World) : Prop where
  there : c.index < w.contexts.size
  registry : (w.row c : Context).registry = .ofRef r
  hostAppInfo : (w.row c : Context).hostAppInfo = .ofRef host
  identities : (w.row c : Context).identities = .ofRef l.installer
  session : (w.row c : Context).session = .ofRef l.session
  hooks : (w.row c : Context).hooks = .ofRef l.injector
  ofHost : (w.row l.installer : Installer).OfHost r
  injector : l.injector.index < w.injectors.size
  owner : (w.row l.injector : Injector).owner = .ofRef l.session
  seated : l.session.index < w.sessions.size
  sessionRegistry : (w.row l.session : Session).registry = .ofRef r
  timers : (w.row l.session : Session).timers = .ofRef l.bank
  clock : (w.row l.session : Session).clock.Harmless
  policy : (w.row l.session : Session).policy = .ofRef l.policy
  decided : (w.row l.session : Session).Decided
  hooked : l.policy.index < w.policies.size
  banked : l.bank.index < w.banks.size
  tidy : (w.row l.bank : Bank).Tidy
  unassigned (name : String) : w.assigned? l.session.object name = none

namespace ContextParts.Stands

variable {l : ContextParts} {r : Ref .registry} {host : Ref .component} {c : Ref .context}
  {w w' : World}
  (h : l.Stands r host c w)
include h

/-- A context keeps its parts. -/
theorem continues (hc : w.Continues w') : l.Stands r host c w' := by
  have hcontext := hc.row_context h.there
  have hsession := hc.sessions.row l.session.index h.seated
  obtain ⟨hregistry, htimers, _, hclock, hpolicy⟩ := Session.made_eq hsession.made
  refine
    { there := Nat.lt_of_lt_of_le h.there hc.contexts.size
      registry := by rw [hcontext, h.registry]
      hostAppInfo := by rw [hcontext, h.hostAppInfo]
      identities := by rw [hcontext, h.identities]
      session := by rw [hcontext, h.session]
      hooks := by rw [hcontext, h.hooks]
      ofHost := (hc.installers.row l.installer.index h.ofHost.over.lt_size).trans h.ofHost
      injector := Nat.lt_of_lt_of_le h.injector hc.injectors.size
      owner := by rw [hc.row_injector h.injector, h.owner]
      seated := Nat.lt_of_lt_of_le h.seated hc.sessions.size
      sessionRegistry := hregistry.trans h.sessionRegistry
      timers := htimers.trans h.timers
      clock := ?_
      policy := hpolicy.trans h.policy
      decided := hsession.decided h.decided
      hooked := Nat.lt_of_lt_of_le h.hooked hc.policies.size
      banked := Nat.lt_of_lt_of_le h.banked hc.banks.size
      tidy := hc.banks.row l.bank.index h.banked h.tidy
      unassigned := fun name => (hc.assigned? (.inr rfl) name).trans (h.unassigned name) }
  show (Table.get w'.sessions l.session.index).clock.Harmless
  rw [hclock]
  exact h.clock

/-- The session of a context can be driven. -/
theorem driven (hs : Sane r w) : Driven r l.session l.policy w :=
  ⟨hs, h.seated, h.sessionRegistry, h.clock, h.policy, h.hooked, h.decided⟩

end ContextParts.Stands

/-! ## Setting up -/

/-- A context as it is when it was just set up: nothing was installed through it, and its session
has not been started, has collected nothing and has hooks that do nothing. -/
structure ContextParts.Made (l : ContextParts) (r : Ref .registry) (host : Ref .component)
    (interval : Value) (c : Ref .context) (w w' : World) : Prop where
  stands : l.Stands r host c w'
  continues : w.Continues w'
  sameOutside : w.SameOutside w'
  new : w.contexts.size ≤ c.index
  installer : w'.row l.installer = Installer.ofHost (.ofRef r)
  session : ∃ sessionId, w'.row l.session =
    { registry := .ofRef r
      timers := .ofRef l.bank
      interval := interval
      sessionId := sessionId
      policy := .ofRef l.policy : Session }
  bank : w'.row l.bank = ({} : Bank)
  arm : (w'.row l.policy : Policy).arm = .function 0 .idleArm
  cancel : (w'.row l.policy : Policy).cancel = .function 0 .idleCancel

/-- A context that was set up by settings, over a registry with a host. -/
structure ContextParts.Opened (l : ContextParts) (r : Ref .registry) (host : Ref .component)
    (cfg : Ref .settings) (c : Ref .context) (w w' : World) : Prop
    extends l.Made r host ((w.row cfg : Configuration).get .dailyInterval) c w w' where
  occupied : Occupied r host w'

/-- What comes before a context is set up makes no difference to it. -/
theorem ContextParts.Made.before {l : ContextParts} {r : Ref .registry} {host : Ref .component}
    {interval : Value} {c : Ref .context} {w w₁ w' : World} (h : l.Made r host interval c w₁ w')
    (hc : w.Continues w₁) (hs : w.SameOutside w₁) : l.Made r host interval c w w' :=
  { h with
    continues := hc.trans h.continues
    sameOutside := hs.trans h.sameOutside
    new := Nat.le_trans hc.contexts.size h.new }

/-! ### A new session -/

/-- The state with one more session, over a bank of its own and with a policy. -/
def World.withReady (w : World) (session : Session) (policy : Policy) : World :=
  (w.withSession session).provided ⟨w.sessions.size⟩ policy

namespace World

variable (w : World) (session : Session) (policy : Policy)

/-- A new session may be given a policy at once. -/
theorem Undisturbed.withReady (r : Ref .registry) :
    w.Undisturbed r (w.withReady session policy) where
  toRetains := .of_eq rfl rfl rfl
  registry := rfl
  contexts := .refl (fun _ => rfl) _
  injectors := .refl (fun _ => rfl) _
  installers := .refl (fun _ => rfl) _
  policies := Table.Grows.push (R := Eq) (fun _ => rfl) _ _
  sessions := Table.Grows.push_set
    (R := fun x y : Session => y.made = x.made ∧ y.running = x.running) (fun _ => ⟨rfl, rfl⟩) _ _ _
  banks := Table.Grows.push (R := fun x y : Bank => x.Tidy → y.Tidy) (fun _ h => h) _ _

theorem row_withReady : (w.withReady session policy).row (⟨w.sessions.size⟩ : Ref .session) =
    { session with
      timers := .ofRef (⟨w.banks.size⟩ : Ref .bank)
      policy := .ofRef (⟨w.policies.size⟩ : Ref .policy) } := by
  rw [withReady, provided, row_withRow_self]
  show { ((w.withSession session).row (⟨w.sessions.size⟩ : Ref .session) : Session) with
    policy := .ofRef (⟨w.policies.size⟩ : Ref .policy) } = _
  rw [row_withSession]

theorem row_withReady_bank :
    (w.withReady session policy).row (⟨w.banks.size⟩ : Ref .bank) = ({} : Bank) :=
  row_withSession_bank w session

theorem lt_size_withReady : w.sessions.size < (w.withReady session policy).sessions.size ∧
    w.policies.size < (w.withReady session policy).policies.size ∧
      w.banks.size < (w.withReady session policy).banks.size := by
  have hpushed : w.sessions.size < ((w.withSession session).sessions).size := by
    show w.sessions.size < (w.sessions.push _).size
    rw [Table.size_push]
    exact Nat.lt_succ_self _
  refine ⟨?_, ?_, ?_⟩
  · show w.sessions.size < ((w.withSession session).sessions.set w.sessions.size _).size
    rwa [Table.size_set _ hpushed]
  · show w.policies.size < (w.policies.push policy).size
    rw [Table.size_push]
    exact Nat.lt_succ_self _
  · show w.banks.size < (w.banks.push _).size
    rw [Table.size_push]
    exact Nat.lt_succ_self _

/-- A new session is given the hooks of its bank, and then an id. -/
theorem Intact.run_setUp_new {w : World} (hw : w.Intact) (call : Caller) {session : Session}
    (hnone : session.policy = .none) :
    ∃ (policy : Policy) (ready : World), (w.withReady session policy).Alike ready ∧
      (w.withSession session).run (setUp call ⟨w.sessions.size⟩) =
        ready.run (identify call ⟨w.sessions.size⟩) := by
  have hrow := w.row_withSession session
  have hmade : (w.withSession session).Intact := hw.congr rfl
  obtain ⟨w₁, serial, i, j, ⟨log, next, rfl⟩, hrun⟩ :=
    hmade.run_setUp call (s := ⟨w.sessions.size⟩) (congrArg Session.timers hrow)
      ((congrArg Session.policy hrow).trans hnone)
  exact ⟨_, _, ⟨log, next, rfl⟩, hrun⟩

end World

/-- What comes of a session that is new and has been set up. -/
structure World.Prepared (r : Ref .registry) (session : Session) (w w' : World) : Prop where
  undisturbed : w.Undisturbed r w'
  sameOutside : w.SameOutside w'
  session : ∃ sessionId, w'.row (⟨w.sessions.size⟩ : Ref .session) =
    { session with
      timers := .ofRef (⟨w.banks.size⟩ : Ref .bank)
      policy := .ofRef (⟨w.policies.size⟩ : Ref .policy)
      sessionId := sessionId }
  bank : w'.row (⟨w.banks.size⟩ : Ref .bank) = ({} : Bank)
  seated : w.sessions.size < w'.sessions.size
  hooked : w.policies.size < w'.policies.size
  banked : w.banks.size < w'.banks.size

section

variable {r : Ref .registry} {w : World} (call : Caller) {session : Session}
  (hnone : session.policy = .none) (hr : session.registry = .ofRef r)
include hnone hr

/-- A new session is set up. -/
theorem Sane.setUp_new (h : Sane r w) :
    w.Prepared r session ((w.withSession session).after (setUp call ⟨w.sessions.size⟩)) := by
  obtain ⟨policy, ready, hlike, hrun⟩ := h.intact.run_setUp_new call hnone
  have hundisturbed : w.Undisturbed r ready :=
    (World.Undisturbed.withReady w session policy r).trans (.of_alike hlike)
  have hready : w.SameOutside (w.withReady session policy) := .of_eq rfl rfl rfl
  have houtside : w.SameOutside ready := hready.trans (.of_alike hlike)
  obtain ⟨hseated, hhooked, hbanked⟩ := w.lt_size_withReady session policy
  have hrow := w.row_withReady session policy
  have hbank := w.row_withReady_bank session policy
  obtain ⟨log, next, rfl⟩ := hlike
  have hidentified := (hundisturbed.sane h).identify (s := ⟨w.sessions.size⟩)
    ((congrArg Session.registry hrow).trans hr) call
  have hafter := congrArg Prod.snd hrun
  rw [World.after, hafter]
  refine ⟨hundisturbed.trans hidentified.undisturbed,
    houtside.trans hidentified.sameOutside, ?_, ?_, ?_, ?_, ?_⟩
  · obtain ⟨sessionId, hsession⟩ := hidentified.session
    exact ⟨sessionId, hsession.trans (congrArg (fun x : Session => { x with sessionId }) hrow)⟩
  · exact (congrArg (Table.get · w.banks.size) hidentified.banks).trans hbank
  · exact Nat.lt_of_lt_of_le hseated hidentified.undisturbed.sessions.size
  · exact Nat.lt_of_lt_of_le hhooked hidentified.undisturbed.policies.size
  · exact Nat.lt_of_lt_of_le hbanked hidentified.undisturbed.banks.size

/-- At a receptive registry a new session is set up without a fault. -/
theorem Receptive.outcome_setUp_new (h : Receptive r w) :
    ∃ v, (w.withSession session).outcome (setUp call ⟨w.sessions.size⟩) = .ok v := by
  obtain ⟨policy, ready, hlike, hrun⟩ := h.sane.intact.run_setUp_new call hnone
  have hundisturbed : w.Undisturbed r ready :=
    (World.Undisturbed.withReady w session policy r).trans (.of_alike hlike)
  have hready := h.continues hundisturbed.continues hundisturbed.registry
  have hrow := w.row_withReady session policy
  obtain ⟨log, next, rfl⟩ := hlike
  obtain ⟨v, hok⟩ := hready.outcome_identify (s := ⟨w.sessions.size⟩)
    ((congrArg Session.registry hrow).trans hr) call
  exact ⟨v, (congrArg Prod.fst hrun).trans hok⟩

end

/-- What comes of preparing a session: it has a bank and an injector of its own, and its hooks do
nothing. -/
structure World.Readied (r : Ref .registry) (interval : Value) (j : Ref .injector)
    (w w' : World) : Prop where
  undisturbed : w.Undisturbed r w'
  sameOutside : w.SameOutside w'
  session : ∃ sessionId, w'.row (⟨w.sessions.size⟩ : Ref .session) =
    { registry := .ofRef r
      timers := .ofRef (⟨w.banks.size⟩ : Ref .bank)
      interval := interval
      sessionId := sessionId
      policy := .ofRef (⟨w.policies.size⟩ : Ref .policy) : Session }
  bank : w'.row (⟨w.banks.size⟩ : Ref .bank) = ({} : Bank)
  policy : ∃ serial, w'.row (⟨w.policies.size⟩ : Ref .policy) =
    (⟨serial, .function 0 .idleArm, .function 0 .idleCancel⟩ : Policy)
  owner : (w'.row j : Injector).owner = .ofRef (⟨w.sessions.size⟩ : Ref .session)
  there : j.index < w'.injectors.size
  seated : w.sessions.size < w'.sessions.size
  hooked : w.policies.size < w'.policies.size
  banked : w.banks.size < w'.banks.size

/-- The session of an environment before it is set up. -/
def Session.blank (r : Ref .registry) (interval : Value) : Session :=
  { registry := .ofRef r, interval := interval }

/-- A session is prepared without a fault if it is set up without one. -/
theorem Sane.prepareSession {r : Ref .registry} {w : World} (h : Sane r w) (ho : w.Orderly)
    (call : Caller) (interval : Value)
    (hset : ∃ v, (w.withSession (.blank r interval)).outcome
      (setUp call ⟨w.sessions.size⟩) = .ok v) :
    ∃ j, w.outcome (prepareSession call (.ofRef r) interval) = .ok (⟨w.sessions.size⟩, j) ∧
      w.Readied r interval j
        (w.after (Understudy.prepareSession call (.ofRef r) interval)) := by
  let blank : Session := .blank r interval
  let s : Ref .session := ⟨w.sessions.size⟩
  let p : Ref .policy := ⟨w.policies.size⟩
  have hnone : blank.policy = .none := rfl
  obtain ⟨v, hset⟩ := hset
  have hprepared := h.setUp_new call hnone rfl
  have hsetUp := World.run_eq (w.withSession blank) (setUp call s)
  rw [hset] at hsetUp
  revert hprepared hsetUp
  generalize (w.withSession blank).after (setUp call s) = w₂
  intro hprepared hsetUp
  obtain ⟨sessionId, hsession⟩ := hprepared.session
  have hundisturbed := hprepared.undisturbed
  have hunassigned : w.assigned? s.object "subsystem_name" = none :=
    ho.session s _ (Nat.le_refl _)
  -- The hooks of its bank are replaced at once.
  obtain ⟨hsilence, hsilenced⟩ := (ho.continues hundisturbed.continues).silence
    (hundisturbed.sane h).intact call (s := s) (p := p)
    (congrArg Session.policy hsession)
    ((hundisturbed.assigned? (.inr rfl) _).trans hunassigned)
  have hsilenceRun := World.run_eq w₂ (silence call s)
  rw [hsilence] at hsilenceRun
  revert hsilenced hsilenceRun
  generalize w₂.after (silence call s) = w₃
  intro hsilenced hsilenceRun
  have hnew : w.run (newSession (.ofRef r) .none interval (.function 0 .clock)) =
      (.ok s, w.withSession blank) := run_newSession w _ _ _
  have hrun : w.run (Understudy.prepareSession call (.ofRef r) interval) =
      (.ok (s, ⟨w₂.injectors.size⟩), w₃) := by
    rw [prepareSession_eq, World.run_bind_of_run hnew,
      World.run_bind_of_run hsetUp, World.run_bind_of_run hsilenceRun]
    rfl
  obtain ⟨serial, hpolicies⟩ := hsilenced.policies
  refine ⟨_, World.outcome_of_run hrun, ?_⟩
  rw [World.after_of_run hrun]
  refine
    { undisturbed := ?_
      sameOutside := hprepared.sameOutside.trans hsilenced.sameOutside
      session := ⟨sessionId, (congrArg (Table.get · s.index) hsilenced.sessions).trans hsession⟩
      bank := (congrArg (Table.get · w.banks.size) hsilenced.banks).trans hprepared.bank
      policy := ⟨serial,
        (congrArg (Table.get · p.index) hpolicies).trans (Table.get_set_self _ _ _)⟩
      owner := hsilenced.owner
      there := hsilenced.there
      seated := Nat.lt_of_lt_of_le hprepared.seated hsilenced.continues.sessions.size
      hooked := Nat.lt_of_lt_of_le hprepared.hooked hsilenced.continues.policies.size
      banked := Nat.lt_of_lt_of_le hprepared.banked hsilenced.continues.banks.size }
  have hcontinues := hundisturbed.continues.trans hsilenced.continues
  exact
    { toRetains := hcontinues.toRetains
      registry := (congrArg (Table.get · r.index) hsilenced.registries).trans hundisturbed.registry
      contexts := hcontinues.contexts
      injectors := hcontinues.injectors
      installers := hsilenced.installers ▸ hundisturbed.installers
      policies := hpolicies ▸ hundisturbed.policies.set_new (Nat.le_refl _) hprepared.hooked _
      sessions := hsilenced.sessions ▸ hundisturbed.sessions
      banks := hcontinues.banks }

/-! ### The rest -/

section

variable {r : Ref .registry} {host : Ref .component} {cfg : Ref .settings} {i : Ref .installer}
  {w : World}

/-- Sets up all that comes after the host, with a given interval. -/
def arrange (call : Caller) (settings registry host : Value) (identities : Ref .installer)
    (interval : Value) : Action (Ref .context) := do
  let prepared ← prepareSession call registry interval
  assemble call registry
    { settings := settings
      registry := registry
      hostAppInfo := host
      identities := .ofRef identities
      session := .ofRef prepared.1
      hooks := .ofRef prepared.2 }

theorem bootWithHost_eq (call : Caller) (settings registry host : Value)
    (identities : Ref .installer) :
    bootWithHost call settings registry host identities =
      readAttribute call settings Setting.dailyInterval.word >>=
        arrange call settings registry host identities := rfl

/-- Once a session can be set up, the rest is set up without a fault, and disturbs nobody. -/
theorem Sane.arrange (h : Sane r w) (ho : w.Orderly) (hi : w.row i = Installer.ofHost (.ofRef r))
    (host : Ref .component) (settings : Value) (call : Caller) (interval : Value)
    (hset : ∃ v, (w.withSession (.blank r interval)).outcome
      (setUp call ⟨w.sessions.size⟩) = .ok v) :
    ∃ (l : ContextParts) (c : Ref .context),
      w.outcome (arrange call settings (.ofRef r) (.ofRef host) i interval) = .ok c ∧
      l.Made r host interval c w
        (w.after (Understudy.arrange call settings (.ofRef r) (.ofRef host) i interval)) ∧
      w.Undisturbed r
        (w.after (Understudy.arrange call settings (.ofRef r) (.ofRef host) i interval)) := by
  let s : Ref .session := ⟨w.sessions.size⟩
  let p : Ref .policy := ⟨w.policies.size⟩
  let b : Ref .bank := ⟨w.banks.size⟩
  obtain ⟨j, hok, hreadied⟩ := h.prepareSession ho call interval hset
  have hprepare := World.run_eq w (Understudy.prepareSession call (.ofRef r) interval)
  rw [hok] at hprepare
  revert hreadied hprepare
  generalize w.after (Understudy.prepareSession call (.ofRef r) interval) = w₁
  intro hreadied hprepare
  obtain ⟨sessionId, hsession⟩ := hreadied.session
  obtain ⟨serial, hpolicy⟩ := hreadied.policy
  let context : Context :=
    { settings := settings
      registry := .ofRef r
      hostAppInfo := .ofRef host
      identities := .ofRef i
      session := .ofRef s
      hooks := .ofRef j }
  obtain ⟨platform, told, ⟨log, next, rfl⟩, hassemble⟩ :=
    (hreadied.undisturbed.sane h).intact.run_assemble call r context
  let w₂ : World := (w₁.retold log next).withContext { context with platform := platform }
  let c : Ref .context := ⟨w₁.contexts.size⟩
  have hlast : w₁.Undisturbed r w₂ :=
    (World.Undisturbed.of_alike ⟨log, next, rfl⟩).trans (.withContext _ _)
  have hundisturbed := hreadied.undisturbed.trans hlast
  have hcontinues := hundisturbed.continues
  have hrun : w.run (Understudy.arrange call settings (.ofRef r) (.ofRef host) i interval) =
      (.ok c, w₂) := by
    rw [Understudy.arrange, World.run_bind_of_run hprepare]
    exact hassemble
  have hcontext : w₂.row c = { context with platform := platform } :=
    (Table.get_push _ _ _).trans (if_pos rfl)
  have hsession₂ : w₂.row s =
      { registry := .ofRef r, timers := .ofRef b, interval, sessionId, policy := .ofRef p } :=
    hsession
  have hpolicy₂ : w₂.row p = (⟨serial, .function 0 .idleArm, .function 0 .idleCancel⟩ : Policy) :=
    hpolicy
  have hbank₂ : w₂.row b = ({} : Bank) := hreadied.bank
  have hofHost : (w.row i : Installer).OfHost r := by
    rw [hi]
    rfl
  have hinstaller : w₂.row i = (w.row i : Installer) :=
    (hundisturbed.installers.row i.index hofHost.over.lt_size).symm
  refine ⟨⟨i, s, j, p, b⟩, c, World.outcome_of_run hrun, ?_, ?_⟩
  · rw [World.after_of_run hrun]
    refine
      { stands := ?_
        continues := hcontinues
        sameOutside := hreadied.sameOutside.trans (.of_eq rfl rfl rfl)
        new := hreadied.undisturbed.contexts.size
        installer := hinstaller.trans hi
        session := ⟨sessionId, hsession₂⟩
        bank := hbank₂
        arm := congrArg Policy.arm hpolicy₂
        cancel := congrArg Policy.cancel hpolicy₂ }
    exact
      { there := by
          show w₁.contexts.size < (w₁.contexts.push _).size
          rw [Table.size_push]
          exact Nat.lt_succ_self _
        registry := by rw [hcontext]
        hostAppInfo := by rw [hcontext]
        identities := by rw [hcontext]
        session := by rw [hcontext]
        hooks := by rw [hcontext]
        ofHost := (congrArg Installer.made hinstaller).trans hofHost
        injector := hreadied.there
        owner := hreadied.owner
        seated := hreadied.seated
        sessionRegistry := by rw [hsession₂]
        timers := by rw [hsession₂]
        clock := by
          rw [hsession₂]
          trivial
        policy := by rw [hsession₂]
        decided := ⟨false, by rw [hsession₂]⟩
        hooked := hreadied.hooked
        banked := hreadied.banked
        tidy := hbank₂ ▸ Bank.tidy_empty
        unassigned := fun name => (hcontinues.assigned? (.inr rfl) name).trans
          (ho.session s name (Nat.le_refl _)) }
  · rw [World.after_of_run hrun]
    exact hundisturbed

/-- The rest is set up without a fault at a receptive registry, and disturbs nobody. -/
theorem Receptive.bootWithHost (h : Receptive r w) (cfg : Ref .settings)
    (hi : w.row i = Installer.ofHost (.ofRef r)) (host : Ref .component) (call : Caller) :
    ∃ (l : ContextParts) (c : Ref .context),
      w.outcome (bootWithHost call (.ofRef cfg) (.ofRef r) (.ofRef host) i) = .ok c ∧
      l.Made r host (w.setting cfg .dailyInterval) c w
        (w.after (bootWithHost call (.ofRef cfg) (.ofRef r) (.ofRef host) i)) ∧
      w.Undisturbed r (w.after (bootWithHost call (.ofRef cfg) (.ofRef r) (.ofRef host) i)) := by
  have hset : ∃ v, (w.withSession (.blank r (w.setting cfg .dailyInterval))).outcome
      (setUp call ⟨w.sessions.size⟩) = .ok v := h.outcome_setUp_new call rfl rfl
  have hread := w.run_readAttribute_setting call cfg .dailyInterval
  rw [bootWithHost_eq, World.outcome, World.run_bind_of_run hread, World.after_bind_of_run hread]
  exact h.sane.arrange h.orderly hi host (.ofRef cfg) call _ hset

/-- The rest is set up without a fault once there is a host, and disturbs nobody. -/
theorem Occupied.bootWithHost (h : Occupied r host w) (ha : w.Accepts cfg)
    (hi : w.row i = Installer.ofHost (.ofRef r)) (call : Caller) :
    ∃ (l : ContextParts) (c : Ref .context),
      w.outcome (bootWithHost call (.ofRef cfg) (.ofRef r) (.ofRef host) i) = .ok c ∧
      l.Opened r host cfg c w
        (w.after (bootWithHost call (.ofRef cfg) (.ofRef r) (.ofRef host) i)) ∧
      w.Undisturbed r (w.after (bootWithHost call (.ofRef cfg) (.ofRef r) (.ofRef host) i)) := by
  obtain ⟨l, c, hok, hmade, hundisturbed⟩ := h.receptive.bootWithHost cfg hi host call
  exact ⟨l, c, hok, ⟨ha.setting_eq .dailyInterval ▸ hmade,
    h.continues hundisturbed.continues hundisturbed.registry⟩, hundisturbed⟩

/-- The state with one more installer of a host. -/
def World.withInstaller (w : World) (r : Ref .registry) : World :=
  { w with installers := w.installers.push (Installer.ofHost (.ofRef r)) }

theorem World.Undisturbed.withInstaller (w : World) (r : Ref .registry) :
    w.Undisturbed r (w.withInstaller r) where
  toRetains := .of_eq rfl rfl rfl
  registry := rfl
  contexts := .refl (fun _ => rfl) _
  injectors := .refl (fun _ => rfl) _
  installers := Table.Grows.push (R := Eq) (fun _ => rfl) _ _
  policies := .refl (fun _ => rfl) _
  sessions := .refl (fun _ => ⟨rfl, rfl⟩) _
  banks := .refl (fun _ h => h) _

/-- Sets up all that comes after the log, where there is a registry. -/
def bootWithRegistry (call : Caller) (settings registry : Value) : Action (Ref .context) := do
  let identities ← store .installer (Installer.ofHost registry)
  let host ← hostOf call settings registry identities
  bootWithHost call settings registry host identities

theorem run_bootWithRegistry (w : World) (call : Caller) (settings : Value) (r : Ref .registry) :
    w.run (bootWithRegistry call settings (.ofRef r)) =
      (w.withInstaller r).run
        (hostOf call settings (.ofRef r) ⟨w.installers.size⟩ >>= fun host =>
          bootWithHost call settings (.ofRef r) host ⟨w.installers.size⟩) := by
  have hstored : w.run (store .installer (Installer.ofHost (.ofRef r))) =
      (.ok ⟨w.installers.size⟩, w.withInstaller r) := rfl
  rw [bootWithRegistry, World.run_bind_of_run hstored]

/-- The log is set up, and then the rest. -/
theorem World.Accepts.run_bootstrap (ha : w.Accepts cfg) (call : Caller) (r : Ref .registry) :
    ∃ w₁ : World, w.Alike w₁ ∧
      w.run (bootstrap call (.ofRef cfg) (.ofRef r)) =
        w₁.run (bootWithRegistry call (.ofRef cfg) (.ofRef r)) := by
  have hprepared := quiet_prepareLog call (.ofRef cfg) w
  have hprepare := World.run_eq w (prepareLog call (.ofRef cfg))
  rw [ha.outcome_prepareLog] at hprepare
  revert hprepared hprepare
  generalize w.after (prepareLog call (.ofRef cfg)) = w₁
  intro hprepared hprepare
  refine ⟨w₁, hprepared, ?_⟩
  rw [bootstrap_eq, World.run_bind_of_run (run_orElse rfl _), World.run_bind_of_run hprepare,
    World.run_bind_of_run (run_orElse rfl _), bootWithRegistry]

/-- A context is opened after whatever comes before. -/
theorem ContextParts.Opened.before {l : ContextParts} {c : Ref .context} {w₁ w' : World}
    (h : l.Opened r host cfg c w₁ w') (hc : w.Continues w₁) (hs : w.SameOutside w₁) :
    l.Opened r host cfg c w w' :=
  have hcfg : w₁.row cfg = (w.row cfg : Configuration) :=
    congrArg (Table.get · cfg.index) hs.settings
  ⟨hcfg ▸ h.toMade.before hc hs, h.occupied⟩

/-- An environment is set up without a fault on a registry with a host, and disturbs nobody. -/
theorem Occupied.bootstrap (h : Occupied r host w) (ha : w.Accepts cfg) (call : Caller) :
    ∃ (l : ContextParts) (c : Ref .context),
      w.outcome (bootstrap call (.ofRef cfg) (.ofRef r)) = .ok c ∧
      l.Opened r host cfg c w (w.after (Understudy.bootstrap call (.ofRef cfg) (.ofRef r))) ∧
      w.Undisturbed r (w.after (Understudy.bootstrap call (.ofRef cfg) (.ofRef r))) := by
  obtain ⟨w₁, ⟨log, next, rfl⟩, hrun⟩ := ha.run_bootstrap call r
  let w₂ : World := (w.retold log next).withInstaller r
  have hbefore : w.Undisturbed r w₂ :=
    (World.Undisturbed.of_alike ⟨log, next, rfl⟩).trans (.withInstaller _ r)
  let i : Ref .installer := ⟨w.installers.size⟩
  have hi : w₂.row i = Installer.ofHost (.ofRef r) := (Table.get_push _ _ _).trans (if_pos rfl)
  have h₂ : Occupied r host w₂ := h.continues hbefore.continues rfl
  have hsettings : w.SameOutside w₂ := .of_eq rfl rfl rfl
  have ha₂ : w₂.Accepts cfg := ha.later hsettings
  have hrun₂ : w.run (Understudy.bootstrap call (.ofRef cfg) (.ofRef r)) =
      w₂.run (Understudy.bootWithHost call (.ofRef cfg) (.ofRef r) (.ofRef host) i) :=
    hrun.trans ((run_bootWithRegistry _ call _ r).trans
      (World.run_bind_of_run (h₂.run_hostOf call (.ofRef cfg) hi)))
  obtain ⟨l, c, hok, hopened, hundisturbed⟩ := h₂.bootWithHost ha₂ hi call
  have houtcome := congrArg Prod.fst hrun₂
  have hafter := congrArg Prod.snd hrun₂
  rw [World.after, hafter]
  exact ⟨l, c, houtcome.trans hok, hopened.before hbefore.continues hsettings,
    hbefore.trans hundisturbed⟩

/-- What is set up on a new registry: the host is made out of the settings, and it is shown. -/
structure ContextParts.Founded (l : ContextParts) (r : Ref .registry) (host : Ref .component)
    (cfg : Ref .settings) (c : Ref .context) (w w' : World) : Prop
    extends l.Opened r host cfg c w w' where
  shows : w'.Shows r host
  uncaptured : (w'.row r : Registry).captureOf? (.ofText appInfoContract) = none
  machine : ∃ serial invalidated, w'.row host =
    Component.host (hostFacts w.surroundings.machine
      ((Value.ofText w.surroundings.machine.abiLabel).renewed serial)
      (w.row cfg : Configuration).get) invalidated
  unassigned (name : String) : w'.assigned? host.object name = none

/-- A context is founded after whatever comes before, as long as the surroundings are the same. -/
theorem ContextParts.Founded.before {l : ContextParts} {c : Ref .context} {w₁ w' : World}
    (h : l.Founded r host cfg c w₁ w') (hc : w.Continues w₁) (hs : w.SameOutside w₁)
    (hsurroundings : w₁.surroundings = w.surroundings) : l.Founded r host cfg c w w' where
  toOpened := h.toOpened.before hc hs
  shows := h.shows
  uncaptured := h.uncaptured
  machine := by
    have hcfg : w₁.row cfg = (w.row cfg : Configuration) :=
      congrArg (Table.get · cfg.index) hs.settings
    rw [← hcfg, ← hsurroundings]
    exact h.machine
  unassigned := h.unassigned

/-- All that comes after the log is set up without a fault on a registry that serves no identity,
and what was captured of it stays. -/
theorem World.Orderly.bootWithRegistry (ho : w.Orderly) (h : Sane r w)
    (hfree : (w.row r : Registry).entryOf? (.ofText appInfoContract) = none)
    (hd : w.Describes cfg) (call : Caller) :
    ∃ (l : ContextParts) (c : Ref .context) (w₁ : World),
      w.outcome (bootWithRegistry call (.ofRef cfg) (.ofRef r)) = .ok c ∧
      (w.withInstaller r).Placed r (w.machineHost cfg) w₁ ∧
      l.Made r w.nextComponent (w.setting cfg .dailyInterval) c w₁
        (w.after (Understudy.bootWithRegistry call (.ofRef cfg) (.ofRef r))) ∧
      w₁.Undisturbed r (w.after (Understudy.bootWithRegistry call (.ofRef cfg) (.ofRef r))) := by
  let w₂ : World := w.withInstaller r
  let i : Ref .installer := ⟨w.installers.size⟩
  have hcontinues : w.Continues w₂ := (World.Undisturbed.withInstaller _ r).continues
  have hi : w₂.row i = Installer.ofHost (.ofRef r) := (Table.get_push _ _ _).trans (if_pos rfl)
  have h₂ : Sane r w₂ := ⟨hcontinues.intact h.intact, h.sound⟩
  have ho₂ : w₂.Orderly := ho.continues hcontinues
  have hd₂ : w₂.Describes cfg := hd
  obtain ⟨hmade, hplaced⟩ := ho₂.run_makeHost h₂ hd₂ call
  have hmakeHost := World.run_eq w₂ (makeHost call (.ofRef cfg) (.ofRef r))
  rw [hmade] at hmakeHost
  revert hplaced hmakeHost
  generalize w₂.after (makeHost call (.ofRef cfg) (.ofRef r)) = w₃
  intro hplaced hmakeHost
  have hhostOf : w₂.run (hostOf call (.ofRef cfg) (.ofRef r) i) =
      (.ok (.ofRef w₂.nextComponent), w₃) :=
    (h₂.intact.run_hostOf_of_free hfree call (.ofRef cfg) i).trans hmakeHost
  have hrun : w.run (Understudy.bootWithRegistry call (.ofRef cfg) (.ofRef r)) =
      w₃.run (bootWithHost call (.ofRef cfg) (.ofRef r) (.ofRef w₂.nextComponent) i) :=
    (run_bootWithRegistry w call _ r).trans (World.run_bind_of_run hhostOf)
  have hi₃ : w₃.row i = Installer.ofHost (.ofRef r) :=
    (congrArg (Table.get · i.index) hplaced.installers).trans hi
  have hreceptive : Receptive r w₃ :=
    ⟨hplaced.sane, ho₂.continues hplaced.continues, w₂.nextComponent, hplaced.shows,
      .inl ⟨_, _, hplaced.row⟩⟩
  obtain ⟨l, c, hok, hmade, hundisturbed⟩ :=
    hreceptive.bootWithHost cfg hi₃ w₂.nextComponent call
  have hinterval : w₃.setting cfg .dailyInterval = w.setting cfg .dailyInterval :=
    hplaced.sameOutside.setting cfg .dailyInterval
  have houtcome := congrArg Prod.fst hrun
  have hafter := congrArg Prod.snd hrun
  rw [World.after, hafter]
  exact ⟨l, c, w₃, houtcome.trans hok, hplaced, hinterval ▸ hmade, hundisturbed⟩

/-- All that comes after the log is set up without a fault on a new registry. -/
theorem World.Accepts.bootWithRegistry (ha : w.Accepts cfg) (h : Sane r w) (ho : w.Orderly)
    (hnew : w.row r = ({} : Registry)) (call : Caller) :
    ∃ (l : ContextParts) (host : Ref .component) (c : Ref .context),
      w.outcome (bootWithRegistry call (.ofRef cfg) (.ofRef r)) = .ok c ∧
      l.Founded r host cfg c w
        (w.after (Understudy.bootWithRegistry call (.ofRef cfg) (.ofRef r))) := by
  have hsetting : w.setting cfg = (w.row cfg : Configuration).get := funext ha.setting_eq
  have hfree : (w.row r : Registry).entryOf? (.ofText appInfoContract) = none := by
    rw [hnew]
    rfl
  have huncaptured : (w.row r : Registry).captureOf? (.ofText appInfoContract) = none := by
    rw [hnew]
    rfl
  obtain ⟨l, c, w₁, hok, hplaced, hmade, hundisturbed⟩ :=
    ho.bootWithRegistry h hfree ha.describes call
  have hcontinues : w.Continues (w.withInstaller r) :=
    (World.Undisturbed.withInstaller _ r).continues
  have hsettings : w.SameOutside (w.withInstaller r) := .of_eq rfl rfl rfl
  have hoccupied := hplaced.occupied (ho.continues hcontinues) huncaptured
  have hregistry := hundisturbed.registry
  refine ⟨l, w.nextComponent, c, hok,
    { toMade := ha.setting_eq .dailyInterval ▸
        hmade.before (hcontinues.trans hplaced.continues) (hsettings.trans hplaced.sameOutside)
      occupied := hoccupied.continues hundisturbed.continues hregistry
      shows := hplaced.shows.retains hmade.continues.toRetains (congrArg _ hregistry)
      uncaptured := (congrArg (Registry.captureOf? · _) hregistry).trans
        (hplaced.captured.trans huncaptured)
      machine := ⟨w.nextSerial, ?_⟩
      unassigned := fun name => (hmade.continues.assigned? (.inl rfl) name).trans ?_ }⟩
  · have hrow : w₁.row w.nextComponent = w.machineHost cfg := hplaced.row
    rw [World.machineHost, hsetting] at hrow
    exact hmade.continues.row_host hrow
  · rw [World.assigned?, hplaced.assigned]
    exact ho.component w.nextComponent name (Nat.le_refl _)

/-- An environment is set up without a fault on a new registry. -/
theorem World.Accepts.bootstrap (ha : w.Accepts cfg) (h : Sane r w) (ho : w.Orderly)
    (hnew : w.row r = ({} : Registry)) (call : Caller) :
    ∃ (l : ContextParts) (host : Ref .component) (c : Ref .context),
      w.outcome (bootstrap call (.ofRef cfg) (.ofRef r)) = .ok c ∧
      l.Founded r host cfg c w
        (w.after (Understudy.bootstrap call (.ofRef cfg) (.ofRef r))) := by
  obtain ⟨w₁, hlike, hrun⟩ := ha.run_bootstrap call r
  have hcontinues : w.Continues w₁ := .of_alike hlike
  have hsettings : w.SameOutside w₁ := .of_alike hlike
  have hrow : w₁.row r = (w.row r : Registry) := hlike.row_registry r
  obtain ⟨l, host, c, hok, hfounded⟩ := (ha.later hsettings).bootWithRegistry
    (h.of_alike hlike) (ho.continues hcontinues) (hrow.trans hnew) call
  rw [World.outcome, World.after, hrun]
  refine ⟨l, host, c, hok, hfounded.before hcontinues hsettings ?_⟩
  obtain ⟨_, _, rfl⟩ := hlike
  rfl

end

/-! ## The bench with an environment -/

theorem hostBench_orderly : hostBench.Orderly where
  component _ _ _ := rfl
  session _ _ _ := rfl
  capability _ := rfl
  function _ _ := rfl

theorem hostBench_accepts : hostBench.Accepts ⟨0⟩ where
  accepted := ⟨0, fun _ => none, [], {}, rfl, rfl⟩
  unassigned _ := rfl

end Understudy

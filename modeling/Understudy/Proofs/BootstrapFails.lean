import Understudy.Proofs.BootstrapAnywhere

/-!
# Setting up that is abandoned

Setting an environment up can fail: there may be no settings, no such level, a provider that fails,
or a service that takes no id. Whatever fails, the registry is left alone, entries and captures
alike. Only a host that is made is ever written to it, and once there is one nothing fails any
more: it takes no notes, so the session is set up. Where the contract is served already, nothing is
written at all.

## Main definitions

* `World.Forgoes`: an action that leaves a registry alone whenever it fails.
* `World.Supplies`, `World.Loads`: what settings an environment can be set up with, and when there
  are some.

## Main statements

* `Sane.row_bootWithRegistry`: where the contract is served, the registry is left alone, whatever
  comes of it.
* `World.Orderly.forgoes_bootWithRegistry`: where it is not, nothing fails.
* `World.BootRegistry.abandons`: an environment that cannot be set up leaves its registry alone.
-/

namespace Understudy

/-! ## Actions that forgo a registry -/

/-- An action forgoes a registry if it leaves it alone whenever it fails. -/
def World.Forgoes {α : Type} (w : World) (r : Ref .registry) (a : Action α) : Prop :=
  ∀ fault, w.outcome a = .error fault → (w.after a).row r = (w.row r : Registry)

namespace World.Forgoes

variable {α β : Type} {w : World} {r : Ref .registry} {a : Action α} {f : α → Action β}

theorem of_row (h : (w.after a).row r = (w.row r : Registry)) : w.Forgoes r a := fun _ _ => h

theorem of_ok {x : α} (h : w.outcome a = .ok x) : w.Forgoes r a := by
  intro fault hfault
  rw [h] at hfault
  cases hfault

/-- A first part that leaves the registry alone, whatever comes of it, may be followed by any that
forgoes it. -/
theorem bind (hrow : (w.after a).row r = (w.row r : Registry))
    (hf : ∀ x, w.outcome a = .ok x → (w.after a).Forgoes r (f x)) : w.Forgoes r (a >>= f) := by
  intro fault hfault
  cases h : w.outcome a with
  | error other => rw [World.after, run_bind_of_error h, hrow]
  | ok x =>
    rw [World.outcome, run_bind, run_eq w a, h] at hfault
    rw [after_bind_of_ok h, hf x h fault hfault, hrow]

end World.Forgoes

/-! ## Where the contract is served -/

/-- What is beside a registry may go on beside it. -/
theorem Beside.bind {α β : Type} {r : Ref .registry} {i : Ref .installer} {w : World}
    {a : Action α} {f : α → Action β} (ha : Beside r i w (w.after a))
    (hf : ∀ x, w.outcome a = .ok x → Beside r i (w.after a) ((w.after a).after (f x))) :
    Beside r i w (w.after (a >>= f)) :=
  World.after_bind_cases (fun _ _ => ha) fun x hx => ha.trans (hf x hx)

section

variable {r : Ref .registry} {i : Ref .installer} {w : World} (h : Sane r w) (call : Caller)
include h

/-- A session is prepared beside the registry, whether or not its id can be told. -/
theorem Sane.beside_prepareSession (interval : Value) :
    Beside r i w (w.after (Understudy.prepareSession call (.ofRef r) interval)) := by
  have hnew : w.run (newSession (.ofRef r) .none interval (.function 0 .clock)) =
      (.ok ⟨w.sessions.size⟩, w.withSession (.blank r interval)) := run_newSession w _ _ _
  have hmade : Beside r i w (w.withSession (.blank r interval)) := .withSession w _
  have hrow := w.row_withSession (.blank r interval)
  rw [prepareSession_eq, World.after_bind_of_run hnew]
  refine hmade.trans ?_
  obtain ⟨hsetUp, _, p, sessionId, hsession⟩ := (hmade.toAside.sane h).beside_setUp (i := i) call
    (s := ⟨w.sessions.size⟩) (congrArg Session.registry hrow) (congrArg Session.timers hrow)
    (congrArg Session.policy hrow)
  refine hsetUp.bind fun _ _ => ?_
  have hintact := hsetUp.things.intact (hmade.things.intact h.intact)
  obtain ⟨hsilenced, _⟩ := hintact.beside_silence (r := r) (i := i) call
    (congrArg Session.policy hsession)
  exact hsilenced.bind fun _ _ => .of_alike (.refl _)

/-- All that comes after the host is set up beside the registry. -/
theorem Sane.beside_bootWithHost (settings host : Value) :
    Beside r i w (w.after (Understudy.bootWithHost call settings (.ofRef r) host i)) := by
  have hread : Beside r i w (w.after (readAttribute call settings Setting.dailyInterval.word)) :=
    .of_quiet (quiet_readAttribute call settings (by decide)) w
  refine hread.bind fun interval _ => ?_
  have h₁ := hread.toAside.sane h
  have hprepared := h₁.beside_prepareSession (i := i) call interval
  refine hprepared.bind fun prepared _ => ?_
  obtain ⟨platform, told, hlike, hrun⟩ :=
    (hprepared.toAside.sane h₁).intact.run_assemble call r
      { settings := settings
        registry := .ofRef r
        hostAppInfo := host
        identities := .ofRef i
        session := .ofRef prepared.1
        hooks := .ofRef prepared.2 }
  rw [World.after_of_run hrun]
  exact (Beside.of_alike hlike).trans (.of_eq (fun hw => hw.congr rfl) rfl rfl rfl rfl)

/-- What was captured or is served is looked up beside the registry. -/
theorem Sane.beside_heldHost (hi : w.row i = Installer.ofHost (.ofRef r)) {found : Value}
    (he : (w.row r : Registry).entryOf? (.ofText appInfoContract) = some found) :
    Beside r i w (w.after (heldHost call (.ofRef r) i)) := by
  obtain ⟨e, rfl, hproper, _⟩ := h.sound.entries _ _ he
  obtain ⟨p, hp⟩ := hproper.provider
  rcases h.run_heldHost hi he hp call with ⟨_, _, _, _, hrun⟩ | ⟨_, hrun⟩
  · rw [World.after_of_run hrun]
    exact .of_alike (.refl w)
  · have hserved := h.intact.served_createFrom call p (.capability .runtime)
    rw [World.after, hrun]
    exact ⟨⟨hserved.row_registry r, .of_served hserved⟩, hserved.row_installer i⟩

/-- Where the contract is served, all that comes after the log leaves the registry alone, whatever
comes of it. -/
theorem Sane.row_bootWithRegistry (settings : Value) {found : Value}
    (he : (w.row r : Registry).entryOf? (.ofText appInfoContract) = some found) :
    (w.after (bootWithRegistry call settings (.ofRef r))).row r = (w.row r : Registry) := by
  let i : Ref .installer := ⟨w.installers.size⟩
  let w₁ : World := w.withInstaller r
  have hinstaller : w.Undisturbed r w₁ := .withInstaller w r
  have h₁ : Sane r w₁ := hinstaller.sane h
  have hi : w₁.row i = Installer.ofHost (.ofRef r) := (Table.get_push _ _ _).trans (if_pos rfl)
  have hfound : (w₁.row r : Registry).entryOf? (.ofText appInfoContract) = some found := he
  have hheld : Beside r i w₁ (w₁.after (hostOf call settings (.ofRef r) i)) := by
    rw [World.after, h₁.intact.run_hostOf_of_served hfound]
    exact h₁.beside_heldHost call hi hfound
  have hrest := hheld.bind fun host _ =>
    (hheld.toAside.sane h₁).beside_bootWithHost (i := i) call settings host
  rw [World.after, run_bootWithRegistry]
  exact hrest.registry.trans hinstaller.registry

end

/-! ## Where it is not -/

/-- All that comes after the log forgoes the registry: where the contract is served the registry is
left alone, and where it is not nothing fails. -/
theorem World.Orderly.forgoes_bootWithRegistry {r : Ref .registry} {cfg : Ref .settings} {w : World}
    (ho : w.Orderly) (h : Sane r w) (hd : w.Describes cfg) (call : Caller) :
    w.Forgoes r (Understudy.bootWithRegistry call (.ofRef cfg) (.ofRef r)) := by
  -- What may fail comes after nothing that was written, and what is written is followed by nothing
  -- that may fail.
  cases he : (w.row r : Registry).entryOf? (.ofText appInfoContract) with
  | some found => exact .of_row (h.row_bootWithRegistry call (.ofRef cfg) he)
  | none =>
    obtain ⟨_, _, _, hok, _⟩ := ho.bootWithRegistry h he hd call
    exact .of_ok hok

/-! ## Settings -/

/-- What settings an environment can be set up with: settings that hold texts for what a host is
made of, or nothing, so that there will be new ones to which nothing is assigned. -/
inductive World.Supplies (w : World) : Value → Prop
  | given {cfg : Ref .settings} (describes : w.Describes cfg) : Supplies w (.ofRef cfg)
  | found (unassigned : ∀ name : Setting,
      w.assigned? (⟨w.settings.size⟩ : Ref .settings).object name.word = none) :
      Supplies w .none

/-- There are settings to set an environment up with: those that are given were accepted, or those
that are found are. -/
inductive World.Loads (w : World) : Value → Prop
  | given {cfg : Ref .settings} (accepts : w.Accepts cfg) : Loads w (.ofRef cfg)
  | found {cfg : Ref .settings} (loaded : w.outcome (newSettings []) = .ok cfg) : Loads w .none

/-- To look for settings leaves the registries alone, whether or not there are any. -/
theorem World.registries_newSettings (w : World) :
    (w.after (newSettings [])).registries = w.registries := by
  have hread : (w.after (readSources [])).registries = w.registries := by
    obtain ⟨_, _, hlike⟩ := quiet_readSources w
    rw [hlike]
    rfl
  rw [newSettings]
  refine World.after_bind_cases (P := fun w' => w'.registries = w.registries)
    (fun _ _ => hread) fun sources _ => Eq.trans ?_ hread
  cases sources.validate with
  | error complaints => rfl
  | ok accepted => rfl

namespace World

variable {w : World} {settings : Value}

/-- The settings in use, whether given or found. -/
def settled (w : World) (settings : Value) : World :=
  w.after (orElse settings (Value.ofRef <$> newSettings []))

theorem settled_ofRef (w : World) (cfg : Ref .settings) : w.settled (.ofRef cfg) = w :=
  after_of_run (run_orElse rfl _)

theorem settled_none (w : World) : w.settled .none = w.after (newSettings []) := by
  rw [settled, after, run_orElse_newSettings, ← after, after_bind_pure]

theorem Supplies.registries (hs : w.Supplies settings) :
    (w.settled settings).registries = w.registries := by
  cases hs with
  | given => rw [settled_ofRef]
  | found => rw [settled_none, registries_newSettings]

/-- What settings come to. -/
structure Supplied (cfg : Ref .settings) (w w' : World) : Prop where
  continues : w.Continues w'
  describes : w'.Describes cfg

/-- Settings that are there hold texts for what a host is made of. -/
theorem Supplies.supplied (hs : w.Supplies settings) {v : Value}
    (hv : w.outcome (orElse settings (Value.ofRef <$> newSettings [])) = .ok v) :
    ∃ cfg : Ref .settings, v = .ofRef cfg ∧ w.Supplied cfg (w.settled settings) := by
  cases hs with
  | @given cfg describes =>
    rw [outcome_of_run (run_orElse rfl _)] at hv
    rw [settled_ofRef]
    exact ⟨cfg, (Except.ok.inj hv).symm, .refl w, describes⟩
  | found unassigned =>
    rw [outcome, run_orElse_newSettings] at hv
    obtain ⟨cfg, hcfg, hv⟩ := outcome_bind_eq_ok.1 hv
    rw [settled_none]
    refine ⟨cfg, (Except.ok.inj hv).symm, ?_, (accepts_of_newSettings hcfg unassigned).describes⟩
    obtain ⟨_, _, ⟨_, _, rfl⟩, _, _, hafter⟩ := settings_of_newSettings hcfg
    rw [hafter]
    exact .of_retains (.of_eq rfl rfl rfl) rfl rfl rfl rfl rfl rfl

/-- Where there are settings they were accepted. -/
theorem Loads.accepted (hl : w.Loads settings) (hs : w.Supplies settings) :
    ∃ cfg : Ref .settings,
      w.outcome (orElse settings (Value.ofRef <$> newSettings [])) = .ok (.ofRef cfg) ∧
        (w.settled settings).Accepts cfg := by
  cases hl with
  | @given cfg accepts =>
    rw [settled_ofRef]
    exact ⟨cfg, outcome_of_run (run_orElse rfl _), accepts⟩
  | @found cfg loaded =>
    cases hs with
    | found unassigned =>
      rw [settled_none, outcome, run_orElse_newSettings]
      exact ⟨cfg, outcome_bind_eq_ok.2 ⟨cfg, loaded, rfl⟩,
        accepts_of_newSettings loaded unassigned⟩

end World

/-! ## Setting up -/

/-- Sets up all that comes after the settings. -/
def bootWithSettings (call : Caller) (settings registry : Value) : Action (Ref .context) := do
  prepareLog call settings
  let registry ← orElse registry (Value.ofRef <$> store .registry {})
  bootWithRegistry call settings registry

theorem bootstrap_eq_bootWithSettings (call : Caller) (settings registry : Value) :
    bootstrap call settings registry = (do
      let settings ← orElse settings (Value.ofRef <$> newSettings [])
      bootWithSettings call settings registry) := bootstrap_eq call settings registry

namespace World.BootRegistry

variable {w : World} {registry : Value} {r : Ref .registry} {cfg : Ref .settings}
  (hr : w.BootRegistry registry r) (ho : w.Orderly) (call : Caller)
include hr ho

/-- After the log was set up the registry is there, as it was or with nothing in it. -/
theorem located {w₁ : World} (hlike : w.Alike w₁) :
    ∃ w₂ : World, w₁.run (orElse registry (Value.ofRef <$> store .registry {})) =
        (.ok (.ofRef r), w₂) ∧
      Sane r w₂ ∧ w₂.Orderly ∧ w.SameOutside w₂ ∧ w₂.row r = (w.row r : Registry) := by
  have hregistries : w₁.registries = w.registries := by
    obtain ⟨_, _, rfl⟩ := hlike
    rfl
  obtain ⟨w₂, hrun, hsane, hcontinues, houtside, hrow⟩ :=
    (hr.later (.of_alike hlike) hregistries).resolved
  exact ⟨w₂, hrun, hsane, ho.continues ((World.Continues.of_alike hlike).trans hcontinues),
    (World.SameOutside.of_alike hlike).trans houtside, hrow.trans (hlike.row_registry r)⟩

/-- All that comes after the settings forgoes the registry. -/
theorem forgoes_bootWithSettings (hd : w.Describes cfg) :
    w.Forgoes r (bootWithSettings call (.ofRef cfg) registry) := by
  have hlike := quiet_prepareLog call (.ofRef cfg) w
  refine .bind (hlike.row_registry r) fun _ _ => ?_
  obtain ⟨w₂, hrun, hsane, horderly, houtside, hrow⟩ := hr.located ho hlike
  refine .bind ?_ fun v hv => ?_
  · rw [World.after_of_run hrun, hrow, hlike.row_registry r]
  · rw [World.outcome_of_run hrun] at hv
    rw [World.after_of_run hrun, ← Except.ok.inj hv]
    exact horderly.forgoes_bootWithRegistry hsane (hd.later houtside) call

/-- Where nothing serves the contract, all that comes after the settings goes through. -/
theorem outcome_bootWithSettings (ha : w.Accepts cfg)
    (hfree : (w.row r : Registry).entryOf? (.ofText appInfoContract) = none) :
    ∃ c, w.outcome (bootWithSettings call (.ofRef cfg) registry) = .ok c := by
  have hlike := quiet_prepareLog call (.ofRef cfg) w
  have hprepare := World.run_eq w (prepareLog call (.ofRef cfg))
  rw [ha.outcome_prepareLog] at hprepare
  obtain ⟨w₂, hrun, hsane, horderly, houtside, hrow⟩ := hr.located ho hlike
  obtain ⟨_, c, _, hok, _⟩ := horderly.bootWithRegistry hsane (hrow ▸ hfree)
    (ha.later houtside).describes call
  rw [bootWithSettings, World.outcome, World.run_bind_of_run hprepare, World.run_bind_of_run hrun]
  exact ⟨c, hok⟩

/-- Whatever an environment is set up with: if it cannot be, the registry is left alone, entries and
captures alike. If there are settings, and nothing serves the contract of the application's
identity, it always can be, whether or not the contract was captured. -/
theorem abandons {settings : Value} (hs : w.Supplies settings) :
    w.Forgoes r (bootstrap call settings registry) ∧
      ((w.row r : Registry).entryOf? (.ofText appInfoContract) = none → w.Loads settings →
        ∃ c, w.outcome (bootstrap call settings registry) = .ok c) := by
  have hregistries := hs.registries
  have hrow : (w.settled settings).row r = (w.row r : Registry) :=
    congrArg (Table.get · r.index) hregistries
  rw [bootstrap_eq_bootWithSettings]
  -- Where there are no settings nothing else was done yet.
  refine ⟨.bind hrow fun v hv => ?_, fun hfree hl => ?_⟩
  · obtain ⟨cfg, rfl, hsupplied⟩ := hs.supplied hv
    exact (hr.later hsupplied.continues hregistries).forgoes_bootWithSettings
      (ho.continues hsupplied.continues) call hsupplied.describes
  · obtain ⟨cfg, hok, haccepts⟩ := hl.accepted hs
    obtain ⟨_, -, hsupplied⟩ := hs.supplied hok
    obtain ⟨c, hset⟩ := (hr.later hsupplied.continues hregistries).outcome_bootWithSettings
      (ho.continues hsupplied.continues) call haccepts (hrow ▸ hfree)
    exact ⟨c, World.outcome_bind_eq_ok.2 ⟨_, hok, hset⟩⟩

end World.BootRegistry

/-- The bench with an identity registered on it whose provider fails the first time. -/
def brokenBench : World :=
  { hostBench with
    components := ⟨[.plain 0 []]⟩
    providers := ⟨[.flaky (.ofRef (⟨0⟩ : Ref .component)) (.ofInt 0) (.ofInt 1)]⟩
    registries := ⟨[({} : Registry).register (hostEntry 0 ⟨0⟩)]⟩ }

theorem brokenBench_orderly : brokenBench.Orderly where
  component _ _ _ := rfl
  session _ _ _ := rfl
  capability _ := rfl
  function _ _ := rfl

/-- No environment is set up on a registry whose identity cannot be had, and the registry is left
alone. On a registry without an identity one is. -/
theorem brokenBench_abandoned :
    (∃ fault, brokenBench.outcome setUpHost = .error fault) ∧
      (brokenBench.after setUpHost).row (⟨0⟩ : Ref .registry) =
        (brokenBench.row (⟨0⟩ : Ref .registry) : Registry) ∧
      ∃ c, hostBench.outcome setUpHost = .ok c := by
  have hintact : brokenBench.Intact := fun _ _ _ => rfl
  have hsound : (brokenBench.row (⟨0⟩ : Ref .registry) : Registry).Sound :=
    Registry.Sound.empty.register (proper_hostEntry 0 ⟨0⟩)
  have hsame : hostBench.SameOutside brokenBench := .of_eq rfl rfl rfl
  have haccepts := hostBench_accepts.later hsame
  have hnone : (brokenBench.outcome setUpHost).toOption.isNone = true := by decide +kernel
  obtain ⟨fault, hfault⟩ : ∃ fault, brokenBench.outcome setUpHost = .error fault := by
    cases h : brokenBench.outcome setUpHost with
    | error fault => exact ⟨fault, rfl⟩
    | ok c =>
      rw [h] at hnone
      cases hnone
  have hforgoes :=
    (World.BootRegistry.abandons (.given ⟨hintact, hsound⟩) brokenBench_orderly invoke
    (.given haccepts.describes)).1
  have hempty : Sane ⟨0⟩ hostBench := ⟨hostBench_intact, Registry.Sound.empty⟩
  have hsetUp := (World.BootRegistry.abandons (.given hempty) hostBench_orderly invoke
    (.given hostBench_accepts.describes)).2
  exact ⟨⟨fault, hfault⟩, hforgoes fault hfault, hsetUp rfl (.given hostBench_accepts)⟩

end Understudy

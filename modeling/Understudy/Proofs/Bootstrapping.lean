import Understudy.Bootstrap
import Understudy.Proofs.Fallbacks
import Understudy.Proofs.SessionSetUp
import Understudy.Proofs.RegistryQueries

/-!
# Setting an environment up

What an environment takes for the host of its registry, and that setting it up changes nothing
else about the registry. A registry without an entry for the application's identity is given a
new host, and it is so even if the identity had been captured before.

## Main definitions

* `Registry.Covered`: a contract that has an entry, if it is captured.
* `Beside`: what leaves a registry and an installer alone.
* `Hosted`: what is taken for the host of a registry, and when it is the ground of its contract.
* `HostedContext`: a context by which stand-ins are installed in a registry.

## Main statements

* `Hosted.of_hostOf`: the host that is found is the ground of its contract, exactly if the
  contract was covered.
* `Hosted.hostedContext`: whatever else is set up leaves it alone.
* `Sane.bootstrapped`: what an environment takes for the host of the registry it is set up for.
-/

namespace Understudy

/-! ## Before the host -/

theorem quiet_configureLogging (level format echo : Value) :
    Quiet (configureLogging level format echo) := by
  intro w
  simp only [World.after, configureLogging, World.run_bind, World.run_modify, World.run_get,
    World.run_orFail]
  cases levelOf _ level with
  | error fault => exact ⟨_, _, rfl⟩
  | ok level => exact ⟨_, _, rfl⟩

/-- Sets up the log as settings say. -/
def prepareLog (call : Caller) (settings : Value) : Action Unit := do
  let level ← readAttribute call settings Setting.logLevel.word
  let format ← readAttribute call settings Setting.logFormat.word
  let echo ← readAttribute call settings Setting.logDump.word
  configureLogging level format echo
  debug mainLogger "Bootstrapping test environment..."

theorem quiet_prepareLog (call : Caller) (settings : Value) : Quiet (prepareLog call settings) :=
  (quiet_readAttribute call settings (by decide)).bind fun _ =>
    (quiet_readAttribute call settings (by decide)).bind fun _ =>
      (quiet_readAttribute call settings (by decide)).bind fun _ =>
        (quiet_configureLogging _ _ _).bind fun _ => Quiet.emit _ _ _ _

/-- The installer that an environment makes for a registry. -/
def Installer.ofHost (registry : Value) : Installer where
  registry := registry
  contractId := .ofText appInfoContract
  classId := .ofText appInfoClass

/-- A new session whose timer is out of action, and the injector that did it. -/
def prepareSession (call : Caller) (registry interval : Value) :
    Action (Ref .session × Ref .injector) := do
  let session ← newSession registry .none interval (.function 0 .clock)
  let _ ← setUp call session
  let hooks ← store .injector ⟨.ofRef session⟩
  let _ ← disableTimers call hooks
  return (session, hooks)

/-- Takes the timer of a session out of action, by an injector of its own. -/
def silence (call : Caller) (session : Ref .session) : Action (Ref .injector) := do
  let hooks ← store .injector ⟨.ofRef session⟩
  let _ ← disableTimers call hooks
  return hooks

theorem prepareSession_eq (call : Caller) (registry interval : Value) :
    prepareSession call registry interval = (do
      let session ← newSession registry .none interval (.function 0 .clock)
      let _ ← setUp call session
      let hooks ← silence call session
      return (session, hooks)) := by
  simp only [prepareSession, silence, bind_assoc, pure_bind]

/-- Tells the platform, and puts a context together. -/
def assemble (call : Caller) (registry : Value) (context : Context) : Action (Ref .context) := do
  let platform ← detectPlatform call registry
  debug mainLogger
    ("Test environment ready (platform: " ++ (← shown platform.toValue) ++ ")")
  store .context { context with platform := platform.toValue }

/-- Sets up all that comes after the host. -/
def bootWithHost (call : Caller) (settings registry host : Value) (identities : Ref .installer) :
    Action (Ref .context) := do
  let interval ← readAttribute call settings Setting.dailyInterval.word
  let prepared ← prepareSession call registry interval
  assemble call registry
    { settings := settings
      registry := registry
      hostAppInfo := host
      identities := .ofRef identities
      session := .ofRef prepared.1
      hooks := .ofRef prepared.2 }

/-- An environment is set up by finding the host of its registry, and then the rest. -/
theorem bootstrap_eq (call : Caller) (settings registry : Value) :
    bootstrap call settings registry = (do
      let settings ← orElse settings (Value.ofRef <$> newSettings [])
      prepareLog call settings
      let registry ← orElse registry (Value.ofRef <$> store .registry {})
      let identities ← store .installer (Installer.ofHost registry)
      let host ← hostOf call settings registry identities
      bootWithHost call settings registry host identities) := by
  simp only [prepareLog, bootWithHost, prepareSession, assemble, bind_assoc, pure_bind]
  rfl

/-- There is no need for another value where one counts as true. -/
theorem run_orElse {w : World} {v : Value} (h : w.truthy v = true) (other : Action Value) :
    w.run (orElse v other) = (.ok v, w) := by
  rw [orElse, World.run_bind_of_run (World.run_get w), h]
  rfl

/-! ## The host of a registry -/

/-- A contract that has an entry, if it is captured. -/
def Registry.Covered (reg : Registry) (contract : Value) : Prop :=
  reg.captureOf? contract ≠ none → reg.entryOf? contract ≠ none

/-- What a new host is made of. -/
def describeHost (call : Caller) (settings : Value) : Action Component := do
  let held ← settingsOf call settings hostSettings
  let machine := (← get).surroundings.machine
  let abi ← renew (.ofText machine.abiLabel)
  return .ofSettings machine abi fun s => (held.lookup s).getD .none

/-- Tells what a host says it is. -/
def tellHost (call : Caller) (host : Value) : Action Unit := do
  let id ← shown (← answerOf call host .id)
  let version ← shown (← answerOf call host .version)
  let os ← shown (← answerOf call host .os)
  debug hostLogger ("Host identity: " ++ id ++ " " ++ version ++ " on " ++ os)

/-- Registers a new host. -/
def makeHost (call : Caller) (settings registry : Value) : Action Value := do
  let component ← describeHost call settings
  let host ← store .component component
  let provider ← store .provider (.host (.ofRef host))
  askToRegister call registry (.ofText appInfoClass) (.ofText "HostAppInfo")
    (.ofText appInfoContract) (.ofRef provider)
  tellHost call (.ofRef host)
  return .ofRef host

/-- The host that is registered already: what was captured, or else what is served. -/
def heldHost (call : Caller) (registry : Value) (identities : Ref .installer) : Action Value := do
  if !(← originalOf call identities).isNone then originalOf call identities
  else
    let contract := Value.ofText appInfoContract
    let capability := Value.capability .runtime
    request call registry .getService [contract, capability] fun r =>
      getService call r contract capability

theorem hostOf_eq (call : Caller) (settings registry : Value) (identities : Ref .installer) :
    hostOf call settings registry identities = (do
      if ← contains call registry (.ofText appInfoContract) then
        heldHost call registry identities
      else makeHost call settings registry) := by
  simp only [heldHost, makeHost, describeHost, tellHost, bind_assoc, pure_bind]
  simp only [hostOf, newHost, registerHost, bind_assoc, pure_bind]

/-- Where there is an entry the host is looked for. -/
theorem World.Intact.run_hostOf_of_served {w : World} {r : Ref .registry} (hw : w.Intact)
    {found : Value} (he : (w.row r : Registry).entryOf? (.ofText appInfoContract) = some found)
    (call : Caller) (settings : Value) (i : Ref .installer) :
    w.run (hostOf call settings (.ofRef r) i) = w.run (heldHost call (.ofRef r) i) := by
  have htext : (Value.ofText appInfoContract).text? = some appInfoContract := rfl
  have hcontains := hw.run_contains call r htext
  rw [he] at hcontains
  rw [hostOf_eq, World.run_bind_of_run hcontains]
  rfl

/-- Where there is none a host is made. -/
theorem World.Intact.run_hostOf_of_free {w : World} {r : Ref .registry} (hw : w.Intact)
    (he : (w.row r : Registry).entryOf? (.ofText appInfoContract) = none) (call : Caller)
    (settings : Value) (i : Ref .installer) :
    w.run (hostOf call settings (.ofRef r) i) = w.run (makeHost call settings (.ofRef r)) := by
  have htext : (Value.ofText appInfoContract).text? = some appInfoContract := rfl
  have hcontains := hw.run_contains call r htext
  rw [he] at hcontains
  rw [hostOf_eq, World.run_bind_of_run hcontains]
  rfl

theorem quiet_settingsOf (call : Caller) (v : Value) (asked : List Setting) :
    Quiet (settingsOf call v asked) := by
  induction asked with
  | nil => exact Quiet.pure []
  | cons s rest ih =>
    have hname : s.word ≠ "original" := by cases s <;> decide
    exact (quiet_readAttribute call v hname).bind fun _ => ih.bind fun _ => Quiet.pure _

theorem quiet_describeHost (call : Caller) (settings : Value) :
    Quiet (describeHost call settings) :=
  (quiet_settingsOf call settings _).bind fun _ => Quiet.get.bind fun _ =>
    (Quiet.renew _).bind fun _ => Quiet.pure _

theorem quiet_tellHost (call : Caller) (host : Value) : Quiet (tellHost call host) :=
  (quiet_answerOf call host .id).bind fun _ => (Quiet.shown _).bind fun _ =>
    (quiet_answerOf call host .version).bind fun _ => (Quiet.shown _).bind fun _ =>
      (quiet_answerOf call host .os).bind fun _ => (Quiet.shown _).bind fun _ =>
        Quiet.emit _ _ _ _

/-- The state with one more component, and with a provider that hands it out. -/
def World.withHost (w : World) (component : Component) : World :=
  { w with
    components := w.components.push component
    providers := w.providers.push (.host (.ofRef w.nextComponent)) }

theorem World.serves_withHost (w : World) (component : Component) :
    (w.withHost component).Serves w.nextProvider w.nextComponent where
  provider := by
    show w.providers.size < (w.providers.push _).size
    rw [Table.size_push]
    exact Nat.lt_succ_self _
  component := by
    show ((w.providers.push _).get w.providers.size).component = _
    rw [Table.get_push, if_pos rfl]
    rfl
  there := by
    show w.components.size < (w.components.push _).size
    rw [Table.size_push]
    exact Nat.lt_succ_self _

/-- The entry of a new host. -/
def hostEntry (serial : Nat) (provider : Ref .provider) : Entry :=
  ⟨serial, .ofText appInfoClass, .ofText "HostAppInfo", .ofText appInfoContract, .ofRef provider⟩

theorem proper_hostEntry (serial : Nat) (provider : Ref .provider) :
    (hostEntry serial provider).Proper where
  classId := ⟨_, rfl, by decide⟩
  contractId := ⟨_, rfl, by decide⟩
  description := ⟨_, rfl⟩
  provider := ⟨provider, rfl⟩

/-- A host that can be described is registered, and told about. -/
theorem Sane.run_makeHost {r : Ref .registry} {w w₁ : World} (h : Sane r w) (call : Caller)
    {settings : Value} {component : Component}
    (hdescribed : w.run (describeHost call settings) = (.ok component, w₁)) :
    ∃ placed : World, ((w₁.withHost component).withRow r ((w₁.row r : Registry).register
        (hostEntry w₁.nextSerial w₁.nextProvider))).Alike placed ∧
      w.run (makeHost call settings (.ofRef r)) =
        placed.run (tellHost call (.ofRef w₁.nextComponent) >>= fun _ =>
          pure (.ofRef w₁.nextComponent)) := by
  have hquiet : w.Alike w₁ := by
    have hquiet := quiet_describeHost call settings w
    rwa [World.after_of_run hdescribed] at hquiet
  have hsane₁ := h.of_alike hquiet
  have hsane₂ : Sane r (w₁.withHost component) := ⟨hsane₁.intact.congr rfl, hsane₁.sound⟩
  obtain ⟨hregistered, hplaced⟩ := hsane₂.intact.run_askToRegister call hsane₂.sound
    (proper_hostEntry w₁.nextSerial w₁.nextProvider)
  have hregister := World.run_eq (w₁.withHost component) (askToRegister call (.ofRef r)
    (.ofText appInfoClass) (.ofText "HostAppInfo") (.ofText appInfoContract)
    (.ofRef w₁.nextProvider))
  rw [hregistered] at hregister
  refine ⟨_, hplaced, ?_⟩
  rw [makeHost, World.run_bind_of_run hdescribed,
    World.run_bind_of_run (World.run_store w₁ component)]
  rw [World.run_bind_of_run (World.run_store _ _)]
  exact World.run_bind_of_run hregister

/-- A new host is registered as a component that was not there before. -/
theorem Sane.makeHost {r : Ref .registry} {w : World} (h : Sane r w) (call : Caller)
    (settings : Value) {host : Value}
    (hv : w.outcome (makeHost call settings (.ofRef r)) = .ok host) :
    ∃ (w₁ : World) (component : Component), w.Alike w₁ ∧ host = .ofRef w₁.nextComponent ∧
      ((w₁.withHost component).withRow r ((w₁.row r : Registry).register
        (hostEntry w₁.nextSerial w₁.nextProvider))).Alike
        (w.after (Understudy.makeHost call settings (.ofRef r))) := by
  obtain ⟨component, hdescribed, _⟩ := World.outcome_bind_eq_ok.1 hv
  have hquiet := quiet_describeHost call settings w
  have hdescribe := World.run_eq w (describeHost call settings)
  rw [hdescribed] at hdescribe
  obtain ⟨placed, hplaced, hrun⟩ := h.run_makeHost call hdescribe
  refine ⟨_, component, hquiet, ?_, ?_⟩
  · rw [World.outcome, hrun] at hv
    obtain ⟨_, _, hv⟩ := World.outcome_bind_eq_ok.1 hv
    exact (Except.ok.inj hv).symm
  · have hafter : w.after (Understudy.makeHost call settings (.ofRef r)) = placed.after _ :=
      congrArg Prod.snd hrun
    rw [hafter, World.after_bind_pure _ _ fun _ => _]
    exact hplaced.trans (quiet_tellHost call _ placed)

/-! ## Beside a registry and an installer -/

/-- What leaves a registry and the things there alone, and an installer as well. -/
structure Beside (r : Ref .registry) (i : Ref .installer) (w w' : World) : Prop
    extends Aside r w w' where
  installer : w'.row i = (w.row i : Installer)

namespace Beside

variable {r : Ref .registry} {i : Ref .installer} {w w' w'' : World}

theorem trans (h : Beside r i w w') (h' : Beside r i w' w'') : Beside r i w w'' :=
  ⟨⟨h'.registry.trans h.registry, h.things.trans h'.things⟩, h'.installer.trans h.installer⟩

/-- What has nothing to do with registries, installers, identities and their providers. -/
theorem of_eq (intact : w.Intact → w'.Intact) (hregistries : w'.registries = w.registries)
    (hinstallers : w'.installers = w.installers) (hcomponents : w'.components = w.components)
    (hproviders : w'.providers = w.providers) : Beside r i w w' where
  registry := congrArg (Table.get · r.index) hregistries
  things := .of_eq intact hcomponents hproviders
  installer := congrArg (Table.get · i.index) hinstallers

theorem of_alike (h : w.Alike w') : Beside r i w w' where
  registry := h.row_registry r
  things := .of_alike h
  installer := h.row_installer i

theorem of_quiet {α : Type} {a : Action α} (h : Quiet a) (w : World) :
    Beside r i w (w.after a) := of_alike (h w)

theorem of_told (h : w.Told w') : Beside r i w w' where
  registry := h.row_registry r
  things := h.things
  installer := by
    rw [h.frame]
    rfl

end Beside

/-! ## What is taken for the host -/

section

variable {r : Ref .registry} {i : Ref .installer} {w w' : World}

/-- An installer answers with the captured service of its contract, if there is one. -/
theorem World.Intact.run_originalOf (hw : w.Intact) (call : Caller)
    (hi : w.row i = Installer.ofHost (.ofRef r)) :
    let found := ((w.row r : Registry).captureOf? (.ofText appInfoContract)).getD .none
    w.run (originalOf call i) =
      w.run (if found.isNone then pure .none else subscript found (.ofInt 1)) := by
  have hover : (w.row i : Installer).registry = .ofRef r := by rw [hi]; rfl
  have hcontract : (w.row i : Installer).contractId = .ofText appInfoContract := by rw [hi]; rfl
  have hrun := hw.run_readAttribute_original call i hover (by rw [hcontract]; rfl)
  rwa [hcontract] at hrun

/-- What an environment takes for the host of a registry. It is the ground of its contract,
exactly if that was covered. -/
structure Hosted (r : Ref .registry) (i : Ref .installer) (host : Ref .component) (covered : Prop)
    (w : World) : Prop where
  sane : Sane r w
  rooted : (w.row r : Registry).Rooted w
  installer : ∃ current, w.row i = { Installer.ofHost (.ofRef r) with current := current }
  ground : ∃ c, w.Grounded r (.ofText appInfoContract) c ∧ (c = host ↔ covered)

theorem Hosted.beside {host : Ref .component} {covered : Prop} (h : Hosted r i host covered w)
    (hb : Beside r i w w') : Hosted r i host covered w' where
  sane := hb.toAside.sane h.sane
  rooted := hb.registry ▸ h.rooted.extends hb.things
  installer := hb.installer ▸ h.installer
  ground := by
    obtain ⟨c, hground, hiff⟩ := h.ground
    exact ⟨c, hground.aside hb.toAside, hiff⟩

/-- The ground of a contract that was covered. -/
theorem Hosted.of_grounded (h : Sane r w) (hrooted : (w.row r : Registry).Rooted w)
    (hi : w.row i = Installer.ofHost (.ofRef r)) {host : Ref .component}
    (hground : w.Grounded r (.ofText appInfoContract) host) {covered : Prop}
    (hcovered : covered) : Hosted r i host covered w :=
  ⟨h, hrooted, ⟨_, hi⟩, host, hground, fun _ => hcovered, fun _ => rfl⟩

/-- A new host is the ground of its contract only if nothing was captured before. -/
theorem Hosted.of_makeHost (h : Sane r w) (hrooted : (w.row r : Registry).Rooted w)
    (hi : w.row i = Installer.ofHost (.ofRef r))
    (he : (w.row r : Registry).entryOf? (.ofText appInfoContract) = none) (call : Caller)
    (settings : Value) {v : Value}
    (hv : w.outcome (makeHost call settings (.ofRef r)) = .ok v) :
    ∃ host : Ref .component, v = .ofRef host ∧
      Hosted r i host ((w.row r : Registry).Covered (.ofText appInfoContract))
        (w.after (makeHost call settings (.ofRef r))) := by
  obtain ⟨w₁, component, hlike, rfl, hplaced⟩ := h.makeHost call settings hv
  have h₁ : Sane r (w₁.withHost component) :=
    ⟨(h.of_alike hlike).intact.congr rfl, (h.of_alike hlike).sound⟩
  have hthings : w.Extends (w₁.withHost component) :=
    (World.Extends.of_alike hlike).trans (.pushed w₁ _ _)
  have hrow : (w₁.withHost component).row r = (w.row r : Registry) := hlike.row_registry r
  have hstep : Dealing.Step call r (w₁.withHost component)
      (w.after (makeHost call settings (.ofRef r))) (.register _ _ _ _) :=
    .registered (proper_hostEntry w₁.nextSerial w₁.nextProvider) hplaced
  have hcaptures : ((w.after (makeHost call settings (.ofRef r))).row r : Registry).captureOf?
      (.ofText appInfoContract) = (w.row r : Registry).captureOf? (.ofText appInfoContract) := by
    rw [hplaced.row_registry, World.row_withRow_self, Registry.captureOf?_register,
      hlike.row_registry]
  have hrooted' := hstep.rooted h₁ (hrow ▸ hrooted.extends hthings)
  have hinstaller : (w.after (makeHost call settings (.ofRef r))).row i =
      Installer.ofHost (.ofRef r) := by
    rw [hplaced.row_installer i]
    exact (hlike.row_installer i).trans hi
  refine ⟨w₁.nextComponent, rfl, hstep.sane h₁, hrooted', ⟨_, hinstaller⟩, ?_⟩
  cases hc : (w.row r : Registry).captureOf? (.ofText appInfoContract) with
  | none =>
    refine ⟨w₁.nextComponent, ?_, fun _ hno => absurd hc hno, fun _ => rfl⟩
    have hentry : ((w.after (makeHost call settings (.ofRef r))).row r : Registry).entryOf?
        (.ofText appInfoContract) = some (hostEntry w₁.nextSerial w₁.nextProvider).toValue := by
      rw [hplaced.row_registry, World.row_withRow_self, Registry.entryOf?_register]
      rfl
    exact .served (hcaptures.trans hc) hentry rfl
      ((w₁.serves_withHost component).extends hstep.onward.things)
  | some capture =>
    obtain ⟨serial, e, c, rfl, _⟩ := h.sound.captures _ _ hc
    obtain ⟨p, _, hserves⟩ := hrooted _ _ _ _ hc
    refine ⟨c, .captured (hcaptures.trans hc), fun hsame => ?_, fun hcovered => ?_⟩
    · -- What was captured was there before the new host.
      have hthere : c.index < w₁.components.size := by
        obtain ⟨_, _, rfl⟩ := hlike
        exact hserves.there
      rw [hsame] at hthere
      exact absurd hthere (Nat.lt_irrefl _)
    · exact absurd he (hcovered (hc ▸ nofun))

/-- A host that is registered already is what was captured, or else it is served. -/
theorem Sane.run_heldHost (h : Sane r w) (hi : w.row i = Installer.ofHost (.ofRef r)) {e : Entry}
    (he : (w.row r : Registry).entryOf? (.ofText appInfoContract) = some e.toValue)
    {p : Ref .provider} (hp : e.provider = .ofRef p) (call : Caller) :
    (∃ (serial : Nat) (e : Entry) (c : Ref .component),
      (w.row r : Registry).captureOf? (.ofText appInfoContract) =
        some (Capture.toValue ⟨serial, e.toValue, .ofRef c⟩) ∧
      w.run (heldHost call (.ofRef r) i) = (.ok (.ofRef c), w)) ∨
    (w.row r : Registry).captureOf? (.ofText appInfoContract) = none ∧
      w.run (heldHost call (.ofRef r) i) =
        w.run (createFrom call (.ofRef p) (.capability .runtime)) := by
  have horiginal := h.intact.run_originalOf call hi
  cases hc : (w.row r : Registry).captureOf? (.ofText appInfoContract) with
  | some capture =>
    obtain ⟨serial, e, c, rfl, _⟩ := h.sound.captures _ _ hc
    rw [hc] at horiginal
    refine .inl ⟨serial, e, c, rfl, ?_⟩
    rw [heldHost, World.run_bind, horiginal]
    exact horiginal
  | none =>
    rw [hc] at horiginal
    refine .inr ⟨rfl, ?_⟩
    rw [heldHost, World.run_bind, horiginal, ← hp,
      ← h.intact.run_getService call r rfl he (.capability .runtime)]
    exact h.intact.run_request call r _ _ rfl

/-- A host that is registered already is the ground of its contract. -/
theorem Hosted.of_heldHost (h : Sane r w) (hrooted : (w.row r : Registry).Rooted w)
    (hi : w.row i = Installer.ofHost (.ofRef r)) {e : Entry}
    (he : (w.row r : Registry).entryOf? (.ofText appInfoContract) = some e.toValue)
    {p : Ref .provider} (hp : e.provider = .ofRef p) (call : Caller) {v : Value}
    (hv : w.outcome (heldHost call (.ofRef r) i) = .ok v) :
    ∃ host : Ref .component, v = .ofRef host ∧
      Hosted r i host ((w.row r : Registry).Covered (.ofText appInfoContract))
        (w.after (heldHost call (.ofRef r) i)) := by
  have hcovered : (w.row r : Registry).Covered (.ofText appInfoContract) := fun _ hno => by
    rw [he] at hno
    cases hno
  rcases h.run_heldHost hi he hp call with ⟨_, _, c, hc, hrun⟩ | ⟨hc, hrun⟩
  · rw [World.outcome_of_run hrun] at hv
    rw [World.after_of_run hrun]
    exact ⟨c, (Except.ok.inj hv).symm, .of_grounded h hrooted hi (.captured hc) hcovered⟩
  · rw [World.outcome, hrun] at hv
    rw [World.after, hrun]
    obtain ⟨c, rfl, hserves⟩ := h.intact.serves call hv
    have hserved := h.intact.served_createFrom call p (.capability .runtime)
    have hhosted := Hosted.of_grounded h hrooted hi (.served hc he hp hserves) hcovered
    exact ⟨c, rfl, hhosted.beside
      ⟨⟨hserved.row_registry r, .of_served hserved⟩, hserved.row_installer i⟩⟩

/-- The host that is found for a registry. A new host is the ground of its contract only if
nothing was captured before. -/
theorem Hosted.of_hostOf (h : Sane r w) (hrooted : (w.row r : Registry).Rooted w)
    (hi : w.row i = Installer.ofHost (.ofRef r)) (call : Caller) (settings : Value) {v : Value}
    (hv : w.outcome (hostOf call settings (.ofRef r) i) = .ok v) :
    ∃ host : Ref .component, v = .ofRef host ∧
      Hosted r i host ((w.row r : Registry).Covered (.ofText appInfoContract))
        (w.after (hostOf call settings (.ofRef r) i)) := by
  rw [World.outcome] at hv
  rw [World.after]
  cases he : (w.row r : Registry).entryOf? (.ofText appInfoContract) with
  | none =>
    have hrun := h.intact.run_hostOf_of_free he call settings i
    rw [hrun] at hv ⊢
    exact Hosted.of_makeHost h hrooted hi he call settings hv
  | some found =>
    have hrun := h.intact.run_hostOf_of_served he call settings i
    obtain ⟨e, rfl, hproper, _⟩ := h.sound.entries _ _ he
    obtain ⟨p, hp⟩ := hproper.provider
    rw [hrun] at hv ⊢
    exact Hosted.of_heldHost h hrooted hi he hp call hv

end

/-! ## The rest -/

/-- The state with one more session, and with a bank of its own. -/
def World.withSession (w : World) (session : Session) : World :=
  { w with
    banks := w.banks.push {}
    sessions := w.sessions.push { session with timers := .ofRef (⟨w.banks.size⟩ : Ref .bank) } }

theorem run_newSession (w : World) (registry interval clock : Value) :
    w.run (newSession registry .none interval clock) = (.ok ⟨w.sessions.size⟩,
      w.withSession { registry := registry, interval := interval, clock := clock }) := rfl

theorem World.row_withSession (w : World) (session : Session) :
    (w.withSession session).row (⟨w.sessions.size⟩ : Ref .session) =
      { session with timers := .ofRef (⟨w.banks.size⟩ : Ref .bank) } :=
  (Table.get_push _ _ _).trans (if_pos rfl)

theorem World.row_withSession_bank (w : World) (session : Session) :
    (w.withSession session).row (⟨w.banks.size⟩ : Ref .bank) = ({} : Bank) :=
  (Table.get_push _ _ _).trans (if_pos rfl)

theorem Beside.withSession {r : Ref .registry} {i : Ref .installer} (w : World)
    (session : Session) : Beside r i w (w.withSession session) :=
  .of_eq (fun hw => hw.congr rfl) rfl rfl rfl rfl

section

variable {r : Ref .registry} {i : Ref .installer} {w : World}

/-- A session that is set up for the first time. -/
theorem Sane.beside_setUp (h : Sane r w) (call : Caller) {s : Ref .session} {b : Ref .bank}
    (hr : (w.row s : Session).registry = .ofRef r) (hb : (w.row s : Session).timers = .ofRef b)
    (hnone : (w.row s : Session).policy = .none) :
    Beside r i w (w.after (setUp call s)) ∧
      (w.after (setUp call s)).banks = w.banks ∧
      ∃ (p : Ref .policy) (sessionId : Value), (w.after (setUp call s)).row s =
        { (w.row s : Session) with policy := .ofRef p, sessionId := sessionId } := by
  obtain ⟨w₁, serial, j, k, hlike, hafter⟩ := h.intact.after_setUp call hb hnone
  rw [hafter]
  generalize Policy.mk serial _ _ = policy
  let provided : World := w₁.provided s policy
  have hsession : provided.row s =
      { (w.row s : Session) with policy := .ofRef (⟨w₁.policies.size⟩ : Ref .policy) } := by
    obtain ⟨_, _, rfl⟩ := hlike
    exact World.row_withRow_self _ s _
  have hprovided : Beside r i w₁ provided := .of_eq (fun hw => hw.congr rfl) rfl rfl rfl rfl
  have hbeside : Beside r i w provided := (Beside.of_alike hlike).trans hprovided
  have hregistry : (provided.row s : Session).registry = .ofRef r :=
    (congrArg Session.registry hsession).trans hr
  have htold := (hbeside.toAside.sane h).told_identify hregistry call
  have hnamed : Beside r i provided (provided.named s provided.nextId) :=
    .of_eq (fun hw => hw.congr rfl) rfl rfl rfl rfl
  refine ⟨hbeside.trans (hnamed.trans (.of_told htold)), ?_, ⟨w₁.policies.size⟩, provided.nextId,
    ?_⟩
  · obtain ⟨_, _, rfl⟩ := hlike
    rw [htold.frame]
    rfl
  · have hrow := (htold.untouched r s).session
    rw [World.named, World.row_withRow_self, hsession] at hrow
    exact hrow

/-- Taking the timer of a session that has been set up out of action. -/
theorem World.Intact.beside_disableTimers (hw : w.Intact) (call : Caller) {j : Ref .injector}
    {s : Ref .session} {p : Ref .policy} (hj : (w.row j : Injector).owner = .ofRef s)
    (hp : (w.row s : Session).policy = .ofRef p) :
    Beside r i w (w.after (disableTimers call j)) ∧
      (w.after (disableTimers call j)).banks = w.banks ∧
      (w.after (disableTimers call j)).sessions = w.sessions := by
  have hlike := hw.alike_overrideScheduling call hj hp (idle_checkHooks w)
  have hrun : w.run (disableTimers call j) =
      w.run (overrideScheduling call j (.function 0 .idleArm) (.function 0 .idleCancel)) :=
    hw.run_request call j _ _ rfl
  rw [World.after, hrun, ← World.after]
  have hbeside : Beside r i w (World.rehooked { w with nextSerial := w.nextSerial + 1 } p
      ⟨w.nextSerial, .function 0 .idleArm, .function 0 .idleCancel⟩) :=
    .of_eq (fun hw => hw.erase rfl) rfl rfl rfl rfl
  refine ⟨hbeside.trans (.of_alike hlike), ?_, ?_⟩
  all_goals
    obtain ⟨_, _, hafter⟩ := hlike
    rw [hafter]
    rfl

/-- So does an injector of its own. -/
theorem World.Intact.beside_silence (hw : w.Intact) (call : Caller) {s : Ref .session}
    {p : Ref .policy} (hp : (w.row s : Session).policy = .ofRef p) :
    Beside r i w (w.after (silence call s)) ∧ (w.after (silence call s)).banks = w.banks ∧
      (w.after (silence call s)).sessions = w.sessions := by
  let stored : World := { w with injectors := w.injectors.push ⟨.ofRef s⟩ }
  have hstored : w.run (store .injector ⟨.ofRef s⟩) = (.ok ⟨w.injectors.size⟩, stored) := rfl
  have hbeside : Beside r i w stored := .of_eq (fun hw => hw.congr rfl) rfl rfl rfl rfl
  have howner : (stored.row (⟨w.injectors.size⟩ : Ref .injector) : Injector).owner = .ofRef s :=
    congrArg Injector.owner ((Table.get_push _ _ _).trans (if_pos rfl))
  obtain ⟨hdisabled, hbanks, hsessions⟩ :=
    (hbeside.things.intact hw).beside_disableTimers (r := r) (i := i) call howner hp
  rw [silence, World.after_bind_of_run hstored, World.after_bind_pure _ _ fun _ => _]
  exact ⟨hbeside.trans hdisabled, hbanks, hsessions⟩

/-- A context whose session has not been started, and has no timers. -/
def World.Unstarted (c : Ref .context) (w : World) : Prop :=
  ∃ (s : Ref .session) (b : Ref .bank), (w.row c : Context).session = .ofRef s ∧
    (w.row s : Session).running = .bool false ∧ (w.row s : Session).timers = .ofRef b ∧
      (w.row b : Bank).active = []

/-- A context by which stand-ins are installed in a registry, and what it takes for the host. -/
structure HostedContext (r : Ref .registry) (c : Ref .context) (i : Ref .installer)
    (host : Ref .component) (covered : Prop) (w : World) : Prop
    extends Hosted r i host covered w where
  identities : (w.row c : Context).identities = .ofRef i
  hostAppInfo : (w.row c : Context).hostAppInfo = .ofRef host

/-- The state with one more context. -/
def World.withContext (w : World) (context : Context) : World :=
  { w with contexts := w.contexts.push context }

/-- A context is put together without a fault. -/
theorem World.Intact.run_assemble {w : World} (hw : w.Intact) (call : Caller) (r : Ref .registry)
    (context : Context) :
    ∃ (platform : Value) (told : World), w.Alike told ∧
      w.run (assemble call (.ofRef r) context) =
        (.ok ⟨w.contexts.size⟩, told.withContext { context with platform := platform }) := by
  have hplatform := hw.run_detectPlatform call r
  revert hplatform
  generalize Platform.mk _ _ _ _ _ = platform
  intro hplatform
  let found : World := { w with nextSerial := w.nextSerial + 1 }
  obtain ⟨text, htext⟩ : ∃ text, found.display platform.toValue = .ok text := ⟨_, rfl⟩
  have hshown : found.run (shown platform.toValue) = (.ok text, found) := by
    rw [World.run_shown, htext]
  let message := "Test environment ready (platform: " ++ text ++ ")"
  have htold : found.run (debug mainLogger message) =
      (.ok (), found.after (debug mainLogger message)) := rfl
  have hlike : w.Alike found := ⟨w.log, _, rfl⟩
  refine ⟨platform.toValue, found.after (debug mainLogger message),
    hlike.trans (Quiet.emit 10 mainLogger message none found), ?_⟩
  rw [assemble, World.run_bind_of_run hplatform, World.run_bind_of_run hshown,
    World.run_bind_of_run htold, World.run_store]
  rfl

/-- A context is put together out of what it is given. -/
theorem World.Intact.assembled (hw : w.Intact) (call : Caller) (context : Context)
    {c : Ref .context} (hv : w.outcome (assemble call (.ofRef r) context) = .ok c) :
    Beside r i w (w.after (assemble call (.ofRef r) context)) ∧
      (w.after (assemble call (.ofRef r) context)).sessions = w.sessions ∧
      (w.after (assemble call (.ofRef r) context)).banks = w.banks ∧
      ∃ platform, (w.after (assemble call (.ofRef r) context)).row c =
        { context with platform := platform } := by
  obtain ⟨platform, told, ⟨log, serial, rfl⟩, hrun⟩ := hw.run_assemble call r context
  rw [World.outcome_of_run hrun] at hv
  obtain rfl := Except.ok.inj hv
  rw [World.after_of_run hrun]
  exact ⟨.of_eq (fun hw => hw.congr rfl) rfl rfl rfl rfl, rfl, rfl, platform,
    (Table.get_push _ _ _).trans (if_pos rfl)⟩

/-- A session of its own is prepared for an environment, and is not started. -/
theorem Sane.prepared (h : Sane r w) (call : Caller) (interval : Value) {s : Ref .session}
    {j : Ref .injector}
    (hv : w.outcome (prepareSession call (.ofRef r) interval) = .ok (s, j)) :
    Beside r i w (w.after (prepareSession call (.ofRef r) interval)) ∧
      ∃ b : Ref .bank,
        ((w.after (prepareSession call (.ofRef r) interval)).row s : Session).running =
          .bool false ∧
        ((w.after (prepareSession call (.ofRef r) interval)).row s : Session).timers = .ofRef b ∧
        ((w.after (prepareSession call (.ofRef r) interval)).row b : Bank).active = [] := by
  have hnew := run_newSession w (.ofRef r) interval (.function 0 .clock)
  rw [World.outcome, prepareSession_eq, World.run_bind_of_run hnew, ← World.outcome] at hv
  rw [prepareSession_eq, World.after_bind_of_run hnew]
  have hmade := Beside.withSession (r := r) (i := i) w
    { registry := .ofRef r, interval := interval }
  have hrow := w.row_withSession { registry := .ofRef r, interval := interval }
  have hbank := w.row_withSession_bank { registry := .ofRef r, interval := interval }
  generalize w.withSession { registry := .ofRef r, interval := interval } = made
    at hv hmade hrow hbank ⊢
  -- It is set up.
  obtain ⟨hsetUp, hbanks, p, sessionId, hset⟩ := (hmade.toAside.sane h).beside_setUp (i := i) call
    (by rw [hrow]) (by rw [hrow]) (by rw [hrow])
  obtain ⟨_, hok, hv⟩ := World.outcome_bind_eq_ok.1 hv
  rw [World.after_bind_of_ok hok]
  generalize made.after (setUp call ⟨w.sessions.size⟩) = w₁ at hsetUp hbanks hset hv ⊢
  -- Its timer is taken out of action.
  have hintact : w₁.Intact := hsetUp.things.intact (hmade.things.intact h.intact)
  obtain ⟨hsilenced, hbanks', hsessions⟩ := hintact.beside_silence (r := r) (i := i) call
    (s := ⟨w.sessions.size⟩) (congrArg Session.policy hset)
  obtain ⟨_, _, hv⟩ := World.outcome_bind_eq_ok.1 hv
  obtain ⟨rfl, rfl⟩ := Prod.mk.inj (Except.ok.inj hv)
  rw [World.after_bind_pure _ _ fun _ => _]
  have hsame : (w₁.after (silence call ⟨w.sessions.size⟩)).row (⟨w.sessions.size⟩ : Ref .session) =
      (w₁.row (⟨w.sessions.size⟩ : Ref .session) : Session) :=
    congrArg (Table.get · w.sessions.size) hsessions
  have hsameBank : (w₁.after (silence call ⟨w.sessions.size⟩)).row (⟨w.banks.size⟩ : Ref .bank) =
      (made.row (⟨w.banks.size⟩ : Ref .bank) : Bank) :=
    congrArg (Table.get · w.banks.size) (hbanks'.trans hbanks)
  refine ⟨hmade.trans (hsetUp.trans hsilenced), ⟨w.banks.size⟩, ?_, ?_, ?_⟩
  · rw [hsame, hset, hrow]
  · rw [hsame, hset, hrow]
  · rw [hsameBank, hbank]

/-- Nothing else that is set up makes a difference to the host. -/
theorem Hosted.hostedContext {host : Ref .component} {covered : Prop}
    (h : Hosted r i host covered w) (call : Caller) (settings : Value) {c : Ref .context}
    (hv : w.outcome (bootWithHost call settings (.ofRef r) (.ofRef host) i) = .ok c) :
    HostedContext r c i host covered
      (w.after (bootWithHost call settings (.ofRef r) (.ofRef host) i)) ∧
      (w.after (bootWithHost call settings (.ofRef r) (.ofRef host) i)).Unstarted c := by
  have hread : Beside r i w (w.after (readAttribute call settings Setting.dailyInterval.word)) :=
    .of_quiet (quiet_readAttribute call settings (by decide)) w
  obtain ⟨interval, hinterval, hv⟩ := World.outcome_bind_eq_ok.1 hv
  obtain ⟨⟨s, j⟩, hprepared, hv⟩ := World.outcome_bind_eq_ok.1 hv
  have h₁ := h.beside hread
  obtain ⟨hbeside, b, hrunning, htimers, hactive⟩ := h₁.sane.prepared (i := i) call interval
    hprepared
  have h₂ := h₁.beside hbeside
  obtain ⟨hassembled, hsessions, hbanks, platform, hcontext⟩ :=
    h₂.sane.intact.assembled (i := i) call _ hv
  rw [bootWithHost, World.after_bind_of_ok hinterval, World.after_bind_of_ok hprepared]
  refine ⟨⟨h₂.beside hassembled, ?_, ?_⟩, s, b, ?_, ?_, ?_, ?_⟩
  · rw [hcontext]
  · rw [hcontext]
  · rw [hcontext]
  · exact (congrArg (fun t => (Table.get t s.index).running) hsessions).trans hrunning
  · exact (congrArg (fun t => (Table.get t s.index).timers) hsessions).trans htimers
  · exact (congrArg (fun t => (Table.get t b.index).active) hbanks).trans hactive

/-- An environment that is set up for a registry takes the ground of its contract for the host,
exactly if the contract was covered. -/
theorem Sane.bootstrapped (h : Sane r w) (hrooted : (w.row r : Registry).Rooted w) (call : Caller)
    {settings : Value} (hsettings : w.truthy settings = true) {c : Ref .context}
    (hc : w.outcome (bootstrap call settings (.ofRef r)) = .ok c) :
    ∃ (i : Ref .installer) (host : Ref .component),
      HostedContext r c i host ((w.row r : Registry).Covered (.ofText appInfoContract))
        (w.after (bootstrap call settings (.ofRef r))) ∧
      (w.after (bootstrap call settings (.ofRef r))).Unstarted c := by
  rw [bootstrap_eq] at hc ⊢
  rw [World.outcome, World.run_bind_of_run (run_orElse hsettings _), ← World.outcome] at hc
  rw [World.after_bind_of_run (run_orElse hsettings _)]
  have hprepared := quiet_prepareLog call settings w
  obtain ⟨_, hok, hc⟩ := World.outcome_bind_eq_ok.1 hc
  rw [World.after_bind_of_ok hok]
  have hregistry := hprepared.row_registry r
  have h₁ := h.of_alike hprepared
  have hrooted₁ := hrooted.extends (.of_alike hprepared)
  rw [← hregistry] at hrooted₁ ⊢
  revert hc h₁ hrooted₁
  generalize w.after (prepareLog call settings) = w₁
  intro hc h₁ hrooted₁
  let w₂ : World := { w₁ with installers := w₁.installers.push (Installer.ofHost (.ofRef r)) }
  have horElse : w₁.run (orElse (.ofRef r) (Value.ofRef <$> store .registry {})) =
      (.ok (.ofRef r), w₁) := run_orElse rfl _
  have hstored : w₁.run (store .installer (Installer.ofHost (.ofRef r))) =
      (.ok ⟨w₁.installers.size⟩, w₂) := rfl
  rw [World.outcome, World.run_bind_of_run horElse, World.run_bind_of_run hstored,
    ← World.outcome] at hc
  rw [World.after_bind_of_run horElse, World.after_bind_of_run hstored]
  have h₂ : Sane r w₂ := ⟨h₁.intact.congr rfl, h₁.sound⟩
  have hrooted₂ : (w₂.row r : Registry).Rooted w₂ :=
    hrooted₁.extends (.of_eq (fun hw => hw.congr rfl) rfl rfl)
  have hinstaller : w₂.row (⟨w₁.installers.size⟩ : Ref .installer) = Installer.ofHost (.ofRef r) :=
    (Table.get_push _ _ _).trans (if_pos rfl)
  obtain ⟨host, hfound, hc⟩ := World.outcome_bind_eq_ok.1 hc
  obtain ⟨host, rfl, hhosted⟩ := Hosted.of_hostOf h₂ hrooted₂ hinstaller call settings hfound
  rw [World.after_bind_of_ok hfound]
  exact ⟨_, host, hhosted.hostedContext call settings hc⟩

end

end Understudy

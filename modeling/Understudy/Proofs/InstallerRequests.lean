import Understudy.Installation
import Understudy.Proofs.RegistryRequests

/-!
# The requests to an installer

An installer over a registry captures first and then puts a new stand-in under its
contract, by registering a new provider of it. Restoring registers the captured entry
once more. For both requests this module says all that can come of them.

## Main definitions

* `Installer.Over`: an installer over a registry, with texts for its ids.
* `World.withStandIn`: the state with one more overlay and a provider of it.
* `InstallStep`, `RestoreStep`: what the two requests do when they are not refused.

## Main statements

* `World.Intact.install_cases`: installing.
* `World.Intact.restore_cases`: restoring.
-/

namespace Understudy

/-! ## What a stand-in answers -/

section

variable (id name version platformVersion fallback : Value)

/-- A stand-in overrides one field after the other, each of them once. -/
theorem Overlay.overrides_standIn :
    (Overlay.standIn id name version platformVersion fallback).overrides =
      ⟨[(.name, name), (.id, id), (.version, version), (.appBuildId, .ofText standInBuild),
        (.platformVersion, platformVersion), (.platformBuildId, .ofText standInBuild),
        (.inSafeMode, .bool false), (.logConsoleErrors, .bool true), (.os, .ofText standInOs),
        (.abi, .ofText standInAbi)]⟩ := rfl

/-- A stand-in overrides every field but the vendor. -/
theorem Overlay.get?_standIn (f : Field) :
    (Overlay.standIn id name version platformVersion fallback).overrides.get? f =
      match f with
      | .vendor => none
      | .name => some name
      | .id => some id
      | .version => some version
      | .platformVersion => some platformVersion
      | .appBuildId | .platformBuildId => some (.ofText standInBuild)
      | .inSafeMode => some (.bool false)
      | .logConsoleErrors => some (.bool true)
      | .os => some (.ofText standInOs)
      | .abi => some (.ofText standInAbi) := by
  rw [overrides_standIn]
  cases f <;> rfl

end

/-! ## Installers -/

/-- An installer over a registry, with texts for the ids that it was made with. -/
structure Installer.Over (installer : Installer) (r : Ref .registry) : Prop where
  registry : installer.registry = .ofRef r
  classId : ∃ s, installer.classId.text? = some s
  contractId : ∃ s, installer.contractId.text? = some s

namespace World

/-- The component that will be made next. -/
def nextComponent (w : World) : Ref .component := ⟨w.components.size⟩

/-- The provider that will be made next. -/
def nextProvider (w : World) : Ref .provider := ⟨w.providers.size⟩

/-- The state with one more overlay, and with a provider of it. -/
def withStandIn (w : World) (layer : Overlay) : World :=
  { w with
    components := w.components.push (.overlay layer)
    providers := w.providers.push (.overlay (.ofRef w.nextComponent)) }

@[simp] theorem row_withRow_installer_registry (w : World) (i : Ref .installer)
    (installer : Installer) (r : Ref .registry) : (w.withRow i installer).row r = w.row r := rfl

@[simp] theorem row_withStandIn_registry (w : World) (layer : Overlay) (r : Ref .registry) :
    (w.withStandIn layer).row r = w.row r := rfl

theorem row_withStandIn_nextComponent (w : World) (layer : Overlay) :
    (w.withStandIn layer).row w.nextComponent = Component.overlay layer := by
  show (w.components.push (.overlay layer)).get w.components.size = _
  rw [Table.get_push, if_pos rfl]

theorem row_withStandIn_nextProvider (w : World) (layer : Overlay) :
    (w.withStandIn layer).row w.nextProvider = Provider.overlay (.ofRef w.nextComponent) := by
  show (w.providers.push (.overlay (.ofRef w.nextComponent))).get w.providers.size = _
  rw [Table.get_push, if_pos rfl]

end World

/-- The entry that a stand-in is registered with. -/
def Installer.entryFor (installer : Installer) (serial : Nat) (provider : Ref .provider) : Entry :=
  ⟨serial, installer.classId, .ofText standInDescription, installer.contractId, .ofRef provider⟩

/-- The state with one more overlay in place, which is the current one of an installer. -/
def World.installed (w : World) (r : Ref .registry) (i : Ref .installer) (layer : Overlay) :
    World :=
  ((w.withStandIn layer).withRow r ((w.row r : Registry).register
    ((w.row i : Installer).entryFor w.nextSerial w.nextProvider))).withRow i
      { (w.row i : Installer) with current := .ofRef w.nextComponent }

theorem World.row_installed_registry (w : World) (r : Ref .registry) (i : Ref .installer)
    (layer : Overlay) :
    (w.installed r i layer).row r =
      (w.row r : Registry).register
        ((w.row i : Installer).entryFor w.nextSerial w.nextProvider) := by
  show ((w.withStandIn layer).withRow r _).row r = _
  rw [World.row_withRow_self]

theorem World.row_installed_nextComponent (w : World) (r : Ref .registry) (i : Ref .installer)
    (layer : Overlay) :
    (w.installed r i layer).row w.nextComponent = Component.overlay layer :=
  w.row_withStandIn_nextComponent layer

/-- Tells that a stand-in was installed, and gives it back. -/
def tellInstalled (id version platformVersion : Value) (identity : Ref .component) :
    Action Value := do
  debug identityLogger
    ("Installed test identity " ++ (← shown id) ++ " " ++ (← shown version) ++ " (platform " ++
      (← shown platformVersion) ++ ")")
  return .ofRef identity

theorem quiet_tellInstalled (id version platformVersion : Value) (identity : Ref .component) :
    Quiet (tellInstalled id version platformVersion identity) :=
  (Quiet.shown id).bind fun _ => (Quiet.shown version).bind fun _ =>
    (Quiet.shown platformVersion).bind fun _ => (Quiet.emit _ _ _ _).bind fun _ => Quiet.pure _

theorem outcome_tellInstalled {w : World} {id version platformVersion v : Value}
    {identity : Ref .component}
    (h : w.outcome (tellInstalled id version platformVersion identity) = .ok v) :
    v = .ofRef identity := by
  obtain ⟨_, _, h⟩ := World.outcome_bind_eq_ok.1 h
  obtain ⟨_, _, h⟩ := World.outcome_bind_eq_ok.1 h
  obtain ⟨_, _, h⟩ := World.outcome_bind_eq_ok.1 h
  obtain ⟨_, _, h⟩ := World.outcome_bind_eq_ok.1 h
  exact (Except.ok.inj h).symm

/-- Texts can always be told. -/
theorem outcome_tellInstalled_of_text? (w : World) {id version platformVersion : Value}
    {s t u : String} (hid : id.text? = some s) (hversion : version.text? = some t)
    (hplatform : platformVersion.text? = some u) (identity : Ref .component) :
    w.outcome (tellInstalled id version platformVersion identity) = .ok (.ofRef identity) := by
  obtain ⟨_, hid⟩ := World.display_of_text? hid
  obtain ⟨_, hversion⟩ := World.display_of_text? hversion
  obtain ⟨_, hplatform⟩ := World.display_of_text? hplatform
  simp [World.outcome, tellInstalled, hid, hversion, hplatform, debug]

/-- All that an install can do. If there is a capture, a stand-in is made over it. It is
put in place unless it is refused for a blank id. -/
inductive InstallStep (call : Caller) (r : Ref .registry) (i : Ref .installer)
    (id name version platformVersion : Value) (w w' : World) (outcome : Except Fault Value) : Prop
  | unserved
      (uncaptured : CaptureFailure call r (w.row i : Installer).contractId (.capability .runtime)
        w w')
      (failed : ∃ fault, outcome = .error fault)
  | refused {capture : Capture} {w₁ : World}
      (captured : CaptureStep call r (w.row i : Installer).contractId (.capability .runtime)
        w w₁ capture)
      (blank : ¬((w.row i : Installer).classId.Telling ∧ (w.row i : Installer).contractId.Telling))
      (made : w' = w₁.withStandIn (.standIn id name version platformVersion capture.service))
      (failed : ∃ fault, outcome = .error fault)
  | installed {capture : Capture} {w₁ : World}
      (captured : CaptureStep call r (w.row i : Installer).contractId (.capability .runtime)
        w w₁ capture)
      (classId : (w.row i : Installer).classId.Telling)
      (contractId : (w.row i : Installer).contractId.Telling)
      (placed : (w₁.installed r i
        (.standIn id name version platformVersion capture.service)).Alike w')
      (returned : ∃ told : World,
        outcome = told.outcome (tellInstalled id version platformVersion w₁.nextComponent))

/-- All that a restore can do, which never fails. -/
inductive RestoreStep (r : Ref .registry) (i : Ref .installer) (w w' : World) : Prop
  | nothing
      (uncaptured : (w.row r : Registry).captureOf? (w.row i : Installer).contractId = none)
      (same : w' = w)
  | restored {serial : Nat} {e : Entry} {c : Ref .component}
      (captured : (w.row r : Registry).captureOf? (w.row i : Installer).contractId =
        some (Capture.toValue ⟨serial, e.toValue, .ofRef c⟩))
      (replaced : ((w.withRow r ((w.row r : Registry).register
        { e with serial := w.nextSerial })).withRow i
          { (w.row i : Installer) with current := .none }).Alike w')

/-- Registers a stand-in that was made, under the contract of an installer. -/
def putInPlace (call : Caller) (i : Ref .installer) (id version platformVersion : Value)
    (identity : Ref .component) (provider : Ref .provider) : Action Value := do
  let installer ← fetch i
  askToRegister call installer.registry installer.classId (.ofText standInDescription)
    installer.contractId (.ofRef provider)
  update i fun installer => { installer with current := .ofRef identity }
  tellInstalled id version platformVersion identity

/-- Makes a stand-in over a fallback, and puts it in place. -/
def standInOver (call : Caller) (i : Ref .installer)
    (id name version platformVersion fallback : Value) : Action Value := do
  let identity ← buildStandIn id name version platformVersion fallback
  let provider ← store .provider (.overlay (.ofRef identity))
  putInPlace call i id version platformVersion identity provider

theorem run_standInOver (w : World) (call : Caller) (i : Ref .installer)
    (id name version platformVersion fallback : Value) :
    w.run (standInOver call i id name version platformVersion fallback) =
      (w.withStandIn (.standIn id name version platformVersion fallback)).run
        (putInPlace call i id version platformVersion w.nextComponent w.nextProvider) := by
  simp only [standInOver, buildStandIn, World.run_bind, World.run_store]
  rfl

/-- Installing is capturing, and making a stand-in over what was captured. -/
theorem install_eq (call : Caller) (i : Ref .installer) (id name version platformVersion : Value) :
    install call i id name version platformVersion = (do
      enter i.object
      let fallback ← request call (.ofRef i) .captureOriginal [] (captureOriginal call)
      standInOver call i id name version platformVersion fallback) := rfl

namespace World.Intact

variable {w : World} (hw : w.Intact) (call : Caller) (i : Ref .installer) {r : Ref .registry}
include hw

/-- The fallback of an installer is what its contract was captured with. -/
theorem captureOriginal_cases (hi : (w.row i : Installer).Over r)
    (hs : (w.row r : Registry).Sound) :
    ((∃ fault, w.outcome (captureOriginal call i) = .error fault) ∧
        CaptureFailure call r (w.row i : Installer).contractId (.capability .runtime) w
          (w.after (captureOriginal call i))) ∨
      ∃ capture : Capture,
        w.outcome (captureOriginal call i) = .ok capture.service ∧
        CaptureStep call r (w.row i : Installer).contractId (.capability .runtime) w
          (w.after (captureOriginal call i)) capture := by
  let contractId : Value := (w.row i : Installer).contractId
  have hrun : w.run (captureOriginal call i) =
      w.run (captureOnce call r contractId (.capability .runtime) >>= fun capture =>
        unpackPair capture >>= fun pair => pure pair.2) := by
    simp only [captureOriginal, run_bind, run_fetch, hi.registry,
      hw.run_request call r (m := .captureOnce) _ _ rfl]
    rfl
  rcases hw.captureOnce_cases call r hs contractId (.capability .runtime) with
    ⟨⟨fault, herror⟩, hfailure⟩ | ⟨capture, hok, hstep⟩
  · left
    rw [run_bind_of_error herror] at hrun
    exact ⟨⟨fault, outcome_of_run hrun⟩, (after_of_run hrun).symm ▸ hfailure⟩
  · right
    have hunpack (w : World) :
        w.run (unpackPair capture.toValue) = (.ok (capture.entry, capture.service), w) := rfl
    simp only [run_bind, run_eq w (captureOnce _ _ _ _), hok, hunpack, run_pure] at hrun
    exact ⟨capture, outcome_of_run hrun, (after_of_run hrun).symm ▸ hstep⟩

/-! ## Putting a stand-in in place -/

/-- What an installer registers for a stand-in. -/
theorem run_askToRegister (hs : (w.row r : Registry).Sound)
    {classId description contractId provider : Value}
    (hp : Entry.Proper ⟨w.nextSerial, classId, description, contractId, provider⟩) :
    w.outcome (askToRegister call (.ofRef r) classId description contractId provider) = .ok () ∧
      (w.withRow r ((w.row r : Registry).register
        ⟨w.nextSerial, classId, description, contractId, provider⟩)).Alike
        (w.after (askToRegister call (.ofRef r) classId description contractId provider)) := by
  obtain ⟨hok, hlike⟩ := hw.run_register call r hs hp
  have hrun : w.run (askToRegister call (.ofRef r) classId description contractId provider) =
      (.ok (), w.after (register call r classId description contractId provider)) := by
    simp only [askToRegister, run_bind, hw.run_request call r (m := .registerFactory) _ _ rfl,
      run_eq w (register _ _ _ _ _ _), hok, run_pure]
  exact ⟨outcome_of_run hrun, (after_of_run hrun).symm ▸ hlike⟩

/-- What is registered under a blank id is refused. -/
theorem run_putInPlace_blank (hi : (w.row i : Installer).Over r)
    (hb : ¬((w.row i : Installer).classId.Telling ∧ (w.row i : Installer).contractId.Telling))
    (id version platformVersion : Value) (identity : Ref .component) (provider : Ref .provider) :
    ∃ fault, w.run (putInPlace call i id version platformVersion identity provider) =
      (.error fault, w) := by
  obtain ⟨s, hclass⟩ := hi.classId
  obtain ⟨t, hcontract⟩ := hi.contractId
  have hblank : Text.isBlankText s = true ∨ Text.isBlankText t = true := by
    cases hs : Text.isBlankText s with
    | true => exact .inl rfl
    | false =>
      cases ht : Text.isBlankText t with
      | true => exact .inr rfl
      | false => exact absurd ⟨⟨s, hclass, hs⟩, ⟨t, hcontract, ht⟩⟩ hb
  have hrefused := run_register_blank (w := w) call r hclass hcontract hblank
    (.ofText standInDescription) (.ofRef provider)
  refine ⟨if Text.isBlankText t then .blankContract else .blankClass, ?_⟩
  simp only [putInPlace, askToRegister, run_bind, run_fetch, hi.registry,
    hw.run_request call r (m := .registerFactory) _ _ rfl, hrefused]

/-- What an installer puts in place is registered as a proper entry, and is its current
stand-in. -/
theorem run_putInPlace (hi : (w.row i : Installer).Over r) (hs : (w.row r : Registry).Sound)
    (hc : (w.row i : Installer).classId.Telling) (hk : (w.row i : Installer).contractId.Telling)
    (id version platformVersion : Value) (identity : Ref .component) (provider : Ref .provider) :
    ∃ w₁ : World,
      w.run (putInPlace call i id version platformVersion identity provider) =
        w₁.run (tellInstalled id version platformVersion identity) ∧
      ((w.withRow r ((w.row r : Registry).register
        ((w.row i : Installer).entryFor w.nextSerial provider))).withRow i
          { (w.row i : Installer) with current := .ofRef identity }).Alike w₁ := by
  have hp : ((w.row i : Installer).entryFor w.nextSerial provider).Proper :=
    ⟨hc, hk, ⟨_, rfl⟩, ⟨provider, rfl⟩⟩
  obtain ⟨hok, log, serial, hafter⟩ := hw.run_askToRegister call hs hp
  have hregister : w.run (askToRegister call (w.row i : Installer).registry
      (w.row i : Installer).classId (.ofText standInDescription) (w.row i : Installer).contractId
      (.ofRef provider)) = (.ok (), (w.withRow r ((w.row r : Registry).register
        ((w.row i : Installer).entryFor w.nextSerial provider))).retold log serial) := by
    rw [hi.registry]
    exact Prod.ext hok hafter
  refine ⟨_, ?_, log, serial, rfl⟩
  simp only [putInPlace, run_bind, run_fetch, hregister, run_update]
  rfl

/-- A stand-in is made in any case, and is put in place unless an id is blank. -/
theorem standInOver_cases (hi : (w.row i : Installer).Over r) (hs : (w.row r : Registry).Sound)
    (id name version platformVersion fallback : Value) :
    (¬((w.row i : Installer).classId.Telling ∧ (w.row i : Installer).contractId.Telling) ∧
        ∃ fault, w.run (standInOver call i id name version platformVersion fallback) =
          (.error fault, w.withStandIn (.standIn id name version platformVersion fallback))) ∨
      ((w.row i : Installer).classId.Telling ∧ (w.row i : Installer).contractId.Telling) ∧
        ∃ w₁ : World, w.run (standInOver call i id name version platformVersion fallback) =
            w₁.run (tellInstalled id version platformVersion w.nextComponent) ∧
          (w.installed r i (.standIn id name version platformVersion fallback)).Alike w₁ := by
  have hrun := run_standInOver w call i id name version platformVersion fallback
  revert hrun
  generalize Overlay.standIn id name version platformVersion fallback = layer
  intro hrun
  have hw₁ : (w.withStandIn layer).Intact := hw.congr rfl
  by_cases ht : (w.row i : Installer).classId.Telling ∧ (w.row i : Installer).contractId.Telling
  · obtain ⟨w₁, hplace, hlike⟩ := hw₁.run_putInPlace call i hi hs ht.1 ht.2 id version
      platformVersion w.nextComponent w.nextProvider
    exact .inr ⟨ht, w₁, hrun.trans hplace, hlike⟩
  · obtain ⟨fault, hrefused⟩ := hw₁.run_putInPlace_blank call i hi ht id version platformVersion
      w.nextComponent w.nextProvider
    exact .inl ⟨ht, fault, hrun.trans hrefused⟩

/-! ## The two requests -/

theorem run_install (id name version platformVersion : Value) :
    w.run (install call i id name version platformVersion) =
      w.run (captureOriginal call i >>= fun fallback =>
        standInOver call i id name version platformVersion fallback) := by
  rw [install_eq]
  simp only [run_bind, hw.run_enter, hw.run_request call i (m := .captureOriginal) _ _ rfl]

/-- Installing is one of the steps of installing. -/
theorem install_cases (hi : (w.row i : Installer).Over r) (hs : (w.row r : Registry).Sound)
    (id name version platformVersion : Value) :
    InstallStep call r i id name version platformVersion w
      (w.after (install call i id name version platformVersion))
      (w.outcome (install call i id name version platformVersion)) := by
  have hrun := hw.run_install call i id name version platformVersion
  rcases hw.captureOriginal_cases call i hi hs with ⟨⟨fault, hfault⟩, hfailure⟩ |
      ⟨capture, hok, hstep⟩
  · have hrun := hrun.trans (run_bind_of_error hfault)
    rw [outcome_of_run hrun, after_of_run hrun]
    exact .unserved hfailure ⟨fault, rfl⟩
  · rw [run_bind, run_eq w (captureOriginal call i), hok] at hrun
    revert hrun hstep
    generalize w.after (captureOriginal call i) = w₁
    intro hrun hstep
    have hrow : w₁.row i = (w.row i : Installer) := hstep.row_installer i
    rcases (hstep.intact hw).standInOver_cases call i (hrow ▸ hi) (hstep.sound hs) id name version
        platformVersion capture.service with ⟨ht, fault, hrefused⟩ | ⟨ht, w₂, hplaced, hlike⟩
    · have hrun := hrun.trans hrefused
      exact .refused hstep (hrow ▸ ht) (after_of_run hrun) ⟨fault, outcome_of_run hrun⟩
    · have hrun := hrun.trans hplaced
      have hquiet := quiet_tellInstalled id version platformVersion w₁.nextComponent w₂
      have htold := hrun.trans (run_eq w₂ _)
      refine .installed hstep (hrow ▸ ht.1) (hrow ▸ ht.2) ?_ ⟨w₂, outcome_of_run htold⟩
      rw [after_of_run htold]
      exact hlike.trans hquiet

/-- With texts to tell, and ids that are not blank, an install returns the stand-in that it put
in place, unless nothing can be captured. -/
theorem install_of_texts (hi : (w.row i : Installer).Over r) (hs : (w.row r : Registry).Sound)
    (hc : (w.row i : Installer).classId.Telling) (hk : (w.row i : Installer).contractId.Telling)
    {id version platformVersion : Value} (hid : ∃ s, id.text? = some s)
    (hversion : ∃ s, version.text? = some s) (hplatform : ∃ s, platformVersion.text? = some s)
    (name : Value) :
    ((∃ fault, w.outcome (install call i id name version platformVersion) = .error fault) ∧
        CaptureFailure call r (w.row i : Installer).contractId (.capability .runtime) w
          (w.after (install call i id name version platformVersion))) ∨
      ∃ (capture : Capture) (w₁ : World),
        CaptureStep call r (w.row i : Installer).contractId (.capability .runtime) w w₁ capture ∧
        w.outcome (install call i id name version platformVersion) =
          .ok (.ofRef w₁.nextComponent) ∧
        (w₁.installed r i (.standIn id name version platformVersion capture.service)).Alike
          (w.after (install call i id name version platformVersion)) := by
  obtain ⟨_, hid⟩ := hid
  obtain ⟨_, hversion⟩ := hversion
  obtain ⟨_, hplatform⟩ := hplatform
  cases hw.install_cases call i hi hs id name version platformVersion with
  | unserved uncaptured failed => exact .inl ⟨failed, uncaptured⟩
  | refused _ blank _ _ => exact absurd ⟨hc, hk⟩ blank
  | @installed capture w₁ captured _ _ placed returned =>
    obtain ⟨told, houtcome⟩ := returned
    have htold := outcome_tellInstalled_of_text? told hid hversion hplatform w₁.nextComponent
    exact .inr ⟨capture, w₁, captured, houtcome.trans htold, placed⟩

/-- With a capture at hand, an install does no more than make its stand-in over it, and put
it in place unless an id is blank. -/
theorem install_of_captured (hi : (w.row i : Installer).Over r) (hs : (w.row r : Registry).Sound)
    {capture : Capture} (hf : (w.row r : Registry).captureOf? (w.row i : Installer).contractId =
      some capture.toValue) (id name version platformVersion : Value) :
    (¬((w.row i : Installer).classId.Telling ∧ (w.row i : Installer).contractId.Telling) ∧
        w.after (install call i id name version platformVersion) =
          w.withStandIn (.standIn id name version platformVersion capture.service)) ∨
      ((w.row i : Installer).classId.Telling ∧ (w.row i : Installer).contractId.Telling) ∧
        (w.installed r i (.standIn id name version platformVersion capture.service)).Alike
          (w.after (install call i id name version platformVersion)) := by
  cases hw.install_cases call i hi hs id name version platformVersion with
  | unserved uncaptured _ =>
    rw [uncaptured.uncaptured] at hf
    cases hf
  | refused captured blank made _ =>
    obtain ⟨rfl, rfl⟩ := captured.eq_of_captured hf
    exact .inl ⟨blank, made⟩
  | installed captured classId contractId placed _ =>
    obtain ⟨rfl, rfl⟩ := captured.eq_of_captured hf
    exact .inr ⟨⟨classId, contractId⟩, placed⟩

/-- Where the contract of an install can be captured, the install leaves it captured, however
it ends. -/
theorem captured_of_install (hi : (w.row i : Installer).Over r) (hs : (w.row r : Registry).Sound)
    {w₁ : World} {capture : Capture}
    (hcapture : CaptureStep call r (w.row i : Installer).contractId (.capability .runtime) w w₁
      capture) (id name version platformVersion : Value) :
    ∃ stored : Capture,
      ((w.after (install call i id name version platformVersion)).row r : Registry).captureOf?
        (w.row i : Installer).contractId = some stored.toValue := by
  cases hw.install_cases call i hi hs id name version platformVersion with
  | unserved uncaptured _ => exact absurd uncaptured hcapture.not_captureFailure
  | @refused stored w₂ captured _ made _ =>
    refine ⟨stored, ?_⟩
    rw [made, row_withStandIn_registry]
    exact captured.captured hs
  | @installed stored w₂ captured _ _ placed _ =>
    refine ⟨stored, ?_⟩
    rw [placed.row_registry, row_installed_registry, Registry.captureOf?_register]
    exact captured.captured hs

/-- What an install returns is an overlay over the captured service. -/
theorem fallback_of_install (hi : (w.row i : Installer).Over r) (hs : (w.row r : Registry).Sound)
    {id name version platformVersion v : Value}
    (hv : w.outcome (install call i id name version platformVersion) = .ok v) :
    ∃ (c : Ref .component) (layer : Overlay) (capture : Capture), v = .ofRef c ∧
      (w.after (install call i id name version platformVersion)).row c = Component.overlay layer ∧
      layer.fallback = capture.service ∧
      ((w.after (install call i id name version platformVersion)).row r : Registry).captureOf?
          (w.row i : Installer).contractId = some capture.toValue := by
  cases hw.install_cases call i hi hs id name version platformVersion with
  | unserved _ failed =>
    obtain ⟨fault, hfault⟩ := failed
    rw [hv] at hfault
    cases hfault
  | refused _ _ _ failed =>
    obtain ⟨fault, hfault⟩ := failed
    rw [hv] at hfault
    cases hfault
  | @installed capture w₁ captured _ _ placed returned =>
    obtain ⟨told, houtcome⟩ := returned
    have hreturned : v = .ofRef w₁.nextComponent := outcome_tellInstalled (houtcome ▸ hv)
    refine ⟨w₁.nextComponent, .standIn id name version platformVersion capture.service, capture,
      hreturned, ?_, rfl, ?_⟩
    · rw [placed.row_component, row_installed_nextComponent]
    · rw [placed.row_registry, row_installed_registry, Registry.captureOf?_register]
      exact captured.captured hs

/-- Where nothing was captured there is nothing to restore. -/
theorem run_restore_of_uncaptured (hi : (w.row i : Installer).Over r)
    (h : (w.row r : Registry).captureOf? (w.row i : Installer).contractId = none) :
    w.run (restore call i) = (.ok (), w) := by
  obtain ⟨s, hs⟩ := hi.contractId
  have hcaptured := hw.run_captured call r (Value.unhashable?_of_text? hs)
  simp only [restore, run_bind, hw.run_enter, run_fetch, hi.registry,
    hw.run_request call r (m := .captured) _ _ rfl, hcaptured, h, Option.getD_none, Value.isNone,
    Bool.not_true, if_neg Bool.false_ne_true, run_pure]

/-- What was captured is registered again, and no stand-in is current any more. -/
theorem run_restore_of_captured (hi : (w.row i : Installer).Over r)
    (hs : (w.row r : Registry).Sound) {serial : Nat} {e : Entry} {c : Ref .component}
    (hp : e.Proper) (h : (w.row r : Registry).captureOf? (w.row i : Installer).contractId =
      some (Capture.toValue ⟨serial, e.toValue, .ofRef c⟩)) :
    ∃ log next, w.run (restore call i) =
      (.ok (), ((w.withRow r ((w.row r : Registry).register
        { e with serial := w.nextSerial })).withRow i
          { (w.row i : Installer) with current := .none }).retold log next) := by
  have hfirst : w.run (subscript (Capture.toValue ⟨serial, e.toValue, .ofRef c⟩) (.ofInt 0)) =
      (.ok e.toValue, w) := rfl
  have hread (name : String) {v : Value} (h : (RecordKind.entry.labels.zip
      [e.classId, e.description, e.contractId, e.provider]).lookup name = some v)
      (hn : name ≠ "__class__") : w.run (readAttribute call e.toValue name) = (.ok v, w) :=
    run_readAttribute_entry call w e h hn
  obtain ⟨hok, log, next, hafter⟩ := hw.run_askToRegister call hs (hp.anew w.nextSerial)
  have hregister : w.run (askToRegister call (w.row i : Installer).registry e.classId
      e.description e.contractId e.provider) = (.ok (), (w.withRow r
        ((w.row r : Registry).register { e with serial := w.nextSerial })).retold log next) := by
    rw [hi.registry]
    exact Prod.ext hok hafter
  have hsome : (Capture.toValue ⟨serial, e.toValue, .ofRef c⟩).isNone = false := rfl
  have hask : w.run (request call (w.row i : Installer).registry .captured
      [(w.row i : Installer).contractId] fun r => captured call r
        (w.row i : Installer).contractId) =
      (.ok (Capture.toValue ⟨serial, e.toValue, .ofRef c⟩), w) := by
    rw [hi.registry, hw.run_request call r (m := .captured) _ _ rfl,
      hw.run_captured call r (hs.unhashable?_of_captureOf? h), h]
    rfl
  refine ⟨log, next, ?_⟩
  simp only [restore, run_bind, hw.run_enter, run_fetch, hask, hsome, Bool.not_false, if_true,
    hfirst, hread "class_id" rfl (by decide), hread "description" rfl (by decide),
    hread "contract_id" rfl (by decide), hread "factory" rfl (by decide), hregister, run_update]
  rfl

/-- Restoring is one of the steps of restoring, and does not fail. -/
theorem restore_cases (hi : (w.row i : Installer).Over r) (hs : (w.row r : Registry).Sound) :
    w.outcome (restore call i) = .ok () ∧ RestoreStep r i w (w.after (restore call i)) := by
  cases hfound : (w.row r : Registry).captureOf? (w.row i : Installer).contractId with
  | none =>
    have hrun := hw.run_restore_of_uncaptured call i hi hfound
    exact ⟨outcome_of_run hrun, .nothing hfound (after_of_run hrun)⟩
  | some found =>
    obtain ⟨serial, e, c, rfl, hp, _⟩ := hs.captures _ _ hfound
    obtain ⟨log, next, hrun⟩ := hw.run_restore_of_captured call i hi hs hp hfound
    exact ⟨outcome_of_run hrun, .restored hfound ⟨log, next, after_of_run hrun⟩⟩

/-- An installer answers with the captured service of its contract, if there is one. -/
theorem run_readAttribute_original (hi : (w.row i : Installer).registry = .ofRef r)
    (hk : (w.row i : Installer).contractId.unhashable? = none) :
    let found := ((w.row r : Registry).captureOf? (w.row i : Installer).contractId).getD .none
    w.run (readAttribute call (.ofRef i) "original") =
      w.run (if found.isNone then pure .none else subscript found (.ofInt 1)) := by
  intro found
  have hlook : w.look (.ofRef i) "original" = .ok (.captured i) := rfl
  have htaker : w.taker? .registry (.ofRef r) .captured = some r := hw.taker? r rfl
  have hfound : ((w.pairs (.captures r)).get? (w.row i : Installer).contractId).getD .none =
    found := rfl
  show w.run (readWithin call (999 + 1) (.ofRef i) "original") = _
  rw [readWithin, World.run_bind, World.run_get]
  simp only [hlook, World.run_bind, World.run_orFail, World.run_fetch, hi, World.run_get, htaker,
    hw.run_enterCaptures, getFrom, World.run_needKey, hk, hfound, World.run_pure]

end World.Intact

end Understudy

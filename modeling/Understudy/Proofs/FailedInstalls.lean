import Understudy.Proofs.CaptureOnce

/-!
# Installs that fail

An install captures, makes its stand-in, registers it, and takes it for its current one, in this
order. It can fail at three places. Without a service that can be captured it fails at once, and
nothing is left of it. With a blank id it fails when it registers, after it has captured: then
nothing is left of it but the capture, and that only if it was the first one of its contract. And
if what it was asked for cannot be told it fails at the very end, with everything in place.

So a contract is captured, where nobody captures directly, by the first install that found a
service to stand over, whether that install succeeded or not. As long as there was none, there is
no original, and restoring does nothing. With ids that are not blank and arguments that are texts
the installs that found a service are the ones that succeeded.

## Main definitions

* `FailedInstall`: all that a failed install can leave.
* `Event.Grounded`: an install that found a service to stand over.
* `FailsCleanly`: what failed installs leave over the life of a registry.

## Main statements

* `Sane.failedInstall`: a failed install leaves nothing, or what it captured, or all of it.
* `History.captured_iff`: a contract is captured if an install found a service for it.
* `History.failsCleanly`: both of them over every history of a registry.
-/

namespace Understudy

/-- All that a failed install can leave. -/
inductive FailedInstall (call : Caller) (r : Ref .registry) (i : Ref .installer)
    (id version platformVersion : Value) (w w' : World) : Prop
  /-- Nothing at all. -/
  | traceless (registry : w'.row r = (w.row r : Registry))
      (installer : w'.row i = (w.row i : Installer))
  /-- Under a blank id the first capture of the contract, and nothing else. -/
  | captured {capture : Capture}
      (blank : ¬((w.row i : Installer).classId.Telling ∧ (w.row i : Installer).contractId.Telling))
      (uncaptured : (w.row r : Registry).captureOf? (w.row i : Installer).contractId = none)
      (first : FirstCapture call r (w.row i : Installer).contractId (.capability .runtime) w
        capture.toValue)
      (registry : w'.row r =
        (w.row r : Registry).capture (w.row i : Installer).contractId capture)
      (installer : w'.row i = (w.row i : Installer))
  /-- All of it, if it cannot be told what was installed. -/
  | untold {capture : Capture} {w₁ : World} {name : Value}
      (untellable : ¬((∃ s, id.text? = some s) ∧ (∃ s, version.text? = some s) ∧
        ∃ s, platformVersion.text? = some s))
      (classId : (w.row i : Installer).classId.Telling)
      (contractId : (w.row i : Installer).contractId.Telling)
      (captured : CaptureStep call r (w.row i : Installer).contractId (.capability .runtime)
        w w₁ capture)
      (placed : (w₁.installed r i
        (.standIn id name version platformVersion capture.service)).Alike w')

/-- A failed install leaves nothing, or what it captured, or all of it. -/
theorem Sane.failedInstall {r : Ref .registry} {w : World} (h : Sane r w) (call : Caller)
    {i : Ref .installer} (hi : (w.row i : Installer).Over r)
    {id name version platformVersion : Value} {fault : Fault}
    (hfails : w.outcome (install call i id name version platformVersion) = .error fault) :
    FailedInstall call r i id version platformVersion w
      (w.after (install call i id name version platformVersion)) := by
  cases h.intact.install_cases call i hi h.sound id name version platformVersion with
  | unserved uncaptured _ =>
    exact .traceless (uncaptured.served.row_registry r) (uncaptured.served.row_installer i)
  | @refused capture w₁ captured blank made _ =>
    have hinstaller : (w.after (install call i id name version platformVersion)).row i =
        (w.row i : Installer) := by
      rw [made]
      exact captured.row_installer i
    cases captured with
    | known _ same => exact .traceless (by rw [made, same]; rfl) hinstaller
    | @first serial e c _ uncaptured entry handed _ remembered =>
      refine .captured blank uncaptured ⟨serial, e, c, rfl, entry, handed⟩ ?_ hinstaller
      rw [made, World.row_withStandIn_registry, remembered.row_registry, World.row_withRow_self]
  | @installed capture w₁ captured classId contractId placed returned =>
    refine .untold ?_ classId contractId captured placed
    rintro ⟨⟨_, hid⟩, ⟨_, hversion⟩, ⟨_, hplatform⟩⟩
    obtain ⟨told, houtcome⟩ := returned
    rw [houtcome, outcome_tellInstalled_of_text? told hid hversion hplatform] at hfails
    cases hfails

/-! ## Installs that find a service -/

namespace Event

variable (call : Caller) (r : Ref .registry)

/-- An install under a contract. -/
def Installs (contract : Value) (e : Event) : Prop :=
  ∃ i id name version platformVersion,
    e.dealing = .install i id name version platformVersion ∧
      ((e.before.row i : Installer).contractId == contract) = true

/-- An install under a contract that found a service to stand over, however it ended. -/
def Grounded (contract : Value) (e : Event) : Prop :=
  ∃ i id name version platformVersion,
    e.dealing = .install i id name version platformVersion ∧
      ((e.before.row i : Installer).contractId == contract) = true ∧
        ∃ service, e.before.outcome (captureOriginal call i) = .ok service

/-- An install by ids that are not blank, and with texts to tell. -/
def Proper (e : Event) : Prop :=
  ∀ i id name version platformVersion,
    e.dealing = .install i id name version platformVersion →
      ((e.before.row i : Installer).classId.Telling ∧
          (e.before.row i : Installer).contractId.Telling) ∧
        (∃ s, id.text? = some s) ∧ (∃ s, version.text? = some s) ∧
          ∃ s, platformVersion.text? = some s

end Event

namespace Sane

variable {r : Ref .registry} {w : World} (h : Sane r w) (call : Caller) {i : Ref .installer}
  (hi : (w.row i : Installer).Over r)
include h hi

/-- An install finds a service if there is something to be captured. -/
theorem captureOriginal_of_firstCapture {found : Value}
    (hf : FirstCapture call r (w.row i : Installer).contractId (.capability .runtime) w found) :
    ∃ service, w.outcome (captureOriginal call i) = .ok service := by
  rcases h.intact.captureOriginal_cases call i hi h.sound with ⟨_, hfailure⟩ | ⟨capture, hok, _⟩
  · exact absurd hfailure hf.not_captureFailure
  · exact ⟨_, hok⟩

/-- What an install finds is captured on the way. -/
theorem captureStep_of_captureOriginal {service : Value}
    (hservice : w.outcome (captureOriginal call i) = .ok service) :
    ∃ capture : Capture, CaptureStep call r (w.row i : Installer).contractId (.capability .runtime)
      w (w.after (captureOriginal call i)) capture := by
  rcases h.intact.captureOriginal_cases call i hi h.sound with ⟨⟨fault, hfault⟩, _⟩ |
      ⟨capture, _, hstep⟩
  · rw [hservice] at hfault
    cases hfault
  · exact ⟨capture, hstep⟩

/-- With a service found the contract of an install is captured afterwards, and the install
succeeds unless an id is blank or it cannot be told what was installed. -/
theorem install_of_captureOriginal {service : Value}
    (hservice : w.outcome (captureOriginal call i) = .ok service)
    (id name version platformVersion : Value) :
    (∃ capture : Capture,
        ((w.after (install call i id name version platformVersion)).row r : Registry).captureOf?
          (w.row i : Installer).contractId = some capture.toValue) ∧
      ((w.row i : Installer).classId.Telling ∧ (w.row i : Installer).contractId.Telling →
        (∃ s, id.text? = some s) → (∃ s, version.text? = some s) →
          (∃ s, platformVersion.text? = some s) →
            ∃ v, w.outcome (install call i id name version platformVersion) = .ok v) := by
  obtain ⟨_, hcapture⟩ := h.captureStep_of_captureOriginal call hi hservice
  refine ⟨h.intact.captured_of_install call i hi h.sound hcapture id name version platformVersion,
    ?_⟩
  rintro htelling ⟨_, hid⟩ ⟨_, hversion⟩ ⟨_, hplatform⟩
  cases h.intact.install_cases call i hi h.sound id name version platformVersion with
  | unserved uncaptured _ => exact absurd uncaptured hcapture.not_captureFailure
  | refused _ blank _ _ => exact absurd htelling blank
  | installed _ _ _ _ returned =>
    obtain ⟨told, houtcome⟩ := returned
    exact ⟨_, houtcome.trans (outcome_tellInstalled_of_text? told hid hversion hplatform _)⟩

end Sane

/-! ## Histories without direct captures -/

/-- Nothing was captured before, and nobody captures directly. -/
structure CapturesByInstalls (r : Ref .registry) (w₀ : World) (es : List Event) : Prop where
  uncaptured (contract : Value) : (w₀.row r : Registry).captureOf? contract = none
  indirect (e : Event) (he : e ∈ es) (contractId capability : Value) :
    e.dealing ≠ .capture contractId capability

namespace History

variable {call : Caller} {r : Ref .registry} {w₀ w : World} {es : List Event}

/-- Where nobody captures directly, a contract is captured if an install has found a service for
it, and only then. -/
theorem captured_iff (h : History call r w₀ es w) (h₀ : Sane r w₀)
    (hby : CapturesByInstalls r w₀ es) (contract : Value) :
    (∃ found, (w.row r : Registry).captureOf? contract = some found) ↔
      ∃ e ∈ es, e.Grounded call contract := by
  constructor
  · rintro ⟨found, hf⟩
    obtain ⟨e, he, _, contractId, capability, hcaptures, hsame, hfirst⟩ :=
      h.first h₀ hby.uncaptured hf
    obtain ⟨hsane, hfits, _⟩ := h.event h₀ he
    have hnever := hby.indirect e he
    obtain ⟨before, dealing⟩ := e
    cases dealing with
    | capture contractId' capability' => exact absurd rfl (hnever contractId' capability')
    | install i id name version platformVersion =>
      obtain ⟨rfl, rfl⟩ := Prod.mk.inj (Option.some.inj hcaptures)
      exact ⟨_, he, i, id, name, version, platformVersion, rfl, hsame,
        hsane.captureOriginal_of_firstCapture call hfits hfirst⟩
    | _ => cases hcaptures
  · rintro ⟨⟨before, dealing⟩, he, i, id, name, version, platformVersion, rfl, hsame, service,
      hservice⟩
    obtain ⟨hsane, hfits, _⟩ := h.event h₀ he
    obtain ⟨⟨capture, hcapture⟩, _⟩ :=
      hsane.install_of_captureOriginal call hfits hservice id name version platformVersion
    exact ⟨_, h.kept h₀ he (.inr ((OrderedMap.get?_congr _ hsame).symm.trans hcapture))⟩

/-- An install that found a service succeeded, by ids that are not blank and with texts to tell. -/
theorem succeeds (h : History call r w₀ es w) (h₀ : Sane r w₀) {e : Event} (he : e ∈ es)
    {contract : Value} (hgrounded : e.Grounded call contract) (hproper : e.Proper) :
    ∃ v, e.outcome call r = .ok v := by
  obtain ⟨before, dealing⟩ := e
  obtain ⟨i, id, name, version, platformVersion, rfl, -, service, hservice⟩ := hgrounded
  obtain ⟨hsane, hfits, _⟩ := h.event h₀ he
  obtain ⟨htelling, hid, hversion, hplatform⟩ := hproper i id name version platformVersion rfl
  obtain ⟨_, hsucceeds⟩ :=
    hsane.install_of_captureOriginal call hfits hservice id name version platformVersion
  exact hsucceeds htelling hid hversion hplatform

end History

/-- Without a capture an installer has no original, and restores nothing. -/
def Idle (call : Caller) (i : Ref .installer) (w : World) : Prop :=
  w.run (readAttribute call (.ofRef i) "original") = (.ok .none, w) ∧
    w.run (restore call i) = (.ok (), w)

theorem World.Intact.idle_of_uncaptured {w : World} (hw : w.Intact) (call : Caller)
    {r : Ref .registry} {i : Ref .installer} (hi : (w.row i : Installer).Over r)
    (hn : (w.row r : Registry).captureOf? (w.row i : Installer).contractId = none) :
    Idle call i w := by
  obtain ⟨_, hcontract⟩ := hi.contractId
  have horiginal :=
    hw.run_readAttribute_original call i hi.registry (Value.unhashable?_of_text? hcontract)
  rw [hn] at horiginal
  exact ⟨horiginal, hw.run_restore_of_uncaptured call i hi hn⟩

/-- What failed installs leave over the life of a registry. -/
structure FailsCleanly (call : Caller) (r : Ref .registry) (w₀ : World) (es : List Event)
    (w : World) : Prop where
  /-- An install that fails leaves nothing, or what it captured, or all of it. -/
  failed (i : Ref .installer) (hi : (w.row i : Installer).Over r)
    (id name version platformVersion : Value) (fault : Fault)
    (hfails : w.outcome (install call i id name version platformVersion) = .error fault) :
    FailedInstall call r i id version platformVersion w
      (w.after (install call i id name version platformVersion))
  /-- A contract is captured if an install has found a service for it, and only then. -/
  captured_iff (hby : CapturesByInstalls r w₀ es) (contract : Value) :
    (∃ found, (w.row r : Registry).captureOf? contract = some found) ↔
      ∃ e ∈ es, e.Grounded call contract
  /-- As long as no install has found a service, there is no original, and restoring does
  nothing. -/
  idle (hby : CapturesByInstalls r w₀ es) (i : Ref .installer) (hi : (w.row i : Installer).Over r)
    (hn : ∀ e ∈ es, ¬e.Grounded call (w.row i : Installer).contractId) : Idle call i w
  /-- By ids that are not blank and with texts to tell, it is enough that no install has
  succeeded. -/
  vain (hby : CapturesByInstalls r w₀ es) (i : Ref .installer) (hi : (w.row i : Installer).Over r)
    (hproper : ∀ e ∈ es, e.Installs (w.row i : Installer).contractId → e.Proper)
    (hfailed : ∀ e ∈ es, e.Installs (w.row i : Installer).contractId →
      ∀ v, e.outcome call r ≠ .ok v) : Idle call i w

/-- Over every history of a registry installs fail cleanly. -/
theorem History.failsCleanly {call : Caller} {r : Ref .registry} {w₀ w : World} {es : List Event}
    (h₀ : Sane r w₀) (h : History call r w₀ es w) : FailsCleanly call r w₀ es w := by
  have hsane : Sane r w := h.sane h₀
  have hidle (hby : CapturesByInstalls r w₀ es) (i : Ref .installer)
      (hi : (w.row i : Installer).Over r)
      (hn : ∀ e ∈ es, ¬e.Grounded call (w.row i : Installer).contractId) : Idle call i w := by
    refine hsane.intact.idle_of_uncaptured call hi ?_
    rw [Option.eq_none_iff_forall_ne_some]
    intro found hf
    obtain ⟨e, he, hgrounded⟩ := (h.captured_iff h₀ hby _).1 ⟨found, hf⟩
    exact hn e he hgrounded
  refine ⟨fun i hi id name version platformVersion fault hfails =>
    hsane.failedInstall call hi hfails, h.captured_iff h₀, hidle,
    fun hby i hi hproper hfailed => hidle hby i hi fun e he hgrounded => ?_⟩
  have hof : e.Installs (w.row i : Installer).contractId := by
    obtain ⟨j, id, name, version, platformVersion, hd, hsame, _⟩ := hgrounded
    exact ⟨j, id, name, version, platformVersion, hd, hsame⟩
  obtain ⟨v, hv⟩ := h.succeeds h₀ he hgrounded (hproper e he hof)
  exact hfailed e he hof v hv

/-! ## An install that comes too early, and one under a blank id -/

/-- A stand-in is to be installed before there is anything to stand in for. -/
def benchEarly : Event :=
  ⟨bench, .install ⟨0⟩ (.ofText "xpcshell@tests") (.ofText "XPCShell") (.ofText "1") (.ofText "1")⟩

theorem benchEarly_history :
    History invoke ⟨0⟩ bench [benchEarly] (benchEarly.after invoke ⟨0⟩) :=
  .deal .start benchEarly.dealing ⟨rfl, ⟨_, rfl⟩, ⟨_, rfl⟩⟩

theorem benchEarly_failsCleanly :
    (∃ fault, benchEarly.outcome invoke ⟨0⟩ = .error fault) ∧
      FailsCleanly invoke ⟨0⟩ bench [benchEarly] (benchEarly.after invoke ⟨0⟩) :=
  ⟨⟨_, rfl⟩, History.failsCleanly ⟨bench_intact, .empty⟩ benchEarly_history⟩

/-- The state of the bench after the sample identity was registered, with another installer whose
class is blank. -/
def blankBench : World :=
  { benchRegister.after invoke ⟨0⟩ with
    installers := ⟨[⟨.ofRef (⟨0⟩ : Ref .registry), .ofText appInfoContract, .ofText " ", .none⟩]⟩ }

theorem blankBench_sane : Sane ⟨0⟩ blankBench := by
  have hregistered := benchRegister_history.sane ⟨bench_intact, .empty⟩
  exact ⟨hregistered.intact.congr rfl, hregistered.sound⟩

/-- The state that a failed install under a blank id leaves. -/
def blankInstalled : World :=
  blankBench.after (install invoke ⟨0⟩ (.ofText "xpcshell@tests") (.ofText "XPCShell") (.ofText "1")
    (.ofText "1"))

/-- An install that fails can leave a capture. -/
theorem blankInstalled_hasCapture :
    ¬∀ (r : Ref .registry) (i : Ref .installer) (w : World)
      (id name version platformVersion : Value) (fault : Fault), Sane r w →
        (w.row i : Installer).Over r →
          w.outcome (install invoke i id name version platformVersion) = .error fault →
            ((w.after (install invoke i id name version platformVersion)).row r :
              Registry).captures = (w.row r : Registry).captures := by
  intro hgeneral
  obtain ⟨fault, hfails⟩ : ∃ fault, blankBench.outcome (install invoke ⟨0⟩
      (.ofText "xpcshell@tests") (.ofText "XPCShell") (.ofText "1") (.ofText "1")) =
        .error fault := ⟨_, rfl⟩
  have hsame : (blankInstalled.row (⟨0⟩ : Ref .registry) : Registry).captures =
      (blankBench.row (⟨0⟩ : Ref .registry) : Registry).captures :=
    hgeneral ⟨0⟩ ⟨0⟩ blankBench _ _ _ _ fault blankBench_sane ⟨rfl, ⟨_, rfl⟩, ⟨_, rfl⟩⟩ hfails
  have hkept :
      (blankInstalled.row (⟨0⟩ : Ref .registry) : Registry).captures.toList.length = 1 := by
    decide +kernel
  have hnone : (blankBench.row (⟨0⟩ : Ref .registry) : Registry).captures.toList.length = 0 := by
    decide +kernel
  rw [hsame, hnone] at hkept
  cases hkept

end Understudy

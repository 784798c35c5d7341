import Understudy.Proofs.ContextHost
import Understudy.Proofs.LeftAlone
import Understudy.Proofs.LastInstall

/-!
# The host and its stand-ins

A registry that belongs to environments shows its host under the contract of the application's
identity, or a stand-in over the host. What an installer captures is the host, whoever captures
it, so that every stand-in falls back to the host itself and never to another stand-in, and the
host is what comes back.

## Main definitions

* `World.Orderly`: a state in which nothing is assigned to what is yet to be made.
* `World.Hands`, `World.Shows`: what a provider hands out, and what a registry shows.
* `Occupied`: a registry with a host.

## Main statements

* `Occupied.install`: what is installed stands in for the host.
* `Occupied.restore`: restoring shows the host again.
* `Occupied.restore_again`: restoring a host that is shown makes no difference.
-/

namespace Understudy

/-! ## Orderly states -/

/-- Nothing is assigned to components and sessions that are yet to be made, and capabilities and
functions have their own names. -/
structure World.Orderly (w : World) : Prop where
  component (c : Ref .component) (name : String) (h : w.components.size ≤ c.index) :
    w.assigned? c.object name = none
  session (s : Ref .session) (name : String) (h : w.sessions.size ≤ s.index) :
    w.assigned? s.object name = none
  capability (c : Capability) : w.assigned.get? (.capability c, "name") = none
  function (serial : Nat) (f : Function) :
    w.assigned.get? (.function serial f, "__name__") = none

theorem World.Orderly.continues {w w' : World} (h : w.Orderly) (hc : w.Continues w') :
    w'.Orderly where
  component c name hle :=
    (hc.assigned? (.inl rfl) name).trans (h.component c name (Nat.le_trans hc.moreComponents hle))
  session s name hle :=
    (hc.assigned? (.inr rfl) name).trans (h.session s name (Nat.le_trans hc.sessions.size hle))
  capability c := (hc.assigned (.capability c) "name" rfl).trans (h.capability c)
  function serial f := (hc.assigned (.function serial f) "__name__" rfl).trans (h.function serial f)

/-! ## What is handed out -/

theorem Provider.eq_of_withCalls {x y : Provider} (h : y.withCalls .none = x.withCalls .none)
    (hx : x.calls? = none) : y = x := by
  cases x with
  | host | overlay =>
    cases y with
    | host | overlay => exact h
    | _ => cases h
  | _ => cases hx

/-- A provider hands out a component, without keeping count. -/
structure World.Hands (w : World) (p : Ref .provider) (c : Ref .component) : Prop where
  uncounted : (w.row p : Provider).calls? = none
  component : (w.row p : Provider).component = .ofRef c

/-- A component is the host, or it stands in for it. -/
def World.Fronts (w : World) (host c : Ref .component) : Prop :=
  c = host ∨ ∃ layer, w.row c = Component.overlay layer ∧ layer.fallback = .ofRef host

/-- A registry shows a component as the application's identity. -/
def World.Shows (w : World) (r : Ref .registry) (c : Ref .component) : Prop :=
  ∃ (e : Entry) (p : Ref .provider),
    (w.row r : Registry).entryOf? (.ofText appInfoContract) = some e.toValue ∧
      e.provider = .ofRef p ∧ w.Hands p c

/-- What was captured of a registry is its host, or else the host is what it shows. -/
inductive World.Original (w : World) (r : Ref .registry) (host : Ref .component) : Prop
  | uncaptured (h : (w.row r : Registry).captureOf? (.ofText appInfoContract) = none)
      (shows : w.Shows r host)
  | captured {serial : Nat} {e : Entry} {p : Ref .provider}
      (h : (w.row r : Registry).captureOf? (.ofText appInfoContract) =
        some (Capture.toValue ⟨serial, e.toValue, .ofRef host⟩))
      (provider : e.provider = .ofRef p) (hands : w.Hands p host)

namespace World

variable {w w' : World} {r : Ref .registry} {p : Ref .provider} {c host : Ref .component}

theorem Hands.retains (h : w.Hands p c) (hr : w.Retains w') : w'.Hands p c := by
  rcases Nat.lt_or_ge p.index w.providers.size with hlt | hge
  · have hsame := Provider.eq_of_withCalls (hr.provider p hlt) h.uncounted
    exact ⟨by rw [hsame, h.uncounted], by rw [hsame, h.component]⟩
  · have hrow : (w.row p : Provider) = .host .none := Table.get_of_size_le _ hge
    have hno := h.component
    rw [hrow] at hno
    cases hno

theorem Fronts.retains (h : w.Fronts host c) (hr : w.Retains w') : w'.Fronts host c := by
  rcases h with h | ⟨layer, hlayer, hfallback⟩
  · exact .inl h
  · obtain ⟨notes, hnotes⟩ := hr.row_overlay hlayer
    exact .inr ⟨_, hnotes, hfallback⟩

theorem Shows.retains (h : w.Shows r c) (hr : w.Retains w')
    (hreg : (w'.row r : Registry).entries = (w.row r : Registry).entries) : w'.Shows r c := by
  obtain ⟨e, p, hentry, hprovider, hands⟩ := h
  exact ⟨e, p, by rw [Registry.entryOf?, hreg]; exact hentry, hprovider, hands.retains hr⟩

theorem Original.retains (h : w.Original r host) (hr : w.Retains w')
    (hreg : w'.row r = (w.row r : Registry)) : w'.Original r host := by
  cases h with
  | uncaptured h shows => exact .uncaptured (hreg ▸ h) (shows.retains hr (by rw [hreg]))
  | captured h provider hands => exact .captured (hreg ▸ h) provider (hands.retains hr)

/-- To look the identity up is to ask what is shown for the view. -/
theorem Shows.run_getService (h : w.Shows r c) (hw : w.Intact) (call : Caller)
    (capability : Value) :
    w.run (getService call r (.ofText appInfoContract) capability) =
      w.run (queryInterface call c capability) := by
  obtain ⟨e, p, hentry, hprovider, hands⟩ := h
  rw [hw.run_getService call r rfl hentry, hprovider]
  exact hw.run_createFrom_view call hands.uncounted hands.component capability

end World

/-! ## Installers of a host -/

/-- An installer that puts stand-ins in the place of the host of a registry. -/
def Installer.OfHost (installer : Installer) (r : Ref .registry) : Prop :=
  installer.made = Installer.ofHost (.ofRef r)

theorem Installer.OfHost.eq {installer : Installer} {r : Ref .registry}
    (h : installer.OfHost r) :
    installer = { Installer.ofHost (.ofRef r) with current := installer.current } := by
  obtain ⟨registry, contractId, classId, current⟩ := installer
  simp only [OfHost, made, ofHost, Installer.mk.injEq] at h ⊢
  obtain ⟨rfl, rfl, rfl, _⟩ := h
  exact ⟨rfl, rfl, rfl, trivial⟩

theorem Installer.OfHost.over {installer : Installer} {r : Ref .registry}
    (h : installer.OfHost r) : installer.Over r := by
  rw [h.eq]
  exact ⟨rfl, ⟨_, rfl⟩, ⟨_, rfl⟩⟩

theorem Installer.OfHost.contractId {installer : Installer} {r : Ref .registry}
    (h : installer.OfHost r) : installer.contractId = .ofText appInfoContract := by
  rw [h.eq]
  rfl

theorem Installer.OfHost.telling {installer : Installer} {r : Ref .registry}
    (h : installer.OfHost r) : installer.classId.Telling ∧ installer.contractId.Telling := by
  rw [h.eq]
  exact ⟨⟨_, rfl, by decide⟩, ⟨_, rfl, by decide⟩⟩

theorem World.Continues.of_captureStep {w w' : World} {call : Caller} {r : Ref .registry}
    {contractId capability : Value} {capture : Capture}
    (h : CaptureStep call r contractId capability w w' capture) : w.Continues w' := by
  cases h with
  | known _ same => exact same ▸ refl w
  | first _ _ _ served remembered =>
    exact (of_served served).trans
      ((of_retains (.withRow_registry _ r _) rfl rfl rfl rfl rfl rfl).trans (of_alike remembered))

/-- An overlay declares what an identity has to. -/
theorem World.declares_of_overlay {w : World} {c : Ref .component} {layer : Overlay}
    (h : w.row c = Component.overlay layer) :
    (w.row c : Component).capabilities.any (· == .capability .runtime) = true := by
  rw [h]
  show (Capability.all.map Value.capability).any _ = true
  decide

/-! ## A registry with a host -/

/-- A registry with a host: it shows the host or a stand-in over it, and what was captured of it
is the host. -/
structure Occupied (r : Ref .registry) (host : Ref .component) (w : World) : Prop where
  sane : Sane r w
  orderly : w.Orderly
  machine : ∃ facts invalidated, w.row host = Component.host facts invalidated
  shown : ∃ c, w.Shows r c ∧ w.Fronts host c
  original : w.Original r host

namespace Occupied

variable {r : Ref .registry} {host c : Ref .component} {i : Ref .installer} {w w' : World}
  (h : Occupied r host w)
include h

theorem lt_size : host.index < w.components.size := by
  obtain ⟨facts, invalidated, hrow⟩ := h.machine
  rcases Nat.lt_or_ge host.index w.components.size with hlt | hge
  · exact hlt
  · cases hrow.symm.trans (Table.get_of_size_le _ hge)

/-- A registry that is left alone keeps its host. -/
theorem continues (hc : w.Continues w') (hr : w'.row r = (w.row r : Registry)) :
    Occupied r host w' where
  sane := ⟨hc.intact h.sane.intact, hr ▸ h.sane.sound⟩
  orderly := h.orderly.continues hc
  machine := by
    obtain ⟨facts, _, hrow⟩ := h.machine
    exact ⟨facts, hc.row_host hrow⟩
  shown := by
    obtain ⟨c, hshows, hfronts⟩ := h.shown
    exact ⟨c, hshows.retains hc.toRetains (by rw [hr]), hfronts.retains hc.toRetains⟩
  original := h.original.retains hc.toRetains hr

/-- What is shown declares what an identity has to. -/
theorem declares_of_fronts (hf : w.Fronts host c) :
    (w.row c : Component).capabilities.any (· == .capability .runtime) = true := by
  rcases hf with rfl | ⟨layer, hlayer, _⟩
  · obtain ⟨facts, invalidated, hrow⟩ := h.machine
    rw [hrow]
    show (Component.identityCapabilities.map Value.capability).any _ = true
    decide
  · exact World.declares_of_overlay hlayer

/-- The identity is looked up without a fault, and without a change. -/
theorem run_getService (call : Caller) (hs : w.Shows r c) (hf : w.Fronts host c) :
    w.run (getService call r (.ofText appInfoContract) (.capability .runtime)) =
      (.ok (.ofRef c), w) :=
  (hs.run_getService h.sane.intact call _).trans
    (run_queryInterface call _ rfl (h.declares_of_fronts hf))

/-- A look-up for the first time does not fail. -/
theorem not_captureFailure {call : Caller} :
    ¬CaptureFailure call r (.ofText appInfoContract) (.capability .runtime) w w' := by
  intro hno
  obtain ⟨c, ⟨e, p, hentry, hprovider, hands⟩, hfronts⟩ := h.shown
  obtain ⟨fault, hfault⟩ := hno.unserved e hentry
  rw [hprovider, World.outcome, h.sane.intact.run_createFrom_uncounted call hands.uncounted
    hands.component rfl (h.declares_of_fronts hfronts)] at hfault
  cases hfault

/-- What is captured is the host, and it is there from then on. -/
theorem captured {call : Caller} {capture : Capture}
    (hc : CaptureStep call r (.ofText appInfoContract) (.capability .runtime) w w' capture) :
    Occupied r host w' ∧ w.Continues w' ∧ capture.service = .ofRef host ∧
      (w'.row r : Registry).captureOf? (.ofText appInfoContract) ≠ none := by
  have hcontinues := World.Continues.of_captureStep hc
  have hretains := hcontinues.toRetains
  have hsane := h.sane.of_captureStep hc
  cases hc with
  | @known capture captured same =>
    cases h.original with
    | uncaptured hn _ =>
      rw [hn] at captured
      cases captured
    | captured hknown _ _ =>
      rw [hknown] at captured
      obtain rfl := Capture.toValue_injective (Option.some.inj captured)
      rw [same]
      refine ⟨h, .refl w, rfl, ?_⟩
      rw [hknown]
      exact nofun
  | @first serial e c asked uncaptured entry handed served remembered =>
    cases h.original with
    | captured hknown _ _ =>
      rw [hknown] at uncaptured
      cases uncaptured
    | uncaptured _ shows =>
      obtain ⟨e', p, hentry, hprovider, hands⟩ := shows
      rw [entry] at hentry
      obtain rfl := Entry.toValue_injective (Option.some.inj hentry)
      have hrun : w.run (createFrom call (.ofRef p) (.capability .runtime)) =
          (.ok (.ofRef host), w) :=
        h.sane.intact.run_createFrom_uncounted call hands.uncounted hands.component rfl
          (h.declares_of_fronts (.inl rfl))
      rw [World.outcome, hprovider, hrun] at handed
      obtain rfl : host = c := Value.ofRef_injective (Except.ok.inj handed)
      have hrow := remembered.row_registry r
      rw [World.row_withRow_self] at hrow
      have hcaptured : (w'.row r : Registry).captureOf? (.ofText appInfoContract) =
          some (Capture.toValue ⟨serial, e.toValue, .ofRef host⟩) := by
        rw [hrow]
        exact (Registry.captureOf?_capture _ _ _ _).trans (if_pos (by decide))
      have hshows : w'.Shows r host :=
        World.Shows.retains ⟨e, p, entry, hprovider, hands⟩ hretains (by rw [hrow]; rfl)
      refine ⟨⟨hsane, h.orderly.continues hcontinues, ?_, ⟨host, hshows, .inl rfl⟩,
        .captured hcaptured hprovider (hands.retains hretains)⟩, hcontinues, rfl, ?_⟩
      · obtain ⟨facts, _, hmachine⟩ := h.machine
        exact ⟨facts, hretains.row_host hmachine⟩
      · rw [hcaptured]
        exact nofun

end Occupied

/-! ## Installing -/

/-- What is installed is shown. -/
theorem Installer.OfHost.shows_installed {w : World} {r : Ref .registry} {i : Ref .installer}
    (hi : (w.row i : Installer).OfHost r) (layer : Overlay) :
    (w.installed r i layer).Shows r w.nextComponent := by
  refine ⟨(w.row i : Installer).entryFor w.nextSerial w.nextProvider, w.nextProvider, ?_, rfl, ?_⟩
  · rw [w.row_installed_registry r i layer]
    refine (Registry.entryOf?_register _ _ _).trans (if_pos ?_)
    show ((w.row i : Installer).contractId == _) = true
    rw [hi.contractId]
    decide
  · have hprovider : (w.installed r i layer).row w.nextProvider =
        Provider.overlay (.ofRef w.nextComponent) := w.row_withStandIn_nextProvider layer
    exact ⟨by rw [hprovider]; rfl, by rw [hprovider]; rfl⟩

theorem World.Continues.installed (w : World) (r : Ref .registry) (i : Ref .installer)
    (layer : Overlay) : w.Continues (w.installed r i layer) where
  toRetains := .installed w r i layer
  contexts := .refl (fun _ => rfl) _
  injectors := .refl (fun _ => rfl) _
  installers := Table.Grows.set (R := fun x y : Installer => y.made = x.made) (fun _ => rfl) rfl
  policies := .refl (fun _ => trivial) _
  sessions := .refl Session.Later.refl _
  banks := .refl (fun _ h => h) _

namespace Occupied

/-- What comes of an install where there is a host. -/
structure Installed (r : Ref .registry) (host : Ref .component) (i : Ref .installer)
    (id name version platformVersion : Value) (c : Ref .component) (w w' : World) : Prop where
  occupied : Occupied r host w'
  continues : w.Continues w'
  shows : w'.Shows r c
  made : ∃ notes, w'.row c =
    Component.overlay
      { Overlay.standIn id name version platformVersion (.ofRef host) with annotations := notes }
  /-- The host is older than what stands in for it. -/
  earlier : host.index < c.index
  current : (w'.row i : Installer).current = .ofRef c
  others (j : Ref .installer) (h : j ≠ i) : w'.row j = (w.row j : Installer)
  sessions : w'.sessions = w.sessions

variable {r : Ref .registry} {host : Ref .component} {i : Ref .installer} {w : World}

/-- A stand-in over a host that was captured is shown, and the host stays what it is. -/
theorem installed (h : Occupied r host w) (hi : (w.row i : Installer).OfHost r)
    (hcaptured : (w.row r : Registry).captureOf? (.ofText appInfoContract) ≠ none)
    {layer : Overlay} (hlayer : layer.fallback = .ofRef host) :
    Occupied r host (w.installed r i layer) ∧
      (w.installed r i layer).Shows r w.nextComponent := by
  have hcontinues := World.Continues.installed w r i layer
  have hrow := w.row_installed_registry r i layer
  have hshows := hi.shows_installed layer
  refine ⟨⟨h.sane.installed hi.telling.1 hi.telling.2 layer, h.orderly.continues hcontinues, ?_,
    ⟨_, hshows, .inr ⟨layer, w.row_installed_nextComponent r i layer, hlayer⟩⟩, ?_⟩, hshows⟩
  · obtain ⟨facts, _, hmachine⟩ := h.machine
    exact ⟨facts, hcontinues.row_host hmachine⟩
  · cases h.original with
    | uncaptured hn _ => exact absurd hn hcaptured
    | @captured serial e p hknown hprovider hands =>
      have hkept : ((w.installed r i layer).row r : Registry).captureOf?
          (.ofText appInfoContract) =
            some (Capture.toValue ⟨serial, e.toValue, .ofRef host⟩) := by
        rw [hrow]
        exact hknown
      exact .captured hkept hprovider (hands.retains hcontinues.toRetains)

/-- What is installed stands in for the host, and is shown. It is told about, which only fails
if it cannot be displayed. -/
theorem install (h : Occupied r host w) (call : Caller) (hi : (w.row i : Installer).OfHost r)
    (id name version platformVersion : Value) :
    ∃ (c : Ref .component) (told : World),
      w.outcome (Understudy.install call i id name version platformVersion) =
        told.outcome (tellInstalled id version platformVersion c) ∧
      Installed r host i id name version platformVersion c w
        (w.after (Understudy.install call i id name version platformVersion)) := by
  have hcontract := hi.contractId
  cases h.sane.intact.install_cases call i hi.over h.sane.sound id name version platformVersion with
  | unserved uncaptured _ => exact absurd (hcontract ▸ uncaptured) h.not_captureFailure
  | refused _ blank _ _ => exact absurd hi.telling blank
  | @installed capture w₁ captured _ _ placed returned =>
    obtain ⟨told, htold⟩ := returned
    refine ⟨w₁.nextComponent, told, htold, ?_⟩
    rw [hcontract] at captured
    have hdealt : w.Dealt w₁ := .of_captureStep captured
    have hinstallers (j : Ref .installer) : w₁.row j = (w.row j : Installer) := by
      cases captured with
      | known _ same => rw [same]
      | first _ _ _ served remembered =>
        exact (remembered.row_installer j).trans (served.row_installer j)
    obtain ⟨h₁, hcontinues, hservice, hcaptured⟩ := h.captured captured
    have hi₁ : (w₁.row i : Installer).OfHost r := (hinstallers i).symm ▸ hi
    rw [hservice] at placed
    have hlayer : (Overlay.standIn id name version platformVersion (.ofRef host)).fallback =
        .ofRef host := rfl
    obtain ⟨h₂, hshows⟩ := h₁.installed hi₁ hcaptured hlayer
    have hplaced := World.Continues.of_alike placed
    have hrow (j : Ref .installer) := placed.row_installer j
    refine ⟨h₂.continues hplaced (placed.row_registry r), hcontinues.trans
      ((World.Continues.installed _ r i _).trans hplaced),
      hshows.retains hplaced.toRetains (by rw [placed.row_registry r]),
      hplaced.row_overlay (w₁.row_installed_nextComponent r i _), h₁.lt_size, ?_, fun j hj => ?_,
      ?_⟩
    · rw [hrow, World.installed, World.row_withRow_self]
    · rw [hrow, World.installed, World.row_withRow, if_neg hj]
      exact hinstallers j
    · obtain ⟨_, _, hafter⟩ := placed
      rw [hafter]
      exact hdealt.unmoved.sessions

end Occupied

/-! ## Restoring -/

theorem World.Continues.withRow_installer {w : World} {i : Ref .installer} {installer : Installer}
    (hmade : installer.made = (w.row i : Installer).made) :
    w.Continues (w.withRow i installer) where
  toRetains := .of_eq rfl rfl rfl
  contexts := .refl (fun _ => rfl) _
  injectors := .refl (fun _ => rfl) _
  installers := Table.Grows.set (R := fun x y : Installer => y.made = x.made) (fun _ => rfl) hmade
  policies := .refl (fun _ => trivial) _
  sessions := .refl Session.Later.refl _
  banks := .refl (fun _ h => h) _

namespace Occupied

/-- What comes of a restore where there is a host. -/
structure Restored (r : Ref .registry) (host : Ref .component) (i : Ref .installer)
    (w w' : World) : Prop where
  occupied : Occupied r host w'
  continues : w.Continues w'
  shows : w'.Shows r host
  current (h : (w'.row r : Registry).captureOf? (.ofText appInfoContract) ≠ none) :
    (w'.row i : Installer).current = .none
  others (j : Ref .installer) (h : j ≠ i) : w'.row j = (w.row j : Installer)
  sessions : w'.sessions = w.sessions
  /-- A second time makes no difference. -/
  settled (serial : Nat) (e : Entry)
    (h : (w'.row r : Registry).captureOf? (.ofText appInfoContract) =
      some (Capture.toValue ⟨serial, e.toValue, .ofRef host⟩)) :
    ∃ e', e.Anew e' ∧
      (w'.row r : Registry).entryOf? (.ofText appInfoContract) = some e'.toValue

variable {r : Ref .registry} {host : Ref .component} {i : Ref .installer} {w : World}

/-- Restoring does not fail, and shows the host. -/
theorem restore (h : Occupied r host w) (call : Caller) (hi : (w.row i : Installer).OfHost r) :
    w.outcome (Understudy.restore call i) = .ok () ∧
      Restored r host i w (w.after (Understudy.restore call i)) := by
  have hcontract := hi.contractId
  obtain ⟨hok, hstep⟩ := h.sane.intact.restore_cases call i hi.over h.sane.sound
  refine ⟨hok, ?_⟩
  generalize w.after (Understudy.restore call i) = w' at hstep
  cases hstep with
  | nothing uncaptured same =>
    rw [hcontract] at uncaptured
    cases h.original with
    | captured hknown _ _ =>
      rw [hknown] at uncaptured
      cases uncaptured
    | uncaptured _ shows =>
      rw [same]
      refine ⟨h, .refl w, shows, fun hno => absurd uncaptured hno, fun _ _ => rfl, rfl, ?_⟩
      intro serial e hknown
      rw [hknown] at uncaptured
      cases uncaptured
  | @restored serial e c captured replaced =>
    have hproper := (h.sane.sound.of_captured captured).1
    have hsame := (h.sane.sound.of_captured captured).2.1
    rw [hcontract] at captured hsame
    cases h.original with
    | uncaptured hn _ =>
      rw [hn] at captured
      cases captured
    | @captured serial' e' p hknown hprovider hands =>
      rw [hknown] at captured
      obtain rfl : e' = e := (Capture.eq_of_toValue (Option.some.inj captured)).1
      let e : Entry := { e' with serial := w.nextSerial }
      let placed : World := w.withRow r ((w.row r : Registry).register e)
      have hplaced : w.Continues placed :=
        .of_retains (.withRow_registry w r _) rfl rfl rfl rfl rfl rfl
      have hmade : Installer.made { (w.row i : Installer) with current := .none } =
          (placed.row i : Installer).made := rfl
      have hreset := World.Continues.withRow_installer hmade
      have hcontinues := hplaced.trans (hreset.trans (.of_alike replaced))
      have hregistry : w'.row r = (w.row r : Registry).register e := by
        rw [replaced.row_registry r, World.row_withRow_installer_registry, World.row_withRow_self]
      have hentry : (w'.row r : Registry).entryOf? (.ofText appInfoContract) = some e.toValue := by
        rw [hregistry]
        exact (Registry.entryOf?_register _ _ _).trans (if_pos hsame)
      have hcaptured : (w'.row r : Registry).captureOf? (.ofText appInfoContract) =
          some (Capture.toValue ⟨serial', e'.toValue, .ofRef host⟩) := by
        rw [hregistry]
        exact hknown
      have hhands := hands.retains hcontinues.toRetains
      have hshows : w'.Shows r host := ⟨e, p, hentry, hprovider, hhands⟩
      have hinstaller (j : Ref .installer) := replaced.row_installer j
      refine ⟨⟨⟨hcontinues.intact h.sane.intact, ?_⟩, h.orderly.continues hcontinues, ?_,
        ⟨host, hshows, .inl rfl⟩, .captured hcaptured hprovider hhands⟩, hcontinues, hshows,
        fun _ => ?_, fun j hj => ?_, ?_, fun serial e hknown => ?_⟩
      · rw [hregistry]
        exact h.sane.sound.register (hproper.anew _)
      · obtain ⟨facts, _, hmachine⟩ := h.machine
        exact ⟨facts, hcontinues.row_host hmachine⟩
      · rw [hinstaller, World.row_withRow_self]
      · rw [hinstaller, World.row_withRow, if_neg hj]
        rfl
      · obtain ⟨_, _, hafter⟩ := replaced
        rw [hafter]
        rfl
      · rw [hcaptured] at hknown
        obtain ⟨rfl, _⟩ := Capture.eq_of_toValue (Option.some.inj hknown)
        exact ⟨_, ⟨w.nextSerial, rfl⟩, hentry⟩

end Occupied

end Understudy

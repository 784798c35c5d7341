import Understudy.Proofs.InstallerRequests

/-!
# Dealing with a registry

Everybody deals with a registry by a few requests to it and to the installers over it.
Whatever of these is requested, in whatever order and whether it fails or not, things
that are there stay there, overlays keep what they were put over, providers keep what
they hand out, and captures stay captured.

## Main definitions

* `World.Extends`: the things of a state are still the same in another one.
* `Dealing`: a request to a registry or to an installer over it.
* `Sane`, `Onward`: what a registry always is, and what becomes of it.

## Main statements

* `Dealing.sane`, `Dealing.onward`: a dealing keeps a registry sane, and goes onward.
* `Dealing.first_capture`: what is captured is the entry of that moment, with what its
  provider hands out.
-/

namespace Understudy

/-! ## Growing states -/

/-- What an overlay was put over. -/
def Component.fallback? : Component → Option Value
  | .overlay layer => some layer.fallback
  | _ => none

/-- The things of a state are still the same in another one. There may be more of them, and
the providers may have been asked more often. -/
structure World.Extends (w w' : World) : Prop where
  intact : w.Intact → w'.Intact
  moreComponents : w.components.size ≤ w'.components.size
  fallback (c : Ref .component) (h : c.index < w.components.size) :
    (w'.row c : Component).fallback? = (w.row c : Component).fallback?
  moreProviders : w.providers.size ≤ w'.providers.size
  provider (p : Ref .provider) (h : p.index < w.providers.size) :
    (w'.row p : Provider).withCalls .none = (w.row p : Provider).withCalls .none

namespace World.Extends

variable {w w' w'' : World}

theorem refl (w : World) : w.Extends w where
  intact hw := hw
  moreComponents := Nat.le_refl _
  fallback _ _ := rfl
  moreProviders := Nat.le_refl _
  provider _ _ := rfl

theorem trans (h : w.Extends w') (h' : w'.Extends w'') : w.Extends w'' where
  intact hw := h'.intact (h.intact hw)
  moreComponents := Nat.le_trans h.moreComponents h'.moreComponents
  fallback c hc :=
    (h'.fallback c (Nat.lt_of_lt_of_le hc h.moreComponents)).trans (h.fallback c hc)
  moreProviders := Nat.le_trans h.moreProviders h'.moreProviders
  provider p hp :=
    (h'.provider p (Nat.lt_of_lt_of_le hp h.moreProviders)).trans (h.provider p hp)

theorem of_served (h : w.Served w') : w.Extends w' where
  intact := h.intact
  moreComponents := Nat.le_of_eq (by rw [h.frame])
  fallback c _ := by rw [h.row_component c]
  moreProviders := Nat.le_of_eq h.size.symm
  provider p _ := h.count p

theorem of_alike (h : w.Alike w') : w.Extends w' := of_served (.of_alike h)

/-- Where components and providers are left alone, there is nothing else to it. -/
theorem of_eq (intact : w.Intact → w'.Intact) (hcomponents : w'.components = w.components)
    (hproviders : w'.providers = w.providers) : w.Extends w' where
  intact := intact
  moreComponents := Nat.le_of_eq (congrArg Table.size hcomponents.symm)
  fallback c _ := congrArg (fun t => (Table.get t c.index).fallback?) hcomponents
  moreProviders := Nat.le_of_eq (congrArg Table.size hproviders.symm)
  provider p _ := congrArg (fun t => (Table.get t p.index).withCalls .none) hproviders

theorem withRow_registry (w : World) (r : Ref .registry) (reg : Registry) :
    w.Extends (w.withRow r reg) := of_eq (fun hw => hw.congr rfl) rfl rfl

theorem withRow_installer (w : World) (i : Ref .installer) (installer : Installer) :
    w.Extends (w.withRow i installer) := of_eq (fun hw => hw.congr rfl) rfl rfl

/-- A component may be another one that is put over the same. -/
theorem withRow_component {c : Ref .component} {component : Component}
    (hc : c.index < w.components.size)
    (hover : component.fallback? = (w.row c : Component).fallback?) :
    w.Extends (w.withRow c component) where
  intact hw := hw.congr rfl
  moreComponents := Nat.le_of_eq (Table.size_set w.components hc component).symm
  fallback other _ := by
    rw [World.row_withRow]
    by_cases h : other = c
    · rw [if_pos h, hover, h]
    · rw [if_neg h]
  moreProviders := Nat.le_refl _
  provider _ _ := rfl

/-- There may be one more component, and a provider of it. -/
theorem pushed (w : World) (component : Component) (provider : Provider) :
    w.Extends
      { w with
        components := w.components.push component
        providers := w.providers.push provider } where
  intact hw := hw.congr rfl
  moreComponents := by
    show w.components.size ≤ (w.components.push component).size
    rw [Table.size_push]
    exact Nat.le_succ _
  fallback c hc := by
    show ((w.components.push component).get c.index).fallback? = _
    rw [Table.get_push_of_lt _ hc]
    rfl
  moreProviders := by
    show w.providers.size ≤ (w.providers.push provider).size
    rw [Table.size_push]
    exact Nat.le_succ _
  provider p hp := by
    show ((w.providers.push provider).get p.index).withCalls .none = _
    rw [Table.get_push_of_lt _ hp]
    rfl

theorem withStandIn (w : World) (layer : Overlay) : w.Extends (w.withStandIn layer) :=
  pushed w _ _

theorem of_captureStep {call : Caller} {r : Ref .registry} {contractId capability : Value}
    {capture : Capture} (h : CaptureStep call r contractId capability w w' capture) :
    w.Extends w' := by
  cases h with
  | known _ same => exact same ▸ refl w
  | first _ _ _ served remembered =>
    exact (of_served served).trans ((withRow_registry _ r _).trans (of_alike remembered))

/-- What an overlay was put over stays the same, wherever the overlay is. -/
theorem fallback_eq_some (h : w.Extends w') {c : Ref .component} {v : Value}
    (hv : (w.row c : Component).fallback? = some v) :
    (w'.row c : Component).fallback? = some v := by
  rcases Nat.lt_or_ge c.index w.components.size with hlt | hge
  · rw [h.fallback c hlt, hv]
  · have hrow : (w.row c : Component) = .plain 0 [] := Table.get_of_size_le _ hge
    rw [hrow] at hv
    cases hv

/-- A provider goes on handing out the same component. -/
theorem component (h : w.Extends w') {p : Ref .provider} (hp : p.index < w.providers.size) :
    (w'.row p : Provider).component = (w.row p : Provider).component := by
  rw [← Provider.component_withCalls, h.provider p hp, Provider.component_withCalls]

end World.Extends

/-! ## Requests -/

/-- A request to a registry, or to an installer over it. -/
inductive Dealing where
  | register (classId description contractId : Value) (provider : Ref .provider)
  | unregister (contractId provider : Value)
  | capture (contractId capability : Value)
  | serve (contractId capability : Value)
  | install (i : Ref .installer) (id name version platformVersion : Value)
  | restore (i : Ref .installer)

namespace Dealing

/-- What is done on a request. -/
def perform (call : Caller) (r : Ref .registry) : Dealing → Action Value
  | .register classId description contractId provider =>
    Understudy.register call r classId description contractId (.ofRef provider)
  | .unregister contractId provider => do
    Understudy.unregister call r contractId provider
    return .none
  | .capture contractId capability => captureOnce call r contractId capability
  | .serve contractId capability => getService call r contractId capability
  | .install i id name version platformVersion =>
    Understudy.install call i id name version platformVersion
  | .restore i => do
    Understudy.restore call i
    return .none

/-- The requests of those who keep to their types: ids and descriptions are texts, and the
installers are installers over the registry. -/
def Fits (r : Ref .registry) (w : World) : Dealing → Prop
  | .register classId description contractId _ =>
    (∃ s, classId.text? = some s) ∧ (∃ s, description.text? = some s) ∧
      ∃ s, contractId.text? = some s
  | .install i _ _ _ _ | .restore i => (w.row i : Installer).Over r
  | _ => True

/-- What a request captures, if it captures: the contract, and the capability that its service
is viewed as. -/
def captures? (w : World) : Dealing → Option (Value × Value)
  | .capture contractId capability => some (contractId, capability)
  | .install i _ _ _ _ => some ((w.row i : Installer).contractId, .capability .runtime)
  | _ => none

end Dealing

/-! ## What becomes of a registry -/

/-- What holds of a registry at any time: nothing was put in the place of a request, and it
holds nothing but proper entries and captures of them. -/
structure Sane (r : Ref .registry) (w : World) : Prop where
  intact : w.Intact
  sound : (w.row r : Registry).Sound

/-- What becomes of a registry at any time: things stay there, and so do captures. -/
structure Onward (r : Ref .registry) (w w' : World) : Prop where
  things : w.Extends w'
  captures (contract found : Value) (h : (w.row r : Registry).captureOf? contract = some found) :
    (w'.row r : Registry).captureOf? contract = some found

namespace Onward

variable {r : Ref .registry} {w w' w'' : World}

theorem refl (w : World) : Onward r w w := ⟨.refl w, fun _ _ h => h⟩

theorem trans (h : Onward r w w') (h' : Onward r w' w'') : Onward r w w'' :=
  ⟨h.things.trans h'.things, fun contract found hf =>
    h'.captures contract found (h.captures contract found hf)⟩

/-- Where the captures are the same, nothing but the things counts. -/
theorem of_captures_eq (h : w.Extends w')
    (hr : (w'.row r : Registry).captures = (w.row r : Registry).captures) : Onward r w w' where
  things := h
  captures contract found hf := by
    rw [Registry.captureOf?, hr]
    exact hf

theorem of_served (h : w.Served w') : Onward r w w' :=
  of_captures_eq (.of_served h) (by rw [h.row_registry r])

theorem of_alike (h : w.Alike w') : Onward r w w' := of_served (.of_alike h)

theorem of_captureStep {call : Caller} {contractId capability : Value} {capture : Capture}
    (h : CaptureStep call r contractId capability w w' capture) : Onward r w w' :=
  ⟨.of_captureStep h, fun _ _ hf => h.persists hf⟩

theorem register (e : Entry) : Onward r w (w.withRow r ((w.row r : Registry).register e)) :=
  of_captures_eq (.withRow_registry w r _) (by rw [World.row_withRow_self]; rfl)

theorem unregister (contract : Value) :
    Onward r w (w.withRow r ((w.row r : Registry).unregister contract)) :=
  of_captures_eq (.withRow_registry w r _) (by rw [World.row_withRow_self]; rfl)

theorem withRow_installer (i : Ref .installer) (installer : Installer) :
    Onward r w (w.withRow i installer) := of_captures_eq (.withRow_installer w i _) rfl

theorem withStandIn (layer : Overlay) : Onward r w (w.withStandIn layer) :=
  of_captures_eq (.withStandIn w layer) rfl

theorem installed (i : Ref .installer) (layer : Overlay) : Onward r w (w.installed r i layer) :=
  (withStandIn layer).trans ((register _).trans (withRow_installer i _))

end Onward

namespace Sane

variable {r : Ref .registry} {w w' : World} (h : Sane r w)
include h

theorem of_served (hs : w.Served w') : Sane r w' :=
  ⟨hs.intact h.intact, hs.row_registry r ▸ h.sound⟩

theorem of_alike (ha : w.Alike w') : Sane r w' := h.of_served (.of_alike ha)

theorem of_captureStep {call : Caller} {contractId capability : Value} {capture : Capture}
    (hc : CaptureStep call r contractId capability w w' capture) : Sane r w' :=
  ⟨hc.intact h.intact, hc.sound h.sound⟩

theorem withRow {reg : Registry} (hs : reg.Sound) : Sane r (w.withRow r reg) :=
  ⟨h.intact.congr rfl, (World.row_withRow_self w r reg).symm ▸ hs⟩

theorem withRow_installer (i : Ref .installer) (installer : Installer) :
    Sane r (w.withRow i installer) := ⟨h.intact.congr rfl, h.sound⟩

theorem withStandIn (layer : Overlay) : Sane r (w.withStandIn layer) :=
  ⟨h.intact.congr rfl, h.sound⟩

/-- A stand-in is put in place as a proper entry. -/
theorem installed {i : Ref .installer} (hc : (w.row i : Installer).classId.Telling)
    (hk : (w.row i : Installer).contractId.Telling) (layer : Overlay) :
    Sane r (w.installed r i layer) where
  intact := h.intact.congr rfl
  sound := by
    show ((w.withStandIn layer).withRow r ((w.row r : Registry).register
      ((w.row i : Installer).entryFor w.nextSerial w.nextProvider))).row r |>.Sound
    rw [World.row_withRow_self]
    exact h.sound.register ⟨hc, hk, ⟨_, rfl⟩, ⟨_, rfl⟩⟩

end Sane

/-! ## What a request can do -/

/-- All that a request can do to a state in which it was made. -/
inductive Dealing.Step (call : Caller) (r : Ref .registry) (w w' : World) : Dealing → Prop
  /-- Nothing but asking a provider, if that much. -/
  | served {d : Dealing} (served : w.Served w') : Step call r w w' d
  | registered {classId description contractId : Value} {p : Ref .provider}
      (proper : Entry.Proper ⟨w.nextSerial, classId, description, contractId, .ofRef p⟩)
      (placed : (w.withRow r ((w.row r : Registry).register
        ⟨w.nextSerial, classId, description, contractId, .ofRef p⟩)).Alike w') :
      Step call r w w' (.register classId description contractId p)
  | unregistered {contractId provider : Value}
      (removed : (w.withRow r ((w.row r : Registry).unregister contractId)).Alike w') :
      Step call r w w' (.unregister contractId provider)
  | captured {contractId capability : Value} {capture : Capture}
      (captured : CaptureStep call r contractId capability w w' capture) :
      Step call r w w' (.capture contractId capability)
  | refused {i : Ref .installer} {id name version platformVersion : Value} {capture : Capture}
      {w₁ : World}
      (captured : CaptureStep call r (w.row i : Installer).contractId (.capability .runtime)
        w w₁ capture)
      (made : w' = w₁.withStandIn (.standIn id name version platformVersion capture.service)) :
      Step call r w w' (.install i id name version platformVersion)
  | installed {i : Ref .installer} {id name version platformVersion : Value} {capture : Capture}
      {w₁ : World}
      (captured : CaptureStep call r (w.row i : Installer).contractId (.capability .runtime)
        w w₁ capture)
      (classId : (w.row i : Installer).classId.Telling)
      (contractId : (w.row i : Installer).contractId.Telling)
      (placed : (w₁.installed r i
        (.standIn id name version platformVersion capture.service)).Alike w') :
      Step call r w w' (.install i id name version platformVersion)
  | restored {i : Ref .installer} {serial : Nat} {e : Entry} {c : Ref .component}
      (captured : (w.row r : Registry).captureOf? (w.row i : Installer).contractId =
        some (Capture.toValue ⟨serial, e.toValue, .ofRef c⟩))
      (replaced : ((w.withRow r ((w.row r : Registry).register
        { e with serial := w.nextSerial })).withRow i
          { (w.row i : Installer) with current := .none }).Alike w') :
      Step call r w w' (.restore i)

namespace Dealing

variable {call : Caller} {r : Ref .registry} {w w' : World}

/-- A request does nothing else. -/
theorem step (h : Sane r w) (d : Dealing) (fits : d.Fits r w) :
    Step call r w (w.after (d.perform call r)) d := by
  cases d with
  | register classId description contractId p =>
    obtain ⟨hclass, hdescription, hcontract⟩ := fits
    rcases h.intact.register_cases call r h.sound hclass hdescription hcontract p with
      ⟨_, hrun, _⟩ | ⟨hp, _, hlike⟩
    · rw [perform, World.after_of_run hrun]
      exact .served (.refl w)
    · exact .registered hp hlike
  | unregister contractId provider =>
    rw [perform, World.after_bind_pure]
    rcases h.intact.unregister_cases call r h.sound contractId provider with
      ⟨_, hrun, _⟩ | ⟨_, _, _, _, _, _, hlike⟩
    · rw [World.after_of_run hrun]
      exact .served (.refl w)
    · exact .unregistered hlike
  | capture contractId capability =>
    rcases h.intact.captureOnce_cases call r h.sound contractId capability with
      ⟨_, hfailure⟩ | ⟨capture, _, hstep⟩
    · exact .served hfailure.served
    · exact .captured hstep
  | serve contractId capability =>
    exact .served (h.intact.served_getService call r h.sound contractId capability)
  | install i id name version platformVersion =>
    cases h.intact.install_cases call i fits h.sound id name version platformVersion with
    | unserved uncaptured _ => exact .served uncaptured.served
    | refused captured _ made _ => exact .refused captured made
    | installed captured classId contractId placed _ =>
      exact .installed captured classId contractId placed
  | restore i =>
    rw [perform, World.after_bind_pure]
    cases (h.intact.restore_cases call i fits h.sound).2 with
    | nothing _ same =>
      rw [same]
      exact .served (.refl w)
    | restored captured replaced => exact .restored captured replaced

namespace Step

variable {d : Dealing} (hd : Step call r w w' d)
include hd

theorem sane (h : Sane r w) : Sane r w' := by
  cases hd with
  | served served => exact h.of_served served
  | registered proper placed => exact (h.withRow (h.sound.register proper)).of_alike placed
  | unregistered removed => exact (h.withRow (h.sound.unregister _)).of_alike removed
  | captured captured => exact h.of_captureStep captured
  | refused captured made => exact made ▸ (h.of_captureStep captured).withStandIn _
  | @installed i _ _ _ _ _ _ captured classId contractId placed =>
    have hrow := captured.row_installer i
    have hsane := (h.of_captureStep captured).installed (hrow ▸ classId) (hrow ▸ contractId)
    exact (hsane _).of_alike placed
  | restored captured replaced =>
    have hp := (h.sound.of_captured captured).1
    have hsane := h.withRow (h.sound.register (hp.anew w.nextSerial))
    exact (hsane.withRow_installer _ _).of_alike replaced

theorem onward : Onward r w w' := by
  cases hd with
  | served served => exact .of_served served
  | registered _ placed => exact (Onward.register _).trans (.of_alike placed)
  | unregistered removed => exact (Onward.unregister _).trans (.of_alike removed)
  | captured captured => exact .of_captureStep captured
  | refused captured made => exact made ▸ (Onward.of_captureStep captured).trans (.withStandIn _)
  | installed captured _ _ placed =>
    exact (Onward.of_captureStep captured).trans ((Onward.installed _ _).trans (.of_alike placed))
  | restored _ replaced =>
    exact (Onward.register _).trans ((Onward.withRow_installer _ _).trans (.of_alike replaced))

/-- An entry that is there was there before, or was registered directly, or else its contract
is captured. -/
theorem entry_cases (hs : (w.row r : Registry).Sound) {contract found : Value}
    (hf : (w'.row r : Registry).entryOf? contract = some found) :
    (w.row r : Registry).entryOf? contract = some found ∨
      (∃ classId description contractId p, d = .register classId description contractId p ∧
        found = Entry.toValue ⟨w.nextSerial, classId, description, contractId, .ofRef p⟩) ∨
      ∃ captured, (w'.row r : Registry).captureOf? contract = some captured := by
  cases hd with
  | served served =>
    rw [served.row_registry] at hf
    exact .inl hf
  | @registered classId description contractId p _ placed =>
    rw [placed.row_registry, World.row_withRow_self, Registry.entryOf?_register] at hf
    by_cases hc : (contractId == contract) = true
    · rw [if_pos hc] at hf
      exact .inr (.inl ⟨classId, description, contractId, p, rfl, (Option.some.inj hf).symm⟩)
    · rw [if_neg hc] at hf
      exact .inl hf
  | @unregistered contractId _ removed =>
    rw [removed.row_registry, World.row_withRow_self, Registry.entryOf?_unregister] at hf
    by_cases hc : (contractId == contract) = true
    · rw [if_pos hc] at hf
      cases hf
    · rw [if_neg hc] at hf
      exact .inl hf
  | captured captured =>
    rw [captured.entryOf?] at hf
    exact .inl hf
  | refused captured made =>
    rw [made, World.row_withStandIn_registry, captured.entryOf?] at hf
    exact .inl hf
  | @installed i _ _ _ _ capture w₁ captured _ _ placed =>
    rw [placed.row_registry, World.row_installed_registry, Registry.entryOf?_register] at hf
    by_cases hc : ((w₁.row i : Installer).contractId == contract) = true
    · -- An install has captured its contract before.
      refine .inr (.inr ⟨capture.toValue, ?_⟩)
      rw [placed.row_registry, World.row_installed_registry, Registry.captureOf?_register]
      rw [captured.row_installer] at hc
      exact (OrderedMap.get?_congr _ hc).symm.trans (captured.captured hs)
    · rw [Installer.entryFor, if_neg hc, captured.entryOf?] at hf
      exact .inl hf
  | @restored i serial e c captured replaced =>
    rw [replaced.row_registry, World.row_withRow_installer_registry, World.row_withRow_self,
      Registry.entryOf?_register] at hf
    by_cases hc : (e.contractId == contract) = true
    · -- What is restored is what its contract was captured with.
      refine .inr (.inr ⟨Capture.toValue ⟨serial, e.toValue, .ofRef c⟩, ?_⟩)
      have hsame := (hs.of_captured captured).2.1
      rw [replaced.row_registry, World.row_withRow_installer_registry, World.row_withRow_self,
        Registry.captureOf?_register]
      exact (OrderedMap.get?_congr _ (BEq.trans (BEq.symm hsame) hc)).symm.trans captured
    · rw [if_neg hc] at hf
      exact .inl hf

/-- What becomes captured is the entry of that moment, with what its provider hands out. -/
theorem first_capture {contract found : Value}
    (hn : (w.row r : Registry).captureOf? contract = none)
    (hf : (w'.row r : Registry).captureOf? contract = some found) :
    ∃ contractId capability, d.captures? w = some (contractId, capability) ∧
      (contractId == contract) = true ∧ FirstCapture call r contractId capability w found := by
  cases hd with
  | served served =>
    rw [served.row_registry, hn] at hf
    cases hf
  | registered _ placed =>
    rw [placed.row_registry, World.row_withRow_self, Registry.captureOf?_register, hn] at hf
    cases hf
  | unregistered removed =>
    rw [removed.row_registry, World.row_withRow_self, Registry.captureOf?_unregister, hn] at hf
    cases hf
  | captured captured => exact ⟨_, _, rfl, captured.captured_only hn hf⟩
  | refused captured made =>
    rw [made] at hf
    exact ⟨_, _, rfl, captured.captured_only hn hf⟩
  | installed captured _ _ placed =>
    rw [placed.row_registry, World.row_installed_registry, Registry.captureOf?_register] at hf
    exact ⟨_, _, rfl, captured.captured_only hn hf⟩
  | restored _ replaced =>
    rw [replaced.row_registry, World.row_withRow_installer_registry, World.row_withRow_self,
      Registry.captureOf?_register, hn] at hf
    cases hf

end Step

/-- A request is about no other registry. -/
theorem Step.row_registry_of_ne {d : Dealing} (hd : Step call r w w' d) {other : Ref .registry}
    (hne : other ≠ r) : w'.row other = (w.row other : Registry) := by
  cases hd with
  | served served => exact served.row_registry other
  | registered _ placed | unregistered placed =>
    rw [placed.row_registry, World.row_withRow, if_neg hne]
  | captured captured => exact captured.row_registry_of_ne hne
  | refused captured made =>
    rw [made, World.row_withStandIn_registry, captured.row_registry_of_ne hne]
  | installed captured _ _ placed =>
    rw [placed.row_registry, World.installed, World.row_withRow_installer_registry,
      World.row_withRow, if_neg hne, World.row_withStandIn_registry,
      captured.row_registry_of_ne hne]
  | restored _ replaced =>
    rw [replaced.row_registry, World.row_withRow_installer_registry, World.row_withRow,
      if_neg hne]

/-- A request changes no component. There may be one more of them, which is an overlay without
annotations. -/
theorem Step.components {d : Dealing} (hd : Step call r w w' d) :
    w'.components = w.components ∨ ∃ layer : Overlay, layer.annotations = .empty ∧
      w'.components = w.components.push (.overlay layer) := by
  cases hd with
  | served served => exact .inl served.components
  | registered _ placed | unregistered placed =>
    exact .inl (World.Served.of_alike placed).components
  | captured captured => exact .inl captured.components
  | @refused i id name version platformVersion capture w₁ captured made =>
    refine .inr ⟨.standIn id name version platformVersion capture.service, rfl, ?_⟩
    rw [made, World.withStandIn, captured.components]
  | @installed i id name version platformVersion capture w₁ captured _ _ placed =>
    refine .inr ⟨.standIn id name version platformVersion capture.service, rfl,
      (World.Served.of_alike placed).components.trans ?_⟩
    show (World.withStandIn _ _).components = _
    rw [World.withStandIn, captured.components]
  | restored _ replaced => exact .inl (World.Served.of_alike replaced).components

/-- An install changes at most which stand-in is the current one of the installer. -/
theorem Step.current {i : Ref .installer} {id name version platformVersion : Value}
    (h : Step call r w w' (.install i id name version platformVersion)) :
    ∃ current, w'.row i = { (w.row i : Installer) with current := current } := by
  cases h with
  | served served => exact ⟨_, served.row_installer i⟩
  | refused captured made =>
    rw [made]
    exact ⟨_, captured.row_installer i⟩
  | @installed _ _ _ _ _ _ w₁ captured _ _ placed =>
    rw [placed.row_installer, World.installed, World.row_withRow_self, captured.row_installer]
    exact ⟨_, rfl⟩

end Dealing

/-! ## Asking no provider -/

/-- The state with other providers. -/
def World.withProviders (w : World) (providers : Table Provider) : World :=
  { w with providers := providers }

/-- An action that asks no provider, and may add some. As many providers of any kind in the
place of those that are there are left alone, and make no difference otherwise. Those
that count would have counted. -/
def Unasked {α : Type} (w : World) (a : Action α) : Prop :=
  ∃ added : List Provider, ∀ t : Table Provider, t.size = w.providers.size →
    ((w.after a).withProviders ⟨t.rows ++ added⟩).Alike ((w.withProviders t).after a)

namespace Sane

variable {r : Ref .registry} {w : World} (h : Sane r w)
include h

theorem withProviders (t : Table Provider) : Sane r (w.withProviders t) :=
  ⟨h.intact.congr rfl, h.sound⟩

/-- What is captured already is given back without asking any provider. -/
theorem unasked_captureOnce (call : Caller) {contractId found : Value}
    (hf : (w.row r : Registry).captureOf? contractId = some found) (capability : Value) :
    Unasked w (captureOnce call r contractId capability) := by
  refine ⟨[], fun t _ => ?_⟩
  have hrun := h.intact.run_captureOnce_of_captured call r h.sound hf capability
  have ht := h.withProviders t
  have hrun' := ht.intact.run_captureOnce_of_captured call r ht.sound hf capability
  rw [World.after_of_run hrun, World.after_of_run hrun', List.append_nil]
  exact .refl _

/-- A stand-in is put over what is captured already without asking any provider. -/
theorem unasked_install (call : Caller) {i : Ref .installer} (hi : (w.row i : Installer).Over r)
    {found : Value}
    (hf : (w.row r : Registry).captureOf? (w.row i : Installer).contractId = some found)
    (id name version platformVersion : Value) :
    Unasked w (install call i id name version platformVersion) := by
  refine ⟨[.overlay (.ofRef w.nextComponent)], fun t hsize => ?_⟩
  obtain ⟨capture, rfl⟩ := h.sound.capture_of_captureOf? hf
  have ht := h.withProviders t
  have hnext : (w.withProviders t).nextProvider = w.nextProvider := by
    show (⟨t.size⟩ : Ref .provider) = ⟨w.providers.size⟩
    rw [hsize]
  rcases h.intact.install_of_captured call i hi h.sound hf id name version platformVersion with
      ⟨hblank, hafter⟩ | ⟨htelling, hlike⟩ <;>
    rcases ht.intact.install_of_captured call i hi ht.sound hf id name version platformVersion with
      ⟨hblank', hafter'⟩ | ⟨htelling', hlike'⟩
  · rw [hafter, hafter']
    exact .refl _
  · exact absurd htelling' hblank
  · exact absurd htelling hblank'
  · obtain ⟨log, serial, hafter⟩ := hlike
    revert hafter hlike'
    generalize Overlay.standIn id name version platformVersion capture.service = layer
    intro hlike' hafter
    have hplaced : (w.installed r i layer).withProviders
        ⟨t.rows ++ [.overlay (.ofRef w.nextComponent)]⟩ =
          (w.withProviders t).installed r i layer := by
      rw [World.installed, World.installed, hnext]
      rfl
    have hretold : ((w.withProviders t).installed r i layer).Alike
        (((w.installed r i layer).retold log serial).withProviders
          ⟨t.rows ++ [.overlay (.ofRef w.nextComponent)]⟩) := by
      rw [← hplaced]
      exact ⟨log, serial, rfl⟩
    rw [hafter]
    exact hretold.symm.trans hlike'

end Sane

end Understudy

import Understudy.Proofs.MirroredServices

/-!
# Installers in states that mirror each other

Installers in both states fall back to the same component, put the same stand-in in place, and
register again what was captured.

## Main statements

* `Tally.install`: a stand-in is installed in both, or in neither for the same reason.
* `Tally.restore`: what was captured is registered again in both.
-/

namespace Understudy

/-! ## Stand-ins -/

/-- A stand-in that is made of simple values answers by simple values. -/
theorem Overlay.simple_standIn {id name version platformVersion : Value} (hid : id.Simple)
    (hname : name.Simple) (hversion : version.Simple) (hplatform : platformVersion.Simple)
    (fallback : Value) {f : Field} {v : Value}
    (h : (Overlay.standIn id name version platformVersion fallback).overrides.get? f = some v) :
    v.Simple := by
  rw [get?_standIn] at h
  cases f with
  | vendor => cases h
  | _ =>
    obtain rfl := Option.some.inj h
    first | assumption | trivial

namespace World

/-- What an installer falls back to is there. -/
theorem Regular.lt_size_of_original {w : World} (h : w.Regular) (call : Caller) (i : Ref .installer)
    (hafter : (w.after (captureOriginal call i)).Regular) {c : Ref .component}
    (hc : w.outcome (captureOriginal call i) = .ok (.ofRef c)) :
    c.index < (w.after (captureOriginal call i)).components.size := by
  have hi : (w.row i : Installer).Regular := h.installer i
  rcases hi.registry with hnone | ⟨r, hr⟩
  · have hrefused := w.run_request_none call .captureOnce
      [(w.row i : Installer).contractId, .capability .runtime] fun r =>
        captureOnce call r (w.row i : Installer).contractId (.capability .runtime)
    rw [← hnone] at hrefused
    rw [captureOriginal, outcome, run_bind_of_run (run_fetch w i),
      run_bind_of_error (outcome_of_run hrefused)] at hc
    cases hc
  · have hne : (w.row i : Installer).registry ≠ .none := hr ▸ Value.ofRef_ne_none r
    have hs : (w.row r : Registry).Sound := (h.registry r).sound
    rcases h.intact.captureOriginal_cases call i ⟨hr, hi.classId hne, hi.contractId hne⟩ hs with
      ⟨⟨fault, herror⟩, _⟩ | ⟨capture, hok, hstep⟩
    · rw [herror] at hc
      cases hc
    · rw [hok] at hc
      exact (hafter.registry r).service _ capture c (hstep.captured hs) (Except.ok.inj hc)

theorem Mirrors.nextComponent {w v : World} (h : w.Mirrors v) :
    w.nextComponent = v.nextComponent := congrArg Ref.mk (h.size .component)

theorem Mirrors.nextProvider {w v : World} (h : w.Mirrors v) : w.nextProvider = v.nextProvider :=
  congrArg Ref.mk (h.size .provider)

/-- A stand-in that is new to both. -/
theorem Mirrors.withStandIn {w v : World} (h : w.Mirrors v) {layer : Overlay}
    (hlayer : (Component.overlay layer).Regular w.nextComponent) :
    (w.withStandIn layer).Mirrors (v.withStandIn layer) := by
  have hlayer' : (Component.overlay layer).Regular v.nextComponent := h.nextComponent ▸ hlayer
  have hpushed := h.push .component (h.left.push_component hlayer)
    (h.right.push_component hlayer') rfl
  have hprovider (c : Ref .component) : (Provider.overlay (.ofRef c)).Regular :=
    Value.names_ofRef c
  refine hpushed.push .provider (hpushed.left.push_provider (hprovider w.nextComponent))
    (hpushed.right.push_provider (hprovider v.nextComponent)) ?_
  rw [h.nextComponent]

/-- What is current in both is the same stand-in, or none. -/
theorem Mirrors.withCurrent {w v : World} (h : w.Mirrors v) (i : Ref .installer)
    (current : Value) :
    (w.withRow i { (w.row i : Installer) with current := current }).Mirrors
      (v.withRow i { (v.row i : Installer) with current := current }) := by
  refine h.withRow i (h.left.withRow_installer i { h.left.installer i with })
    (h.right.withRow_installer i { h.right.installer i with }) ?_
  show { (w.row i : Installer).guise with current := current.unstamped } =
    { (v.row i : Installer).guise with current := current.unstamped }
  rw [show (w.row i : Installer).guise = _ from h.row i]
  rfl

/-- Over one registry in both, or over none. -/
theorem Mirrors.installer_cases {w v : World} (h : w.Mirrors v) (i : Ref .installer) :
    ((w.row i : Installer).registry = .none ∧ (v.row i : Installer).registry = .none) ∨
      ∃ r, (w.row i : Installer).Over r ∧ (v.row i : Installer).Over r ∧
        (w.row i : Installer).classId.Alike (v.row i : Installer).classId ∧
        (w.row i : Installer).contractId.Alike (v.row i : Installer).contractId := by
  have hrow : (w.row i : Installer).guise = (v.row i : Installer).guise := h.row i
  have hregistry : (w.row i : Installer).registry.Alike (v.row i : Installer).registry :=
    congrArg Installer.registry hrow
  have hsame := hregistry.eq_of_names (h.left.installer i).registry
  rcases (h.left.installer i).registry with hnone | ⟨r, hr⟩
  · exact .inl ⟨hnone, hsame.trans hnone⟩
  · have hne : (w.row i : Installer).registry ≠ .none := hr ▸ Value.ofRef_ne_none r
    have hne' : (v.row i : Installer).registry ≠ .none := hsame ▸ hne
    exact .inr ⟨r, ⟨hr, (h.left.installer i).classId hne, (h.left.installer i).contractId hne⟩,
      ⟨hsame.trans hr, (h.right.installer i).classId hne', (h.right.installer i).contractId hne'⟩,
      congrArg Installer.classId hrow, congrArg Installer.contractId hrow⟩

/-- An installer over no registry has nothing to ask for the captured service. -/
theorem run_readAttribute_original_none {w : World} (call : Caller) {i : Ref .installer}
    (hi : (w.row i : Installer).registry = .none) :
    w.run (readAttribute call (.ofRef i) "original") =
      (.error (.noAttribute "NoneType" Method.captured.word), w) := by
  have hlook : w.look (.ofRef i) "original" = .ok (.captured i) := rfl
  have htaker : w.taker? .registry .none .captured = none := rfl
  have hnothing : w.run (readWithin call 999 .none Method.captured.word) =
      (.error (.noAttribute "NoneType" Method.captured.word), w) := by
    show w.run (readWithin call (998 + 1) .none Method.captured.word) = _
    rw [readWithin, run_bind_of_run (run_get w), w.look_none .captured]
    rfl
  show w.run (readWithin call (999 + 1) (.ofRef i) "original") = _
  rw [readWithin, run_bind, run_get]
  simp only [hlook, run_bind, run_orFail, run_fetch, hi, run_get, htaker, hnothing]

/-- The current stand-in of an installer is read, unless something else was assigned. -/
theorem look_current (w : World) (i : Ref .installer) :
    w.look (.ofRef i) "current" =
      .ok (.held ((w.assigned? i.object "current").getD (w.row i : Installer).current)) := by
  have hproperty : w.property? i.object "current" = none := rfl
  have hheld : w.held? i.object "current" = some (w.row i : Installer).current := rfl
  show w.lookObject i.object "current" = _
  rw [lookObject, hproperty, hheld]
  cases w.assigned? i.object "current" <;> rfl

end World

/-- Entries that are alike are alike under new serial numbers. -/
theorem Entry.Alike.anew {e e' : Entry} (h : e.Alike e') (serial serial' : Nat) :
    Entry.Alike { e with serial := serial } { e' with serial := serial' } :=
  ⟨h.left.anew serial, h.right.anew serial', h.same⟩

/-! ## Installing -/

namespace Tally

variable {w v : World} (h : w.Mirrors v) (call : Caller) (i : Ref .installer)
include h

/-- Both fall back to the same component. -/
theorem captureOriginal :
    Tally (Value.One .component) w v (Understudy.captureOriginal call i)
      (Understudy.captureOriginal call i) := by
  refine bind_run (World.run_fetch w i) (World.run_fetch v i) ?_
  rcases h.installer_cases i with ⟨hnone, hnone'⟩ | ⟨r, hover, hover', _, hcontract⟩
  · rw [hnone, hnone']
    exact bind (S := fun _ _ => False) (request_none h call _ _ _ _ _) fun _ _ _ _ _ hno => hno.elim
  · obtain ⟨s, hs⟩ := hover.contractId
    rw [hover.registry, hover'.registry]
    refine bind (request h call r rfl rfl _ _ (captureOnce h call r hs hcontract .runtime))
      fun x y w v h hxy => ?_
    obtain ⟨k, l, e, e', c, _, rfl, rfl⟩ := hxy
    exact pure h ⟨c, rfl, rfl⟩

theorem tellInstalled {id version platformVersion : Value} (hid : id.Simple)
    (hversion : version.Simple) (hplatform : platformVersion.Simple) (identity : Ref .component) :
    Tally Value.Alike w v (Understudy.tellInstalled id version platformVersion identity)
      (Understudy.tellInstalled id version platformVersion identity) := by
  refine bind (shown h hid (.refl id)) fun _ _ w v h _ => ?_
  refine bind (shown h hversion (.refl version)) fun _ _ w v h _ => ?_
  refine bind (shown h hplatform (.refl platformVersion)) fun _ _ w v h _ => ?_
  exact bind (emit h _ _ _ _ _) fun _ _ w v h _ => pure h (.refl _)

/-- What a registration came to is not told. -/
theorem askToRegister {registry registry' classId contractId classId' contractId' : Value}
    (hr : registry.Names .registry) (hregistry : registry.Alike registry')
    (hs : registry ≠ .none → ∃ s, classId.text? = some s)
    (ht : registry ≠ .none → ∃ t, contractId.text? = some t) (hclass : classId.Alike classId')
    (hcontract : contractId.Alike contractId') {description description' : Value} {d : String}
    (hd : description.text? = some d) (hdescription : description.Alike description')
    (p : Ref .provider) :
    Tally (fun _ _ => True) w v
      (Understudy.askToRegister call registry classId description contractId (.ofRef p))
      (Understudy.askToRegister call registry' classId' description' contractId' (.ofRef p)) := by
  refine bind (S := Value.Alike)
    (request_names h call hr hregistry (fun _ _ => rfl) _ _ fun r hthere => ?_)
    fun _ _ w v h _ => pure h trivial
  have hne : registry ≠ .none := hthere ▸ Value.ofRef_ne_none r
  obtain ⟨s, hs⟩ := hs hne
  obtain ⟨t, ht⟩ := ht hne
  exact register h call r hs hd ht hclass hdescription hcontract p

theorem putInPlace {id version platformVersion : Value} (hid : id.Simple)
    (hversion : version.Simple) (hplatform : platformVersion.Simple) (identity : Ref .component)
    (provider : Ref .provider) :
    Tally Value.Alike w v
      (Understudy.putInPlace call i id version platformVersion identity provider)
      (Understudy.putInPlace call i id version platformVersion identity provider) := by
  have hi : (w.row i : Installer).Regular := h.left.installer i
  have hrow : (w.row i : Installer).guise = (v.row i : Installer).guise := h.row i
  refine bind_run (World.run_fetch w i) (World.run_fetch v i) ?_
  have hdescription : (Value.ofText standInDescription).text? = some standInDescription := rfl
  refine bind (askToRegister h call hi.registry (congrArg Installer.registry hrow) hi.classId
    hi.contractId (congrArg Installer.classId hrow) (congrArg Installer.contractId hrow)
    hdescription (.refl _) provider) fun _ _ w v h _ => ?_
  exact bind_later (World.run_update w i _) (World.run_update v i _) (.of_eq rfl rfl rfl)
    (.of_eq rfl rfl rfl) (tellInstalled (h.withCurrent i _) hid hversion hplatform identity)

/-- A stand-in that is made in both is put in place in both, or in neither. -/
theorem standInOver {id name version platformVersion : Value} (hid : id.Simple)
    (hname : name.Simple) (hversion : version.Simple) (hplatform : platformVersion.Simple)
    {c : Ref .component} (hc : c.index < w.components.size) :
    Tally Value.Alike w v
      (Understudy.standInOver call i id name version platformVersion (.ofRef c))
      (Understudy.standInOver call i id name version platformVersion (.ofRef c)) := by
  have hmade : (w.withStandIn (.standIn id name version platformVersion (.ofRef c))).Mirrors
      (v.withStandIn (.standIn id name version platformVersion (.ofRef c))) :=
    h.withStandIn ⟨fun f x => Overlay.simple_standIn hid hname hversion hplatform _, c, rfl, hc⟩
  refine later (run_standInOver w call i id name version platformVersion (.ofRef c))
    (run_standInOver v call i id name version platformVersion (.ofRef c)) (.pushed w _ _)
    (.pushed v _ _) ?_
  rw [← h.nextComponent, ← h.nextProvider]
  exact putInPlace hmade call i hid hversion hplatform _ _

/-- Both install a stand-in over the same component, or fail for the same reason. -/
theorem install {id name version platformVersion : Value} (hid : id.Simple) (hname : name.Simple)
    (hversion : version.Simple) (hplatform : platformVersion.Simple) :
    Tally Value.Alike w v (Understudy.install call i id name version platformVersion)
      (Understudy.install call i id name version platformVersion) := by
  refine congr (h.left.intact.run_install call i id name version platformVersion)
    (h.right.intact.run_install call i id name version platformVersion) ?_
  have hcapture := captureOriginal h call i
  refine hcapture.bind_of_outcome fun x y hx _ hxy => ?_
  obtain ⟨c, rfl, rfl⟩ := hxy
  exact standInOver hcapture.mirrors call i hid hname hversion hplatform
    (h.left.lt_size_of_original call i hcapture.mirrors.left hx)

/-- What was captured is registered again in both. -/
theorem restore :
    Tally (fun _ _ => True) w v (Understudy.restore call i) (Understudy.restore call i) := by
  have hw := h.left.intact
  have hv := h.right.intact
  rcases h.installer_cases i with ⟨hnone, hnone'⟩ | ⟨r, hover, hover', _, hcontract⟩
  · refine bind_run (hw.run_enter _) (hv.run_enter _) ?_
    refine bind_run (World.run_fetch w i) (World.run_fetch v i) ?_
    rw [hnone, hnone']
    exact bind (S := fun _ _ => False) (request_none h call _ _ _ _ _) fun _ _ _ _ _ hno => hno.elim
  · obtain ⟨s, hs⟩ := hover.contractId
    rcases h.capture_cases r hs hcontract with ⟨hnone, hnone'⟩ | ⟨k, l, e, e', c, he, hsome, hsome'⟩
    · exact settled (hw.run_restore_of_uncaptured call i hover hnone)
        (hv.run_restore_of_uncaptured call i hover' hnone') (.result trivial) h
    · obtain ⟨_, _, hrun⟩ :=
        hw.run_restore_of_captured call i hover (h.left.registry r).sound he.left hsome
      obtain ⟨_, _, hrun'⟩ :=
        hv.run_restore_of_captured call i hover' (h.right.registry r).sound he.right hsome'
      have hput := h.register r (he.anew w.nextSerial v.nextSerial)
      exact of_run hrun hrun' (.result trivial)
        ((hput.withCurrent i .none).alike ⟨_, _, rfl⟩ ⟨_, _, rfl⟩) (.of_eq rfl rfl rfl)
        (.of_eq rfl rfl rfl)

/-- Both answer with the same first registered service, or with none. -/
theorem original :
    Tally Value.Alike w v (readAttribute call (.ofRef i) "original")
      (readAttribute call (.ofRef i) "original") := by
  have hw := h.left.intact
  have hv := h.right.intact
  rcases h.installer_cases i with ⟨hnone, hnone'⟩ | ⟨r, hover, hover', _, hcontract⟩
  · exact settled (World.run_readAttribute_original_none call hnone)
      (World.run_readAttribute_original_none call hnone') (.fault _) h
  · obtain ⟨s, hs⟩ := hover.contractId
    obtain ⟨t, ht⟩ := hover'.contractId
    have hk := Value.unhashable?_of_text? hs
    have hk' := Value.unhashable?_of_text? ht
    refine congr (hw.run_readAttribute_original call i hover.registry hk)
      (hv.run_readAttribute_original call i hover'.registry hk') ?_
    rcases h.capture_cases r hs hcontract with ⟨hnone, hnone'⟩ | ⟨k, l, e, e', c, he, hsome, hsome'⟩
    · rw [hnone, hnone']
      exact pure h (.refl _)
    · rw [hsome, hsome']
      exact settled rfl rfl (.result (.refl (.ofRef c))) h

/-- The same stand-in is current in both, or none. -/
theorem current :
    Tally Value.Alike w v (readAttribute call (.ofRef i) "current")
      (readAttribute call (.ofRef i) "current") := by
  have hcurrent : (w.row i : Installer).current.Alike (v.row i : Installer).current :=
    congrArg Installer.current (h.row i)
  refine settled (run_readAttribute_held call (w.look_current i))
    (run_readAttribute_held call (v.look_current i)) (.result ?_) h
  rw [h.assigned?]
  cases v.assigned? i.object "current" with
  | none => exact hcurrent
  | some found => exact .refl found

end Tally

end Understudy

import Understudy.Proofs.Looking

/-!
# Serving a contract

A provider is asked for its component, viewed as a capability. In an intact state it
hands out what it holds or fails, and either way nothing changes but the log and the
number of times the provider was asked.

## Main definitions

* `World.Served`: nothing changed but the log and the counts of the providers.
* `Provider.handOut`: what a provider hands out, given the view of its component.

## Main statements

* `World.Intact.served_createFrom`: asking a provider changes no more than that.
* `World.Intact.outcome_createFrom`: what is handed out is the provider's component.
* `World.Intact.run_createFrom_overlay`: an overlay is handed out as any capability.
-/

namespace Understudy

/-! ## What asking changes -/

/-- Two states that differ in the log, in the supply of serial numbers and in how often
the providers were asked, at most. -/
structure World.Served (w w' : World) : Prop where
  /-- Nothing else is different. -/
  frame : w' = { w with providers := w'.providers, log := w'.log, nextSerial := w'.nextSerial }
  /-- There are as many providers. -/
  size : w'.providers.size = w.providers.size
  /-- They differ in their counts at most. -/
  count (p : Ref .provider) :
    (w'.row p : Provider).withCalls .none = (w.row p : Provider).withCalls .none

/-- How often a provider was asked has nothing to do with what it hands out. -/
theorem Provider.component_withCalls (p : Provider) (calls : Value) :
    (p.withCalls calls).component = p.component := by
  cases p <;> rfl

namespace World.Served

variable {w w' w'' : World}

theorem of_alike (h : w.Alike w') : w.Served w' := by
  obtain ⟨log, serial, rfl⟩ := h
  exact ⟨rfl, rfl, fun _ => rfl⟩

theorem refl (w : World) : w.Served w := of_alike (.refl w)

theorem trans (h : w.Served w') (h' : w'.Served w'') : w.Served w'' where
  frame := by rw [h'.frame, h.frame]
  size := h'.size.trans h.size
  count p := (h'.count p).trans (h.count p)

theorem row_registry (h : w.Served w') (r : Ref .registry) : w'.row r = w.row r := by
  rw [h.frame]
  rfl

theorem row_component (h : w.Served w') (c : Ref .component) : w'.row c = w.row c := by
  rw [h.frame]
  rfl

theorem row_installer (h : w.Served w') (i : Ref .installer) : w'.row i = w.row i := by
  rw [h.frame]
  rfl

theorem row_session (h : w.Served w') (s : Ref .session) : w'.row s = w.row s := by
  rw [h.frame]
  rfl

theorem components (h : w.Served w') : w'.components = w.components := by rw [h.frame]

theorem intact (h : w.Served w') (hw : w.Intact) : w'.Intact :=
  hw.congr (by rw [h.frame])

theorem component (h : w.Served w') (p : Ref .provider) :
    (w'.row p : Provider).component = (w.row p : Provider).component := by
  rw [← Provider.component_withCalls, h.count p, Provider.component_withCalls]

end World.Served

/-! ## Viewing a component -/

section

variable (call : Caller) (capability : Value)

theorem quiet_queryInterface (c : Ref .component) :
    Quiet (queryInterface call c capability) := by
  refine (Quiet.needKey capability).bind fun _ => (Quiet.fetch c).bind fun row => ?_
  refine Quiet.ite (Quiet.pure _) ?_
  refine (quiet_readAttribute call capability (by decide)).bind fun label => ?_
  exact (Quiet.shown label).bind fun _ => Quiet.throw _

/-- A component is viewed as itself, and only as what it declares. -/
theorem outcome_queryInterface {w : World} {c : Ref .component} {view : Value}
    (h : w.outcome (queryInterface call c capability) = .ok view) :
    view = .ofRef c ∧ (w.row c : Component).capabilities.any (· == capability) = true := by
  unfold queryInterface at h
  obtain ⟨_, _, h⟩ := World.outcome_bind_eq_ok.1 h
  rw [World.after, World.run_needKey] at h
  obtain ⟨row, hrow, h⟩ := World.outcome_bind_eq_ok.1 h
  rw [World.outcome, World.run_fetch] at hrow
  obtain rfl := Except.ok.inj hrow
  rw [World.after, World.run_fetch] at h
  by_cases hc : (w.row c : Component).capabilities.any (· == capability) = true
  · rw [if_pos hc] at h
    exact ⟨(Except.ok.inj h).symm, hc⟩
  · -- What it does not declare is refused, whatever its name is.
    rw [if_neg hc] at h
    obtain ⟨_, _, h⟩ := World.outcome_bind_eq_ok.1 h
    obtain ⟨_, _, h⟩ := World.outcome_bind_eq_ok.1 h
    cases h

/-- What a component declares it can be viewed as. -/
theorem run_queryInterface {w : World} {c : Ref .component} (hk : capability.unhashable? = none)
    (hc : (w.row c : Component).capabilities.any (· == capability) = true) :
    w.run (queryInterface call c capability) = (.ok (.ofRef c), w) := by
  simp only [queryInterface, World.run_bind, World.run_needKey, hk, World.run_fetch,
    if_pos hc, World.run_pure]

end

/-- The name of a capability is its own, unless another one was assigned to it. -/
theorem run_readAttribute_name {w : World} (call : Caller) {c : Capability}
    (h : w.assigned.get? (.capability c, "name") = none) :
    w.run (readAttribute call (.capability c) "name") = (.ok (.ofText c.label), w) := by
  refine run_readAttribute_held call ?_
  show w.lookPlain (.capability c) "name" = _
  have hheld : w.leafHeld? (.capability c) "name" = some (.ofText c.label) := by
    show ((w.assigned.get? (.capability c, "name")).or _) = _
    rw [h]
    rfl
  dsimp only [World.lookPlain]
  rw [if_neg (by decide), hheld]

/-- What a component does not declare it is no view of. -/
theorem run_queryInterface_undeclared {w : World} (call : Caller) {c : Ref .component}
    {capability : Capability} (h : w.assigned.get? (.capability capability, "name") = none)
    (hc : (w.row c : Component).capabilities.any (· == .capability capability) = false) :
    w.run (queryInterface call c (.capability capability)) =
      (.error (.noInterface capability.label), w) := by
  have hkey : w.run (needKey (.capability capability)) = (.ok (), w) := World.run_needKey w _
  rw [queryInterface, World.run_bind_of_run hkey, World.run_bind_of_run (World.run_fetch w c), hc,
    if_neg Bool.false_ne_true, World.run_bind_of_run (run_readAttribute_name call h)]
  rfl

/-! ## Asking a provider -/

/-- Only a provider that is there counts. -/
theorem Provider.lt_size_of_calls? {w : World} {p : Ref .provider} {calls : Value}
    (h : (w.row p : Provider).calls? = some calls) : p.index < w.providers.size := by
  rcases Nat.lt_or_ge p.index w.providers.size with hlt | hge
  · exact hlt
  · have hrow : (w.row p : Provider) = .host .none := Table.get_of_size_le _ hge
    rw [hrow] at h
    cases h

/-- Counting changes the count. -/
theorem served_withCalls {w : World} {p : Ref .provider} (hp : p.index < w.providers.size)
    (calls : Value) : w.Served (w.withRow p ((w.row p : Provider).withCalls calls)) where
  frame := rfl
  size := Table.size_set _ hp _
  count other := by
    rw [World.row_withRow]
    by_cases h : other = p
    · rw [if_pos h, h]
      cases (w.row p : Provider) <;> rfl
    · rw [if_neg h]

theorem served_countRequest (w : World) (p : Ref .provider) :
    w.Served (w.after (countRequest p)) := by
  rw [World.after, countRequest, World.run_bind, World.run_fetch]
  cases hc : (w.row p : Provider).calls? with
  | none =>
    simp only [hc]
    exact .refl w
  | some calls =>
    have hp : p.index < w.providers.size := Provider.lt_size_of_calls? hc
    simp only [hc, World.run_bind, World.run_incremented]
    cases w.increment calls 1 with
    | error fault => exact .refl w
    | ok sum =>
      let w' : World := { w with nextSerial := w.nextSerial + 1 }
      have ha : w.Served w' := .of_alike ⟨w.log, w.nextSerial + 1, rfl⟩
      exact ha.trans (served_withCalls (w := w') hp _)

theorem quiet_failAtFirst (p : Ref .provider) : Quiet (failAtFirst p) := by
  refine (Quiet.fetch p).bind fun provider => ?_
  cases provider with
  | flaky component calls failures =>
    refine Quiet.get.bind fun w => (Quiet.orFail _).bind fun early => ?_
    exact Quiet.ite ((Quiet.shown calls).bind fun _ => Quiet.throw _) (Quiet.pure _)
  | _ => exact Quiet.pure _

/-- The component that a provider hands out, as the view it is asked for. -/
def viewOf (call : Caller) (component capability : Value) : Action Value :=
  request call component .queryInterface [capability] fun c => queryInterface call c capability

namespace World

theorem contains_queryInterface (w : World) (c : Ref .component) :
    (w.methods c.object).contains .queryInterface = true := by
  show ((w.row c : Component).methods).contains .queryInterface = true
  cases (w.row c : Component) <;> rfl

theorem contains_createInstance (w : World) (p : Ref .provider) :
    (w.methods p.object).contains .createInstance = true := by
  show ((w.row p : Provider).methods).contains .createInstance = true
  cases (w.row p : Provider) <;> rfl

end World

namespace World.Intact

variable {w : World} (hw : w.Intact) (call : Caller)
include hw

theorem run_viewOf (c : Ref .component) (capability : Value) :
    w.run (viewOf call (.ofRef c) capability) = w.run (queryInterface call c capability) :=
  hw.run_request call c _ _ (w.contains_queryInterface c)

/-- What is no component has no views. -/
theorem run_viewOf_of_none {component : Value} (h : component.ref? .component = none)
    (capability : Value) :
    ∃ fault, w.run (viewOf call component capability) = (.error fault, w) := by
  obtain ⟨fault, hl⟩ := hw.look_queryInterface h
  have ht : w.taker? .component component .queryInterface = none := by
    rw [World.taker?, h, Option.filter_none]
  refine ⟨fault, ?_⟩
  rw [viewOf, run_request_of_none call _ _ ht, run_bind, run_readAttribute_error call hl]

/-- Viewing a component changes nothing. -/
theorem alike_viewOf (component capability : Value) :
    w.Alike (w.after (viewOf call component capability)) := by
  cases h : component.ref? .component with
  | none =>
    obtain ⟨fault, hr⟩ := hw.run_viewOf_of_none call h capability
    rw [after_of_run hr]
    exact .refl w
  | some c =>
    obtain rfl := Value.eq_ofRef_of_ref? h
    rw [after, hw.run_viewOf]
    exact quiet_queryInterface call capability c w

/-- A view of something is that thing itself, which is a component that declares what it
is viewed as. -/
theorem outcome_viewOf {component capability view : Value}
    (h : w.outcome (viewOf call component capability) = .ok view) :
    view = component ∧ ∃ c : Ref .component, component = .ofRef c ∧
      (w.row c : Component).capabilities.any (· == capability) = true := by
  cases hc : component.ref? .component with
  | none =>
    obtain ⟨fault, hr⟩ := hw.run_viewOf_of_none call hc capability
    rw [outcome_of_run hr] at h
    cases h
  | some c =>
    obtain rfl := Value.eq_ofRef_of_ref? hc
    rw [outcome, hw.run_viewOf] at h
    obtain ⟨hview, hdeclared⟩ := outcome_queryInterface call capability h
    exact ⟨hview, c, rfl, hdeclared⟩

end World.Intact

/-- What a provider hands out, given the view of its component. -/
def Provider.handOut (view : Value) : Provider → Value
  | .host component | .counted component _ => component
  | .overlay _ | .flaky _ _ _ => view

theorem createInstance_eq (call : Caller) (p : Ref .provider) (capability : Value) :
    createInstance call p .none capability = do
      countRequest p
      failAtFirst p
      let provider ← fetch p
      let view ← viewOf call provider.component capability
      let provider ← fetch p
      return provider.handOut view := by
  refine bind_congr fun _ => bind_congr fun _ => ?_
  refine bind_congr (x := fetch p) fun asked => bind_congr fun view => ?_
  refine bind_congr (x := fetch p) fun provider => ?_
  cases provider <;> rfl

@[simp] theorem Provider.handOut_component (provider : Provider) :
    provider.handOut provider.component = provider.component := by
  cases provider <;> rfl

namespace World.Intact

variable {w : World} (hw : w.Intact) (call : Caller)
include hw

theorem served_createInstance (p : Ref .provider) (capability : Value) :
    w.Served (w.after (createInstance call p .none capability)) := by
  have hk : Keeps w.Served (createInstance call p .none capability) := by
    rw [createInstance_eq]
    refine Keeps.bind (fun w' h => h.trans (served_countRequest w' p)) fun _ => ?_
    refine Keeps.bind (fun w' h => h.trans (.of_alike (quiet_failAtFirst p w'))) fun _ => ?_
    refine Keeps.bind (Quiet.fetch p |>.keeps fun _ _ ha h => h.trans (.of_alike ha))
      fun asked => ?_
    refine Keeps.bind (fun w' h => ?_) fun view => ?_
    · exact h.trans (.of_alike ((h.intact hw).alike_viewOf call asked.component capability))
    · exact Keeps.bind (Quiet.fetch p |>.keeps fun _ _ ha h => h.trans (.of_alike ha))
        fun _ => Keeps.pure _
  exact hk w (.refl w)

/-- A provider hands out the component it holds, which declares what it is viewed as. -/
theorem outcome_createInstance {p : Ref .provider} {capability service : Value}
    (h : w.outcome (createInstance call p .none capability) = .ok service) :
    ∃ c : Ref .component, service = .ofRef c ∧ (w.row p : Provider).component = .ofRef c ∧
      (w.row c : Component).capabilities.any (· == capability) = true := by
  rw [createInstance_eq] at h
  obtain ⟨_, _, h⟩ := outcome_bind_eq_ok.1 h
  have h₁ : w.Served (w.after (countRequest p)) := served_countRequest w p
  obtain ⟨_, _, h⟩ := outcome_bind_eq_ok.1 h
  have h₂ := h₁.trans (.of_alike (quiet_failAtFirst p (w.after (countRequest p))))
  revert h h₂
  generalize (w.after (countRequest p)).after (failAtFirst p) = w₂
  intro h h₂
  obtain ⟨asked, hasked, h⟩ := outcome_bind_eq_ok.1 h
  obtain rfl : w₂.row p = asked := Except.ok.inj hasked
  obtain ⟨view, hview, h⟩ := outcome_bind_eq_ok.1 h
  -- Viewing is quiet, so that the provider is still the one that was asked.
  obtain ⟨log, serial, hafter⟩ := (h₂.intact hw).alike_viewOf call (w₂.row p : Provider).component
    capability
  obtain ⟨rfl, c, hc, hdeclared⟩ := (h₂.intact hw).outcome_viewOf call hview
  have hservice : (w₂.row p : Provider).component = service := by
    obtain ⟨provider, hprovider, h⟩ := outcome_bind_eq_ok.1 h
    obtain rfl : _ = provider := Except.ok.inj hprovider
    have h' := Except.ok.inj h
    rw [show (w₂.after (fetch p)) = w₂ from rfl, hafter] at h'
    rw [← h']
    exact (Provider.handOut_component _).symm
  refine ⟨c, hservice.symm.trans hc, ?_, ?_⟩
  · rw [← h₂.component p, hc]
  · rw [← h₂.row_component c]
    exact hdeclared

theorem run_createFrom (p : Ref .provider) (capability : Value) :
    w.run (createFrom call (.ofRef p) capability) =
      w.run (createInstance call p .none capability) :=
  hw.run_request call p _ _ (w.contains_createInstance p)

/-- Asking a provider changes nothing but the log and its count. -/
theorem served_createFrom (p : Ref .provider) (capability : Value) :
    w.Served (w.after (createFrom call (.ofRef p) capability)) := by
  rw [after, hw.run_createFrom]
  exact hw.served_createInstance call p capability

/-- What a provider hands out is the component that it holds. -/
theorem outcome_createFrom {p : Ref .provider} {capability service : Value}
    (h : w.outcome (createFrom call (.ofRef p) capability) = .ok service) :
    ∃ c : Ref .component, service = .ofRef c ∧ (w.row p : Provider).component = .ofRef c ∧
      (w.row c : Component).capabilities.any (· == capability) = true := by
  rw [outcome, hw.run_createFrom] at h
  exact hw.outcome_createInstance call h

/-- To ask a provider that does not count is to ask its component for the view. -/
theorem run_createFrom_view {p : Ref .provider} {c : Ref .component}
    (hp : (w.row p : Provider).calls? = none) (hc : (w.row p : Provider).component = .ofRef c)
    (capability : Value) :
    w.run (createFrom call (.ofRef p) capability) = w.run (queryInterface call c capability) := by
  have hcount : w.run (countRequest p) = (.ok (), w) := by
    rw [countRequest, run_bind_of_run (run_fetch w p), hp]
    rfl
  have hfail : w.run (failAtFirst p) = (.ok (), w) := by
    rw [failAtFirst, run_bind_of_run (run_fetch w p)]
    cases hrow : (w.row p : Provider) with
    | flaky component calls failures =>
      rw [hrow] at hp
      cases hp
    | _ => rfl
  have hview := hw.run_viewOf call c capability
  rw [hw.run_createFrom, createInstance_eq, run_bind_of_run hcount, run_bind_of_run hfail,
    run_bind_of_run (run_fetch w p), hc, run_bind, hview, run_eq w (queryInterface _ _ _)]
  cases hquery : w.outcome (queryInterface call c capability) with
  | error fault => rfl
  | ok view =>
    obtain ⟨rfl, _⟩ := outcome_queryInterface call capability hquery
    obtain ⟨log, serial, hafter⟩ := quiet_queryInterface call capability c w
    have hrow : (w.after (queryInterface call c capability)).row p = (w.row p : Provider) := by
      rw [hafter]
      rfl
    show World.run _ (fetch p >>= _) = _
    rw [run_bind_of_run (run_fetch _ p), hrow, run_pure, ← hc, Provider.handOut_component]

/-- A provider that does not count hands out its component, viewed as whatever that declares, and
nothing changes by it. -/
theorem run_createFrom_uncounted {p : Ref .provider} {c : Ref .component} {capability : Value}
    (hp : (w.row p : Provider).calls? = none) (hc : (w.row p : Provider).component = .ofRef c)
    (hk : capability.unhashable? = none)
    (hdeclared : (w.row c : Component).capabilities.any (· == capability) = true) :
    w.run (createFrom call (.ofRef p) capability) = (.ok (.ofRef c), w) :=
  (hw.run_createFrom_view call hp hc capability).trans
    (run_queryInterface call capability hk hdeclared)

/-- An overlay that a provider of overlays hands out can be viewed as anything. -/
theorem run_createFrom_overlay {p : Ref .provider} {c : Ref .component} {layer : Overlay}
    (hp : w.row p = Provider.overlay (.ofRef c)) (hc : w.row c = Component.overlay layer)
    (capability : Capability) :
    w.run (createFrom call (.ofRef p) (.capability capability)) = (.ok (.ofRef c), w) := by
  refine hw.run_createFrom_uncounted call (by rw [hp]; rfl) (by rw [hp]; rfl) rfl ?_
  rw [hc]
  show (Capability.all.map Value.capability).any (· == .capability capability) = true
  cases capability <;> decide

end World.Intact

end Understudy

import Understudy.Proofs.CaptureOnce

/-!
# What stand-ins fall back to

A contract of a registry has a ground: the component that it was captured with, or, as long
as it is not captured, the one that its provider holds. Every stand-in for the contract falls
back to its ground. Installing and restoring leave the ground as it is, and once restored it is
served again. Only registering and removing can make a difference, and only as long as nothing
is captured.

## Main definitions

* `World.Serves`: a provider that is there, of a component that is there.
* `Registry.Rooted`: what was captured is what the provider of the captured entry holds.
* `World.Grounded`: the ground of a contract.

## Main statements

* `History.rooted`: every history of a new registry is rooted.
* `World.Grounded.install`, `World.Grounded.restore`: what the two requests do to the ground.
-/

namespace Understudy

/-! ## Providers of components -/

/-- A provider that is there, of a component that is there. -/
structure World.Serves (w : World) (p : Ref .provider) (c : Ref .component) : Prop where
  provider : p.index < w.providers.size
  component : (w.row p : Provider).component = .ofRef c
  there : c.index < w.components.size

namespace World

variable {w w' : World}

theorem Serves.extends {p : Ref .provider} {c : Ref .component} (h : w.Serves p c)
    (hx : w.Extends w') : w'.Serves p c where
  provider := Nat.lt_of_lt_of_le h.provider hx.moreProviders
  component := (hx.component h.provider).trans h.component
  there := Nat.lt_of_lt_of_le h.there hx.moreComponents

/-- Nothing but a component that is there is handed out, by a provider that is there. -/
theorem Intact.serves (hw : w.Intact) (call : Caller) {p : Ref .provider}
    {capability service : Value}
    (h : w.outcome (createFrom call (.ofRef p) capability) = .ok service) :
    ∃ c : Ref .component, service = .ofRef c ∧ w.Serves p c := by
  obtain ⟨c, hservice, hcomponent, hdeclared⟩ := hw.outcome_createFrom call h
  refine ⟨c, hservice, ?_, hcomponent, ?_⟩
  · rcases Nat.lt_or_ge p.index w.providers.size with hlt | hge
    · exact hlt
    · have hrow : (w.row p : Provider) = .host .none := Table.get_of_size_le _ hge
      rw [hrow] at hcomponent
      cases hcomponent
  · rcases Nat.lt_or_ge c.index w.components.size with hlt | hge
    · exact hlt
    · -- What is not there declares nothing.
      have hrow : (w.row c : Component) = .plain 0 [] := Table.get_of_size_le _ hge
      rw [hrow] at hdeclared
      cases hdeclared

/-- A provider serves one component. -/
theorem Serves.unique {p : Ref .provider} {c c' : Ref .component} (h : w.Serves p c)
    (h' : w.Serves p c') : c = c' :=
  Value.ofRef_injective (h.component.symm.trans h'.component)

end World

/-! ## Rooted registries -/

/-- A registry in which the captured service of every contract is the component of the provider
of the captured entry. -/
def Registry.Rooted (reg : Registry) (w : World) : Prop :=
  ∀ (contract : Value) (serial : Nat) (e : Entry) (c : Ref .component),
    reg.captureOf? contract = some (Capture.toValue ⟨serial, e.toValue, .ofRef c⟩) →
      ∃ p : Ref .provider, e.provider = .ofRef p ∧ w.Serves p c

theorem Registry.Rooted.extends {reg : Registry} {w w' : World} (h : reg.Rooted w)
    (hx : w.Extends w') : reg.Rooted w' := by
  intro contract serial e c hc
  obtain ⟨p, hp, hserves⟩ := h contract serial e c hc
  exact ⟨p, hp, hserves.extends hx⟩

/-- What is captured first is the entry, with what its provider serves. -/
theorem FirstCapture.serves {call : Caller} {r : Ref .registry}
    {contractId capability found : Value} {w : World} (hs : Sane r w)
    (h : FirstCapture call r contractId capability w found) :
    ∃ (serial : Nat) (e : Entry) (c : Ref .component) (p : Ref .provider),
      found = Capture.toValue ⟨serial, e.toValue, .ofRef c⟩ ∧
        (w.row r : Registry).entryOf? contractId = some e.toValue ∧
        e.provider = .ofRef p ∧ w.Serves p c := by
  obtain ⟨serial, e, c, hfound, he, hout⟩ := h
  obtain ⟨e', heq, hp, _⟩ := hs.sound.entries contractId _ he
  obtain rfl := Entry.toValue_injective heq
  obtain ⟨p, hprovider⟩ := hp.provider
  rw [hprovider] at hout
  obtain ⟨c', hc, hserves⟩ := hs.intact.serves call hout
  obtain rfl := Value.ofRef_injective hc
  exact ⟨serial, e, c, p, hfound, he, hprovider, hserves⟩

/-- Whatever is requested, a registry stays rooted. -/
theorem Dealing.Step.rooted {call : Caller} {r : Ref .registry} {w w' : World} {d : Dealing}
    (hd : Dealing.Step call r w w' d) (hs : Sane r w) (h : (w.row r : Registry).Rooted w) :
    (w'.row r : Registry).Rooted w' := by
  intro contract serial e c hc
  cases hbefore : (w.row r : Registry).captureOf? contract with
  | some found =>
    rw [hd.onward.captures _ _ hbefore] at hc
    exact h.extends hd.onward.things contract serial e c (hbefore.trans hc)
  | none =>
    obtain ⟨_, _, _, _, hfirst⟩ := hd.first_capture hbefore hc
    obtain ⟨serial', e', c', p, heq, _, hp, hserves⟩ := hfirst.serves hs
    obtain ⟨rfl, hservice⟩ := Capture.eq_of_toValue heq
    obtain rfl : c = c' := Value.ofRef_injective hservice
    exact ⟨p, hp, hserves.extends hd.onward.things⟩

/-- Every history of a new registry is rooted. -/
theorem History.rooted {call : Caller} {r : Ref .registry} {w₀ w : World} {es : List Event}
    (h : History call r w₀ es w) (h₀ : Sane r w₀) (hnew : w₀.row r = ({} : Registry)) :
    (w.row r : Registry).Rooted w := by
  induction h with
  | start =>
    intro contract serial e c hc
    rw [hnew] at hc
    cases hc
  | deal before d fits ih => exact (d.step (before.sane h₀) fits).rooted (before.sane h₀) ih
  | elsewhere _ aside ih =>
    rw [aside.registry]
    exact ih.extends aside.things

/-! ## The ground of a contract -/

/-- The component that stand-ins for a contract fall back to: the one that was captured, or else
the one that its provider holds. -/
inductive World.Grounded (r : Ref .registry) (contract : Value) (c : Ref .component) (w : World) :
    Prop
  | captured {serial : Nat} {e : Entry}
      (capture : (w.row r : Registry).captureOf? contract =
        some (Capture.toValue ⟨serial, e.toValue, .ofRef c⟩))
  | served {e : Entry} {p : Ref .provider}
      (uncaptured : (w.row r : Registry).captureOf? contract = none)
      (entry : (w.row r : Registry).entryOf? contract = some e.toValue)
      (provider : e.provider = .ofRef p) (serves : w.Serves p c)

/-- A request that neither registers nor removes anything directly. -/
def Dealing.Indirect : Dealing → Prop
  | .register _ _ _ _ | .unregister _ _ => False
  | _ => True

/-- As long as a contract is not captured, its entry is left alone by all that is not about
entries. -/
theorem Dealing.Step.entry_of_uncaptured {call : Caller} {r : Ref .registry} {w w' : World}
    {d : Dealing} (hd : Dealing.Step call r w w' d) (hs : (w.row r : Registry).Sound)
    (hindirect : d.Indirect) {contract : Value}
    (hn : (w'.row r : Registry).captureOf? contract = none) :
    (w'.row r : Registry).entryOf? contract = (w.row r : Registry).entryOf? contract := by
  cases hd with
  | served served => rw [served.row_registry]
  | registered _ _ => exact hindirect.elim
  | unregistered _ => exact hindirect.elim
  | captured captured => exact captured.entryOf? contract
  | refused captured made =>
    rw [made, World.row_withStandIn_registry]
    exact captured.entryOf? contract
  | @installed i _ _ _ _ capture w₁ captured _ _ placed =>
    rw [placed.row_registry, World.row_installed_registry, Registry.captureOf?_register] at hn
    rw [placed.row_registry, World.row_installed_registry, Registry.entryOf?_register]
    by_cases hc : ((w₁.row i : Installer).contractId == contract) = true
    · -- An install has captured its contract before.
      rw [captured.row_installer] at hc
      have hknown := (OrderedMap.get?_congr _ hc).symm.trans (captured.captured hs)
      cases hn.symm.trans hknown
    · rw [Installer.entryFor, if_neg hc]
      exact captured.entryOf? contract
  | @restored i serial e c captured replaced =>
    rw [replaced.row_registry, World.row_withRow_installer_registry, World.row_withRow_self,
      Registry.captureOf?_register] at hn
    rw [replaced.row_registry, World.row_withRow_installer_registry, World.row_withRow_self,
      Registry.entryOf?_register]
    by_cases hc : (e.contractId == contract) = true
    · -- What is restored is what its contract was captured with.
      have hsame := (hs.of_captured captured).2.1
      have hknown := (OrderedMap.get?_congr _ (BEq.trans (BEq.symm hsame) hc)).symm.trans captured
      cases hn.symm.trans hknown
    · rw [if_neg hc]

namespace World.Grounded

variable {call : Caller} {r : Ref .registry} {contract : Value} {c : Ref .component}
  {w w' : World} (h : w.Grounded r contract c)
include h

/-- A contract has one ground. -/
theorem unique {c' : Ref .component} (h' : w.Grounded r contract c') : c = c' := by
  cases h with
  | captured capture =>
    cases h' with
    | captured capture' =>
      have heq := Capture.toValue_injective (Option.some.inj (capture.symm.trans capture'))
      exact Value.ofRef_injective (congrArg Capture.service heq)
    | served uncaptured _ _ _ => cases capture.symm.trans uncaptured
  | served uncaptured entry provider serves =>
    cases h' with
    | captured capture' => cases uncaptured.symm.trans capture'
    | served _ entry' provider' serves' =>
      obtain rfl := Entry.toValue_injective (Option.some.inj (entry.symm.trans entry'))
      obtain rfl := Value.ofRef_injective (provider.symm.trans provider')
      exact serves.unique serves'

/-- What leaves the registry alone leaves the ground alone. -/
theorem aside (ha : Aside r w w') : w'.Grounded r contract c := by
  cases h with
  | captured capture => exact .captured (ha.registry ▸ capture)
  | served uncaptured entry provider serves =>
    exact .served (ha.registry ▸ uncaptured) (ha.registry ▸ entry) provider
      (serves.extends ha.things)

/-- So does every request that is not about entries. What it may capture is the ground. -/
theorem step {d : Dealing} (hd : Dealing.Step call r w w' d) (hs : Sane r w)
    (hindirect : d.Indirect) : w'.Grounded r contract c := by
  cases h with
  | captured capture => exact .captured (hd.onward.captures _ _ capture)
  | served uncaptured entry provider serves =>
    cases hc : (w'.row r : Registry).captureOf? contract with
    | none =>
      have hentry := (hd.entry_of_uncaptured hs.sound hindirect hc).trans entry
      exact .served hc hentry provider (serves.extends hd.onward.things)
    | some found =>
      obtain ⟨contractId, _, _, hsame, hfirst⟩ := hd.first_capture uncaptured hc
      obtain ⟨serial, e', c', p', rfl, he, hp, hserves⟩ := hfirst.serves hs
      have hentry := (OrderedMap.get?_congr _ hsame).symm.trans he
      obtain rfl := Entry.toValue_injective (Option.some.inj (entry.symm.trans hentry))
      obtain rfl := Value.ofRef_injective (provider.symm.trans hp)
      obtain rfl := serves.unique hserves
      exact .captured hc

/-- A stand-in falls back to the ground. -/
theorem install (hs : Sane r w) {i : Ref .installer} (hi : (w.row i : Installer).Over r)
    (hcontract : (w.row i : Installer).contractId = contract)
    {id name version platformVersion v : Value}
    (hv : w.outcome (install call i id name version platformVersion) = .ok v) :
    ∃ o : Ref .component, v = .ofRef o ∧
      ((w.after (Understudy.install call i id name version platformVersion)).row o :
        Component).fallback? = some (.ofRef c) := by
  obtain ⟨o, layer, capture, hreturned, hrow, hfallback, hcapture⟩ :=
    hs.intact.fallback_of_install call i hi hs.sound hv
  have hstep : Dealing.Step call r w _ (.install i id name version platformVersion) :=
    Dealing.step hs _ hi
  have hground := h.step hstep hs trivial
  rw [hcontract] at hcapture
  obtain ⟨serial, e, c', heq, _⟩ := (hstep.sane hs).sound.captures _ _ hcapture
  obtain rfl := hground.unique (.captured (heq ▸ hcapture))
  refine ⟨o, hreturned, ?_⟩
  rw [hrow, Component.fallback?, hfallback, Capture.toValue_injective heq]

/-- Once restored, the ground is what the entry of the contract serves. -/
theorem restore (call : Caller) (hs : Sane r w) (hrooted : (w.row r : Registry).Rooted w)
    {i : Ref .installer} (hi : (w.row i : Installer).Over r)
    (hcontract : (w.row i : Installer).contractId = contract) :
    ∃ (e : Entry) (p : Ref .provider),
      ((w.after (Understudy.restore call i)).row r : Registry).entryOf? contract = some e.toValue ∧
        e.provider = .ofRef p ∧ (w.after (Understudy.restore call i)).Serves p c := by
  cases (hs.intact.restore_cases call i hi hs.sound).2 with
  | nothing uncaptured same =>
    rw [hcontract] at uncaptured
    rw [same]
    cases h with
    | captured capture => cases capture.symm.trans uncaptured
    | served _ entry provider serves => exact ⟨_, _, entry, provider, serves⟩
  | @restored serial e c' captured replaced =>
    rw [hcontract] at captured
    obtain ⟨p, hp, hserves⟩ := hrooted contract serial e c' captured
    obtain rfl := h.unique (.captured captured)
    have hsame := (hs.sound.of_captured captured).2.1
    have hthings := (Onward.register (r := r) (w := w) { e with serial := w.nextSerial }).things
    refine ⟨{ e with serial := w.nextSerial }, p, ?_, hp, ?_⟩
    · rw [replaced.row_registry, World.row_withRow_installer_registry, World.row_withRow_self,
        Registry.entryOf?_register, if_pos hsame]
    · exact hserves.extends
        (hthings.trans ((World.Extends.withRow_installer _ i _).trans (.of_alike replaced)))

end World.Grounded

end Understudy

import Understudy.Calls
import Understudy.Proofs.Dealing

/-!
# Capturing once

Over the whole life of a registry a contract is captured once. The capture is the entry
that was there when capturing first succeeded, with the component that its provider
handed out then, and it stays whatever is requested later. Every stand-in ever installed
for the contract falls back to that very component, and once capturing has succeeded no
provider is asked again by capturing or installing. So if those who register providers
keep to real components, no stand-in ever stands behind another one.

An install captures first. So capturing succeeds on a direct request that returns, and on an
install that gets that far, even if the install fails later.

The life of a registry is a history: requests to it and to any number of installers over
it, in any order and however they end, with anything else going on in between that
leaves the registry and the things there are alone.

## Main definitions

* `Event`, `History`: a request in the state it was made in, and the life of a registry.
* `Event.Captures`: a request on which capturing succeeded.
* `CapturesOnce`: what holds of every history.

## Main statements

* `History.capturesOnce`: every history of a new registry captures once.
-/

namespace Understudy

/-- A request in the state in which it was made. -/
structure Event where
  before : World
  dealing : Dealing

namespace Event

variable (call : Caller) (r : Ref .registry) (e : Event)

/-- How a request ended. -/
def outcome : Except Fault Value := e.before.outcome (e.dealing.perform call r)

/-- The state that a request left, however it ended. -/
def after : World := e.before.after (e.dealing.perform call r)

/-- A request on which a contract was captured with success, directly or by an install. -/
def Captures (contract : Value) : Prop :=
  ∃ contractId capability, e.dealing.captures? e.before = some (contractId, capability) ∧
    (contractId == contract) = true ∧
      ∃ v, e.before.outcome (captureOnce call r contractId capability) = .ok v

end Event

/-- What may go on besides: the registry is left alone, and so is every thing there is. There
may be new things afterwards. -/
structure Aside (r : Ref .registry) (w w' : World) : Prop where
  registry : w'.row r = (w.row r : Registry)
  things : w.Extends w'

/-- The life of a registry from a state on: requests of those who keep to their types, and
whatever goes on besides. -/
inductive History (call : Caller) (r : Ref .registry) (w₀ : World) : List Event → World → Prop
  | start : History call r w₀ [] w₀
  | deal {es : List Event} {w : World} (before : History call r w₀ es w) (d : Dealing)
      (fits : d.Fits r w) : History call r w₀ (es ++ [⟨w, d⟩]) (Event.after call r ⟨w, d⟩)
  | elsewhere {es : List Event} {w w' : World} (before : History call r w₀ es w)
      (aside : Aside r w w') : History call r w₀ es w'

/-! ## Histories -/

theorem Aside.onward {r : Ref .registry} {w w' : World} (h : Aside r w w') : Onward r w w' :=
  .of_captures_eq h.things (by rw [h.registry])

theorem Aside.sane {r : Ref .registry} {w w' : World} (h : Aside r w w') (hs : Sane r w) :
    Sane r w' :=
  ⟨h.things.intact hs.intact, h.registry ▸ hs.sound⟩

namespace History

variable {call : Caller} {r : Ref .registry} {w₀ w : World} {es : List Event}

theorem sane (h : History call r w₀ es w) (h₀ : Sane r w₀) : Sane r w := by
  induction h with
  | start => exact h₀
  | deal _ d fits ih => exact (d.step ih fits).sane ih
  | elsewhere _ aside ih => exact aside.sane ih

/-- Every request was made in a sane state, and things went onward from the state it left. -/
theorem event (h : History call r w₀ es w) (h₀ : Sane r w₀) {e : Event} (he : e ∈ es) :
    Sane r e.before ∧ e.dealing.Fits r e.before ∧ Onward r (e.after call r) w := by
  induction h with
  | start => cases he
  | @deal es w before d fits ih =>
    rcases List.mem_append.1 he with he | he
    · obtain ⟨hsane, hfits, honward⟩ := ih he
      exact ⟨hsane, hfits, honward.trans (d.step (before.sane h₀) fits).onward⟩
    · obtain rfl := List.mem_singleton.1 he
      exact ⟨before.sane h₀, fits, .refl _⟩
  | elsewhere _ aside ih =>
    obtain ⟨hsane, hfits, honward⟩ := ih he
    exact ⟨hsane, hfits, honward.trans aside.onward⟩

/-- What was captured when a request was made, or after it, is captured still. -/
theorem kept (h : History call r w₀ es w) (h₀ : Sane r w₀) {e : Event} (he : e ∈ es)
    {contract found : Value}
    (hf : (e.before.row r : Registry).captureOf? contract = some found ∨
      ((e.after call r).row r : Registry).captureOf? contract = some found) :
    (w.row r : Registry).captureOf? contract = some found := by
  obtain ⟨hsane, hfits, honward⟩ := h.event h₀ he
  rcases hf with hf | hf
  · exact honward.captures _ _ ((e.dealing.step hsane hfits).onward.captures _ _ hf)
  · exact honward.captures _ _ hf

/-- A capture goes back to the request that was the first to succeed. -/
theorem first (h : History call r w₀ es w) (h₀ : Sane r w₀)
    (hnew : ∀ contract, (w₀.row r : Registry).captureOf? contract = none) {contract found : Value}
    (hf : (w.row r : Registry).captureOf? contract = some found) :
    ∃ e ∈ es, (e.before.row r : Registry).captureOf? contract = none ∧
      ∃ contractId capability, e.dealing.captures? e.before = some (contractId, capability) ∧
        (contractId == contract) = true ∧
        FirstCapture call r contractId capability e.before found := by
  induction h with
  | start =>
    rw [hnew] at hf
    cases hf
  | @deal es w before d fits ih =>
    have hsane := before.sane h₀
    have hstep : Dealing.Step call r w (Event.after call r ⟨w, d⟩) d := d.step hsane fits
    cases hbefore : (w.row r : Registry).captureOf? contract with
    | some known =>
      -- Captures stay, so that the request was not the one.
      have hstay := hstep.onward.captures _ _ hbefore
      have hsame : known = found := Option.some.inj (hstay.symm.trans hf)
      obtain ⟨e, he, hrest⟩ := ih (hsame ▸ hbefore)
      exact ⟨e, List.mem_append_left _ he, hrest⟩
    | none =>
      refine ⟨⟨w, d⟩, List.mem_append_right _ (List.mem_singleton_self _), hbefore, ?_⟩
      exact hstep.first_capture hbefore hf
  | elsewhere _ aside ih =>
    rw [aside.registry] at hf
    exact ih hf

/-- What an install returned falls back to the captured component at any later time. -/
theorem fallback (h : History call r w₀ es w) (h₀ : Sane r w₀) {e : Event} (he : e ∈ es)
    {i : Ref .installer} {id name version platformVersion : Value}
    (hd : e.dealing = .install i id name version platformVersion) {v : Value}
    (hv : e.outcome call r = .ok v) :
    ∃ (c : Ref .component) (capture : Capture), v = .ofRef c ∧
      (w.row r : Registry).captureOf? (e.before.row i : Installer).contractId =
        some capture.toValue ∧
      (w.row c : Component).fallback? = some capture.service := by
  obtain ⟨before, dealing⟩ := e
  obtain rfl : dealing = _ := hd
  obtain ⟨hsane, hfits, honward⟩ := h.event h₀ he
  obtain ⟨c, layer, capture, hc, hrow, hfallback, hcapture⟩ :=
    hsane.intact.fallback_of_install call i hfits hsane.sound hv
  refine ⟨c, capture, hc, honward.captures _ _ hcapture, honward.things.fallback_eq_some ?_⟩
  show ((before.after _).row c : Component).fallback? = _
  rw [Dealing.perform, hrow, Component.fallback?, hfallback]

/-- With a capture at hand no provider was asked. -/
theorem unasked (h : History call r w₀ es w) (h₀ : Sane r w₀) {e : Event} (he : e ∈ es)
    {contractId capability found : Value}
    (hc : e.dealing.captures? e.before = some (contractId, capability))
    (hf : (e.before.row r : Registry).captureOf? contractId = some found) :
    Unasked e.before (e.dealing.perform call r) := by
  obtain ⟨before, dealing⟩ := e
  obtain ⟨hsane, hfits, _⟩ := h.event h₀ he
  cases dealing with
  | capture contractId' capability' =>
    cases hc
    exact hsane.unasked_captureOnce call hf capability
  | install i id name version platformVersion =>
    cases hc
    exact hsane.unasked_install call hfits hf id name version platformVersion
  | _ => cases hc

/-- A history up to a request is a history of the state that the request was made in. -/
theorem upTo (h : History call r w₀ es w) {earlier later : List Event} {e : Event}
    (hes : es = earlier ++ e :: later) : History call r w₀ earlier e.before := by
  induction h generalizing later with
  | start => cases earlier <;> cases hes
  | @deal es w before d fits ih =>
    rcases List.eq_nil_or_concat later with rfl | ⟨later, last, rfl⟩
    · obtain ⟨rfl, heq⟩ := List.append_inj' hes rfl
      obtain ⟨rfl, _⟩ := List.cons.inj heq
      exact before
    · rw [List.concat_eq_append, ← List.cons_append, ← List.append_assoc] at hes
      exact ih (List.append_inj' hes rfl).1
  | elsewhere _ _ ih => exact ih hes

/-- What was captured with success is stored from then on. -/
theorem stored (h : History call r w₀ es w) (h₀ : Sane r w₀) {e : Event} (he : e ∈ es)
    {contract : Value} (hcaptures : e.Captures call r contract) :
    ∃ capture : Capture,
      ((e.after call r).row r : Registry).captureOf? contract = some capture.toValue := by
  obtain ⟨before, dealing⟩ := e
  obtain ⟨contractId, capability, hc, hsame, v, hv⟩ := hcaptures
  obtain ⟨hsane, hfits, _⟩ := h.event h₀ he
  obtain ⟨capture, _, hstep⟩ :=
    hsane.intact.captureStep_of_captureOnce call r hsane.sound hv
  have hstored : ∃ stored : Capture,
      ((Event.after call r ⟨before, dealing⟩).row r : Registry).captureOf? contractId =
        some stored.toValue := by
    cases dealing with
    | capture contractId' capability' =>
      cases hc
      exact ⟨capture, hstep.captured hsane.sound⟩
    | install i id name version platformVersion =>
      cases hc
      exact hsane.intact.captured_of_install call i hfits hsane.sound hstep id name version
        platformVersion
    | _ => cases hc
  obtain ⟨stored, hstored⟩ := hstored
  exact ⟨stored, (OrderedMap.get?_congr _ hsame).symm.trans hstored⟩

/-- A capture that is handed out is stored. -/
theorem handed (h : History call r w₀ es w) (h₀ : Sane r w₀) {e : Event} (he : e ∈ es)
    {contractId capability v : Value} (hd : e.dealing = .capture contractId capability)
    (hv : e.outcome call r = .ok v) :
    ((e.after call r).row r : Registry).captureOf? contractId = some v := by
  obtain ⟨before, dealing⟩ := e
  obtain rfl : dealing = _ := hd
  obtain ⟨hsane, _, _⟩ := h.event h₀ he
  obtain ⟨capture, rfl, hstep⟩ :=
    hsane.intact.captureStep_of_captureOnce call r hsane.sound hv
  exact hstep.captured hsane.sound

/-- On an install that returns, capturing succeeded. -/
theorem captures_of_install (h : History call r w₀ es w) (h₀ : Sane r w₀) {e : Event} (he : e ∈ es)
    {i : Ref .installer} {id name version platformVersion : Value}
    (hd : e.dealing = .install i id name version platformVersion) {v : Value}
    (hv : e.outcome call r = .ok v) :
    e.Captures call r (e.before.row i : Installer).contractId := by
  obtain ⟨before, dealing⟩ := e
  obtain rfl : dealing = _ := hd
  obtain ⟨hsane, hfits, _⟩ := h.event h₀ he
  obtain ⟨_, hcontract⟩ := hfits.contractId
  refine ⟨_, _, rfl, Value.beq_of_text? hcontract hcontract, ?_⟩
  rcases hsane.intact.captureOnce_cases call r hsane.sound
      (before.row i : Installer).contractId (.capability .runtime) with
    ⟨_, hfailure⟩ | ⟨capture, hok, _⟩
  · cases hsane.intact.install_cases call i hfits hsane.sound id name version platformVersion with
    | unserved _ failed =>
      obtain ⟨fault, hfault⟩ := failed
      exact absurd (hv.symm.trans hfault) nofun
    | refused captured _ _ _ => exact absurd hfailure captured.not_captureFailure
    | installed captured _ _ _ _ => exact absurd hfailure captured.not_captureFailure
  · exact ⟨_, hok⟩

/-- After capturing has succeeded for a contract, no provider is asked by capturing or
installing for it. -/
theorem spared (h : History call r w₀ es w) (h₀ : Sane r w₀) {earlier later : List Event}
    {e : Event} (hes : es = earlier ++ e :: later) {contract : Value}
    (hcaptures : e.Captures call r contract) {e' : Event} (he' : e' ∈ later)
    {contractId capability : Value}
    (hc : e'.dealing.captures? e'.before = some (contractId, capability))
    (hsame : (contractId == contract) = true) :
    Unasked e'.before (e'.dealing.perform call r) := by
  obtain ⟨between, rest, rfl⟩ := List.append_of_mem he'
  have hsplit : es = (earlier ++ e :: between) ++ e' :: rest := by
    rw [hes, List.append_assoc, List.cons_append]
  have hbefore := h.upTo hsplit
  have he : e ∈ earlier ++ e :: between := List.mem_append_right _ List.mem_cons_self
  obtain ⟨capture, hstored⟩ := hbefore.stored h₀ he hcaptures
  have hfound := hbefore.kept h₀ he (.inr hstored)
  have hmem : e' ∈ es := hsplit ▸ List.mem_append_right _ List.mem_cons_self
  exact h.unasked h₀ hmem hc ((OrderedMap.get?_congr _ hsame).trans hfound)

/-- A capture goes back to the first request on which capturing succeeded. -/
theorem firstSuccess (h : History call r w₀ es w) (h₀ : Sane r w₀)
    (hnew : ∀ contract, (w₀.row r : Registry).captureOf? contract = none) {contract found : Value}
    (hf : (w.row r : Registry).captureOf? contract = some found) :
    ∃ earlier e later, es = earlier ++ e :: later ∧
      (∀ e' ∈ earlier, ¬e'.Captures call r contract) ∧ e.Captures call r contract ∧
        (e.before.row r : Registry).captureOf? contract = none ∧
        ∃ contractId capability, e.dealing.captures? e.before = some (contractId, capability) ∧
          (contractId == contract) = true ∧
          FirstCapture call r contractId capability e.before found := by
  obtain ⟨e, he, hnone, contractId, capability, hc, hsame, hfirst⟩ := h.first h₀ hnew hf
  obtain ⟨hsane, _, _⟩ := h.event h₀ he
  obtain ⟨earlier, later, hes⟩ := List.append_of_mem he
  refine ⟨earlier, e, later, hes, ?_, ?_, hnone, contractId, capability, hc, hsame, hfirst⟩
  · intro e' he' hcaptures
    -- What an earlier request stored would have been there when this one was made.
    have hbefore := h.upTo hes
    obtain ⟨capture, hstored⟩ := hbefore.stored h₀ he' hcaptures
    rw [hbefore.kept h₀ he' (.inr hstored)] at hnone
    cases hnone
  · exact ⟨contractId, capability, hc, hsame,
      hsane.intact.captureOnce_of_firstCapture call r hsane.sound hfirst⟩

end History

/-! ## Real components -/

namespace World

variable {w w' : World}

/-- A component that is there and no overlay. -/
def Real (w : World) (c : Ref .component) : Prop :=
  c.index < w.components.size ∧ (w.row c : Component).fallback? = none

/-- A provider that is there, of a component that is there and no overlay. -/
def Genuine (w : World) (p : Ref .provider) : Prop :=
  p.index < w.providers.size ∧
    ∀ c : Ref .component, (w.row p : Provider).component = .ofRef c → w.Real c

theorem Real.extends {c : Ref .component} (h : w.Real c) (hx : w.Extends w') : w'.Real c :=
  ⟨Nat.lt_of_lt_of_le h.1 hx.moreComponents, (hx.fallback c h.1).trans h.2⟩

theorem Genuine.extends {p : Ref .provider} (h : w.Genuine p) (hx : w.Extends w') :
    w'.Genuine p := by
  refine ⟨Nat.lt_of_lt_of_le h.1 hx.moreProviders, fun c hc => ?_⟩
  rw [hx.component h.1] at hc
  exact (h.2 c hc).extends hx

end World

/-- A registry in which every provider is genuine whose contract is not captured, and every
captured component is real. -/
structure Registry.Real (reg : Registry) (w : World) : Prop where
  entries (contract : Value) (e : Entry) (p : Ref .provider)
    (he : reg.entryOf? contract = some e.toValue) (hp : e.provider = .ofRef p)
    (hn : reg.captureOf? contract = none) : w.Genuine p
  captures (contract : Value) (serial : Nat) (entry : Value) (c : Ref .component)
    (hc : reg.captureOf? contract = some (Capture.toValue ⟨serial, entry, .ofRef c⟩)) : w.Real c

theorem Registry.Real.empty (w : World) : Registry.Real {} w where
  entries _ _ _ he := nomatch he
  captures _ _ _ _ hc := nomatch hc

theorem Registry.Real.extends {reg : Registry} {w w' : World} (h : reg.Real w)
    (hx : w.Extends w') : reg.Real w' where
  entries contract e p he hp hn := (h.entries contract e p he hp hn).extends hx
  captures contract serial entry c hc := (h.captures contract serial entry c hc).extends hx

/-- A registry stays real as long as only genuine providers are registered. -/
theorem Dealing.Step.real {call : Caller} {r : Ref .registry} {w w' : World} {d : Dealing}
    (hd : Dealing.Step call r w w' d) (hs : Sane r w) (h : (w.row r : Registry).Real w)
    (hg : ∀ classId description contractId p,
      d = .register classId description contractId p → w.Genuine p) :
    (w'.row r : Registry).Real w' where
  entries contract e p he hp hn := by
    refine World.Genuine.extends ?_ hd.onward.things
    rcases hd.entry_cases hs.sound he with hbefore | ⟨_, _, _, p', hreg, heq⟩ | ⟨_, hcaptured⟩
    · cases hc : (w.row r : Registry).captureOf? contract with
      | none => exact h.entries contract e p hbefore hp hc
      | some found =>
        rw [hd.onward.captures _ _ hc] at hn
        cases hn
    · obtain rfl := Entry.toValue_injective heq
      exact Value.ofRef_injective hp ▸ hg _ _ _ p' hreg
    · rw [hcaptured] at hn
      cases hn
  captures contract serial entry c hc := by
    refine World.Real.extends ?_ hd.onward.things
    cases hbefore : (w.row r : Registry).captureOf? contract with
    | some found =>
      rw [hd.onward.captures _ _ hbefore] at hc
      exact h.captures contract serial entry c (hc ▸ hbefore)
    | none =>
      -- What is captured now was handed out by a provider whose contract was not captured.
      obtain ⟨contractId, capability, _, hsame, _, e, c', heq, he, hout⟩ :=
        hd.first_capture hbefore hc
      obtain ⟨e', heq', hp, _⟩ := hs.sound.entries contractId _ he
      obtain rfl := Entry.toValue_injective heq'
      obtain ⟨p, hprovider⟩ := hp.provider
      rw [hprovider] at hout
      obtain ⟨c'', hc'', hcomponent, _⟩ := hs.intact.outcome_createFrom call hout
      obtain rfl : c = c' :=
        Value.ofRef_injective (congrArg Capture.service (Capture.toValue_injective heq))
      obtain rfl : c = c'' := Value.ofRef_injective hc''
      have hn : (w.row r : Registry).captureOf? contractId = none :=
        (OrderedMap.get?_congr _ hsame).trans hbefore
      exact (h.entries contractId e p he hprovider hn).2 c hcomponent

namespace History

variable {call : Caller} {r : Ref .registry} {w₀ w : World} {es : List Event}

/-- Where only genuine providers are registered, a registry is real at any time. -/
theorem real (h : History call r w₀ es w) (h₀ : Sane r w₀) (hreal : (w₀.row r : Registry).Real w₀)
    (hg : ∀ e ∈ es, ∀ classId description contractId p,
      e.dealing = .register classId description contractId p → e.before.Genuine p) :
    (w.row r : Registry).Real w := by
  induction h with
  | start => exact hreal
  | @deal es w before d fits ih =>
    have ih := ih fun e he => hg e (List.mem_append_left _ he)
    have hd := hg ⟨w, d⟩ (List.mem_append_right _ (List.mem_singleton_self _))
    exact (d.step (before.sane h₀) fits).real (before.sane h₀) ih hd
  | elsewhere _ aside ih =>
    have ih := ih hg
    rw [aside.registry]
    exact ih.extends aside.things

end History

/-! ## What holds of every history -/

/-- What holds of the events of a history and the state that they led to. -/
structure CapturesOnce (call : Caller) (r : Ref .registry) (es : List Event) (w : World) :
    Prop where
  /-- What was captured at any time is captured still. -/
  kept (e : Event) (he : e ∈ es) (contract found : Value)
    (hf : (e.before.row r : Registry).captureOf? contract = some found ∨
      ((e.after call r).row r : Registry).captureOf? contract = some found) :
    (w.row r : Registry).captureOf? contract = some found
  /-- What a direct capture hands out is stored. -/
  handed (e : Event) (he : e ∈ es) (contractId capability : Value)
    (hd : e.dealing = .capture contractId capability) (v : Value)
    (hv : e.outcome call r = .ok v) :
    ((e.after call r).row r : Registry).captureOf? contractId = some v
  /-- On an install that returns, capturing succeeded. -/
  captures (e : Event) (he : e ∈ es) (i : Ref .installer) (id name version platformVersion : Value)
    (hd : e.dealing = .install i id name version platformVersion) (v : Value)
    (hv : e.outcome call r = .ok v) : e.Captures call r (e.before.row i : Installer).contractId
  /-- What was captured with success is stored from then on. -/
  stored (e : Event) (he : e ∈ es) (contract : Value) (hcaptures : e.Captures call r contract) :
    ∃ capture : Capture,
      ((e.after call r).row r : Registry).captureOf? contract = some capture.toValue
  /-- What is captured was there, and was handed out, when capturing first succeeded. -/
  first (contract found : Value) (hf : (w.row r : Registry).captureOf? contract = some found) :
    ∃ earlier e later, es = earlier ++ e :: later ∧
      (∀ e' ∈ earlier, ¬e'.Captures call r contract) ∧ e.Captures call r contract ∧
        (e.before.row r : Registry).captureOf? contract = none ∧
        ∃ contractId capability, e.dealing.captures? e.before = some (contractId, capability) ∧
          (contractId == contract) = true ∧
          FirstCapture call r contractId capability e.before found
  /-- What an install ever returned is an overlay over the captured component. -/
  fallback (e : Event) (he : e ∈ es) (i : Ref .installer) (id name version platformVersion : Value)
    (hd : e.dealing = .install i id name version platformVersion) (v : Value)
    (hv : e.outcome call r = .ok v) :
    ∃ (c : Ref .component) (capture : Capture), v = .ofRef c ∧
      (w.row r : Registry).captureOf? (e.before.row i : Installer).contractId =
        some capture.toValue ∧
      (w.row c : Component).fallback? = some capture.service
  /-- With a capture at hand no provider is asked by capturing or installing. -/
  unasked (e : Event) (he : e ∈ es) (contractId capability found : Value)
    (hc : e.dealing.captures? e.before = some (contractId, capability))
    (hf : (e.before.row r : Registry).captureOf? contractId = some found) :
    Unasked e.before (e.dealing.perform call r)
  /-- After capturing has succeeded for a contract, no provider is asked by capturing or
  installing for it. -/
  spared (earlier later : List Event) (e : Event) (hes : es = earlier ++ e :: later)
    (contract : Value) (hcaptures : e.Captures call r contract) (e' : Event) (he' : e' ∈ later)
    (contractId capability : Value)
    (hc : e'.dealing.captures? e'.before = some (contractId, capability))
    (hsame : (contractId == contract) = true) : Unasked e'.before (e'.dealing.perform call r)
  /-- Where only providers of real components are registered, what a stand-in falls back to is
  a real component. -/
  genuine (hg : ∀ e ∈ es, ∀ classId description contractId p,
      e.dealing = .register classId description contractId p → e.before.Genuine p)
    (e : Event) (he : e ∈ es) (i : Ref .installer) (id name version platformVersion : Value)
    (hd : e.dealing = .install i id name version platformVersion) (c : Ref .component)
    (hv : e.outcome call r = .ok (.ofRef c)) :
    ∃ real : Ref .component, (w.row c : Component).fallback? = some (.ofRef real) ∧ w.Real real

/-- Every history of a new registry captures once. -/
theorem History.capturesOnce {call : Caller} {r : Ref .registry} {w₀ w : World} {es : List Event}
    (hintact : w₀.Intact) (hnew : w₀.row r = ({} : Registry)) (h : History call r w₀ es w) :
    CapturesOnce call r es w := by
  have h₀ : Sane r w₀ := ⟨hintact, hnew ▸ .empty⟩
  have hnone : ∀ contract, (w₀.row r : Registry).captureOf? contract = none := by
    intro contract
    rw [hnew]
    rfl
  constructor
  case kept =>
    intro e he _ _ hf
    exact h.kept h₀ he hf
  case handed =>
    intro e he _ _ hd _ hv
    exact h.handed h₀ he hd hv
  case captures =>
    intro e he i _ _ _ _ hd _ hv
    exact h.captures_of_install h₀ he hd hv
  case stored =>
    intro e he _ hcaptures
    exact h.stored h₀ he hcaptures
  case first =>
    intro contract found hf
    exact h.firstSuccess h₀ hnone hf
  case fallback =>
    intro e he i id name version platformVersion hd v hv
    exact h.fallback h₀ he hd hv
  case unasked =>
    intro e he contractId capability found hc hf
    exact h.unasked h₀ he hc hf
  case spared =>
    intro earlier later e hes contract hcaptures e' he' contractId capability hc hsame
    exact h.spared h₀ hes hcaptures he' hc hsame
  case genuine =>
    intro hg e he i id name version platformVersion hd c hv
    obtain ⟨c', capture, hc, hcaptured, hfallback⟩ := h.fallback h₀ he hd hv
    obtain rfl := Value.ofRef_injective hc
    have hreal : (w.row r : Registry).Real w := by
      refine h.real h₀ ?_ hg
      rw [hnew]
      exact .empty w₀
    obtain ⟨serial, e, real, heq, _⟩ := (h.sane h₀).sound.captures _ _ hcaptured
    refine ⟨real, ?_, hreal.captures _ serial e.toValue real (heq ▸ hcaptured)⟩
    rw [hfallback, Capture.toValue_injective heq]

/-! ## A short history -/

/-- A state with a new registry, the sample identity with its provider, and an installer. -/
def bench : World where
  registries := ⟨[{}]⟩
  components := ⟨[.sampleOf Component.sampleAnswer]⟩
  providers := ⟨[.counted (.ofRef (⟨0⟩ : Ref .component)) (.ofInt 0)]⟩
  installers :=
    ⟨[{ registry := .ofRef (⟨0⟩ : Ref .registry)
        contractId := .ofText appInfoContract
        classId := .ofText appInfoClass }]⟩

/-- The sample identity is registered. -/
def benchRegister : Event :=
  ⟨bench, .register (.ofText appInfoClass) (.ofText "sample") (.ofText appInfoContract) ⟨0⟩⟩

/-- Then a stand-in is installed. -/
def benchInstall : Event :=
  ⟨benchRegister.after invoke ⟨0⟩,
    .install ⟨0⟩ (.ofText "xpcshell@tests") (.ofText "XPCShell") (.ofText "1") (.ofText "1")⟩

theorem bench_intact : bench.Intact := fun _ _ _ => rfl

theorem benchRegister_history :
    History invoke ⟨0⟩ bench [benchRegister] (benchRegister.after invoke ⟨0⟩) :=
  .deal .start _ ⟨⟨_, rfl⟩, ⟨_, rfl⟩, ⟨_, rfl⟩⟩

/-- The contract of the sample identity is captured directly before that. -/
def benchCapture : Event :=
  ⟨benchRegister.after invoke ⟨0⟩, .capture (.ofText appInfoContract) (.capability .runtime)⟩

/-- The stand-in is installed over what was captured directly. -/
def benchReplace : Event := ⟨benchCapture.after invoke ⟨0⟩, benchInstall.dealing⟩

theorem benchReplace_history :
    History invoke ⟨0⟩ bench [benchRegister, benchCapture, benchReplace]
      (benchReplace.after invoke ⟨0⟩) :=
  .deal (.deal benchRegister_history benchCapture.dealing trivial) benchReplace.dealing
    ⟨rfl, ⟨_, rfl⟩, ⟨_, rfl⟩⟩

/-- The three requests captured once: the direct capture and the install both succeeded, and the
provider was asked once. -/
theorem bench_capturesOnce :
    CapturesOnce invoke ⟨0⟩ [benchRegister, benchCapture, benchReplace]
        (benchReplace.after invoke ⟨0⟩) ∧
      (∃ capture : Capture, benchCapture.outcome invoke ⟨0⟩ = .ok capture.toValue) ∧
      benchReplace.outcome invoke ⟨0⟩ = .ok (.ofRef (⟨1⟩ : Ref .component)) ∧
      ((benchReplace.after invoke ⟨0⟩).row (⟨0⟩ : Ref .provider) : Provider) =
        .counted (.ofRef (⟨0⟩ : Ref .component)) (.ofInt 1) :=
  ⟨History.capturesOnce bench_intact rfl benchReplace_history, ⟨⟨_, _, _⟩, rfl⟩, rfl, rfl⟩

end Understudy

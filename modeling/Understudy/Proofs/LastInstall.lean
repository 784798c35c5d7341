import Understudy.Proofs.CaptureOnce

/-!
# The last one wins

Any number of installers may share a contract of a registry. Each of them puts stand-ins
under it and takes them away again, without knowing of the others. As long as nobody else
registers anything for the contract, the last of their requests decides: what was installed
last is served, and once anybody has restored it is the provider that was there at first.

## Main definitions

* `Dealing.Leaves`: a request that leaves a contract to its installers.
* `Succession`: the requests of a time in which a contract is left to its installers.
* `standing`, `ownLast`: what the requests so far have come to.
* `LastWins`: what holds of every succession.

## Main statements

* `Succession.lastWins`: in every succession the last one wins.
-/

namespace Understudy

/-! ## Successions -/

/-- The installer that a request is made to. -/
def Dealing.installer? : Dealing → Option (Ref .installer)
  | .install i _ _ _ _ | .restore i => some i
  | _ => none

/-- A request that leaves a contract to its installers. Nobody else registers or removes
anything for it, and what is installed for it has a class id that is not blank and texts to
tell of it. -/
def Dealing.Leaves (contract : Value) (w : World) : Dealing → Prop
  | .register _ _ contractId _ | .unregister contractId _ => ¬(contractId == contract) = true
  | .install i id _ version platformVersion =>
    ((w.row i : Installer).contractId == contract) = true →
      (w.row i : Installer).classId.Telling ∧ (∃ s, id.text? = some s) ∧
        (∃ s, version.text? = some s) ∧ ∃ s, platformVersion.text? = some s
  | _ => True

/-- The installers stay as they are. There may be new ones, which have installed nothing. -/
structure World.KeepsInstallers (w w' : World) : Prop where
  more : w.installers.size ≤ w'.installers.size
  row (i : Ref .installer) : w'.row i = (w.row i : Installer) ∨
    w.installers.size ≤ i.index ∧ (w'.row i : Installer).current = .none

/-- The requests of a time in which a contract is left to its installers, and whatever goes
on besides. -/
inductive Succession (call : Caller) (r : Ref .registry) (contract : Value) (w₀ : World) :
    List Event → World → Prop
  | start : Succession call r contract w₀ [] w₀
  | deal {es : List Event} {w : World} (before : Succession call r contract w₀ es w)
      (d : Dealing) (fits : d.Fits r w) (leaves : d.Leaves contract w) :
      Succession call r contract w₀ (es ++ [⟨w, d⟩]) (Event.after call r ⟨w, d⟩)
  | elsewhere {es : List Event} {w w' : World} (before : Succession call r contract w₀ es w)
      (aside : Aside r w w') (installers : w.KeepsInstallers w') :
      Succession call r contract w₀ es w'

namespace Event

variable (call : Caller) (r : Ref .registry) (e : Event)

/-- The stand-in that is in place after a request, given the one that was there before. An
install that fails puts nothing in place. -/
def standing (contract : Value) (was : Option Value) : Option Value :=
  match e.dealing with
  | .install i _ _ _ _ =>
    if (e.before.row i : Installer).contractId == contract then
      (e.outcome call r).toOption.or was
    else was
  | .restore i => if (e.before.row i : Installer).contractId == contract then none else was
  | _ => was

/-- What an installer itself has in place after a request, given what it had before. -/
def own (i : Ref .installer) (was : Value) : Value :=
  match e.dealing with
  | .install j _ _ _ _ => if j = i then (e.outcome call r).toOption.getD was else was
  | .restore j => if j = i then .none else was
  | _ => was

end Event

/-- The stand-in that was installed last for a contract, if nobody restored since. -/
def standing (call : Caller) (r : Ref .registry) (contract : Value) (es : List Event) :
    Option Value :=
  es.foldl (fun was e => e.standing call r contract was) none

/-- The stand-in that an installer installed last, if it did not restore since. -/
def ownLast (call : Caller) (r : Ref .registry) (i : Ref .installer) (es : List Event) : Value :=
  es.foldl (fun was e => e.own call r i was) .none

theorem standing_append (call : Caller) (r : Ref .registry) (contract : Value) (es : List Event)
    (e : Event) : standing call r contract (es ++ [e]) =
      e.standing call r contract (standing call r contract es) := by
  rw [standing, List.foldl_append]
  rfl

theorem ownLast_append (call : Caller) (r : Ref .registry) (i : Ref .installer) (es : List Event)
    (e : Event) : ownLast call r i (es ++ [e]) = e.own call r i (ownLast call r i es) := by
  rw [ownLast, List.foldl_append]
  rfl

namespace Event

variable {call : Caller} {r : Ref .registry} {contract : Value} {w : World} {d : Dealing}

/-- A request to no installer of a contract changes nothing about what is in place for it. -/
theorem standing_of_off (hoff : ∀ i, d.installer? = some i →
      ¬((w.row i : Installer).contractId == contract) = true) (was : Option Value) :
    Event.standing call r ⟨w, d⟩ contract was = was := by
  cases d with
  | install i id name version platformVersion => exact if_neg (hoff i rfl)
  | restore i => exact if_neg (hoff i rfl)
  | _ => rfl

/-- A request to one installer makes no difference to another one. -/
theorem own_of_ne {i : Ref .installer} (hne : d.installer? ≠ some i) (was : Value) :
    Event.own call r ⟨w, d⟩ i was = was := by
  cases d with
  | install j id name version platformVersion => exact if_neg fun h => hne (congrArg some h)
  | restore j => exact if_neg fun h => hne (congrArg some h)
  | _ => rfl

end Event

/-! ## What is apart from a contract -/

/-- What may become of the rest while nothing is put in place for a contract. Its entry stays,
and is what a first capture of it holds, and its installers are as they were, or new. -/
structure Apart (r : Ref .registry) (contract : Value) (w w' : World) : Prop where
  things : w.Extends w'
  entry : (w'.row r : Registry).entryOf? contract = (w.row r : Registry).entryOf? contract
  captures (found : Value) (h : (w.row r : Registry).captureOf? contract = some found) :
    (w'.row r : Registry).captureOf? contract = some found
  first (found : Value) (hn : (w.row r : Registry).captureOf? contract = none)
    (hf : (w'.row r : Registry).captureOf? contract = some found) :
    ∃ (serial : Nat) (e : Entry) (c : Ref .component),
      found = Capture.toValue ⟨serial, e.toValue, .ofRef c⟩ ∧
        (w.row r : Registry).entryOf? contract = some e.toValue
  moreInstallers : w.installers.size ≤ w'.installers.size
  installer (i : Ref .installer) (h : ((w'.row i : Installer).contractId == contract) = true) :
    w'.row i = (w.row i : Installer) ∨
      w.installers.size ≤ i.index ∧ (w'.row i : Installer).current = .none

namespace Apart

variable {call : Caller} {r : Ref .registry} {contract : Value} {w w' w'' : World}

/-- Where the registry stays as it is, so does all that is about a contract. -/
theorem of_row_eq (things : w.Extends w') (hr : w'.row r = (w.row r : Registry))
    (installers : w.KeepsInstallers w') : Apart r contract w w' where
  things := things
  entry := by rw [hr]
  captures found h := by rwa [hr]
  first found hn hf := by
    rw [hr, hn] at hf
    cases hf
  moreInstallers := installers.more
  installer i _ := installers.row i

theorem of_served (h : w.Served w') : Apart r contract w w' := by
  have hmore : w.installers.size ≤ w'.installers.size := Nat.le_of_eq (by rw [h.frame])
  exact of_row_eq (.of_served h) (h.row_registry r) ⟨hmore, fun i => .inl (h.row_installer i)⟩

theorem of_alike (h : w.Alike w') : Apart r contract w w' := of_served (.of_alike h)

theorem trans (h : Apart r contract w w') (h' : Apart r contract w' w'') :
    Apart r contract w w'' where
  things := h.things.trans h'.things
  entry := h'.entry.trans h.entry
  captures found hf := h'.captures found (h.captures found hf)
  first found hn hf := by
    cases hmid : (w'.row r : Registry).captureOf? contract with
    | none =>
      obtain ⟨serial, e, c, hfound, he⟩ := h'.first found hmid hf
      exact ⟨serial, e, c, hfound, h.entry ▸ he⟩
    | some captured =>
      have hsame := h'.captures captured hmid
      rw [hf] at hsame
      exact h.first found hn (Option.some.inj hsame ▸ hmid)
  moreInstallers := Nat.le_trans h.moreInstallers h'.moreInstallers
  installer i hi := by
    rcases h'.installer i hi with hrow | ⟨hle, hnone⟩
    · rw [hrow]
      exact h.installer i (hrow ▸ hi)
    · exact .inr ⟨Nat.le_trans h.moreInstallers hle, hnone⟩

theorem withStandIn (layer : Overlay) : Apart r contract w (w.withStandIn layer) :=
  of_row_eq (.withStandIn w layer) rfl ⟨Nat.le_refl _, fun _ => .inl rfl⟩

/-- Entries of other contracts do not matter. -/
theorem register {e : Entry} (h : ¬(e.contractId == contract) = true) :
    Apart r contract w (w.withRow r ((w.row r : Registry).register e)) where
  things := .withRow_registry w r _
  entry := by rw [World.row_withRow_self, Registry.entryOf?_register, if_neg h]
  captures found hf := by rwa [World.row_withRow_self, Registry.captureOf?_register]
  first found hn hf := by
    rw [World.row_withRow_self, Registry.captureOf?_register, hn] at hf
    cases hf
  moreInstallers := Nat.le_refl _
  installer i _ := .inl rfl

@[inherit_doc register]
theorem unregister {removed : Value} (h : ¬(removed == contract) = true) :
    Apart r contract w (w.withRow r ((w.row r : Registry).unregister removed)) where
  things := .withRow_registry w r _
  entry := by rw [World.row_withRow_self, Registry.entryOf?_unregister, if_neg h]
  captures found hf := by rwa [World.row_withRow_self, Registry.captureOf?_unregister]
  first found hn hf := by
    rw [World.row_withRow_self, Registry.captureOf?_unregister, hn] at hf
    cases hf
  moreInstallers := Nat.le_refl _
  installer i _ := .inl rfl

/-- Installers of other contracts do not matter. -/
theorem withRow_installer {i : Ref .installer} {installer : Installer}
    (hi : i.index < w.installers.size) (h : ¬(installer.contractId == contract) = true) :
    Apart r contract w (w.withRow i installer) where
  things := .withRow_installer w i _
  entry := rfl
  captures _ hf := hf
  first _ hn hf := by
    rw [World.row_withRow_installer_registry, hn] at hf
    cases hf
  moreInstallers := Nat.le_of_eq (Table.size_set w.installers hi installer).symm
  installer j hj := by
    rw [World.row_withRow] at hj ⊢
    by_cases hji : j = i
    · rw [if_pos hji] at hj
      exact absurd hj h
    · rw [if_neg hji]
      exact .inl rfl

theorem of_captureStep {contractId capability : Value} {capture : Capture}
    (h : CaptureStep call r contractId capability w w' capture) : Apart r contract w w' where
  things := .of_captureStep h
  entry := h.entryOf? contract
  captures found hf := h.persists hf
  first found hn hf := by
    obtain ⟨hc, serial, e, c, hfound, he, _⟩ := h.captured_only hn hf
    exact ⟨serial, e, c, hfound, (OrderedMap.get?_congr _ hc).symm.trans he⟩
  moreInstallers := Nat.le_of_eq (h.installers ▸ rfl)
  installer i _ := .inl (h.row_installer i)

end Apart

/-- An installer over a registry is there. -/
theorem Installer.Over.lt_size {w : World} {i : Ref .installer} {r : Ref .registry}
    (h : (w.row i : Installer).Over r) : i.index < w.installers.size := by
  rcases Nat.lt_or_ge i.index w.installers.size with hlt | hge
  · exact hlt
  · have hrow : (w.row i : Installer) = {} := Table.get_of_size_le _ hge
    have hregistry := h.registry
    rw [hrow] at hregistry
    cases hregistry

/-- A request that is to no installer of a contract, and leaves the contract to them, is apart
from it. -/
theorem Dealing.Step.apart {call : Caller} {r : Ref .registry} {contract : Value} {w w' : World}
    {d : Dealing} (hd : Dealing.Step call r w w' d) (hs : (w.row r : Registry).Sound)
    (fits : d.Fits r w) (leaves : d.Leaves contract w)
    (hoff : ∀ i, d.installer? = some i → ¬((w.row i : Installer).contractId == contract) = true) :
    Apart r contract w w' := by
  cases hd with
  | served served => exact .of_served served
  | @registered classId description contractId p _ placed =>
    have hne : ¬(contractId == contract) = true := leaves
    exact (Apart.register hne).trans (.of_alike placed)
  | unregistered removed => exact (Apart.unregister leaves).trans (.of_alike removed)
  | captured captured => exact .of_captureStep captured
  | refused captured made => exact made ▸ (Apart.of_captureStep captured).trans (.withStandIn _)
  | @installed i id name version platformVersion capture w₁ captured _ _ placed =>
    have hoff : ¬((w₁.row i : Installer).contractId == contract) = true :=
      captured.row_installer i ▸ hoff i rfl
    have hover : (w₁.row i : Installer).Over r := captured.row_installer i ▸ fits
    refine (Apart.of_captureStep captured).trans (.trans ?_ (.of_alike placed))
    refine (Apart.withStandIn _).trans ((Apart.register ?_).trans (.withRow_installer ?_ ?_))
    · exact hoff
    · exact hover.lt_size
    · exact hoff
  | @restored i serial e c captured replaced =>
    have hsame := (hs.of_captured captured).2.1
    have hoff : ¬((w.row i : Installer).contractId == contract) = true := hoff i rfl
    have hover : (w.row i : Installer).Over r := fits
    refine .trans (.trans (Apart.register ?_) (.withRow_installer ?_ ?_)) (.of_alike replaced)
    · exact fun h => hoff (BEq.trans (BEq.symm hsame) h)
    · exact hover.lt_size
    · exact hoff

theorem Dealing.Fits.over {r : Ref .registry} {w : World} {d : Dealing} (h : d.Fits r w)
    {i : Ref .installer} (hd : d.installer? = some i) : (w.row i : Installer).Over r := by
  cases d with
  | install j id name version platformVersion => exact Option.some.inj hd ▸ h
  | restore j => exact Option.some.inj hd ▸ h
  | _ => cases hd

theorem Value.Telling.of_beq {v v' : Value} (h : v.Telling) (hv : (v == v') = true) :
    v'.Telling := by
  obtain ⟨s, hs, hb⟩ := h
  exact ⟨s, Value.text?_of_beq hv hs, hb⟩

/-! ## What is in place -/

/-- An entry that was made anew, any number of times. -/
def Entry.Anew (e e' : Entry) : Prop := ∃ serial, e' = { e with serial := serial }

/-- What is in place for a contract: the entry that was there at first, or a stand-in. -/
inductive InPlace (r : Ref .registry) (contract : Value) (e₀ : Entry) (w : World) :
    Option Value → Prop
  | original {e : Entry} (anew : e₀.Anew e)
      (entry : (w.row r : Registry).entryOf? contract = some e.toValue) :
      InPlace r contract e₀ w none
  | standIn {e : Entry} {p : Ref .provider} {c : Ref .component} {fallback : Value}
      (entry : (w.row r : Registry).entryOf? contract = some e.toValue)
      (provider : e.provider = .ofRef p)
      (serves : w.row p = Provider.overlay (.ofRef c))
      (overlay : (w.row c : Component).fallback? = some fallback) :
      InPlace r contract e₀ w (some (.ofRef c))

/-- What the requests of a succession have come to, given the stand-in that is in place and
what every installer itself has in place. -/
structure Settled (r : Ref .registry) (contract : Value) (e₀ : Entry) (w : World)
    (stands : Option Value) (own : Ref .installer → Value) : Prop where
  sane : Sane r w
  inPlace : InPlace r contract e₀ w stands
  /-- As long as nothing is captured, nothing was installed. -/
  uncaptured (hn : (w.row r : Registry).captureOf? contract = none) : stands = none ∧
    ∀ i : Ref .installer, ((w.row i : Installer).contractId == contract) = true → own i = .none
  /-- What is captured is the entry that was there at first. -/
  captured (found : Value) (hf : (w.row r : Registry).captureOf? contract = some found) :
    ∃ (serial : Nat) (e : Entry) (c : Ref .component),
      found = Capture.toValue ⟨serial, e.toValue, .ofRef c⟩ ∧ e₀.Anew e
  current (i : Ref .installer) (hi : ((w.row i : Installer).contractId == contract) = true) :
    (w.row i : Installer).current = own i
  /-- Installers that are yet to be made have nothing in place. -/
  unmade (i : Ref .installer) (hi : w.installers.size ≤ i.index) : own i = .none

/-- A provider of an overlay stays one. -/
theorem World.Extends.row_overlay {w w' : World} (h : w.Extends w') {p : Ref .provider}
    {component : Value} (hp : w.row p = Provider.overlay component) :
    w'.row p = Provider.overlay component := by
  rcases Nat.lt_or_ge p.index w.providers.size with hlt | hge
  · have hsame := h.provider p hlt
    rw [hp] at hsame
    revert hsame
    cases (w'.row p : Provider) with
    | overlay component' => exact id
    | _ => exact fun hsame => nomatch hsame
  · have hrow : (w.row p : Provider) = .host .none := Table.get_of_size_le _ hge
    rw [hrow] at hp
    cases hp

namespace Settled

variable {call : Caller} {r : Ref .registry} {contract : Value} {e₀ : Entry} {w w' : World}
  {stands : Option Value} {own own' : Ref .installer → Value}

/-- What is apart from the contract changes nothing of it. -/
theorem apart (h : Settled r contract e₀ w stands own) (ha : Apart r contract w w')
    (hs : Sane r w') (hown : ∀ i : Ref .installer,
      ((w.row i : Installer).contractId == contract) = true ∨ w.installers.size ≤ i.index →
        own' i = own i) : Settled r contract e₀ w' stands own' where
  sane := hs
  inPlace := by
    cases h.inPlace with
    | original anew entry => exact .original anew (ha.entry.trans entry)
    | standIn entry provider serves overlay =>
      exact .standIn (ha.entry.trans entry) provider (ha.things.row_overlay serves)
        (ha.things.fallback_eq_some overlay)
  uncaptured hn := by
    have hbefore : (w.row r : Registry).captureOf? contract = none := by
      cases hf : (w.row r : Registry).captureOf? contract with
      | none => rfl
      | some found =>
        rw [ha.captures found hf] at hn
        cases hn
    obtain ⟨hstands, hnothing⟩ := h.uncaptured hbefore
    refine ⟨hstands, fun i hi => ?_⟩
    rcases ha.installer i hi with hrow | ⟨hle, _⟩
    · rw [hrow] at hi
      exact (hown i (.inl hi)).trans (hnothing i hi)
    · exact (hown i (.inr hle)).trans (h.unmade i hle)
  captured found hf := by
    cases hbefore : (w.row r : Registry).captureOf? contract with
    | some known =>
      rw [ha.captures known hbefore] at hf
      exact h.captured found (hf ▸ hbefore)
    | none =>
      obtain ⟨serial, e, c, hfound, he⟩ := ha.first found hbefore hf
      -- Before the first capture nothing was installed, so that the entry is the original one.
      have hplace := (h.uncaptured hbefore).1 ▸ h.inPlace
      cases hplace with
      | original anew entry =>
        rw [he] at entry
        exact ⟨serial, e, c, hfound, Entry.toValue_injective (Option.some.inj entry) ▸ anew⟩
  current i hi := by
    rcases ha.installer i hi with hrow | ⟨hle, hnone⟩
    · rw [hrow] at hi ⊢
      exact (h.current i hi).trans (hown i (.inl hi)).symm
    · rw [hnone, hown i (.inr hle), h.unmade i hle]
  unmade i hi := by
    have hle := Nat.le_trans ha.moreInstallers hi
    exact (hown i (.inr hle)).trans (h.unmade i hle)

theorem alike (h : Settled r contract e₀ w stands own) (ha : w.Alike w') :
    Settled r contract e₀ w' stands own :=
  h.apart (.of_alike ha) (h.sane.of_alike ha) fun _ _ => rfl

/-- With a capture at hand, another entry of the contract may take the place. -/
theorem register (h : Settled r contract e₀ w stands own) {found : Value}
    (hf : (w.row r : Registry).captureOf? contract = some found) {e : Entry} (he : e.Proper)
    {stands' : Option Value}
    (place : InPlace r contract e₀ (w.withRow r ((w.row r : Registry).register e)) stands') :
    Settled r contract e₀ (w.withRow r ((w.row r : Registry).register e)) stands' own where
  sane := h.sane.withRow (h.sane.sound.register he)
  inPlace := place
  uncaptured hn := by
    rw [World.row_withRow_self, Registry.captureOf?_register, hf] at hn
    cases hn
  captured other hother := by
    rw [World.row_withRow_self, Registry.captureOf?_register] at hother
    exact h.captured other hother
  current := h.current
  unmade := h.unmade

/-- With a capture at hand, an installer of the contract may have anything as its own. -/
theorem withCurrent (h : Settled r contract e₀ w stands own)
    (own' : Ref .installer → Value) {found : Value}
    (hf : (w.row r : Registry).captureOf? contract = some found) {i : Ref .installer}
    (hover : (w.row i : Installer).Over r) (hother : ∀ j, j ≠ i → own' j = own j) :
    Settled r contract e₀ (w.withRow i { (w.row i : Installer) with current := own' i })
      stands own' where
  sane := h.sane.withRow_installer i _
  inPlace := by
    cases h.inPlace with
    | original anew entry => exact .original anew entry
    | standIn entry provider serves overlay => exact .standIn entry provider serves overlay
  uncaptured hn := by
    rw [World.row_withRow_installer_registry, hf] at hn
    cases hn
  captured := h.captured
  current j hj := by
    rw [World.row_withRow] at hj ⊢
    by_cases hji : j = i
    · rw [if_pos hji, hji]
    · rw [if_neg hji] at hj ⊢
      exact (h.current j hj).trans (hother j hji).symm
  unmade j hj := by
    have hlt := hover.lt_size
    have hle : w.installers.size ≤ j.index := Table.size_set w.installers hlt _ ▸ hj
    have hji : j ≠ i := fun hji => Nat.not_lt_of_le hle (hji ▸ hlt)
    exact (hother j hji).trans (h.unmade j hle)

/-- A stand-in that is put in place is what is in place then. -/
theorem installed (h : Settled r contract e₀ w stands own) {found : Value}
    (hf : (w.row r : Registry).captureOf? contract = some found) {i : Ref .installer}
    (hover : (w.row i : Installer).Over r)
    (hi : ((w.row i : Installer).contractId == contract) = true)
    (hc : (w.row i : Installer).classId.Telling) (hk : (w.row i : Installer).contractId.Telling)
    (layer : Overlay) (hown : own' i = .ofRef w.nextComponent)
    (hother : ∀ j, j ≠ i → own' j = own j) :
    Settled r contract e₀ (w.installed r i layer) (some (.ofRef w.nextComponent)) own' := by
  let e : Entry := (w.row i : Installer).entryFor w.nextSerial w.nextProvider
  have he : e.Proper := ⟨hc, hk, ⟨_, rfl⟩, ⟨_, rfl⟩⟩
  have hmade : Settled r contract e₀ (w.withStandIn layer) stands own :=
    h.apart (.withStandIn layer) (h.sane.withStandIn layer) fun _ _ => rfl
  have hplace : InPlace r contract e₀
      ((w.withStandIn layer).withRow r ((w.row r : Registry).register e))
      (some (.ofRef w.nextComponent)) := by
    refine .standIn (e := e) (p := w.nextProvider) ?_ rfl (w.row_withStandIn_nextProvider layer)
      (congrArg Component.fallback? (w.row_withStandIn_nextComponent layer))
    rw [World.row_withRow_self, Registry.entryOf?_register]
    exact if_pos hi
  have hregistered := hmade.register hf he hplace
  have hcurrent := hregistered.withCurrent own' (by rw [World.row_withRow_self]; exact hf) hover
    hother
  rw [hown] at hcurrent
  exact hcurrent

/-- The captured entry is the one that was there at first, so that it is in place again when
it is restored. -/
theorem restored (h : Settled r contract e₀ w stands own) {i : Ref .installer}
    (hover : (w.row i : Installer).Over r)
    (hi : ((w.row i : Installer).contractId == contract) = true)
    {serial : Nat} {e : Entry} {c : Ref .component}
    (hf : (w.row r : Registry).captureOf? (w.row i : Installer).contractId =
      some (Capture.toValue ⟨serial, e.toValue, .ofRef c⟩))
    (hown : own' i = .none) (hother : ∀ j, j ≠ i → own' j = own j) :
    Settled r contract e₀ ((w.withRow r ((w.row r : Registry).register
      { e with serial := w.nextSerial })).withRow i
        { (w.row i : Installer) with current := .none }) none own' := by
  obtain ⟨hp, hsame, _⟩ := h.sane.sound.of_captured hf
  have hf : (w.row r : Registry).captureOf? contract =
      some (Capture.toValue ⟨serial, e.toValue, .ofRef c⟩) :=
    (OrderedMap.get?_congr _ hi).symm.trans hf
  obtain ⟨_, e', _, heq, made, he'⟩ := h.captured _ hf
  obtain rfl : e = e' := (Capture.eq_of_toValue heq).1
  have hplace : InPlace r contract e₀ (w.withRow r ((w.row r : Registry).register
      { e with serial := w.nextSerial })) none := by
    refine .original (e := { e with serial := w.nextSerial }) ⟨w.nextSerial, ?_⟩ ?_
    · rw [he']
    · rw [World.row_withRow_self, Registry.entryOf?_register]
      exact if_pos (BEq.trans hsame hi)
  have hregistered := h.register hf (hp.anew w.nextSerial) hplace
  have hcurrent := hregistered.withCurrent own' (by rw [World.row_withRow_self]; exact hf) hover
    hother
  rw [hown] at hcurrent
  exact hcurrent

/-- A contract with an entry is not blank. -/
theorem telling (h : Settled r contract e₀ w stands own) : contract.Telling := by
  have hentry : ∃ found, (w.row r : Registry).entryOf? contract = some found := by
    cases h.inPlace with
    | original _ entry => exact ⟨_, entry⟩
    | standIn entry _ _ _ => exact ⟨_, entry⟩
  obtain ⟨found, hfound⟩ := hentry
  obtain ⟨e, _, hp, hc⟩ := h.sane.sound.entries contract found hfound
  exact hp.contractId.of_beq hc

/-- An install for the contract puts its stand-in in place, or fails because nothing can be
captured. -/
theorem install (h : Settled r contract e₀ w stands own) (call : Caller) (i : Ref .installer)
    (id name version platformVersion : Value)
    (fits : (Dealing.install i id name version platformVersion).Fits r w)
    (leaves : (Dealing.install i id name version platformVersion).Leaves contract w)
    (hi : ((w.row i : Installer).contractId == contract) = true) :
    (∃ c : Ref .component,
      Event.outcome call r ⟨w, .install i id name version platformVersion⟩ = .ok (.ofRef c) ∧
      ∀ own' : Ref .installer → Value, own' i = .ofRef c → (∀ j, j ≠ i → own' j = own j) →
        Settled r contract e₀ (Event.after call r ⟨w, .install i id name version platformVersion⟩)
          (some (.ofRef c)) own') ∨
    (∃ fault,
      Event.outcome call r ⟨w, .install i id name version platformVersion⟩ = .error fault) ∧
      CaptureFailure call r (w.row i : Installer).contractId (.capability .runtime) w
        (Event.after call r ⟨w, .install i id name version platformVersion⟩) := by
  have hover : (w.row i : Installer).Over r := fits
  obtain ⟨hclass, hid, hversion, hplatform⟩ := leaves hi
  have hk : (w.row i : Installer).contractId.Telling := h.telling.of_beq (BEq.symm hi)
  rcases h.sane.intact.install_of_texts call i hover h.sane.sound hclass hk hid hversion hplatform
    name with hfailed | ⟨capture, w₁, hcaptured, hok, hplaced⟩
  · exact .inr hfailed
  · refine .inl ⟨w₁.nextComponent, hok, fun own' hown hother => ?_⟩
    have h₁ : Settled r contract e₀ w₁ stands own :=
      h.apart (.of_captureStep hcaptured) (h.sane.of_captureStep hcaptured) fun _ _ => rfl
    have hrow := hcaptured.row_installer i
    have hf : (w₁.row r : Registry).captureOf? contract = some capture.toValue :=
      (OrderedMap.get?_congr _ hi).symm.trans (hcaptured.captured h.sane.sound)
    refine Settled.alike (h₁.installed hf ?_ ?_ ?_ ?_ _ hown hother) hplaced
    · rwa [hrow]
    · rwa [hrow]
    · rwa [hrow]
    · rwa [hrow]

/-- A restore for the contract puts the original entry in place. -/
theorem restore (h : Settled r contract e₀ w stands own) (i : Ref .installer)
    (fits : (Dealing.restore i).Fits r w)
    (hi : ((w.row i : Installer).contractId == contract) = true)
    (hown : own' i = .none) (hother : ∀ j, j ≠ i → own' j = own j) :
    Settled r contract e₀ (Event.after call r ⟨w, .restore i⟩) none own' := by
  have hover : (w.row i : Installer).Over r := fits
  rw [Event.after, Dealing.perform, World.after_bind_pure]
  cases (h.sane.intact.restore_cases call i hover h.sane.sound).2 with
  | nothing uncaptured same =>
    have hn : (w.row r : Registry).captureOf? contract = none :=
      (OrderedMap.get?_congr _ hi).symm.trans uncaptured
    obtain ⟨hstands, hnothing⟩ := h.uncaptured hn
    have hsame : own' = own := by
      funext j
      by_cases hji : j = i
      · rw [hji, hown, hnothing i hi]
      · exact hother j hji
    rw [same, hsame]
    exact hstands ▸ h
  | restored captured replaced => exact (h.restored hover hi captured hown hother).alike replaced

/-- A request that is not for the contract, nor of one of its installers, changes nothing. -/
theorem dealOff (h : Settled r contract e₀ w stands own) (d : Dealing) (fits : d.Fits r w)
    (leaves : d.Leaves contract w)
    (hoff : ∀ i, d.installer? = some i → ¬((w.row i : Installer).contractId == contract) = true) :
    Settled r contract e₀ (Event.after call r ⟨w, d⟩)
      (Event.standing call r ⟨w, d⟩ contract stands)
      (fun i => Event.own call r ⟨w, d⟩ i (own i)) := by
  have hstep : Dealing.Step call r w (Event.after call r ⟨w, d⟩) d := d.step h.sane fits
  rw [Event.standing_of_off hoff]
  refine h.apart (hstep.apart h.sane.sound fits leaves hoff) (hstep.sane h.sane) fun i hi => ?_
  refine Event.own_of_ne (fun hd => ?_) _
  rcases hi with hi | hi
  · exact hoff i hd hi
  · exact Nat.not_lt_of_le hi (fits.over hd).lt_size

/-- An install puts its stand-in in place, or fails and changes nothing. -/
theorem dealInstall (h : Settled r contract e₀ w stands own) (i : Ref .installer)
    (id name version platformVersion : Value)
    (fits : (Dealing.install i id name version platformVersion).Fits r w)
    (leaves : (Dealing.install i id name version platformVersion).Leaves contract w)
    (hi : ((w.row i : Installer).contractId == contract) = true) :
    let e : Event := ⟨w, .install i id name version platformVersion⟩
    Settled r contract e₀ (e.after call r) (e.standing call r contract stands)
      (fun j => e.own call r j (own j)) := by
  intro e
  rcases h.install call i id name version platformVersion fits leaves hi with
    ⟨c, hok, hsettled⟩ | ⟨⟨fault, hfault⟩, hfailure⟩
  · have hown (j : Ref .installer) : e.own call r j (own j) =
        if i = j then .ofRef c else own j := by
      simp only [e, Event.own, hok]
      rfl
    have hstands : e.standing call r contract stands = some (.ofRef c) := by
      simp only [e, Event.standing, hok, if_pos hi]
      rfl
    rw [hstands]
    simp only [hown]
    exact hsettled _ (if_pos rfl) fun j hj => if_neg (Ne.symm hj)
  · have hown (j : Ref .installer) : e.own call r j (own j) = own j := by
      simp only [e, Event.own, hfault]
      exact ite_self _
    have hstands : e.standing call r contract stands = stands := by
      simp only [e, Event.standing, hfault, if_pos hi]
      rfl
    rw [hstands]
    simp only [hown]
    exact h.apart (.of_served hfailure.served) (h.sane.of_served hfailure.served) fun _ _ => rfl

/-- After any request things have settled again. -/
theorem deal (h : Settled r contract e₀ w stands own) (d : Dealing) (fits : d.Fits r w)
    (leaves : d.Leaves contract w) :
    Settled r contract e₀ (Event.after call r ⟨w, d⟩)
      (Event.standing call r ⟨w, d⟩ contract stands)
      (fun i => Event.own call r ⟨w, d⟩ i (own i)) := by
  by_cases hoff : ∀ i, d.installer? = some i →
      ¬((w.row i : Installer).contractId == contract) = true
  · exact h.dealOff d fits leaves hoff
  · obtain ⟨i, hoff⟩ := Classical.not_forall.1 hoff
    obtain ⟨hd, hi⟩ := Classical.not_imp.1 hoff
    have hi := Classical.not_not.1 hi
    cases d with
    | install j id name version platformVersion =>
      obtain rfl := Option.some.inj hd
      exact h.dealInstall j id name version platformVersion fits leaves hi
    | restore j =>
      obtain rfl := Option.some.inj hd
      have hstands : Event.standing call r ⟨w, .restore j⟩ contract stands = none := if_pos hi
      rw [hstands]
      exact h.restore j fits hi (if_pos rfl) fun i hij => if_neg (Ne.symm hij)
    | _ => cases hd

end Settled

/-! ## What is found when things have settled -/

namespace Settled

variable {r : Ref .registry} {contract : Value} {e₀ : Entry} {w w' : World}
  {own : Ref .installer → Value} (call : Caller)

theorem unhashable? {stands : Option Value} (h : Settled r contract e₀ w stands own) :
    contract.unhashable? = none := by
  obtain ⟨s, hs, _⟩ := h.telling
  exact Value.unhashable?_of_text? hs

/-- A stand-in that is in place is served as any capability. -/
theorem served {v : Value} (h : Settled r contract e₀ w (some v) own) (capability : Capability) :
    w.outcome (getService call r contract (.capability capability)) = .ok v := by
  cases h.inPlace with
  | @standIn e p c fallback entry provider serves overlay =>
    obtain ⟨layer, hlayer⟩ : ∃ layer, w.row c = Component.overlay layer := by
      cases hc : (w.row c : Component) with
      | overlay layer => exact ⟨layer, rfl⟩
      | _ =>
        rw [hc] at overlay
        cases overlay
    have hrun := h.sane.intact.run_getService call r h.unhashable? entry (.capability capability)
    rw [provider, h.sane.intact.run_createFrom_overlay call serves hlayer] at hrun
    exact World.outcome_of_run hrun

/-- With no stand-in in place, the provider that was there at first is looked up. -/
theorem original (h : Settled r contract e₀ w none own) :
    w.outcome (lookup call r contract) = .ok e₀.provider ∧
      ∃ e, e₀.Anew e ∧ w.outcome (getEntry call r contract) = .ok e.toValue := by
  cases h.inPlace with
  | @original e anew entry =>
    have hprovider : e.provider = e₀.provider := by
      obtain ⟨_, rfl⟩ := anew
      rfl
    have hlookup := World.outcome_of_run (h.sane.intact.run_lookup call r h.unhashable? entry)
    have hget := World.outcome_of_run (h.sane.intact.run_getEntry call r h.unhashable? entry)
    exact ⟨hprovider ▸ hlookup, e, anew, hget⟩

/-- Where nothing can be captured, it is the original provider that hands nothing out. -/
theorem unserved {call : Caller} {stands : Option Value} {contractId capability : Value}
    (h : Settled r contract e₀ w stands own)
    (hfailure : CaptureFailure call r contractId capability w w')
    (hc : (contractId == contract) = true) :
    (w.row r : Registry).captureOf? contract = none ∧
      ∃ fault, w.outcome (createFrom call e₀.provider capability) = .error fault := by
  have hn : (w.row r : Registry).captureOf? contract = none :=
    (OrderedMap.get?_congr _ hc).symm.trans hfailure.uncaptured
  have hplace := (h.uncaptured hn).1 ▸ h.inPlace
  cases hplace with
  | original anew entry =>
    obtain ⟨serial, rfl⟩ := anew
    have hentry : (w.row r : Registry).entryOf? contractId =
        some (Entry.toValue { e₀ with serial := serial }) :=
      (OrderedMap.get?_congr _ hc).trans entry
    exact ⟨hn, hfailure.unserved { e₀ with serial := serial } hentry⟩

end Settled

/-! ## Restoring twice -/

/-- Two registries that differ in the serial numbers of their entries at most. -/
structure Registry.Same (reg reg' : Registry) : Prop where
  captures : reg'.captures = reg.captures
  keys : reg'.entries.keys = reg.entries.keys
  entries (contract : Value) : reg'.entryOf? contract = reg.entryOf? contract ∨
    ∃ e e' : Entry, e.Anew e' ∧ reg.entryOf? contract = some e.toValue ∧
      reg'.entryOf? contract = some e'.toValue

theorem Registry.Same.refl (reg : Registry) : reg.Same reg := ⟨rfl, rfl, fun _ => .inl rfl⟩

/-- To register an entry that is there makes no difference but for its serial number. -/
theorem Registry.same_register_of_entry {reg : Registry} {e e' : Entry}
    (hentry : reg.entryOf? e'.contractId = some e.toValue) (h : e.Anew e') :
    reg.Same (reg.register e') := by
  refine ⟨rfl, ?_, fun contract => ?_⟩
  · have hpresent : (reg.entries.get? e'.contractId).isSome = true := by
      rw [← Registry.entryOf?, hentry]
      rfl
    exact (OrderedMap.keys_put _ _ _).trans (if_pos hpresent)
  · rw [entryOf?_register]
    by_cases hc : (e'.contractId == contract) = true
    · refine .inr ⟨e, e', h, ?_, if_pos hc⟩
      rw [← hentry]
      exact (OrderedMap.get?_congr _ hc).symm
    · exact .inl (if_neg hc)

/-- To register an entry once more makes no difference but for its serial number. -/
theorem Registry.same_register (reg : Registry) {e e' : Entry} (h : e.Anew e')
    (hself : (e.contractId == e.contractId) = true) :
    (reg.register e).Same ((reg.register e).register e') := by
  obtain ⟨serial, rfl⟩ := h
  refine Registry.same_register_of_entry ?_ ⟨serial, rfl⟩
  rw [entryOf?_register, if_pos hself]

/-- The state in which an installer has put a captured entry back. -/
def World.putBack (w : World) (r : Ref .registry) (i : Ref .installer) (e : Entry) : World :=
  (w.withRow r ((w.row r : Registry).register { e with serial := w.nextSerial })).withRow i
    { (w.row i : Installer) with current := .none }

section

variable {r : Ref .registry} {w once : World} {i : Ref .installer} {e : Entry}

theorem World.Alike.registry_putBack (h : (w.putBack r i e).Alike once) :
    once.row r = (w.row r : Registry).register { e with serial := w.nextSerial } := by
  rw [h.row_registry, putBack, row_withRow_installer_registry, row_withRow_self]

theorem World.Alike.installer_putBack (h : (w.putBack r i e).Alike once) (j : Ref .installer) :
    once.row j = if j = i then { (w.row i : Installer) with current := .none }
      else (w.row j : Installer) := by
  rw [h.row_installer, putBack, row_withRow]
  rfl

/-- What was captured is there to be put back again. -/
theorem Sane.putBack (h : Sane r w) {serial : Nat} {c : Ref .component}
    (hcaptured : (w.row r : Registry).captureOf? (w.row i : Installer).contractId =
      some (Capture.toValue ⟨serial, e.toValue, .ofRef c⟩))
    (honce : (w.putBack r i e).Alike once) :
    Sane r once ∧ (once.row r : Registry).captureOf? (once.row i : Installer).contractId =
      some (Capture.toValue ⟨serial, e.toValue, .ofRef c⟩) := by
  obtain ⟨hp, _⟩ := h.sound.of_captured hcaptured
  have hregistered := h.withRow (h.sound.register (hp.anew w.nextSerial))
  refine ⟨(hregistered.withRow_installer _ _).of_alike honce, ?_⟩
  rw [honce.registry_putBack, honce.installer_putBack, if_pos rfl]
  exact hcaptured

end

/-- Restoring twice is restoring once. -/
theorem Sane.restore_twice {r : Ref .registry} {w : World} (h : Sane r w) (call : Caller)
    {i : Ref .installer} (hover : (w.row i : Installer).Over r) :
    let once := w.after (restore call i)
    let twice := once.after (restore call i)
    (once.row r : Registry).Same (twice.row r) ∧
      ∀ j : Ref .installer, twice.row j = (once.row j : Installer) := by
  intro once twice
  cases (h.intact.restore_cases call i hover h.sound).2 with
  | nothing _ same =>
    have honce : once = w := same
    have htwice : twice = w := (congrArg (World.after · (restore call i)) honce).trans honce
    rw [htwice, honce]
    exact ⟨.refl _, fun _ => rfl⟩
  | @restored serial e c captured replaced =>
    have honce : (w.putBack r i e).Alike once := replaced
    obtain ⟨hs, hcaptured⟩ := h.putBack captured honce
    have hover' : (once.row i : Installer).Over r := by
      rw [honce.installer_putBack, if_pos rfl]
      exact ⟨hover.registry, hover.classId, hover.contractId⟩
    cases (hs.intact.restore_cases call i hover' hs.sound).2 with
    | nothing uncaptured _ =>
      rw [hcaptured] at uncaptured
      cases uncaptured
    | @restored serial' e' c' captured' replaced' =>
      have htwice : (once.putBack r i e').Alike twice := replaced'
      rw [hcaptured] at captured'
      obtain rfl : e = e' := (Capture.eq_of_toValue (Option.some.inj captured')).1
      constructor
      · obtain ⟨_, hsame, _⟩ := h.sound.of_captured captured
        have hself : (e.contractId == e.contractId) = true := BEq.trans hsame (BEq.symm hsame)
        rw [htwice.registry_putBack, honce.registry_putBack]
        exact Registry.same_register _ ⟨once.nextSerial, rfl⟩ hself
      · intro j
        rw [htwice.installer_putBack, honce.installer_putBack i, honce.installer_putBack j,
          if_pos rfl]
        split <;> rfl

/-! ## What holds of every succession -/

namespace Succession

variable {call : Caller} {r : Ref .registry} {contract : Value} {e₀ : Entry} {w₀ w : World}
  {es : List Event}

/-- At any time things have settled. -/
theorem settled (h : Succession call r contract w₀ es w)
    (h₀ : Settled r contract e₀ w₀ none fun _ => .none) :
    Settled r contract e₀ w (standing call r contract es) (fun i => ownLast call r i es) := by
  induction h with
  | start => exact h₀
  | deal _ d fits leaves ih =>
    simp only [standing_append, ownLast_append]
    exact ih.deal d fits leaves
  | elsewhere _ aside installers ih =>
    exact ih.apart (.of_row_eq aside.things aside.registry installers) (aside.sane ih.sane)
      fun _ _ => rfl

/-- Every request was made when things had settled. -/
theorem event (h : Succession call r contract w₀ es w)
    (h₀ : Settled r contract e₀ w₀ none fun _ => .none) {e : Event} (he : e ∈ es) :
    e.dealing.Fits r e.before ∧ e.dealing.Leaves contract e.before ∧
      ∃ stands own, Settled r contract e₀ e.before stands own := by
  induction h with
  | start => cases he
  | @deal es w before d fits leaves ih =>
    rcases List.mem_append.1 he with he | he
    · exact ih he
    · obtain rfl := List.mem_singleton.1 he
      exact ⟨fits, leaves, _, _, before.settled h₀⟩
  | elsewhere _ _ _ ih => exact ih he

end Succession

/-- What holds of the events of a succession and the state that they led to, for a contract
with an entry at first. -/
structure LastWins (call : Caller) (r : Ref .registry) (contract : Value) (e₀ : Entry)
    (es : List Event) (w : World) : Prop where
  /-- What was installed last is served as any capability, if nobody restored since. -/
  installed (v : Value) (h : standing call r contract es = some v) (capability : Capability) :
    w.outcome (getService call r contract (.capability capability)) = .ok v
  /-- Otherwise there is what was there at first. -/
  original (h : standing call r contract es = none) :
    w.outcome (lookup call r contract) = .ok e₀.provider ∧
      ∃ e, e₀.Anew e ∧ w.outcome (getEntry call r contract) = .ok e.toValue
  /-- Every installer has what it installed last itself, if it did not restore since. -/
  current (i : Ref .installer) (hi : ((w.row i : Installer).contractId == contract) = true) :
    (w.row i : Installer).current = ownLast call r i es
  /-- An install fails only if the original provider could not be captured. -/
  effective (e : Event) (he : e ∈ es) (i : Ref .installer) (id name version platformVersion : Value)
    (hd : e.dealing = .install i id name version platformVersion)
    (hi : ((e.before.row i : Installer).contractId == contract) = true) :
    (∃ c : Ref .component, e.outcome call r = .ok (.ofRef c)) ∨
      (e.before.row r : Registry).captureOf? contract = none ∧
        ∃ fault, e.before.outcome (createFrom call e₀.provider (.capability .runtime)) =
          .error fault
  /-- A restore never fails. -/
  restored (i : Ref .installer) (hi : (w.row i : Installer).Over r) :
    w.outcome (restore call i) = .ok ()
  /-- Nor does a second one make any difference. -/
  again (i : Ref .installer) (hi : (w.row i : Installer).Over r) :
    let once := w.after (restore call i)
    let twice := once.after (restore call i)
    (once.row r : Registry).Same (twice.row r) ∧
      ∀ j : Ref .installer, twice.row j = (once.row j : Installer)

/-- In every succession the last one wins. -/
theorem Succession.lastWins {call : Caller} {r : Ref .registry} {contract : Value} {e₀ : Entry}
    {w₀ w : World} {es : List Event} (hs : Sane r w₀)
    (hentry : (w₀.row r : Registry).entryOf? contract = some e₀.toValue)
    (hnone : (w₀.row r : Registry).captureOf? contract = none)
    (hcurrent : ∀ i : Ref .installer, ((w₀.row i : Installer).contractId == contract) = true →
      (w₀.row i : Installer).current = .none)
    (h : Succession call r contract w₀ es w) : LastWins call r contract e₀ es w := by
  have h₀ : Settled r contract e₀ w₀ none fun _ => .none :=
    { sane := hs
      inPlace := .original ⟨e₀.serial, rfl⟩ hentry
      uncaptured := fun _ => ⟨rfl, fun _ _ => rfl⟩
      captured := fun found hf => by
        rw [hnone] at hf
        cases hf
      current := hcurrent
      unmade := fun _ _ => rfl }
  have hw := h.settled h₀
  refine ⟨fun v hv => (hv ▸ hw).served call, fun hv => (hv ▸ hw).original call, hw.current, ?_,
    fun i hi => ?_, fun i hi => ?_⟩
  · intro e he i id name version platformVersion hd hi
    obtain ⟨before, dealing⟩ := e
    obtain rfl : dealing = _ := hd
    obtain ⟨fits, leaves, stands, own, hbefore⟩ := h.event h₀ he
    rcases hbefore.install call i id name version platformVersion fits leaves hi with
      ⟨c, hok, _⟩ | ⟨_, hfailure⟩
    · exact .inl ⟨c, hok⟩
    · exact .inr (hbefore.unserved hfailure hi)
  · exact (hw.sane.intact.restore_cases call i hi hw.sane.sound).1
  · exact hw.sane.restore_twice call hi

/-! ## A short succession -/

/-- What the sample identity is registered with. -/
def benchEntry : Entry where
  serial := bench.nextSerial
  classId := .ofText appInfoClass
  description := .ofText "sample"
  contractId := .ofText appInfoContract
  provider := .ofRef (⟨0⟩ : Ref .provider)

/-- A stand-in is installed over the sample identity, and serves from then on. -/
theorem bench_lastWins :
    LastWins invoke ⟨0⟩ (.ofText appInfoContract) benchEntry [benchInstall]
      (benchInstall.after invoke ⟨0⟩) ∧
    standing invoke ⟨0⟩ (.ofText appInfoContract) [benchInstall] =
      some (.ofRef (⟨1⟩ : Ref .component)) := by
  have hsane : Sane ⟨0⟩ benchInstall.before := benchRegister_history.sane ⟨bench_intact, .empty⟩
  have hcurrent : ∀ i : Ref .installer,
      ((benchInstall.before.row i : Installer).contractId == .ofText appInfoContract) = true →
        (benchInstall.before.row i : Installer).current = .none := by
    rintro ⟨_ | _⟩ _ <;> rfl
  refine ⟨Succession.lastWins hsane rfl rfl hcurrent ?_, rfl⟩
  refine .deal .start benchInstall.dealing ⟨rfl, ⟨_, rfl⟩, ⟨_, rfl⟩⟩ fun _ => ?_
  exact ⟨⟨_, rfl, by decide⟩, ⟨_, rfl⟩, ⟨_, rfl⟩, ⟨_, rfl⟩⟩

end Understudy

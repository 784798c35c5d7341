import Understudy.Proofs.Serving

/-!
# The requests to a registry

A registry that is only asked by requests holds proper entries, each under its own
contract, and captures of such entries. For every request this module says all that can
come of it, in an intact state: the ways in which it ends, and what it changes.

## Main definitions

* `Entry.Proper`: an entry as registration makes them.
* `Registry.Sound`: a registry that holds nothing but proper entries and captures of them.
* `CaptureStep`: what a capture does that succeeds.

## Main statements

* `World.Intact.register_cases`: registering.
* `World.Intact.unregister_cases`: removing.
* `World.Intact.run_lookup`, `World.Intact.run_getService`: looking a service up.
* `World.Intact.captureOnce_cases`: capturing.
-/

namespace Understudy

/-! ## Sound registries -/

/-- A text that is not blank. -/
def Value.Telling (v : Value) : Prop := ∃ s, v.text? = some s ∧ Text.isBlankText s = false

theorem Value.isBlankText_of_not_telling {v : Value} {s : String} (hs : v.text? = some s)
    (h : ¬v.Telling) : Text.isBlankText s = true :=
  Bool.of_not_eq_false fun hb => h ⟨s, hs, hb⟩

/-- An entry as registration makes them: of ids that are not blank, for a provider. -/
structure Entry.Proper (e : Entry) : Prop where
  classId : e.classId.Telling
  contractId : e.contractId.Telling
  description : ∃ s, e.description.text? = some s
  provider : ∃ p : Ref .provider, e.provider = .ofRef p

/-- An entry that is made anew is as proper as it was. -/
theorem Entry.Proper.anew {e : Entry} (h : e.Proper) (serial : Nat) :
    Entry.Proper { e with serial := serial } :=
  ⟨h.classId, h.contractId, h.description, h.provider⟩

/-- A thing is the very same as what refers to it. -/
theorem World.indistinct_ofRef {kind : Kind} (x : Ref kind) (v : Value) :
    indistinct (.ofRef x) v = true ↔ v = .ofRef x := by
  cases v with
  | object o =>
    show (x.object == o) = true ↔ _
    rw [beq_iff_eq]
    exact ⟨fun h => congrArg Value.object h.symm, fun h => (Value.object.inj h).symm⟩
  | _ => exact ⟨(nomatch ·), (nomatch ·)⟩

/-- The provider of a proper entry is a thing. -/
theorem Entry.Proper.indistinct_iff {e : Entry} (h : e.Proper) {v : Value} :
    World.indistinct e.provider v = true ↔ e.provider = v := by
  obtain ⟨p, hp⟩ := h.provider
  rw [hp, World.indistinct_ofRef]
  exact eq_comm

/-- A registry that holds nothing but proper entries, each under its own contract, and
captures of such entries. -/
structure Registry.Sound (reg : Registry) : Prop where
  entries (contract found : Value) (h : reg.entryOf? contract = some found) :
    ∃ e : Entry, found = e.toValue ∧ e.Proper ∧ (e.contractId == contract) = true
  captures (contract found : Value) (h : reg.captureOf? contract = some found) :
    ∃ (serial : Nat) (e : Entry) (c : Ref .component),
      found = Capture.toValue ⟨serial, e.toValue, .ofRef c⟩ ∧ e.Proper ∧
        (e.contractId == contract) = true

namespace Registry.Sound

variable {reg : Registry} (h : reg.Sound)

theorem empty : Registry.Sound {} where
  entries _ _ hf := nomatch hf
  captures _ _ hf := nomatch hf

include h

theorem register {e : Entry} (he : e.Proper) : (reg.register e).Sound where
  entries contract found hf := by
    rw [entryOf?_register] at hf
    split at hf
    · rename_i hc
      obtain rfl := Option.some.inj hf
      exact ⟨e, rfl, he, hc⟩
    · exact h.entries contract found hf
  captures contract found hf := h.captures contract found hf

theorem unregister (removed : Value) : (reg.unregister removed).Sound where
  entries contract found hf := by
    rw [entryOf?_unregister] at hf
    split at hf
    · cases hf
    · exact h.entries contract found hf
  captures contract found hf := h.captures contract found hf

/-- What is captured for a contract is its entry. -/
theorem capture {contract : Value} {e : Entry} (he : reg.entryOf? contract = some e.toValue)
    (serial : Nat) (c : Ref .component) :
    (reg.capture contract ⟨serial, e.toValue, .ofRef c⟩).Sound where
  entries other found hf := h.entries other found hf
  captures other found hf := by
    rw [captureOf?_capture] at hf
    split at hf
    · rename_i hc
      obtain rfl := Option.some.inj hf
      obtain ⟨e', heq, hp, hcontract⟩ := h.entries contract _ he
      obtain rfl : e = e' := Entry.toValue_injective heq
      exact ⟨serial, e, c, rfl, hp, BEq.trans hcontract hc⟩
    · exact h.captures other found hf

/-- A contract with an entry is known by a key. -/
theorem unhashable?_of_entryOf? {contract found : Value}
    (hf : reg.entryOf? contract = some found) : contract.unhashable? = none := by
  obtain ⟨e, _, hp, hc⟩ := h.entries contract found hf
  obtain ⟨s, hs, _⟩ := hp.contractId
  exact Value.unhashable?_of_text? (Value.text?_of_beq hc hs)

/-- A contract that is captured is known by a key. -/
theorem unhashable?_of_captureOf? {contract found : Value}
    (hf : reg.captureOf? contract = some found) : contract.unhashable? = none := by
  obtain ⟨_, e, _, _, hp, hc⟩ := h.captures contract found hf
  obtain ⟨s, hs, _⟩ := hp.contractId
  exact Value.unhashable?_of_text? (Value.text?_of_beq hc hs)

/-- What is found for a captured contract is a capture. -/
theorem capture_of_captureOf? {contract found : Value}
    (hf : reg.captureOf? contract = some found) : ∃ known : Capture, found = known.toValue := by
  obtain ⟨serial, e, c, rfl, _⟩ := h.captures contract found hf
  exact ⟨_, rfl⟩

/-- The entry of a capture is a proper one of its contract. -/
theorem of_captured {contract : Value} {serial : Nat} {e : Entry} {service : Value}
    (hf : reg.captureOf? contract = some (Capture.toValue ⟨serial, e.toValue, service⟩)) :
    e.Proper ∧ (e.contractId == contract) = true ∧ ∃ c : Ref .component, service = .ofRef c := by
  obtain ⟨serial', e', c, heq, hp, hc⟩ := h.captures contract _ hf
  obtain ⟨rfl, hservice⟩ := Capture.eq_of_toValue heq
  exact ⟨hp, hc, c, hservice⟩

end Registry.Sound

/-! ## Texts -/

/-- A text is displayed the same way in every state. -/
theorem World.display_of_text? {v : Value} {s : String} (h : v.text? = some s) :
    ∃ t, ∀ w : World, w.display v = .ok t := by
  cases v with
  | text => exact ⟨_, fun _ => rfl⟩
  | field => exact ⟨_, fun _ => rfl⟩
  | _ => cases h

/-- The fault of asking for a contract that has no entry, or of wording it. -/
def World.unserved (w : World) (contractId : Value) : Fault :=
  match w.quoted contractId with
  | .ok shown => .noService shown
  | .error fault => fault

/-! ## Items of dictionaries -/

namespace World

variable (w : World) (call : Caller) (d : DictRef) {key : Value}

theorem run_getItem_dict (h : key.unhashable? = none) :
    w.run (getItem call (.dict d) key) = (.ok (((w.pairs d).get? key).getD .none), w) := by
  simp only [getItem, getFrom, run_bind, run_needKey, h, run_get, run_pure]

theorem run_setItem_dict (v : Value) (h : key.unhashable? = none) :
    w.run (setItem (.dict d) key v) = (.ok (), w.withPairs d ((w.pairs d).put key v)) := by
  simp only [setItem, run_bind, run_get, run_needKey, h, run_set]

theorem run_removeItem_dict {v : Value} (h : key.unhashable? = none)
    (hv : (w.pairs d).get? key = some v) :
    w.run (removeItem (.dict d) key) = (.ok (), w.withPairs d ((w.pairs d).erase key)) := by
  simp [removeItem, h, hv]

end World

/-! ## Registering -/

namespace World

/-- Whether a text is blank can be told from the text. -/
theorem run_isBlankId (w : World) (call : Caller) {id : Value} {s : String}
    (h : id.text? = some s) :
    w.run (isBlankId call id) = (.ok (Text.isBlankText s), w) := by
  cases id with
  | text i t =>
    obtain rfl := Option.some.inj h
    by_cases ht : t = ""
    · subst ht
      rfl
    · have htrue : w.truthy (.text i t) = true := by simp [truthy, ht]
      simp [isBlankId, htrue, Value.text?]
  | field f =>
    obtain rfl := Option.some.inj h
    rfl
  | _ => cases h

variable (w : World) (call : Caller)

theorem run_newEntry {classId contractId : Value} (hc : classId.Telling) (hk : contractId.Telling)
    (description provider : Value) :
    w.run (newEntry call classId description contractId provider) =
      (.ok ⟨w.nextSerial, classId, description, contractId, provider⟩,
        { w with nextSerial := w.nextSerial + 1 }) := by
  obtain ⟨s, hs, hsb⟩ := hc
  obtain ⟨t, ht, htb⟩ := hk
  simp [newEntry, w.run_isBlankId call hs, w.run_isBlankId call ht, hsb, htb]

/-- No entry is made of a blank id, and that of the contract is looked at first. -/
theorem run_newEntry_blank {classId contractId : Value} {s t : String}
    (hs : classId.text? = some s) (ht : contractId.text? = some t)
    (hb : Text.isBlankText s = true ∨ Text.isBlankText t = true) (description provider : Value) :
    w.run (newEntry call classId description contractId provider) =
      (.error (if Text.isBlankText t then .blankContract else .blankClass), w) := by
  simp only [newEntry, run_bind, w.run_isBlankId call ht]
  by_cases h : Text.isBlankText t = true
  · simp [h]
  · have h' : Text.isBlankText s = true := hb.resolve_right h
    simp [h, w.run_isBlankId call hs, h']

end World

/-- Tells that an entry was put in the place of another value, if there was one. -/
def announce (call : Caller) (previous description contractId : Value) : Action Unit := do
  if previous.isNone then
    info registryLogger
      ("Registered " ++ (← shown description) ++ " for " ++ (← shown contractId))
  else
    let displaced ← readAttribute call previous "description"
    info registryLogger
      ("Replaced " ++ (← shown displaced) ++ " with " ++ (← shown description) ++ " for " ++
        (← shown contractId))

/-- Registering is making an entry, putting it in place and telling so. -/
theorem register_eq (call : Caller) (r : Ref .registry)
    (classId description contractId provider : Value) :
    register call r classId description contractId provider = do
      let entry ← newEntry call classId description contractId provider
      let previous ← getItem call (← enterEntries r) contractId
      setItem ((← get).entriesOf r) contractId entry.toValue
      announce call previous description contractId
      return previous := by
  refine bind_congr fun entry => bind_congr fun entries => bind_congr fun previous => ?_
  refine bind_congr (x := get) fun w => bind_congr fun _ => ?_
  unfold announce
  split
  · simp only [bind_assoc]
  · simp only [bind_assoc]

theorem quiet_announce (call : Caller) (previous description contractId : Value) :
    Quiet (announce call previous description contractId) := by
  have htell : ∀ start : String, Quiet (do
      info registryLogger
        (start ++ (← shown description) ++ " for " ++ (← shown contractId))) := fun start =>
    (Quiet.shown description).bind fun _ => (Quiet.shown contractId).bind fun _ =>
      Quiet.emit _ _ _ _
  refine Quiet.ite (htell _) ?_
  refine (quiet_readAttribute call previous (by decide)).bind fun displaced => ?_
  refine (Quiet.shown displaced).bind fun _ => (Quiet.shown description).bind fun _ => ?_
  exact (Quiet.shown contractId).bind fun _ => Quiet.emit _ _ _ _

/-- An entry that took the place of another one can be told. -/
theorem World.outcome_announce (w : World) (call : Caller)
    {previous description contractId : Value} {d t : String}
    (hp : previous = .none ∨ ∃ e : Entry, previous = e.toValue ∧ e.Proper)
    (hd : description.text? = some d) (ht : contractId.text? = some t) :
    w.outcome (announce call previous description contractId) = .ok () := by
  obtain ⟨shownDescription, hdescription⟩ := display_of_text? hd
  obtain ⟨shownContract, hcontract⟩ := display_of_text? ht
  rcases hp with rfl | ⟨e, rfl, he⟩
  · simp [outcome, announce, Value.isNone, hdescription, hcontract, info]
  · obtain ⟨_, hdisplaced⟩ := he.description
    obtain ⟨shownDisplaced, hdisplaced⟩ := display_of_text? hdisplaced
    have hread : w.run (readAttribute call e.toValue "description") = (.ok e.description, w) :=
      run_readAttribute_entry call w e rfl (by decide)
    have hsome : e.toValue.isNone = false := rfl
    simp [outcome, announce, hsome, hread, hdescription, hcontract, hdisplaced, info]

namespace Registry.Sound

variable {reg : Registry} (h : reg.Sound)
include h

/-- What is found under a contract is absent or a proper entry. -/
theorem previous (contract : Value) :
    (reg.entryOf? contract).getD .none = .none ∨
      ∃ e : Entry, (reg.entryOf? contract).getD .none = e.toValue ∧ e.Proper := by
  cases hf : reg.entryOf? contract with
  | none => exact .inl rfl
  | some found =>
    obtain ⟨e, rfl, he, _⟩ := h.entries contract found hf
    exact .inr ⟨e, rfl, he⟩

end Registry.Sound

/-- Remembers the service of a contract with the entry that it came from. -/
def remember (call : Caller) (r : Ref .registry) (contractId entry service : Value) :
    Action Value := do
  let capture : Capture := ⟨← freshSerial, entry, service⟩
  setItem ((← get).capturesOf r) contractId capture.toValue
  let description ← readAttribute call entry "description"
  debug registryLogger
    ("Captured original " ++ (← shown description) ++ " for " ++ (← shown contractId))
  return capture.toValue

/-- What a capture does that fails: nothing is handed out for the contract, and nothing is
remembered. -/
structure CaptureFailure (call : Caller) (r : Ref .registry) (contractId capability : Value)
    (w w' : World) : Prop where
  uncaptured : (w.row r : Registry).captureOf? contractId = none
  unserved (e : Entry) (he : (w.row r : Registry).entryOf? contractId = some e.toValue) :
    ∃ fault, w.outcome (createFrom call e.provider capability) = .error fault
  served : w.Served w'

/-- What is captured first for a contract: its entry at that moment, and what the provider of
that entry hands out. -/
def FirstCapture (call : Caller) (r : Ref .registry) (contractId capability : Value) (w : World)
    (found : Value) : Prop :=
  ∃ (serial : Nat) (e : Entry) (c : Ref .component),
    found = Capture.toValue ⟨serial, e.toValue, .ofRef c⟩ ∧
      (w.row r : Registry).entryOf? contractId = some e.toValue ∧
      w.outcome (createFrom call e.provider capability) = .ok (.ofRef c)

/-- What a capture does that succeeds. What is captured already stays as it is; otherwise
the entry of the contract is remembered with what its provider hands out. -/
inductive CaptureStep (call : Caller) (r : Ref .registry) (contractId capability : Value)
    (w w' : World) : Capture → Prop
  | known {capture : Capture}
      (captured : (w.row r : Registry).captureOf? contractId = some capture.toValue)
      (same : w' = w) : CaptureStep call r contractId capability w w' capture
  | first {serial : Nat} {e : Entry} {c : Ref .component} {asked : World}
      (uncaptured : (w.row r : Registry).captureOf? contractId = none)
      (entry : (w.row r : Registry).entryOf? contractId = some e.toValue)
      (handed : w.outcome (createFrom call e.provider capability) = .ok (.ofRef c))
      (served : w.Served asked)
      (remembered : (asked.withRow r ((w.row r : Registry).capture contractId
        ⟨serial, e.toValue, .ofRef c⟩)).Alike w') :
      CaptureStep call r contractId capability w w' ⟨serial, e.toValue, .ofRef c⟩

/-- What is to be captured first cannot fail to be captured. -/
theorem FirstCapture.not_captureFailure {call : Caller} {r : Ref .registry}
    {contractId capability found : Value} {w w' : World}
    (h : FirstCapture call r contractId capability w found) :
    ¬CaptureFailure call r contractId capability w w' := by
  intro hfailure
  obtain ⟨_, e, _, _, hentry, hhanded⟩ := h
  obtain ⟨fault, hfault⟩ := hfailure.unserved e hentry
  rw [hhanded] at hfault
  cases hfault

namespace World.Intact

variable {w : World} (hw : w.Intact) (call : Caller) (r : Ref .registry)
include hw

/-- A proper entry takes the place of the one of its contract, which is given back. -/
theorem run_register (hs : (w.row r : Registry).Sound)
    {classId description contractId provider : Value}
    (hp : Entry.Proper ⟨w.nextSerial, classId, description, contractId, provider⟩) :
    w.outcome (register call r classId description contractId provider) =
        .ok (((w.row r : Registry).entryOf? contractId).getD .none) ∧
      (w.withRow r ((w.row r : Registry).register
        ⟨w.nextSerial, classId, description, contractId, provider⟩)).Alike
        (w.after (register call r classId description contractId provider)) := by
  obtain ⟨d, hd⟩ : ∃ d, description.text? = some d := hp.description
  obtain ⟨t, ht, _⟩ : contractId.Telling := hp.contractId
  have hk : contractId.unhashable? = none := Value.unhashable?_of_text? ht
  let e : Entry := ⟨w.nextSerial, classId, description, contractId, provider⟩
  let w₁ : World := { w with nextSerial := w.nextSerial + 1 }
  let w₂ : World := w₁.withRow r ((w.row r : Registry).register e)
  let previous : Value := ((w.row r : Registry).entryOf? contractId).getD .none
  have hw₁ : w₁.Intact := hw.congr rfl
  have hrun : w.run (register call r classId description contractId provider) =
      w₂.run (announce call previous description contractId >>= fun _ => pure previous) := by
    rw [register_eq, run_bind, run_newEntry w call hp.classId hp.contractId]
    show w₁.run _ = _
    simp only [run_bind, hw₁.run_enterEntries, run_getItem_dict w₁ call _ hk, run_get,
      hw₁.entriesOf, run_setItem_dict w₁ _ _ hk]
    rfl
  have hok : w₂.outcome (announce call previous description contractId) = .ok () :=
    w₂.outcome_announce call (hs.previous contractId) hd ht
  constructor
  · rw [outcome, hrun, run_bind, run_eq w₂, hok]
    rfl
  · have hquiet := quiet_announce call previous description contractId w₂
    rw [after, hrun, run_bind, run_eq w₂, hok]
    have hlike : (w.withRow r ((w.row r : Registry).register e)).Alike w₂ :=
      ⟨w.log, w.nextSerial + 1, rfl⟩
    exact hlike.trans hquiet

omit hw in
/-- A blank id is refused before anything is changed. -/
theorem run_register_blank {classId contractId : Value} {s t : String}
    (hs : classId.text? = some s) (ht : contractId.text? = some t)
    (hb : Text.isBlankText s = true ∨ Text.isBlankText t = true) (description provider : Value) :
    w.run (register call r classId description contractId provider) =
      (.error (if Text.isBlankText t then .blankContract else .blankClass), w) := by
  rw [register_eq, run_bind, run_newEntry_blank w call hs ht hb description provider]

/-- Registering puts a proper entry in place, and hands back the one before, or is refused for a
blank id. -/
theorem register_cases (hs : (w.row r : Registry).Sound) {classId description contractId : Value}
    (hclass : ∃ s, classId.text? = some s) (hdescription : ∃ s, description.text? = some s)
    (hcontract : ∃ s, contractId.text? = some s) (p : Ref .provider) :
    (∃ fault, w.run (register call r classId description contractId (.ofRef p)) =
        (.error fault, w) ∧ ¬(classId.Telling ∧ contractId.Telling)) ∨
      Entry.Proper ⟨w.nextSerial, classId, description, contractId, .ofRef p⟩ ∧
        w.outcome (register call r classId description contractId (.ofRef p)) =
          .ok (((w.row r : Registry).entryOf? contractId).getD .none) ∧
        (w.withRow r ((w.row r : Registry).register
          ⟨w.nextSerial, classId, description, contractId, .ofRef p⟩)).Alike
          (w.after (register call r classId description contractId (.ofRef p))) := by
  by_cases htelling : classId.Telling ∧ contractId.Telling
  · right
    have hp : Entry.Proper ⟨w.nextSerial, classId, description, contractId, .ofRef p⟩ :=
      ⟨htelling.1, htelling.2, hdescription, ⟨p, rfl⟩⟩
    exact ⟨hp, hw.run_register call r hs hp⟩
  · left
    obtain ⟨s, hclass⟩ := hclass
    obtain ⟨t, hcontract⟩ := hcontract
    have hblank : Text.isBlankText s = true ∨ Text.isBlankText t = true :=
      (Classical.not_and_iff_not_or_not.1 htelling).imp (Value.isBlankText_of_not_telling hclass)
        (Value.isBlankText_of_not_telling hcontract)
    exact ⟨_, run_register_blank call r hclass hcontract hblank description (.ofRef p), htelling⟩

/-! ## Looking up -/

omit hw in
/-- Wording a refusal changes nothing. -/
theorem run_noService (contractId : Value) :
    w.run (noService contractId) = ((w.quoted contractId).map Fault.noService, w) := by
  simp only [noService, run_bind, run_quotedText]
  cases w.quoted contractId <;> rfl

/-- The entry of a contract is what was registered for it. -/
theorem run_getEntry {contractId : Value} (hk : contractId.unhashable? = none) {e : Entry}
    (he : (w.row r : Registry).entryOf? contractId = some e.toValue) :
    w.run (getEntry call r contractId) = (.ok e.toValue, w) := by
  have hfound : (w.pairs (.entries r)).get? contractId = some e.toValue := he
  simp only [getEntry, run_bind, hw.run_enterEntries, run_getItem_dict w call _ hk, hfound]
  rfl

/-- A contract without an entry is refused. -/
theorem run_getEntry_absent {contractId : Value} (hk : contractId.unhashable? = none)
    (he : (w.row r : Registry).entryOf? contractId = none) :
    w.run (getEntry call r contractId) = (.error (w.unserved contractId), w) := by
  have hfound : (w.pairs (.entries r)).get? contractId = none := he
  simp only [getEntry, run_bind, hw.run_enterEntries, run_getItem_dict w call _ hk, hfound,
    Option.getD_none, Value.isNone, if_true, run_noService, unserved]
  cases w.quoted contractId <;> rfl

theorem run_askEntry {contractId : Value} (hk : contractId.unhashable? = none) {e : Entry}
    (he : (w.row r : Registry).entryOf? contractId = some e.toValue) :
    w.run (askEntry call r contractId) = (.ok e.toValue, w) := by
  rw [askEntry, hw.run_request call r _ _ rfl, hw.run_getEntry call r hk he]

/-- Asking for an entry changes nothing, and without one it fails. -/
theorem askEntry_cases (hs : (w.row r : Registry).Sound) (contractId : Value) :
    (∃ fault, w.run (askEntry call r contractId) = (.error fault, w)) ∨
      ∃ e : Entry, (w.row r : Registry).entryOf? contractId = some e.toValue ∧ e.Proper ∧
        (e.contractId == contractId) = true ∧
        w.run (askEntry call r contractId) = (.ok e.toValue, w) := by
  cases hk : contractId.unhashable? with
  | some type =>
    refine .inl ⟨.unhashable type, ?_⟩
    rw [askEntry, hw.run_request call r _ _ rfl]
    simp [getEntry, hw.run_enterEntries, getItem, getFrom, hk]
  | none =>
    cases he : (w.row r : Registry).entryOf? contractId with
    | some found =>
      obtain ⟨e, rfl, hp, hc⟩ := hs.entries contractId found he
      exact .inr ⟨e, rfl, hp, hc, hw.run_askEntry call r hk he⟩
    | none =>
      refine .inl ⟨w.unserved contractId, ?_⟩
      rw [askEntry, hw.run_request call r _ _ rfl, hw.run_getEntry_absent call r hk he]

/-- What is looked up is the provider of the entry. -/
theorem run_lookup {contractId : Value} (hk : contractId.unhashable? = none) {e : Entry}
    (he : (w.row r : Registry).entryOf? contractId = some e.toValue) :
    w.run (lookup call r contractId) = (.ok e.provider, w) := by
  have hread : w.run (readAttribute call e.toValue "factory") = (.ok e.provider, w) :=
    run_readAttribute_entry call w e rfl (by decide)
  simp only [lookup, run_bind, hw.run_askEntry call r hk he, hread]

/-- The service of a contract is what the provider of its entry hands out. -/
theorem run_getService {contractId : Value} (hk : contractId.unhashable? = none) {e : Entry}
    (he : (w.row r : Registry).entryOf? contractId = some e.toValue) (capability : Value) :
    w.run (getService call r contractId capability) =
      w.run (createFrom call e.provider capability) := by
  rw [getService, run_bind, hw.run_request call r _ _ rfl, hw.run_lookup call r hk he]

/-- Looking a service up changes nothing but the log and the count of a provider. -/
theorem served_getService (hs : (w.row r : Registry).Sound) (contractId capability : Value) :
    w.Served (w.after (getService call r contractId capability)) := by
  rw [after, getService, run_bind, hw.run_request call r _ _ rfl, lookup, run_bind]
  rcases hw.askEntry_cases call r hs contractId with ⟨fault, h⟩ | ⟨e, _, hp, _, h⟩
  · rw [h]
    exact .refl w
  · have hread : w.run (readAttribute call e.toValue "factory") = (.ok e.provider, w) :=
      run_readAttribute_entry call w e rfl (by decide)
    obtain ⟨p, hprovider⟩ := hp.provider
    simp only [h, hread, hprovider]
    exact hw.served_createFrom call p capability

/-! ## Removing -/

/-- Removing takes the entry of a contract away that has the provider. -/
theorem run_unregister {contractId : Value} {e : Entry}
    (he : (w.row r : Registry).entryOf? contractId = some e.toValue) (hp : e.Proper)
    (hc : (e.contractId == contractId) = true) {provider : Value}
    (hi : indistinct e.provider provider = true) :
    w.outcome (unregister call r contractId provider) = .ok () ∧
      (w.withRow r ((w.row r : Registry).unregister contractId)).Alike
        (w.after (unregister call r contractId provider)) := by
  obtain ⟨t, ht, _⟩ := hp.contractId
  have htext : contractId.text? = some t := Value.text?_of_beq hc ht
  have hk : contractId.unhashable? = none := Value.unhashable?_of_text? htext
  obtain ⟨d, hd⟩ := hp.description
  obtain ⟨shownDescription, hdescription⟩ := display_of_text? hd
  obtain ⟨shownContract, hcontract⟩ := display_of_text? htext
  have hfound : (w.pairs (.entries r)).get? contractId = some e.toValue := he
  have hprovider (w : World) : w.run (readAttribute call e.toValue "factory") =
      (.ok e.provider, w) := run_readAttribute_entry call w e rfl (by decide)
  have htold (w : World) : w.run (readAttribute call e.toValue "description") =
      (.ok e.description, w) := run_readAttribute_entry call w e rfl (by decide)
  have hsome : e.toValue.isNone = false := rfl
  simp only [outcome, after, unregister, run_bind, hw.run_enterEntries,
    run_getItem_dict w call _ hk, hfound, Option.getD_some, hsome, if_neg Bool.false_ne_true,
    hprovider, hi, Bool.not_true, run_get, hw.entriesOf, run_removeItem_dict w _ hk hfound, htold,
    run_shown, hdescription, hcontract, info, run_emit]
  exact ⟨trivial, _, _, rfl⟩

/-- Without an entry that has the provider nothing is removed. -/
theorem run_unregister_refused (hs : (w.row r : Registry).Sound) {contractId provider : Value}
    (hk : contractId.unhashable? = none)
    (h : ∀ e : Entry, (w.row r : Registry).entryOf? contractId = some e.toValue →
      indistinct e.provider provider = false) :
    w.run (unregister call r contractId provider) = (.error (w.unserved contractId), w) := by
  cases he : (w.row r : Registry).entryOf? contractId with
  | none =>
    have hfound : (w.pairs (.entries r)).get? contractId = none := he
    simp only [unregister, run_bind, hw.run_enterEntries, run_getItem_dict w call _ hk, hfound,
      Option.getD_none, Value.isNone, if_true, run_throw, run_noService, unserved]
    cases w.quoted contractId <;> rfl
  | some found =>
    obtain ⟨e, rfl, _, _⟩ := hs.entries contractId found he
    have hfound : (w.pairs (.entries r)).get? contractId = some e.toValue := he
    have hread : w.run (readAttribute call e.toValue "factory") = (.ok e.provider, w) :=
      run_readAttribute_entry call w e rfl (by decide)
    have hsome : e.toValue.isNone = false := rfl
    simp only [unregister, run_bind, hw.run_enterEntries, run_getItem_dict w call _ hk, hfound,
      Option.getD_some, hsome, if_neg Bool.false_ne_true, hread, h e he, Bool.not_false, if_true,
      run_throw, run_noService, unserved]
    cases w.quoted contractId <;> rfl

/-- Removing removes an entry of that provider, or is refused and removes nothing. -/
theorem unregister_cases (hs : (w.row r : Registry).Sound) (contractId provider : Value) :
    (∃ fault, w.run (unregister call r contractId provider) = (.error fault, w) ∧
        ∀ e : Entry, (w.row r : Registry).entryOf? contractId = some e.toValue →
          e.provider ≠ provider) ∨
      ∃ e : Entry, (w.row r : Registry).entryOf? contractId = some e.toValue ∧ e.Proper ∧
        (e.contractId == contractId) = true ∧ e.provider = provider ∧
        w.outcome (unregister call r contractId provider) = .ok () ∧
        (w.withRow r ((w.row r : Registry).unregister contractId)).Alike
          (w.after (unregister call r contractId provider)) := by
  have hproper {e : Entry} (he : (w.row r : Registry).entryOf? contractId = some e.toValue) :
      e.Proper ∧ (e.contractId == contractId) = true := by
    obtain ⟨e', heq, hp, hc⟩ := hs.entries contractId _ he
    obtain rfl : e = e' := Entry.toValue_injective heq
    exact ⟨hp, hc⟩
  by_cases hthere : ∃ e : Entry, (w.row r : Registry).entryOf? contractId = some e.toValue ∧
      e.provider = provider
  · obtain ⟨e, he, hprovider⟩ := hthere
    obtain ⟨hp, hc⟩ := hproper he
    exact .inr ⟨e, he, hp, hc, hprovider,
      hw.run_unregister call r he hp hc (hp.indistinct_iff.2 hprovider)⟩
  · left
    have hnone : ∀ e : Entry, (w.row r : Registry).entryOf? contractId = some e.toValue →
        e.provider ≠ provider := fun e he heq => hthere ⟨e, he, heq⟩
    cases hk : contractId.unhashable? with
    | some type =>
      refine ⟨.unhashable type, ?_, hnone⟩
      rw [unregister, run_bind_of_run (hw.run_enterEntries r)]
      simp only [getItem, getFrom, run_bind, run_needKey, hk]
    | none =>
      refine ⟨_, hw.run_unregister_refused call r hs hk fun e he => ?_, hnone⟩
      exact Bool.eq_false_iff.2 fun hi => hnone e he ((hproper he).1.indistinct_iff.1 hi)

/-! ## Capturing -/

/-- What is remembered is given back. -/
theorem run_remember {e : Entry} {contractId : Value} (hp : e.Proper)
    (hc : (e.contractId == contractId) = true) (service : Value) :
    w.outcome (remember call r contractId e.toValue service) =
        .ok (Capture.toValue ⟨w.nextSerial, e.toValue, service⟩) ∧
      (w.withRow r ((w.row r : Registry).capture contractId
        ⟨w.nextSerial, e.toValue, service⟩)).Alike
        (w.after (remember call r contractId e.toValue service)) := by
  obtain ⟨t, ht, _⟩ := hp.contractId
  have htext : contractId.text? = some t := Value.text?_of_beq hc ht
  have hk : contractId.unhashable? = none := Value.unhashable?_of_text? htext
  obtain ⟨d, hd⟩ := hp.description
  obtain ⟨shownDescription, hdescription⟩ := display_of_text? hd
  obtain ⟨shownContract, hcontract⟩ := display_of_text? htext
  have hread (w : World) : w.run (readAttribute call e.toValue "description") =
      (.ok e.description, w) := run_readAttribute_entry call w e rfl (by decide)
  have hw₁ : World.Intact { w with nextSerial := w.nextSerial + 1 } := hw.congr rfl
  simp only [outcome, after, remember, run_bind, run_freshSerial, run_get, hw₁.capturesOf,
    run_setItem_dict _ _ _ hk, hread, run_shown, hdescription, hcontract, debug, run_emit, run_pure]
  exact ⟨trivial, _, _, rfl⟩

omit hw in
theorem captureOnce_eq (contractId capability : Value) :
    captureOnce call r contractId capability = (do
      let known ← captured call r contractId
      if !known.isNone then return known
      let entry ← askEntry call r contractId
      let provider ← readAttribute call entry "factory"
      let service ← createFrom call provider capability
      remember call r contractId entry service) := rfl

theorem run_captured {contractId : Value} (hk : contractId.unhashable? = none) :
    w.run (captured call r contractId) =
      (.ok (((w.row r : Registry).captureOf? contractId).getD .none), w) := by
  rw [captured, run_bind, hw.run_enterCaptures]
  exact run_getItem_dict w call (.captures r) hk

/-- What is captured is given back, and nothing is asked of any provider. -/
theorem run_captureOnce_of_captured (hs : (w.row r : Registry).Sound) {contractId found : Value}
    (h : (w.row r : Registry).captureOf? contractId = some found) (capability : Value) :
    w.run (captureOnce call r contractId capability) = (.ok found, w) := by
  have hk : contractId.unhashable? = none := hs.unhashable?_of_captureOf? h
  have hsome : found.isNone = false := by
    obtain ⟨_, _, _, rfl, _⟩ := hs.captures contractId found h
    rfl
  simp [captureOnce, hw.run_captured call r hk, h, hsome]

/-- Where nothing was captured, the provider of the entry is asked, and what it hands out is
remembered. -/
theorem run_captureOnce_of_entry {contractId : Value} (hk : contractId.unhashable? = none)
    (h : (w.row r : Registry).captureOf? contractId = none) {e : Entry}
    (he : (w.row r : Registry).entryOf? contractId = some e.toValue) (capability : Value) :
    w.run (captureOnce call r contractId capability) =
      w.run (createFrom call e.provider capability >>= remember call r contractId e.toValue) := by
  have hread : w.run (readAttribute call e.toValue "factory") = (.ok e.provider, w) :=
    run_readAttribute_entry call w e rfl (by decide)
  have hcaptured := hw.run_captured call r hk
  rw [h] at hcaptured
  rw [captureOnce_eq, run_bind_of_run hcaptured]
  exact (run_bind_of_run (hw.run_askEntry call r hk he)).trans (run_bind_of_run hread)

/-- A first capture succeeds if the provider of the entry hands something out. -/
theorem firstCapture_cases {contractId : Value} (hk : contractId.unhashable? = none)
    (h : (w.row r : Registry).captureOf? contractId = none) {e : Entry} (hp : e.Proper)
    (hc : (e.contractId == contractId) = true)
    (he : (w.row r : Registry).entryOf? contractId = some e.toValue) (capability : Value) :
    ((∃ fault, w.outcome (captureOnce call r contractId capability) = .error fault) ∧
        CaptureFailure call r contractId capability w
          (w.after (captureOnce call r contractId capability))) ∨
      ∃ capture : Capture,
        w.outcome (captureOnce call r contractId capability) = .ok capture.toValue ∧
        CaptureStep call r contractId capability w
          (w.after (captureOnce call r contractId capability)) capture := by
  obtain ⟨p, hprovider⟩ := hp.provider
  have hserved : w.Served (w.after (createFrom call e.provider capability)) := by
    rw [hprovider]
    exact hw.served_createFrom call p capability
  have hrun := hw.run_captureOnce_of_entry call r hk h he capability
  rw [outcome, after, hrun, run_bind]
  rcases hcreate : w.run (createFrom call e.provider capability) with ⟨fault | service, w₁⟩
  · left
    rw [after_of_run hcreate] at hserved
    refine ⟨⟨fault, rfl⟩, h, fun e' he' => ⟨fault, ?_⟩, hserved⟩
    obtain rfl : e = e' := Entry.toValue_injective (Option.some.inj (he.symm.trans he'))
    exact outcome_of_run hcreate
  · right
    have hok : w.outcome (createFrom call e.provider capability) = .ok service :=
      outcome_of_run hcreate
    obtain ⟨c, rfl, _⟩ := hw.outcome_createFrom call (hprovider ▸ hok)
    rw [after_of_run hcreate] at hserved
    obtain ⟨hremember, hlike⟩ := (hserved.intact hw).run_remember call r hp hc (.ofRef c)
    rw [hserved.row_registry r] at hlike
    exact ⟨_, hremember, .first h he hok hserved hlike⟩

/-- Capturing succeeds as a step of capturing, or else nothing is handed out, and then
nothing is remembered. -/
theorem captureOnce_cases (hs : (w.row r : Registry).Sound) (contractId capability : Value) :
    ((∃ fault, w.outcome (captureOnce call r contractId capability) = .error fault) ∧
        CaptureFailure call r contractId capability w
          (w.after (captureOnce call r contractId capability))) ∨
      ∃ capture : Capture,
        w.outcome (captureOnce call r contractId capability) = .ok capture.toValue ∧
        CaptureStep call r contractId capability w
          (w.after (captureOnce call r contractId capability)) capture := by
  cases h : (w.row r : Registry).captureOf? contractId with
  | some found =>
    obtain ⟨capture, rfl⟩ := hs.capture_of_captureOf? h
    have hrun := hw.run_captureOnce_of_captured call r hs h capability
    exact .inr ⟨capture, outcome_of_run hrun, .known h (after_of_run hrun)⟩
  | none =>
    cases hk : contractId.unhashable? with
    | some type =>
      left
      simp only [outcome, after, captureOnce_eq, captured, run_bind, hw.run_enterCaptures, getItem,
        getFrom, run_needKey, hk]
      refine ⟨⟨_, rfl⟩, h, fun e he => ?_, .refl w⟩
      rw [hs.unhashable?_of_entryOf? he] at hk
      cases hk
    | none =>
      rcases hw.askEntry_cases call r hs contractId with ⟨fault, hask⟩ | ⟨e, he, hp, hc, _⟩
      · left
        have hcaptured := hw.run_captured call r hk
        rw [h] at hcaptured
        rw [outcome, after, captureOnce_eq, run_bind_of_run hcaptured]
        simp only [Option.getD_none, Value.isNone, Bool.not_true, if_neg Bool.false_ne_true,
          run_bind, hask]
        refine ⟨⟨fault, rfl⟩, h, fun e he => ?_, .refl w⟩
        rw [hw.run_askEntry call r hk he] at hask
        cases hask
      · exact hw.firstCapture_cases call r hk h hp hc he capability

/-- Capturing that succeeds is a step of capturing. -/
theorem captureStep_of_captureOnce (hs : (w.row r : Registry).Sound)
    {contractId capability v : Value}
    (hv : w.outcome (captureOnce call r contractId capability) = .ok v) :
    ∃ capture : Capture, v = capture.toValue ∧ CaptureStep call r contractId capability w
      (w.after (captureOnce call r contractId capability)) capture := by
  rcases hw.captureOnce_cases call r hs contractId capability with
    ⟨⟨fault, hfault⟩, _⟩ | ⟨capture, hok, hstep⟩
  · rw [hv] at hfault
    cases hfault
  · exact ⟨capture, Except.ok.inj (hv.symm.trans hok), hstep⟩

/-- With something to be captured first, capturing succeeds. -/
theorem captureOnce_of_firstCapture (hs : (w.row r : Registry).Sound)
    {contractId capability found : Value}
    (hf : FirstCapture call r contractId capability w found) :
    ∃ v, w.outcome (captureOnce call r contractId capability) = .ok v := by
  rcases hw.captureOnce_cases call r hs contractId capability with
    ⟨_, hfailure⟩ | ⟨capture, hok, _⟩
  · exact absurd hfailure hf.not_captureFailure
  · exact ⟨_, hok⟩

end World.Intact

/-! ## What a capture leaves alone -/

namespace World.Alike

variable {w w' : World} (h : w.Alike w')
include h

theorem row_registry (r : Ref .registry) : w'.row r = w.row r := (Served.of_alike h).row_registry r

theorem row_component (c : Ref .component) : w'.row c = w.row c :=
  (Served.of_alike h).row_component c

theorem row_installer (i : Ref .installer) : w'.row i = w.row i :=
  (Served.of_alike h).row_installer i

theorem intact (hw : w.Intact) : w'.Intact := (Served.of_alike h).intact hw

end World.Alike

namespace CaptureStep

variable {call : Caller} {r : Ref .registry} {contractId capability : Value} {w w' : World}
  {capture : Capture} (h : CaptureStep call r contractId capability w w' capture)
include h

theorem intact (hw : w.Intact) : w'.Intact := by
  cases h with
  | known _ same => exact same ▸ hw
  | first _ _ _ served remembered => exact remembered.intact ((served.intact hw).congr rfl)

theorem row_installer (i : Ref .installer) : w'.row i = w.row i := by
  cases h with
  | known _ same => rw [same]
  | first _ _ _ served remembered =>
    exact (remembered.row_installer i).trans (served.row_installer i)

theorem installers : w'.installers = w.installers := by
  cases h with
  | known _ same => rw [same]
  | first _ _ _ served remembered =>
    obtain ⟨_, _, rfl⟩ := remembered
    rw [served.frame]
    rfl

theorem components : w'.components = w.components := by
  cases h with
  | known _ same => rw [same]
  | first _ _ _ served remembered =>
    exact (World.Served.of_alike remembered).components.trans served.components

/-- Where capturing succeeds from a state, it cannot fail from there. -/
theorem not_captureFailure {w'' : World} :
    ¬CaptureFailure call r contractId capability w w'' := by
  cases h with
  | known captured _ =>
    intro hfailure
    rw [hfailure.uncaptured] at captured
    cases captured
  | @first serial e c _ _ entry handed _ _ =>
    have hfirst : FirstCapture call r contractId capability w
        (Capture.toValue ⟨serial, e.toValue, .ofRef c⟩) := ⟨serial, e, c, rfl, entry, handed⟩
    exact hfirst.not_captureFailure

/-- Capturing is about no other registry. -/
theorem row_registry_of_ne {other : Ref .registry} (hne : other ≠ r) :
    w'.row other = w.row other := by
  cases h with
  | known _ same => rw [same]
  | first _ _ _ served remembered =>
    rw [remembered.row_registry, World.row_withRow, if_neg hne, served.row_registry]

/-- Capturing is about no entry. -/
theorem entryOf? (contract : Value) :
    (w'.row r : Registry).entryOf? contract = (w.row r : Registry).entryOf? contract := by
  cases h with
  | known _ same => rw [same]
  | first _ _ _ served remembered =>
    rw [remembered.row_registry, World.row_withRow_self]
    rfl

/-- What was captured before stays captured. -/
theorem persists {contract found : Value}
    (hf : (w.row r : Registry).captureOf? contract = some found) :
    (w'.row r : Registry).captureOf? contract = some found := by
  cases h with
  | known _ same => rwa [same]
  | first uncaptured _ _ _ remembered =>
    rw [remembered.row_registry, World.row_withRow_self, Registry.captureOf?_capture]
    by_cases hc : (contractId == contract) = true
    · have hsame : (w.row r : Registry).captureOf? contractId =
          (w.row r : Registry).captureOf? contract := OrderedMap.get?_congr _ hc
      rw [uncaptured, hf] at hsame
      cases hsame
    · rw [if_neg hc]
      exact hf

theorem sound (hs : (w.row r : Registry).Sound) : (w'.row r : Registry).Sound := by
  cases h with
  | known _ same => rwa [same]
  | first _ entry _ _ remembered =>
    rw [remembered.row_registry, World.row_withRow_self]
    exact hs.capture entry _ _

/-- After capturing there is the capture. -/
theorem captured (hs : (w.row r : Registry).Sound) :
    (w'.row r : Registry).captureOf? contractId = some capture.toValue := by
  cases h with
  | known captured same => rwa [same]
  | first _ entry _ _ remembered =>
    obtain ⟨e, heq, _, hc⟩ := hs.entries _ _ entry
    have hself : (contractId == contractId) = true := BEq.trans (BEq.symm hc) hc
    rw [remembered.row_registry, World.row_withRow_self, Registry.captureOf?_capture, if_pos hself]

/-- What is captured already is captured again as it is. -/
theorem eq_of_captured {known : Capture}
    (hf : (w.row r : Registry).captureOf? contractId = some known.toValue) :
    capture = known ∧ w' = w := by
  cases h with
  | known captured same =>
    exact ⟨Capture.toValue_injective (Option.some.inj (captured.symm.trans hf)), same⟩
  | first uncaptured _ _ _ _ =>
    rw [uncaptured] at hf
    cases hf

/-- A contract that was not captured before is the one that was captured now, with its entry
and what the provider of that handed out. -/
theorem captured_only {contract found : Value}
    (hn : (w.row r : Registry).captureOf? contract = none)
    (hf : (w'.row r : Registry).captureOf? contract = some found) :
    (contractId == contract) = true ∧ FirstCapture call r contractId capability w found := by
  cases h with
  | known _ same =>
    rw [same, hn] at hf
    cases hf
  | first _ entry handed _ remembered =>
    rw [remembered.row_registry, World.row_withRow_self, Registry.captureOf?_capture] at hf
    by_cases hc : (contractId == contract) = true
    · rw [if_pos hc] at hf
      exact ⟨hc, _, _, _, (Option.some.inj hf).symm, entry, handed⟩
    · rw [if_neg hc, hn] at hf
      cases hf

end CaptureStep

end Understudy

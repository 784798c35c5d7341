import Understudy.Proofs.SetUpFails
import Understudy.Proofs.Hooks

/-!
# Annotations

Overlays and reporters take annotations. Each is taken as a whole or refused with nothing changed,
and it changes the component that it is put to and no other. A session that is set up annotates
the identity of the application with its id, if what its registry serves it with can be viewed as a
crash reporter and takes annotations; and it changes nothing else but what is its own.

Whether there is something to annotate is a matter of what is registered, and not of how asking for
it went: a provider may fail, but none says of a component that it cannot be viewed as what it
declares.

## Main definitions

* `World.noted`: the state in which a component has taken an annotation.
* `World.serving?`: the component that a registry serves a contract with.
* `World.Answers`: how a registry can answer when it is asked for a service.
* `SetUpStep`: all that setting up can do.

## Main statements

* `World.Intact.annotate_cases`: an annotation is taken or refused.
* `Sane.answers_getService`: a registry answers by what it serves the contract with.
* `Sane.setUpStep`: setting up is one of the steps of setting up.
-/

namespace Understudy

/-! ## Taking an annotation -/

/-- A component that has taken an annotation. -/
def Component.noting (key data : Value) : Component → Component
  | .overlay layer => .overlay { layer with annotations := layer.annotations.put key data }
  | .reporter serial declared notes fails => .reporter serial declared (notes.put key data) fails
  | other => other

/-- The state in which a component has taken an annotation. -/
def World.noted (w : World) (c : Ref .component) (key data : Value) : World :=
  w.withRow c ((w.row c : Component).noting key data)

/-- What else is different makes no difference to an annotation. -/
theorem World.components_noted {w w' : World} (h : w'.components = w.components)
    (c : Ref .component) (key data : Value) :
    (w'.noted c key data).components = (w.noted c key data).components := by
  show w'.components.set c.index ((w'.components.get c.index).noting key data) = _
  rw [h]
  rfl

section

variable {w : World} {c : Ref .component} (call : Caller)

/-- An overlay refuses an annotation under what is no text. -/
theorem World.run_annotate_overlay_refused {layer : Overlay}
    (hc : w.row c = Component.overlay layer) {key : Value} (hs : key.text? = none) (data : Value) :
    w.run (annotate call c key data) = (.error (.annotationKey (w.typeName key)), w) := by
  rw [annotate, World.run_bind_of_run (World.run_fetch w c), hc]
  simp only [hs]
  rfl

/-- An annotation is taken by what takes any, or it is refused and nothing changes. -/
theorem World.Intact.annotate_cases (hw : w.Intact) (c : Ref .component) (key data : Value) :
    (w.row c : Component).takesNotes = true ∧
        w.run (annotate call c key data) = (.ok (), w.noted c key data) ∨
      ∃ fault, w.run (annotate call c key data) = (.error fault, w) := by
  cases hc : (w.row c : Component) with
  | overlay layer =>
    cases hs : key.text? with
    | none => exact .inr ⟨_, World.run_annotate_overlay_refused call hc hs data⟩
    | some text =>
      refine .inl ⟨rfl, ?_⟩
      rw [World.noted, hc]
      exact World.run_annotate_overlay call hc hs data
  | reporter serial declared notes fails =>
    rw [annotate, World.run_bind_of_run (World.run_fetch w c), hc]
    dsimp only
    rw [World.run_bind_of_run (World.run_get w)]
    cases w.truthy fails with
    | true => exact .inr ⟨_, rfl⟩
    | false =>
      rw [if_neg Bool.false_ne_true, World.run_bind_of_run (hw.run_readAttribute_notes call hc)]
      cases hk : key.unhashable? with
      | some type =>
        refine .inr ⟨.unhashable type, ?_⟩
        simp only [setItem, World.run_bind, World.run_get, World.run_needKey, hk]
      | none =>
        refine .inl ⟨rfl, ?_⟩
        rw [World.run_setItem_dict w _ data hk, World.noted, hc]
        simp only [World.withPairs, World.pairs, hc]
        rfl
  | _ =>
    rw [annotate, World.run_bind_of_run (World.run_fetch w c), hc]
    exact .inr ⟨_, rfl⟩

end

/-! ## Who is asked -/

/-- What a component can be viewed as. -/
def Component.Declares (c : Component) (capability : Capability) : Prop :=
  c.capabilities.any (· == .capability capability) = true

/-- The component that a registry serves a contract with. -/
def World.serving? (w : World) (r : Ref .registry) (contract : Value) :
    Option (Ref .component) := do
  let e ← Entry.ofValue? (← (w.row r : Registry).entryOf? contract)
  let p ← e.provider.ref? .provider
  (w.row p : Provider).component.ref? .component

section

variable {w w' : World} {r : Ref .registry} {contract : Value}

theorem World.serving?_of_entry {e : Entry} {p : Ref .provider}
    (he : (w.row r : Registry).entryOf? contract = some e.toValue) (hp : e.provider = .ofRef p) :
    w.serving? r contract = (w.row p : Provider).component.ref? .component := by
  simp only [serving?, he, Option.bind_eq_bind, Option.bind_some, Entry.ofValue?_toValue, hp]
  rfl

/-- How a registry can answer when it is asked for a service, viewed as a capability. -/
inductive World.Answers (w : World) (r : Ref .registry) (contract : Value)
    (capability : Capability) : Except Fault Value → Prop
  /-- With the component that serves, which declares the capability. -/
  | served {c : Ref .component} (serving : w.serving? r contract = some c)
      (declared : (w.row c : Component).Declares capability) :
      Answers w r contract capability (.ok (.ofRef c))
  /-- That no component serves that declares the capability. -/
  | undeclared {label : String} (undeclared : ∀ c, w.serving? r contract = some c →
      ¬(w.row c : Component).Declares capability) :
      Answers w r contract capability (.error (.noInterface label))
  | failed {fault : Fault} (other : ∀ label, fault ≠ .noInterface label) :
      Answers w r contract capability (.error fault)

/-- Whatever goes wrong is an answer, as long as nothing is said of a component that declares what
it is viewed as. -/
theorem World.Answers.of_fault {capability : Capability} {fault : Fault}
    (h : ∀ c, w.serving? r contract = some c → (w.row c : Component).Declares capability →
      ∀ label, fault ≠ .noInterface label) : w.Answers r contract capability (.error fault) := by
  by_cases hlabel : ∃ label, fault = .noInterface label
  · obtain ⟨label, rfl⟩ := hlabel
    exact .undeclared fun c hc hdeclared => h c hc hdeclared label rfl
  · exact .failed fun label heq => hlabel ⟨label, heq⟩

/-- To count on says nothing about views. -/
theorem World.increment_ne_noInterface (w : World) (v : Value) (n : Int) (label : String) :
    w.increment v n ≠ .error (.noInterface label) := by
  unfold World.increment
  split
  · rintro ⟨⟩
  · split <;> rintro ⟨⟩

theorem World.outcome_countRequest_ne (w : World) (p : Ref .provider) (label : String) :
    w.outcome (countRequest p) ≠ .error (.noInterface label) := by
  rw [World.outcome, countRequest, World.run_bind_of_run (World.run_fetch w p)]
  cases (w.row p : Provider).calls? with
  | none => rintro ⟨⟩
  | some calls =>
    simp only [World.run_bind, World.run_incremented]
    cases hsum : w.increment calls 1 with
    | ok sum => rintro ⟨⟩
    | error fault =>
      intro h
      obtain rfl : fault = .noInterface label := Except.error.inj h
      exact w.increment_ne_noInterface calls 1 label hsum

/-- What is compared with another value is a number or a text, and both have a text. -/
theorem World.display_of_ordered {w : World} {operator : String} {a b : Value} {answer : Bool}
    (h : w.ordered operator a b = .ok answer) : ∃ text, w.display a = .ok text := by
  cases a with
  | bool | int | float | text | field => exact ⟨_, rfl⟩
  | _ => cases h

theorem World.outcome_failAtFirst_ne (w : World) (p : Ref .provider) (label : String) :
    w.outcome (failAtFirst p) ≠ .error (.noInterface label) := by
  rw [World.outcome, failAtFirst, World.run_bind_of_run (World.run_fetch w p)]
  cases (w.row p : Provider) with
  | flaky component calls failures =>
    simp only [World.run_bind, World.run_get, World.run_orFail]
    cases hearly : w.ordered "<=" calls failures with
    | error fault =>
      intro h
      obtain rfl : fault = .noInterface label := Except.error.inj h
      revert hearly
      unfold World.ordered
      split
      · rintro ⟨⟩
      · split <;> rintro ⟨⟩
    | ok early =>
      obtain ⟨text, htext⟩ := World.display_of_ordered hearly
      cases early with
      | true =>
        simp only [if_true, World.run_bind, World.run_shown, htext]
        rintro ⟨⟩
      | false => rintro ⟨⟩
  | _ => rintro ⟨⟩

/-- No provider says of its component that it cannot be viewed as what it declares. -/
theorem World.Intact.outcome_createFrom_ne (hw : w.Intact) (call : Caller) {p : Ref .provider}
    {c : Ref .component} (hc : (w.row p : Provider).component = .ofRef c) {capability : Capability}
    (hdeclared : (w.row c : Component).Declares capability) (label : String) :
    w.outcome (createFrom call (.ofRef p) (.capability capability)) ≠
      .error (.noInterface label) := by
  rw [World.outcome, hw.run_createFrom, createInstance_eq]
  refine World.outcome_bind_ne (w.outcome_countRequest_ne p label) fun _ _ => ?_
  have h₁ : w.Served (w.after (countRequest p)) := served_countRequest w p
  refine World.outcome_bind_ne (World.outcome_failAtFirst_ne _ p label) fun _ _ => ?_
  have h₂ := h₁.trans (.of_alike (quiet_failAtFirst p (w.after (countRequest p))))
  revert h₂
  generalize (w.after (countRequest p)).after (failAtFirst p) = asked
  intro h₂
  have hview : asked.run (viewOf call (asked.row p : Provider).component
      (.capability capability)) = (.ok (.ofRef c), asked) := by
    rw [h₂.component, hc, (h₂.intact hw).run_viewOf]
    exact run_queryInterface call _ rfl (h₂.row_component c ▸ hdeclared)
  rw [World.outcome, World.run_bind_of_run (World.run_fetch asked p), World.run_bind_of_run hview]
  rintro ⟨⟩

/-- A registry answers with the component that serves the contract, says that none serves that
declares the capability, or fails. -/
theorem Sane.answers_getService (h : Sane r w) (call : Caller) (contract : Value)
    (capability : Capability) :
    w.Answers r contract capability
      (w.outcome (getService call r contract (.capability capability))) := by
  cases hfound : (w.row r : Registry).entryOf? contract with
  | none =>
    have hnone (c : Ref .component) : w.serving? r contract ≠ some c := by
      simp [World.serving?, hfound]
    rcases h.intact.askEntry_cases call r h.sound contract with ⟨fault, hask⟩ | ⟨e, he, _⟩
    · have hrun : w.run (getService call r contract (.capability capability)) =
          (.error fault, w) := by
        rw [getService, World.run_bind, h.intact.run_request call r _ _ rfl, lookup,
          World.run_bind, hask]
      rw [World.outcome_of_run hrun]
      exact .of_fault fun c hc => absurd hc (hnone c)
    · rw [hfound] at he
      cases he
  | some found =>
    obtain ⟨e, rfl, hp, _⟩ := h.sound.entries contract found hfound
    obtain ⟨p, hprovider⟩ := hp.provider
    have hserving := World.serving?_of_entry hfound hprovider
    rw [World.outcome, h.intact.run_getService call r (h.sound.unhashable?_of_entryOf? hfound)
      hfound, hprovider, ← World.outcome]
    cases hcreated : w.outcome (createFrom call (.ofRef p) (.capability capability)) with
    | ok service =>
      obtain ⟨c, rfl, hc, hdeclared⟩ := h.intact.outcome_createFrom call hcreated
      exact .served (hserving.trans (by rw [hc]; rfl)) hdeclared
    | error fault =>
      refine .of_fault fun c hc hdeclared label heq => ?_
      have hcomponent := Value.eq_ofRef_of_ref? (hserving.symm.trans hc)
      exact h.intact.outcome_createFrom_ne call hcomponent hdeclared label (heq ▸ hcreated)

/-! ## Annotating what is served -/

/-- The component that a registry serves a contract with, if that can be viewed as a crash reporter
and takes annotations. -/
def World.reporter? (w : World) (r : Ref .registry) (contract : Value) : Option (Ref .component) :=
  (w.serving? r contract).filter fun c =>
    (w.row c : Component).capabilities.any (· == .capability .crashReporter) &&
      (w.row c : Component).takesNotes

theorem World.reporter?_eq_some {c : Ref .component} :
    w.reporter? r contract = some c ↔ w.serving? r contract = some c ∧
      (w.row c : Component).Declares .crashReporter ∧ (w.row c : Component).takesNotes = true := by
  rw [reporter?, Option.filter_eq_some_iff, Bool.and_eq_true]
  rfl

/-- What takes annotations answers the request for one by itself. -/
theorem World.Intact.run_request_annotate (hw : w.Intact) (call : Caller) {c : Ref .component}
    (htakes : (w.row c : Component).takesNotes = true) (key data : Value) :
    w.run (request call (.ofRef c) .annotate [key, data] fun c =>
      nothing (annotate call c key data)) = w.run (nothing (annotate call c key data)) :=
  hw.run_request call c _ _ (Component.takes_annotate htakes)

/-- A plain component has nothing under the name of the request. -/
theorem World.Intact.look_annotate_plain (hw : w.Intact) {c : Ref .component} {serial : Nat}
    {declared : List Value} (hc : w.row c = Component.plain serial declared) :
    w.methods c.object = [.queryInterface] ∧
      w.look (.ofRef c) Method.annotate.word =
        .error (.noAttribute (w.title c.object) Method.annotate.word) := by
  have hget : w.components.get c.index = .plain serial declared := hc
  have hmethods : w.methods c.object = [.queryInterface] := by
    show (w.components.get c.index).methods = _
    rw [hget]
    rfl
  have htype : w.typeRequest? c.object Method.annotate.word = none := by
    unfold World.typeRequest?
    dsimp only [Ref.object]
    rw [hget]
  have hrequest : w.request? c.object Method.annotate.word = none := by
    rw [World.request?, hmethods]
    exact htype
  have hheld : w.held? c.object Method.annotate.word = none := by
    show (w.components.get c.index).held? c Method.annotate.word = none
    rw [hget]
    rfl
  have hproperty : w.property? c.object Method.annotate.word = none := rfl
  refine ⟨hmethods, ?_⟩
  show w.lookComponent c.index Method.annotate.word = _
  rw [World.lookComponent, hget]
  show w.lookObject c.object Method.annotate.word = _
  rw [World.lookObject, hproperty, hw.assigned?_word, hheld, hrequest]
  rfl

/-- What can be viewed as a crash reporter and takes no annotations does not know the request. -/
theorem World.Intact.run_request_annotate_refused (hw : w.Intact) (call : Caller)
    {c : Ref .component} (hdeclared : (w.row c : Component).Declares .crashReporter)
    (htakes : (w.row c : Component).takesNotes = false) (key data : Value) :
    ∃ fault, w.run (request call (.ofRef c) .annotate [key, data] fun c =>
      nothing (annotate call c key data)) = (.error fault, w) := by
  cases hc : (w.row c : Component) with
  | plain serial declared =>
    obtain ⟨hmethods, hlook⟩ := hw.look_annotate_plain hc
    have htaker : w.taker? .component (.ofRef c) .annotate = none := by
      simp [World.taker?, hmethods]
    refine ⟨.noAttribute (w.title c.object) Method.annotate.word, ?_⟩
    rw [run_request_of_none call _ _ htaker, World.run_bind, run_readAttribute_error call hlook]
  | host | sample =>
    rw [hc] at hdeclared
    cases hdeclared
  | overlay | reporter =>
    rw [hc] at htakes
    cases htakes

/-- An annotation of what can be viewed as a crash reporter is taken or refused. -/
theorem World.Intact.request_annotate_cases (hw : w.Intact) (call : Caller) {c : Ref .component}
    (hdeclared : (w.row c : Component).Declares .crashReporter) (key data : Value) :
    (w.row c : Component).takesNotes = true ∧
        w.run (request call (.ofRef c) .annotate [key, data] fun c =>
          nothing (annotate call c key data)) = (.ok .none, w.noted c key data) ∨
      ∃ fault, w.run (request call (.ofRef c) .annotate [key, data] fun c =>
          nothing (annotate call c key data)) = (.error fault, w) := by
  cases htakes : (w.row c : Component).takesNotes with
  | false => exact .inr (hw.run_request_annotate_refused call hdeclared htakes key data)
  | true =>
    rw [hw.run_request_annotate call htakes, run_nothing]
    rcases hw.annotate_cases call c key data with ⟨_, hrun⟩ | ⟨fault, hrun⟩
    · rw [World.outcome_of_run hrun, World.after_of_run hrun]
      exact .inl ⟨rfl, rfl⟩
    · rw [World.outcome_of_run hrun, World.after_of_run hrun]
      exact .inr ⟨fault, rfl⟩

/-- Annotates whatever a registry serves a contract with. -/
def annotateService (call : Caller) (r : Ref .registry) (contract key data : Value) :
    Action Value := do
  let reporter ← getService call r contract (.capability .crashReporter)
  request call reporter .annotate [key, data] fun c => nothing (annotate call c key data)

/-- What a registry serves a contract with takes an annotation, or nothing comes of it but asking
for it. -/
theorem Sane.annotateService_cases (h : Sane r w) (call : Caller) (contract key data : Value) :
    (∃ asked c, w.Served asked ∧ w.reporter? r contract = some c ∧
        w.run (annotateService call r contract key data) = (.ok .none, asked.noted c key data)) ∨
      (∃ fault, w.outcome (annotateService call r contract key data) = .error fault) ∧
        w.Served (w.after (annotateService call r contract key data)) := by
  have hserved := h.intact.served_getService call r h.sound contract (.capability .crashReporter)
  have hanswers := h.answers_getService call contract .crashReporter
  have hrun := World.run_eq w (getService call r contract (.capability .crashReporter))
  revert hserved hanswers hrun
  generalize w.after (getService call r contract (.capability .crashReporter)) = asked
  generalize w.outcome (getService call r contract (.capability .crashReporter)) = outcome
  intro hserved hanswers hrun
  rw [World.outcome, World.after, annotateService, World.run_bind, hrun]
  cases hanswers with
  | @served c serving declared =>
    have hdeclared : (asked.row c : Component).Declares .crashReporter :=
      hserved.row_component c ▸ declared
    rcases (hserved.intact h.intact).request_annotate_cases call hdeclared key data with
      ⟨htakes, hrequest⟩ | ⟨fault, hrequest⟩
    · refine .inl ⟨asked, c, hserved, World.reporter?_eq_some.2 ⟨serving, declared, ?_⟩, hrequest⟩
      rwa [hserved.row_component] at htakes
    · dsimp only
      rw [hrequest]
      exact .inr ⟨⟨fault, rfl⟩, hserved⟩
  | undeclared _ | failed _ => exact .inr ⟨⟨_, rfl⟩, hserved⟩

end

/-! ## Telling the id of a session -/

section

variable {w w' : World} {r : Ref .registry} {s : Ref .session}

/-- Tells the id of a session to what can be viewed as a crash reporter, if that takes
annotations. -/
def tellReporter (call : Caller) (s : Ref .session) (reporter : Value) : Action Unit := do
  match reporter.ref? .component with
  | none => pure ()
  | some c =>
    let sessionId := (← fetch s).sessionId
    if (← fetch c).takesNotes && (← get).truthy sessionId then
      let key := Value.ofText sessionIdKey
      let _ ← request call reporter .annotate [key, sessionId] fun c =>
        nothing (annotate call c key sessionId)

/-- An id is told to what serves the contract, unless that declares nothing of the kind. -/
theorem annotateSession_eq (call : Caller) (s : Ref .session) :
    annotateSession call s = (do
      match ← attempt (identityService call s .crashReporter) with
      | .error (.noInterface _) =>
        debug sessionLogger "Identity service has no crash reporter; skipping annotation"
      | .error fault => throw fault
      | .ok reporter => tellReporter call s reporter) := rfl

/-- What takes annotations is told the id, or refuses it; nothing else is told anything. -/
theorem World.Intact.tellReporter_cases (hw : w.Intact) (call : Caller) {c : Ref .component}
    (hdeclared : (w.row c : Component).Declares .crashReporter) {k : Nat} {text : String}
    (hid : (w.row s : Session).sessionId = .text k text) (htext : text ≠ "") :
    (w.row c : Component).takesNotes = true ∧
        w.run (tellReporter call s (.ofRef c)) =
          (.ok (), w.noted c (.ofText sessionIdKey) (.text k text)) ∨
      (w.row c : Component).takesNotes = false ∧
        w.run (tellReporter call s (.ofRef c)) = (.ok (), w) ∨
      ∃ fault, w.run (tellReporter call s (.ofRef c)) = (.error fault, w) := by
  have htruthy : w.truthy (.text k text) = true := bne_iff_ne.2 htext
  simp only [tellReporter, Value.ref?_ofRef, World.run_bind, World.run_fetch, World.run_get, hid,
    htruthy, Bool.and_true]
  cases htakes : (w.row c : Component).takesNotes with
  | false => exact .inr (.inl ⟨rfl, rfl⟩)
  | true =>
    rw [if_pos rfl, World.run_bind]
    rcases hw.request_annotate_cases call hdeclared (.ofText sessionIdKey) (.text k text) with
      ⟨-, hrequest⟩ | ⟨fault, hrequest⟩
    · rw [hrequest]
      exact .inl ⟨rfl, rfl⟩
    · rw [hrequest]
      exact .inr (.inr ⟨fault, rfl⟩)

/-- All that telling an id can do, with how it ends. -/
inductive TellingStep (r : Ref .registry) (sessionId : Value) (w : World) :
    Except Fault Unit → World → Prop
  | failed {fault : Fault} {w' : World} (served : w.Served w') :
      TellingStep r sessionId w (.error fault) w'
  /-- Nothing serves that takes annotations. -/
  | untold {w' : World} (nobody : w.reporter? r (.ofText appInfoContract) = none)
      (served : w.Served w') : TellingStep r sessionId w (.ok ()) w'
  | told {c : Ref .component} {asked : World}
      (reporter : w.reporter? r (.ofText appInfoContract) = some c) (served : w.Served asked) :
      TellingStep r sessionId w (.ok ()) (asked.noted c (.ofText sessionIdKey) sessionId)

/-- A session tells its id to what its registry serves, if that takes annotations, or fails. -/
theorem Sane.tellingStep (h : Sane r w) (hr : (w.row s : Session).registry = .ofRef r)
    (call : Caller) {k : Nat} {text : String}
    (hid : (w.row s : Session).sessionId = .text k text) (htext : text ≠ "") :
    TellingStep r (.text k text) w (w.outcome (annotateSession call s))
      (w.after (annotateSession call s)) := by
  have hservice : w.run (identityService call s .crashReporter) =
      w.run (getService call r (.ofText appInfoContract) (.capability .crashReporter)) :=
    h.intact.run_identityService call hr .crashReporter
  have hserved := h.served_identityService hr call .crashReporter
  have hanswers := h.answers_getService call (.ofText appInfoContract) .crashReporter
  rw [World.outcome, ← hservice, ← World.outcome] at hanswers
  have hrun := World.run_attempt w (identityService call s .crashReporter)
  rw [World.outcome, World.after, annotateSession_eq, World.run_bind_of_run hrun]
  revert hserved hanswers
  generalize w.after (identityService call s .crashReporter) = asked
  generalize w.outcome (identityService call s .crashReporter) = outcome
  intro hserved hanswers
  cases hanswers with
  | @undeclared label undeclared =>
    refine .untold ?_ (hserved.trans (.of_alike (Quiet.emit _ _ _ _ asked)))
    refine Option.eq_none_iff_forall_ne_some.2 fun c hc => ?_
    obtain ⟨hserving, hdeclared, _⟩ := World.reporter?_eq_some.1 hc
    exact undeclared c hserving hdeclared
  | @failed fault other =>
    cases fault with
    | noInterface label => exact absurd rfl (other label)
    | _ => exact .failed hserved
  | @served c serving declared =>
    have hreporter : w.reporter? r (.ofText appInfoContract) = some c ↔
        (asked.row c : Component).takesNotes = true := by
      rw [World.reporter?_eq_some, hserved.row_component]
      exact ⟨fun h => h.2.2, fun h => ⟨serving, declared, h⟩⟩
    rcases (hserved.intact h.intact).tellReporter_cases call
      (hserved.row_component c ▸ declared : (asked.row c : Component).Declares .crashReporter)
      ((congrArg Session.sessionId (hserved.row_session s)).trans hid) htext with
      ⟨htakes, htold⟩ | ⟨htakes, htold⟩ | ⟨fault, htold⟩
    all_goals
      dsimp only
      rw [htold]
    · exact .told (hreporter.2 htakes) hserved
    · refine .untold (Option.eq_none_iff_forall_ne_some.2 fun c' hc' => ?_) hserved
      obtain rfl := Option.some.inj (serving.symm.trans (World.reporter?_eq_some.1 hc').1)
      exact Bool.false_ne_true (htakes.symm.trans (hreporter.1 hc'))
    · exact .failed hserved

/-- Telling an id changes no session. -/
theorem TellingStep.row_session {sessionId : Value} {outcome : Except Fault Unit}
    (h : TellingStep r sessionId w outcome w') (s : Ref .session) :
    w'.row s = (w.row s : Session) := by
  cases h with
  | failed served | untold _ served | told _ served => exact served.row_session s

/-! ## Setting up -/

/-- The state in which a session has been given a policy and an id. -/
def World.introduced (w : World) (s : Ref .session) (policy : Policy) (sessionId : Value) : World :=
  (w.provided s policy).named s sessionId

theorem World.Alike.introduced (h : w.Alike w') (s : Ref .session) (policy : Policy)
    (sessionId : Value) :
    (w.introduced s policy sessionId).Alike (w'.introduced s policy sessionId) := by
  obtain ⟨log, serial, rfl⟩ := h
  exact ⟨log, serial + 1, rfl⟩

/-- The session that has been given a policy and an id is the same otherwise. -/
theorem World.row_introduced (w : World) (s : Ref .session) (policy : Policy) (sessionId : Value) :
    (w.introduced s policy sessionId).row s =
      { (w.row s : Session) with
        policy := .ofRef (⟨w.policies.size⟩ : Ref .policy)
        sessionId := sessionId } := by
  rw [introduced, named, World.row_withRow_self, provided, World.row_withRow_self]

/-- All that setting up a session without a policy can do, with how it ends. -/
inductive SetUpStep (call : Caller) (r : Ref .registry) (s : Ref .session) (w : World) :
    Except Fault Value → World → Prop
  /-- There are no hooks to be had. -/
  | refused {fault : Fault} {w' : World} (quiet : w.Alike w') :
      SetUpStep call r s w (.error fault) w'
  /-- There is a policy and an id, but the id cannot be told. -/
  | faltered {fault : Fault} {policy : Policy} {k : Nat} {w' : World}
      (offered : w.Offers call (w.row s : Session).timers policy.arm policy.cancel)
      (served : (w.introduced s policy (.text k (sessionIdText w.issued))).Served w') :
      SetUpStep call r s w (.error fault) w'
  /-- There is nobody to tell the id to. -/
  | untold {policy : Policy} {k : Nat} {w' : World}
      (offered : w.Offers call (w.row s : Session).timers policy.arm policy.cancel)
      (nobody : w.reporter? r (.ofText appInfoContract) = none)
      (served : (w.introduced s policy (.text k (sessionIdText w.issued))).Served w') :
      SetUpStep call r s w (.ok (.ofRef (⟨w.policies.size⟩ : Ref .policy))) w'
  /-- The id has been told. -/
  | told {policy : Policy} {k : Nat} {c : Ref .component} {asked w' : World}
      (offered : w.Offers call (w.row s : Session).timers policy.arm policy.cancel)
      (reporter : w.reporter? r (.ofText appInfoContract) = some c)
      (served : (w.introduced s policy (.text k (sessionIdText w.issued))).Served asked)
      (noted : (asked.noted c (.ofText sessionIdKey) (.text k (sessionIdText w.issued))).Alike w') :
      SetUpStep call r s w (.ok (.ofRef (⟨w.policies.size⟩ : Ref .policy))) w'

/-- An id is no empty text. -/
theorem sessionIdText_ne (issued : Nat) : sessionIdText issued ≠ "" := by
  intro h
  have htoList : "00000000-0000-4000-8000-".toList ++ _ = [] :=
    (String.toList_append ..).symm.trans (congrArg String.toList h)
  exact absurd (List.append_eq_nil_iff.1 htoList).1 (by decide)

/-- After the id was told there is nothing that can fail. -/
theorem conclude_identify {k : Nat} {text : String}
    (hid : (w.row s : Session).sessionId = .text k text) :
    w.outcome (concludeIdentify s) = .ok (w.row s : Session).policy ∧
      w.Alike (w.after (concludeIdentify s)) := by
  have hshown : w.run (shown (w.row s : Session).sessionId) = (.ok text, w) := by
    rw [hid, World.run_shown, World.display_text]
  rw [World.outcome, World.after, concludeIdentify, World.run_bind_of_run (World.run_fetch w s),
    World.run_bind_of_run hshown]
  exact ⟨rfl, _, _, rfl⟩

/-- A session that is given an id tells it, and has its policy for an answer if that succeeds. -/
theorem Sane.identify_telling (h : Sane r w) (hr : (w.row s : Session).registry = .ofRef r)
    (call : Caller) : ∃ (k : Nat) (outcome : Except Fault Unit) (told : World),
      TellingStep r (.text k (sessionIdText w.issued))
        (w.named s (.text k (sessionIdText w.issued))) outcome told ∧
      w.outcome (Understudy.identify call s) = outcome.map (fun _ => (w.row s : Session).policy) ∧
      told.Alike (w.after (Understudy.identify call s)) := by
  obtain ⟨k, hk⟩ := w.exists_nextId
  have hrun := h.intact.run_identify call (s := s)
  rw [hk] at hrun
  have hnamed : Sane r (w.named s (.text k (sessionIdText w.issued))) :=
    ⟨h.intact.congr rfl, h.sound⟩
  have hrow : (w.named s (.text k (sessionIdText w.issued))).row s =
      { (w.row s : Session) with sessionId := .text k (sessionIdText w.issued) } :=
    World.row_withRow_self _ s _
  have hstep := hnamed.tellingStep ((congrArg Session.registry hrow).trans hr) call
    (congrArg Session.sessionId hrow) (sessionIdText_ne _)
  refine ⟨k, _, _, hstep, ?_⟩
  have htold := (hstep.row_session s).trans hrow
  cases hannotated : (w.named s (.text k (sessionIdText w.issued))).outcome
      (annotateSession call s) with
  | error fault =>
    have hstop := hrun.trans (World.run_bind_of_error hannotated)
    rw [World.outcome_of_run hstop, World.after_of_run hstop]
    exact ⟨rfl, .refl _⟩
  | ok _ =>
    have hgo := hrun.trans (World.run_bind_of_run (by rw [World.run_eq, hannotated]))
    obtain ⟨houtcome, hlike⟩ := conclude_identify (congrArg Session.sessionId htold)
    have hsame : w.outcome (Understudy.identify call s) = _ := congrArg Prod.fst hgo
    have hafter : w.after (Understudy.identify call s) = _ := congrArg Prod.snd hgo
    rw [hsame, hafter]
    refine ⟨houtcome.trans ?_, hlike⟩
    rw [htold]
    rfl

/-- Setting up does nothing else. -/
theorem Sane.setUpStep (h : Sane r w) (hr : (w.row s : Session).registry = .ofRef r)
    (hnone : (w.row s : Session).policy = .none) (call : Caller) :
    SetUpStep call r s w (w.outcome (setUp call s)) (w.after (setUp call s)) := by
  rcases setUp_cases call hnone with ⟨⟨fault, hfault⟩, hlike⟩ | ⟨w₁, policy, hlike, hoffered, hrun⟩
  · rw [hfault]
    exact .refused hlike
  · obtain ⟨log, serial, rfl⟩ := hlike
    have hprovided : Sane r ((w.retold log serial).provided s policy) :=
      ⟨h.intact.congr rfl, h.sound⟩
    have hrow : ((w.retold log serial).provided s policy).row s =
        { (w.row s : Session) with policy := .ofRef (⟨w.policies.size⟩ : Ref .policy) } :=
      World.row_withRow_self _ s _
    obtain ⟨k, outcome, told, hstep, houtcome, hlike⟩ :=
      hprovided.identify_telling ((congrArg Session.registry hrow).trans hr) call
    have hserved : (w.introduced s policy (.text k (sessionIdText w.issued))).Served
        ((w.retold log serial).introduced s policy (.text k (sessionIdText w.issued))) :=
      .of_alike (World.Alike.introduced ⟨log, serial, rfl⟩ s policy _)
    rw [World.outcome, World.after, hrun, ← World.outcome, ← World.after, houtcome, hrow]
    cases hstep with
    | failed asked => exact .faltered hoffered (hserved.trans (asked.trans (.of_alike hlike)))
    | untold nobody asked =>
      exact .untold hoffered nobody (hserved.trans (asked.trans (.of_alike hlike)))
    | told reporter asked => exact .told hoffered reporter (hserved.trans asked) hlike

end

end Understudy

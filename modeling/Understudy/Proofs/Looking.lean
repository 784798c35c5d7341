import Understudy.Proofs.Running
import Understudy.Services

/-!
# Looking at values

Almost everything that is read from a value is held by it, so that reading is quiet.
The one exception is the captured service of an installer, which a registry has to be
asked for. And as long as nobody has put something else in the place of a request, the
thing that usually takes the request takes it.

## Main definitions

* `World.Intact`: no request to a thing, nor anything by which things are kept, was
  replaced.

## Main statements

* `World.look_eq_captured`, `quiet_readAttribute`: reading is quiet, one name apart.
* `World.Intact.taker?`: in an intact state things take the requests of their kind.
* `World.Intact.look_queryInterface`: nothing but a component can be viewed as a
  capability.
-/

namespace Understudy

/-! ## What is found under a name -/

namespace World

variable {w : World} {i : Ref .installer}

theorem hook_ne_captured {p : Ref .policy} {place : Nat} :
    property?.hook w p place ≠ .ok (.captured i) := by
  intro h
  unfold property?.hook at h
  dsimp only at h
  split at h
  · split at h <;> simp at h
  · simp at h

theorem countOf_ne_captured {o : Object} {name : String} {held : Value} :
    w.countOf o name held ≠ .ok (.captured i) := by
  unfold countOf
  dsimp only
  split <;> simp

theorem lookObject_eq_captured {o : Object} {name : String}
    (h : w.lookObject o name = .ok (.captured i)) : name = "original" := by
  unfold lookObject at h
  split at h
  · rename_i found hp
    subst h
    unfold property? at hp
    split at hp
    · simp only [Option.some.injEq, Except.ok.injEq] at hp
      split at hp <;> simp at hp
    · exact absurd (Option.some.inj hp) hook_ne_captured
    · exact absurd (Option.some.inj hp) hook_ne_captured
    · exact absurd (Option.some.inj hp) countOf_ne_captured
    · exact absurd (Option.some.inj hp) countOf_ne_captured
    · rfl
    · simp at hp
  · split at h
    · simp at h
    · split at h <;> simp at h

theorem lookPlain_eq_captured {v : Value} {name : String}
    (h : w.lookPlain v name = .ok (.captured i)) : name = "original" := by
  unfold lookPlain at h
  split at h
  · split at h
    · simp at h
    · split at h
      · simp at h
      · exact lookObject_eq_captured h
  · split at h
    · simp at h
    · split at h
      · simp at h
      · split at h
        · simp at h
        · split at h <;> simp at h

theorem lookComponent_eq_captured {c : Nat} {name : String}
    (h : w.lookComponent c name = .ok (.captured i)) : name = "original" := by
  -- An overlay hands on to a component with a lower number.
  induction c using Nat.strongRecOn with
  | ind c ih =>
    rw [lookComponent] at h
    split at h
    · split at h
      · simp at h
      · split at h
        · simp at h
        · split at h
          · simp at h
          · split at h
            · split at h
              · rename_i hj
                exact ih _ hj h
              · simp at h
            · exact lookPlain_eq_captured h
    · exact lookObject_eq_captured h

/-- The captured service of an installer is the only thing that has to be asked for. -/
theorem look_eq_captured {v : Value} {name : String} (h : w.look v name = .ok (.captured i)) :
    name = "original" := by
  unfold look at h
  split at h
  · exact lookComponent_eq_captured h
  · exact lookPlain_eq_captured h

end World

/-- Reading is quiet, unless it is for the service that a contract was captured with. -/
theorem quiet_readAttribute (call : Caller) (v : Value) {name : String} (h : name ≠ "original") :
    Quiet (readAttribute call v name) := by
  intro w
  show w.Alike (w.after (readWithin call (999 + 1) v name))
  rw [World.after, readWithin, World.run_bind, World.run_get]
  simp only [World.run_bind, World.run_orFail]
  cases hl : w.look v name with
  | error fault => exact World.Alike.refl w
  | ok found =>
    cases found with
    | held found => exact World.Alike.refl w
    | made found => exact Quiet.hold found w
    | captured i => exact absurd (World.look_eq_captured hl) h

theorem quiet_answerOf (call : Caller) (v : Value) (f : Field) : Quiet (answerOf call v f) :=
  quiet_readAttribute call v (by cases f <;> decide)

/-- An entry holds what it was made of, and reading it changes nothing. -/
theorem run_readAttribute_entry (call : Caller) (w : World) (e : Entry) {name : String} {v : Value}
    (h : (RecordKind.entry.labels.zip [e.classId, e.description, e.contractId, e.provider]).lookup
      name = some v) (hn : name ≠ "__class__") :
    w.run (readAttribute call e.toValue name) = (.ok v, w) := by
  apply run_readAttribute_held
  simp [World.look, World.lookPlain, World.leafHeld?, Entry.toValue, h, hn]

/-- What does not take a request is looked at. -/
theorem run_request_of_none {kind : Kind} {w : World} {target : Value} {m : Method} (call : Caller)
    (args : List Value) (answer : Ref kind → Action Value) (h : w.taker? kind target m = none) :
    w.run (request call target m args answer) =
      w.run (readAttribute call target m.word >>= fun callee => call callee args) := by
  rw [request, World.run_bind, World.run_get]
  simp only [h]

/-- What cannot be found is not read. -/
theorem run_readAttribute_error (call : Caller) {w : World} {v : Value} {name : String}
    {fault : Fault} (h : w.look v name = .error fault) :
    w.run (readAttribute call v name) = (.error fault, w) := by
  show w.run (readWithin call (999 + 1) v name) = _
  rw [readWithin, World.run_bind, World.run_get]
  simp only [World.run_bind, World.run_orFail, h]

/-! ## Intact states -/

/-- The names of requests, and those by which things keep what requests are about. -/
def Guarded (name : String) : Prop :=
  (∃ m : Method, name = m.word) ∨
    name ∈ [lockName, hooksName, "_entries", "_originals", "collections", "notes"]

/-- Nothing was put in the place of a request, or of what a thing keeps. Other names may
have been assigned to. -/
def World.Intact (w : World) : Prop :=
  ∀ bearer name, Guarded name → w.assigned.get? (bearer, name) = none

/-- What is assigned is all that counts. -/
theorem World.Intact.congr {w w' : World} (hw : w.Intact) (h : w'.assigned = w.assigned) :
    w'.Intact := by
  intro bearer name hn
  rw [h]
  exact hw bearer name hn

/-- What was assigned may be taken away. -/
theorem World.Intact.erase {w w' : World} (hw : w.Intact) {assignee : Bearer × String}
    (h : w'.assigned = w.assigned.erase assignee) : w'.Intact := by
  intro bearer name hn
  rw [h, OrderedMap.get?_erase]
  split
  · rfl
  · exact hw bearer name hn

namespace World.Intact

variable {w : World} (hw : w.Intact)
include hw

theorem assigned?_word (o : Object) (m : Method) : w.assigned? o m.word = none :=
  hw _ _ (.inl ⟨m, rfl⟩)

/-- A thing takes the requests of its kind. -/
theorem taker? {kind : Kind} (r : Ref kind) {m : Method}
    (hm : (w.methods r.object).contains m = true) :
    w.taker? kind (.ofRef r) m = some r := by
  have hm' : m ∈ w.methods r.object := by simpa using hm
  simp [World.taker?, hw.assigned?_word, hm']

theorem run_request {kind : Kind} (call : Caller) (r : Ref kind) {m : Method} (args : List Value)
    (answer : Ref kind → Action Value) (hm : (w.methods r.object).contains m = true) :
    w.run (request call (.ofRef r) m args answer) = w.run (answer r) :=
  request_of_taker call args answer (hw.taker? r hm)

theorem run_enter (o : Object) : w.run (enter o) = (.ok (), w) := by
  have h : w.assigned? o lockName = none := hw _ _ (.inr (by simp))
  simp [enter, h]

theorem entriesOf (r : Ref .registry) : w.entriesOf r = .dict (.entries r) := by
  have h : w.assigned? r.object "_entries" = none := hw _ _ (.inr (by simp))
  rw [World.entriesOf, h]
  rfl

theorem capturesOf (r : Ref .registry) : w.capturesOf r = .dict (.captures r) := by
  have h : w.assigned? r.object "_originals" = none := hw _ _ (.inr (by simp))
  rw [World.capturesOf, h]
  rfl

theorem run_enterEntries (r : Ref .registry) :
    w.run (enterEntries r) = (.ok (.dict (.entries r)), w) := by
  simp [enterEntries, hw.run_enter, hw.entriesOf]

theorem run_enterCaptures (r : Ref .registry) :
    w.run (enterCaptures r) = (.ok (.dict (.captures r)), w) := by
  simp [enterCaptures, hw.run_enter, hw.capturesOf]

end World.Intact

/-! ## What only components are asked -/

theorem Operation.word_ne_queryInterface (op : Operation) :
    op.word ≠ Method.queryInterface.word := by
  cases op with
  | classified c => cases c <;> decide
  | combined o side => cases o <;> cases side <;> decide
  | compared c => cases c <;> decide
  | converted c => cases c <;> decide
  | _ => decide

/-- Nothing is found under a name that is no label. -/
theorem lookup_zip_eq_none {labels : List String} {fields : List Value} {name : String}
    (h : name ∉ labels) : (labels.zip fields).lookup name = none := by
  rw [List.lookup_eq_none_iff]
  rintro ⟨label, v⟩ hp
  have hl : label ∈ labels := (List.of_mem_zip hp).1
  exact bne_iff_ne.2 fun heq => h (heq ▸ hl)

namespace World

variable (w : World)

theorem held?_queryInterface {o : Object} (ho : o.kind ≠ .component) :
    w.held? o Method.queryInterface.word = none := by
  obtain ⟨kind, i⟩ := o
  cases kind with
  | component => exact absurd rfl ho
  | provider =>
    show (w.providers.get i).held? Method.queryInterface.word = none
    cases w.providers.get i <;> rfl
  | _ => rfl

theorem request?_queryInterface {o : Object} (ho : o.kind ≠ .component) :
    w.request? o Method.queryInterface.word = none := by
  obtain ⟨kind, i⟩ := o
  cases kind with
  | component => exact absurd rfl ho
  | provider =>
    have hfind : (w.methods ⟨.provider, i⟩).find?
        (fun m => m.word == Method.queryInterface.word) = none := by
      show (w.providers.get i).methods.find? _ = none
      cases w.providers.get i <;> rfl
    rw [request?, hfind]
    rfl
  | _ => rfl

end World

namespace World.Intact

variable {w : World} (hw : w.Intact)
include hw

theorem leafHeld?_queryInterface (v : Value) :
    w.leafHeld? v Method.queryInterface.word = none := by
  have ha : ∀ b, w.assigned.get? (b, "query_interface") = none := fun b =>
    hw b _ (.inl ⟨.queryInterface, rfl⟩)
  show w.leafHeld? v "query_interface" = none
  cases v with
  | record kind _ fields =>
    exact lookup_zip_eq_none (by cases kind <;> decide)
  | capability c =>
    cases c <;>
      simp [leafHeld?, ha, memberPart?, Capability.all, Capability.label, List.lookup_cons]
  | field f =>
    cases f <;> simp [leafHeld?, ha, memberPart?, Field.all, Field.label, List.lookup_cons]
  | function serial f => cases f <;> simp [leafHeld?, ha, functionPart?, List.lookup_cons]
  | _ => simp [leafHeld?, ha, momentPart?, functionPart?, List.lookup_cons, cancelledName]

/-- Nothing but a component can be viewed as a capability. -/
theorem look_queryInterface {v : Value} (hv : v.ref? .component = none) :
    ∃ fault, w.look v Method.queryInterface.word = .error fault := by
  cases v with
  | object o =>
    obtain ⟨kind, i⟩ := o
    have hk : (⟨kind, i⟩ : Object).kind ≠ .component := by
      rintro rfl
      simp [Value.ref?] at hv
    have hl : w.look (.object ⟨kind, i⟩) Method.queryInterface.word =
        w.lookObject ⟨kind, i⟩ Method.queryInterface.word := by
      cases kind <;> first | rfl | exact absurd rfl hk
    have hp : w.property? ⟨kind, i⟩ Method.queryInterface.word = none := by
      cases kind <;> rfl
    rw [hl, lookObject, hp, hw.assigned?_word]
    simp [w.held?_queryInterface hk, w.request?_queryInterface hk]
  | _ =>
    have hf : ∀ ops : List Operation,
        ops.find? (fun op => op.word == Method.queryInterface.word) = none := by
      intro ops
      simp [Operation.word_ne_queryInterface]
    have hc : Method.queryInterface.word ≠ "__class__" := by decide
    have hd : Method.queryInterface.word ≠ Operation.digest.word := by decide
    simp [look, lookPlain, hw.leafHeld?_queryInterface, hf, hc, hd]

end World.Intact

end Understudy

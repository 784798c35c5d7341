import Understudy.Proofs.LastingCalls
import Understudy.Proofs.Layers

/-!
# What overlays answer

A chain of overlays answers a field from the outermost layer that overrides it, and any other
question from the component at the bottom. It makes no difference whether an attribute is read or
the overlay is asked for the field.

What an overlay overrides and what it was put over never change, whatever is asked of anything, and
what is put on top leaves the layers below as they are. What the bottom answers may change, and then
the new answer shows through wherever no layer has one of its own.

## Main definitions

* `Delegates`: what a chain of overlays answers.
* `Component.Answers`: a component that answers every field by what it was built with.

## Main statements

* `World.Layered.delegatesNow`: a chain answers from the outermost layer, or from the bottom.
* `World.Layered.delegates`: so it does later, as long as its overlays are what they were.
* `World.keepsLayers_afterAll`: they are, whatever was asked.
* `World.Layered.delegates_afterAll`: what a chain answers after any number of requests.
-/

namespace Understudy

/-! ## Chains -/

/-- An overlay becomes no other one, annotations apart. -/
theorem World.HasBecome.overlay {w : World} {c : Ref .component} {layer : Overlay}
    (h : World.HasBecome c (.overlay layer) w) :
    ∃ notes, w.row c = .overlay { layer with annotations := notes } := by
  rw [World.HasBecome] at h
  generalize w.row c = x at h
  cases h with
  | overlay _ notes => exact ⟨notes, rfl⟩

/-- An action that keeps whatever lasts leaves the overlays as they are. -/
theorem World.keepsLayers_after {α : Type} {a : Action α} (ha : ∀ I, Lasts I a) (w : World) :
    w.KeepsLayers (w.after a) := by
  intro c layer hc
  have hmore : Component.overlay layer ≠ .plain 0 [] := by simp
  exact (ha _ w ⟨lasting_hasBecome c hmore, hc.symm ▸ .refl _⟩).holds.overlay

/-- Whatever was asked, overlays are what they were. -/
theorem World.keepsLayers_afterAll {qs : List (Request Value)} (hqs : ∀ q ∈ qs, q.Modest)
    (w : World) : w.KeepsLayers (w.afterAll qs) := by
  intro c layer hc
  exact (World.hasBecome_afterAll hqs hc (by simp)).overlay

/-- What is put over something that is there lies on top of its layers. -/
theorem World.Layered.put_over {w : World} {layer : Overlay} {base : Value}
    {layers : List (OrderedMap Field Value)} (h : w.Layered layer.fallback layers base)
    (hthere : ∀ j : Ref .component, layer.fallback = .ofRef j → j.index < w.components.size) :
    (w.after (store .component (.overlay layer))).Layered
      (.ofRef (⟨w.components.size⟩ : Ref .component)) (layer.overrides :: layers) base := by
  have hrow : (w.components.push (.overlay layer)).get w.components.size = .overlay layer := by
    rw [Table.get_push, if_pos rfl]
  have hunder := h.later (w.keepsLayers_after fun I => Lasts.storeComponent (.overlay layer))
  exact .stacked hrow hthere hunder

/-! ## What a chain answers -/

theorem run_readAttribute_congr (call : Caller) {w : World} {v v' : Value} {name : String}
    (h : w.look v name = w.look v' name) :
    w.run (readAttribute call v name) = w.run (readAttribute call v' name) := by
  show w.run (readWithin call (999 + 1) v name) = w.run (readWithin call (999 + 1) v' name)
  rw [readWithin, readWithin, World.run_bind, World.run_bind, World.run_get]
  simp only [World.run_bind, World.run_orFail, h]

/-- Its answer to a field is held. -/
theorem World.look_field_held {w : World} {c : Ref .component} {f : Field} {found : Found}
    (hc : ∀ layer, w.row c ≠ .overlay layer) (h : w.look (.ofRef c) f.word = .ok found) :
    ∃ v, found = .held v := by
  have hproperty : w.property? c.object f.word = none := by
    cases f <;> rfl
  rw [look_bottom hc, lookObject, hproperty] at h
  dsimp only at h
  split at h
  · rename_i v _
    exact ⟨v, (Except.ok.inj h).symm⟩
  · rw [request?_field] at h
    cases h

/-- What it does not hold it has no attribute for. -/
theorem World.look_bottom_error {w : World} {c : Ref .component} {name : String} {fault : Fault}
    (hc : ∀ layer, w.row c ≠ .overlay layer) (h : w.look (.ofRef c) name = .error fault) :
    fault.kind = "AttributeError" := by
  rw [look_bottom hc, lookObject] at h
  split at h
  · rename_i found hfound
    subst h
    have hok : ∀ i : Nat, w.property? ⟨.component, i⟩ name ≠ some (.error fault) := by
      intro i hi
      unfold property? at hi
      split at hi <;> simp_all
    exact absurd hfound (hok c.index)
  · split at h
    · cases h
    · split at h
      · cases h
      · cases h
        rfl

/-- Whether a value holds anything under a name. -/
def World.Has (w : World) (v : Value) (name : String) : Prop := ∃ found, w.look v name = .ok found

/-- What a component holds is read. -/
theorem World.Has.outcome_readAttribute {w : World} {c : Ref .component} {name : String}
    (call : Caller) (hc : ∀ layer, w.row c ≠ .overlay layer) (h : w.Has (.ofRef c) name) :
    ∃ v, w.outcome (readAttribute call (.ofRef c) name) = .ok v := by
  obtain ⟨found, hfound⟩ := h
  cases found with
  | held v => exact ⟨v, World.outcome_of_run (run_readAttribute_held call hfound)⟩
  | made v =>
    refine ⟨v.stamped w.nextSerial, ?_⟩
    show w.outcome (readWithin call (999 + 1) (.ofRef c) name) = _
    rw [World.outcome, readWithin, World.run_bind, World.run_get]
    simp only [World.run_bind, World.run_orFail, hfound, World.run_hold]
  | captured i =>
    rw [look_bottom hc] at hfound
    obtain rfl := lookObject_eq_captured hfound
    have hproperty : w.property? c.object "original" = none := rfl
    rw [lookObject, hproperty] at hfound
    dsimp only at hfound
    split at hfound
    · cases hfound
    · split at hfound <;> cases hfound

/-- What a chain of overlays answers in a state, given what the overlays override, outermost
first, and the component at the bottom. -/
structure Delegates (call : Caller) (w : World) (c : Ref .component)
    (layers : List (OrderedMap Field Value)) (base : Ref .component) : Prop where
  /-- A field has one answer, whichever way it is asked for: that of the outermost layer which
  overrides it, whatever the answer is, or else what the bottom answers in this state. -/
  field : ∀ f : Field, ∃ v,
    (match outermost? layers f with
      | some x => v = x
      | none => w.run (readAttribute call (.ofRef base) f.word) = (.ok v, w)) ∧
    w.run (readAttribute call (.ofRef c) f.word) = (.ok v, w) ∧
    w.run (getField call c (.field f)) = (.ok v, w) ∧
    ∀ serial, w.run (getField call c (.text serial f.word)) = (.ok v, w)
  /-- An overlay resolves a field to that answer too, unless the word of the field was changed. -/
  resolved : layers ≠ [] → ∀ f : Field, w.assigned.get? (.field f, "value") = none →
    w.run (resolveField call c (.field f)) = w.run (readAttribute call (.ofRef c) f.word)
  /-- Reading any other name is reading it from the bottom. -/
  reading : ∀ name, HandedOn name →
    w.run (readAttribute call (.ofRef c) name) = w.run (readAttribute call (.ofRef base) name)
  /-- So is asking for it. -/
  named : ∀ name serial, HandedOn name →
    w.run (getField call c (.text serial name)) = w.run (readAttribute call (.ofRef base) name)
  /-- What the bottom has is found. -/
  present : ∀ name, HandedOn name → w.Has (.ofRef base) name →
    ∃ v, w.outcome (readAttribute call (.ofRef c) name) = .ok v
  /-- What the bottom has not is no attribute. -/
  absent : ∀ name, HandedOn name → ¬ w.Has (.ofRef base) name →
    ∃ fault, w.run (readAttribute call (.ofRef c) name) = (.error fault, w) ∧
      fault.kind = "AttributeError"

section

variable {w : World} {c base : Ref .component} {layers : List (OrderedMap Field Value)}

theorem run_getField_field (call : Caller) (w : World) (c : Ref .component) (f : Field) :
    w.run (getField call c (.field f)) = w.run (readAttribute call (.ofRef c) f.word) := by
  have hf : (Value.field f).field? = some f := Field.ofWord?_word f
  rw [getField, hf]
  rfl

theorem run_getField_word (call : Caller) (w : World) (c : Ref .component) (f : Field)
    (serial : Nat) : w.run (getField call c (.text serial f.word)) =
      w.run (readAttribute call (.ofRef c) f.word) := by
  have hf : (Value.text serial f.word).field? = some f := Field.ofWord?_word f
  rw [getField, hf]
  rfl

theorem run_getField_name (call : Caller) (w : World) (c : Ref .component) {name : String}
    (serial : Nat) (h : Field.ofWord? name = none) :
    w.run (getField call c (.text serial name)) =
      w.run (readAttribute call (.ofRef c) name) := by
  have hf : (Value.text serial name).field? = none := h
  rw [getField, hf]
  simp

/-- The overrides of an overlay are found under the words of the fields. -/
theorem World.get?_overridePairs {layer : Overlay} (h : w.row c = .overlay layer) (serial : Nat)
    (f : Field) : (w.overridePairs c).get? (.text serial f.word) = layer.overrides.get? f := by
  have hpairs : w.overridePairs c =
      ⟨layer.overrides.toList.map fun pair => (.ofText pair.1.word, pair.2)⟩ := by
    rw [overridePairs, h]
  rw [hpairs]
  show OrderedMap.find? _ (layer.overrides.toList.map _) = OrderedMap.find? f layer.overrides.toList
  induction layer.overrides.toList with
  | nil => rfl
  | cons pair rest ih =>
    obtain ⟨g, v⟩ := pair
    have hkey : (Value.ofText g.word == Value.text serial f.word) = (g == f) := by
      rw [Value.text_beq_text, Bool.eq_iff_iff, beq_iff_eq, beq_iff_eq]
      exact ⟨Field.word_injective, fun heq => heq ▸ rfl⟩
    rw [List.map_cons, OrderedMap.find?, OrderedMap.find?, hkey, ih]

/-- An overlay resolves a field to what is read under the word of the field. -/
theorem run_resolveField (call : Caller) {layer : Overlay} (h : w.row c = .overlay layer)
    (hearlier : ∀ j : Ref .component, layer.fallback = .ofRef j → j.index < c.index) {f : Field}
    (hf : w.assigned.get? (.field f, "value") = none) :
    w.run (resolveField call c (.field f)) = w.run (readAttribute call (.ofRef c) f.word) := by
  have hword : w.look (.field f) "value" = .ok (.held (.ofText f.word)) := by
    simp [World.look, World.lookPlain, World.leafHeld?, hf, World.memberPart?, List.lookup_cons]
  have hfallback : w.look (.ofRef c) "fallback" = .ok (.held layer.fallback) := by
    show w.lookComponent c.index "fallback" = _
    rw [World.lookComponent, show w.components.get c.index = .overlay layer from h]
    rfl
  have hread := run_readAttribute_held call hword
  rw [resolveField, World.run_bind_of_run hread]
  simp only [World.run_bind, World.run_needKey, World.run_get]
  have hkey : (Value.ofText f.word).unhashable? = none := rfl
  rw [hkey]
  simp only [World.get?_overridePairs h 0 f]
  cases hlayer : layer.overrides.get? f with
  | some v => exact (run_readAttribute_held call (World.look_override h hlayer)).symm
  | none =>
    have hbelow := run_readAttribute_held call hfallback
    rw [World.run_bind_of_run hbelow]
    exact (run_readAttribute_congr call (World.look_field_under h hearlier hlayer)).symm

/-- Where there are layers, the outermost is the overlay that is asked. -/
theorem World.Layered.outermost (h : w.Layered (.ofRef c) layers (.ofRef base))
    (hlayers : layers ≠ []) : ∃ layer : Overlay, w.row c = .overlay layer ∧
      ∀ j : Ref .component, layer.fallback = .ofRef j → j.index < c.index := by
  generalize hv : Value.ofRef c = v at h
  cases h with
  | bottom => exact absurd rfl hlayers
  | @stacked c' layer inner _ held earlier under =>
    obtain rfl := Value.ofRef_injective hv
    exact ⟨layer, held, earlier⟩

/-- What a bottom answers to a field is what it holds. -/
theorem World.look_field_of_answered {call : Caller} (hbase : ∀ layer, w.row base ≠ .overlay layer)
    {f : Field} {v : Value} (hv : w.outcome (readAttribute call (.ofRef base) f.word) = .ok v) :
    w.look (.ofRef base) f.word = .ok (.held v) := by
  cases hfound : w.look (.ofRef base) f.word with
  | error fault =>
    rw [World.outcome, run_readAttribute_error call hfound] at hv
    cases hv
  | ok found =>
    obtain ⟨x, rfl⟩ := World.look_field_held hbase hfound
    rw [World.outcome_of_run (run_readAttribute_held call hfound)] at hv
    rw [Except.ok.inj hv]

/-- A field is read from the outermost layer that overrides it, or else from the bottom. -/
theorem World.Layered.run_readAttribute_field (h : w.Layered (.ofRef c) layers (.ofRef base))
    (call : Caller) (hbase : ∀ layer, w.row base ≠ .overlay layer) {f : Field}
    (hanswers : ∃ v, w.outcome (readAttribute call (.ofRef base) f.word) = .ok v) :
    ∃ v,
      (match outermost? layers f with
        | some x => v = x
        | none => w.run (readAttribute call (.ofRef base) f.word) = (.ok v, w)) ∧
      w.run (readAttribute call (.ofRef c) f.word) = (.ok v, w) := by
  have hlook := h.look_field f
  cases hlayer : outermost? layers f with
  | some x =>
    rw [hlayer] at hlook
    exact ⟨x, rfl, run_readAttribute_held call hlook⟩
  | none =>
    rw [hlayer] at hlook
    obtain ⟨v, hv⟩ := hanswers
    have hheld := World.look_field_of_answered hbase hv
    exact ⟨v, run_readAttribute_held call hheld, run_readAttribute_held call (hlook.trans hheld)⟩

/-- The layers of a chain answer as long as the bottom does. -/
theorem World.Layered.delegatesNow (h : w.Layered (.ofRef c) layers (.ofRef base)) (call : Caller)
    (hbase : ∀ layer, w.row base ≠ .overlay layer)
    (hanswers : ∀ f : Field, ∃ v, w.outcome (readAttribute call (.ofRef base) f.word) = .ok v) :
    Delegates call w c layers base := by
  have hattribute : ∀ name, HandedOn name →
      w.run (readAttribute call (.ofRef c) name) =
        w.run (readAttribute call (.ofRef base) name) := fun name hn =>
    run_readAttribute_congr call (h.look_handedOn hn)
  refine ⟨fun f => ?_, fun hlayers f hf => ?_, hattribute, fun name serial hn => ?_,
    fun name hn hhas => ?_, fun name hn hnot => ?_⟩
  · -- The three ways of asking all come down to one reading.
    obtain ⟨v, hv, hrun⟩ := h.run_readAttribute_field call hbase (hanswers f)
    refine ⟨v, hv, hrun, ?_, fun serial => ?_⟩
    · rw [run_getField_field, hrun]
    · rw [run_getField_word, hrun]
  · obtain ⟨layer, hrow, hearlier⟩ := h.outermost hlayers
    exact run_resolveField call hrow hearlier hf
  · rw [run_getField_name call w c serial hn.noField, hattribute name hn]
  · rw [World.outcome, hattribute name hn]
    exact hhas.outcome_readAttribute call hbase
  · cases hfound : w.look (.ofRef base) name with
    | ok found => exact absurd ⟨found, hfound⟩ hnot
    | error fault =>
      refine ⟨fault, ?_, World.look_bottom_error hbase hfound⟩
      rw [hattribute name hn, run_readAttribute_error call hfound]

/-- Whatever happened since a chain was built, as long as its overlays are what they were: a
field is answered by the outermost layer that overrides it as it always was, and otherwise by
the bottom as it is now, and any other name is looked for at the bottom. -/
theorem World.Layered.delegates {w' : World}
    (h : w.Layered (.ofRef c) layers (.ofRef base)) (hlater : w.KeepsLayers w') (call : Caller)
    (hbase : ∀ layer, w'.row base ≠ .overlay layer)
    (hanswers : ∀ f : Field, ∃ v, w'.outcome (readAttribute call (.ofRef base) f.word) = .ok v) :
    Delegates call w' c layers base ∧
      ∀ f : Field, w'.outcome (readAttribute call (.ofRef c) f.word) =
        match outermost? layers f with
        | some _ => w.outcome (readAttribute call (.ofRef c) f.word)
        | none => w'.outcome (readAttribute call (.ofRef base) f.word) := by
  refine ⟨(h.later hlater).delegatesNow call hbase hanswers, fun f => ?_⟩
  have hnow := (h.later hlater).look_field f
  have hthen := h.look_field f
  cases hlayer : outermost? layers f with
  | some x =>
    rw [hlayer] at hnow hthen
    rw [World.outcome_of_run (run_readAttribute_held call hnow),
      World.outcome_of_run (run_readAttribute_held call hthen)]
  | none =>
    rw [hlayer] at hnow
    exact congrArg Prod.fst (run_readAttribute_congr call hnow)

end

/-! ## Identities at the bottom -/

/-- A component answers every field by what it was built with. -/
def Component.Answers (x : Component) : Prop := ∀ f : Field, ∃ v, x.fact? f = some v

/-- It does so whatever becomes of it. -/
theorem Component.Answers.becomes {x y : Component} (h : x.Answers) (hxy : x.Becomes y) :
    y.Answers := by
  cases hxy with
  | host facts facts' | sample facts facts' => exact fun f => ⟨facts'.answer f, rfl⟩
  | overlay | plain | reporter =>
    obtain ⟨v, hv⟩ := h .vendor
    cases hv

/-- No overlay does. -/
theorem Component.Answers.ne_overlay {x : Component} (h : x.Answers) (layer : Overlay) :
    x ≠ .overlay layer := by
  rintro rfl
  obtain ⟨v, hv⟩ := h .vendor
  cases hv

/-- What answers every field can be asked for it. -/
theorem World.outcome_of_answers {w : World} {base : Ref .component}
    (h : (w.row base : Component).Answers) (call : Caller) (f : Field) :
    ∃ v, w.outcome (readAttribute call (.ofRef base) f.word) = .ok v := by
  obtain ⟨v, hv⟩ := h f
  have hlook := World.look_field_bottom h.ne_overlay f
  rw [hv, Option.or_some] at hlook
  exact ⟨_, World.outcome_of_run (run_readAttribute_held call hlook)⟩

/-- Whatever was asked, what answered every field does so still. -/
theorem World.answers_afterAll {w : World} {qs : List (Request Value)} (hqs : ∀ q ∈ qs, q.Modest)
    {base : Ref .component} (h : (w.row base : Component).Answers) :
    ((w.afterAll qs).row base : Component).Answers := by
  have hmore : (w.row base : Component) ≠ .plain 0 [] := fun hrow => by
    obtain ⟨v, hv⟩ := h .vendor
    rw [hrow] at hv
    cases hv
  exact h.becomes (World.hasBecome_afterAll hqs rfl hmore)

/-- A chain that ends in an identity which answers every field delegates whatever was asked of
anything since. -/
theorem World.Layered.delegates_afterAll {w : World} {c base : Ref .component}
    {layers : List (OrderedMap Field Value)} (h : w.Layered (.ofRef c) layers (.ofRef base))
    (hbase : (w.row base : Component).Answers) {qs : List (Request Value)}
    (hqs : ∀ q ∈ qs, q.Modest) (call : Caller) : Delegates call (w.afterAll qs) c layers base := by
  have hanswers := World.answers_afterAll hqs hbase
  exact (h.later (w.keepsLayers_afterAll hqs)).delegatesNow call hanswers.ne_overlay
    (World.outcome_of_answers hanswers call)

/-! ### A chain of two overlays -/

/-- An overlay over the sample identity, which overrides the vendor with an empty text. -/
def innerLayer : Overlay where
  overrides := ⟨[(.vendor, .ofText ""), (.name, .ofText "Inner")]⟩
  fallback := .ofRef (⟨0⟩ : Ref .component)

/-- An overlay over that one, which overrides the name as well, with nothing. -/
def outerLayer : Overlay where
  overrides := ⟨[(.name, .none), (.inSafeMode, .bool false)]⟩
  fallback := .ofRef (⟨1⟩ : Ref .component)

/-- The two overlays are put over the sample identity, one after the other. -/
def layerBench : World :=
  (({ components := ⟨[.sampleOf Component.sampleAnswer]⟩ } : World).after
    (store .component (.overlay innerLayer))).after (store .component (.overlay outerLayer))

theorem layerBench_layered :
    layerBench.Layered (.ofRef (⟨2⟩ : Ref .component))
      [outerLayer.overrides, innerLayer.overrides] (.ofRef (⟨0⟩ : Ref .component)) := by
  refine World.Layered.put_over (World.Layered.put_over (.bottom _) fun j hj => ?_) fun j hj => ?_
  · obtain rfl : (⟨0⟩ : Ref .component) = j := Value.ofRef_injective hj
    decide
  · obtain rfl : (⟨1⟩ : Ref .component) = j := Value.ofRef_injective hj
    decide

/-- The sample identity is then given another vendor and another version and told that its caches
are no longer valid, and the outer overlay is given an annotation. -/
def layerRequests : List (Request Value) :=
  [.assign (.ofRef (⟨0⟩ : Ref .component)) "vendor_value" (.ofText "New"),
    .assign (.ofRef (⟨0⟩ : Ref .component)) "version_value" (.ofText "43.0"),
    .call (.ofRef (⟨0⟩ : Ref .component)) Method.invalidateCaches.word [] [],
    .call (.ofRef (⟨2⟩ : Ref .component)) Method.annotate.word
      [.ofText "Theme", .ofText "dark"] []]

/-- The state after those requests. -/
def layerBenchLater : World := layerBench.afterAll layerRequests

/-- The new version shows through both overlays, and the new vendor does not. -/
theorem layerBench_delegates :
    (Delegates invoke layerBenchLater ⟨2⟩ [outerLayer.overrides, innerLayer.overrides] ⟨0⟩ ∧
      ∀ f : Field, layerBenchLater.outcome
          (readAttribute invoke (.ofRef (⟨2⟩ : Ref .component)) f.word) =
        match outermost? [outerLayer.overrides, innerLayer.overrides] f with
        | some _ =>
          layerBench.outcome (readAttribute invoke (.ofRef (⟨2⟩ : Ref .component)) f.word)
        | none =>
          layerBenchLater.outcome
            (readAttribute invoke (.ofRef (⟨0⟩ : Ref .component)) f.word)) ∧
      (layerBenchLater.outcome (readAttribute invoke (.ofRef (⟨2⟩ : Ref .component))
        "version")).toOption.bind Value.text? = some "43.0" ∧
      layerBenchLater.outcome (readAttribute invoke (.ofRef (⟨2⟩ : Ref .component)) "vendor") =
        .ok (.ofText "") := by
  have hqs : ∀ q ∈ layerRequests, q.Modest := by
    simp [layerRequests, Request.Modest]
  have hsample : (layerBench.row (⟨0⟩ : Ref .component) : Component).Answers := fun f => ⟨_, rfl⟩
  have hanswers := World.answers_afterAll hqs hsample
  have h := World.Layered.delegates layerBench_layered (layerBench.keepsLayers_afterAll hqs) invoke
    hanswers.ne_overlay (World.outcome_of_answers hanswers invoke)
  refine ⟨h, ?_, ?_⟩
  · have hversion := congrArg (fun o => o.toOption.bind Value.text?) (h.2 .version)
    exact hversion.trans (by decide +kernel)
  · obtain ⟨v, hv, hread, _⟩ := h.1.field .vendor
    obtain rfl : v = .ofText "" := hv
    exact World.outcome_of_run hread

end Understudy

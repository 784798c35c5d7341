import Understudy.Calls
import Understudy.Proofs.Looking

/-!
# Layers of overlays

An overlay answers the fields it overrides and hands every other name on to what it was
put over, which may be an overlay again. So a field is found in the outermost layer
that overrides it, and any other name in the component at the bottom.

## Main definitions

* `World.Layered`: the overlays that lie over a value, outermost first.
* `outermost?`: the first of several overlays that overrides a field.
* `HandedOn`: a name that an overlay has nothing to say to.
* `World.KeepsLayers`: in a later state every overlay overrides what it did.
* `Component.fact?`: what a component answers to a field by what it was built with.

## Main statements

* `World.Layered.look_field`, `World.Layered.look_handedOn`: what is found through all
  layers.
* `World.look_field_bottom`: what is found at the bottom.
-/

namespace Understudy

/-! ## Names -/

/-- The names that an overlay holds something under, or its type does, the fields and the
reserved names apart. -/
def Overlay.ownNames : List String :=
  ["overrides", "_overrides", "fallback", "_fallback", "annotations", "_annotations",
    "capabilities", "_CAPABILITIES", "query_interface", "invalidate_caches_on_restart",
    "annotate_crash_report", "get", "_resolve", "_abc_impl"]

/-- A name that is no field, that an overlay holds nothing under, and that is not reserved. -/
structure HandedOn (name : String) : Prop where
  noField : Field.ofWord? name = none
  notOwn : name ∉ Overlay.ownNames
  notReserved : World.reserved name = false

instance (name : String) : Decidable (HandedOn name) :=
  decidable_of_iff
    (Field.ofWord? name = none ∧ name ∉ Overlay.ownNames ∧ World.reserved name = false)
    ⟨fun ⟨h, h', h''⟩ => ⟨h, h', h''⟩, fun ⟨h, h', h''⟩ => ⟨h, h', h''⟩⟩

theorem Field.ofWord?_word (f : Field) : Field.ofWord? f.word = some f :=
  Field.ofWord?_eq_some_iff.2 rfl

/-- No request goes by the word of a field. -/
theorem Method.word_ne_field (m : Method) (f : Field) : m.word ≠ f.word := by
  cases f <;> cases m <;> decide

/-! ## One layer -/

namespace World

variable {w : World} {c : Ref .component} {layer : Overlay}

theorem overlayOwn?_field (layer : Overlay) (c : Ref .component) (f : Field) :
    overlayOwn? layer c f.word = none := by
  cases f <;> rfl

theorem request?_field (w : World) (o : Object) (f : Field) : w.request? o f.word = none := by
  have hfind : (w.methods o).find? (fun m => m.word == f.word) = none := by
    simp [Method.word_ne_field]
  have hhost : f.word ≠ Function.hostOfSettings.word := by cases f <;> decide
  rw [request?, hfind]
  simp only [typeRequest?]
  split
  · split
    · rw [if_neg hhost]
    · rfl
  · rfl

theorem reserved_field (f : Field) : reserved f.word = false := by
  cases f <;> decide

/-- What an overlay does not hold itself is found in what it was put over. -/
theorem look_under {name : String} (h : w.row c = .overlay layer)
    (hearlier : ∀ j : Ref .component, layer.fallback = .ofRef j → j.index < c.index)
    (hown : (overlayOwn? layer c name).or ((Field.ofWord? name).bind layer.overrides.get?) = none)
    (hrequest : w.request? c.object name = none) (hreserved : reserved name = false) :
    w.look (.ofRef c) name = w.look layer.fallback name := by
  show w.lookComponent c.index name = _
  rw [lookComponent, show w.components.get c.index = .overlay layer from h]
  simp only [show overlayOwn? layer ⟨c.index⟩ name = overlayOwn? layer c name from rfl, hown,
    show w.request? ⟨.component, c.index⟩ name = none from hrequest, hreserved]
  generalize hv : layer.fallback = v at hearlier
  cases v with
  | object o =>
    obtain ⟨kind, j⟩ := o
    cases kind with
    | component =>
      have hj : j < c.index := hearlier ⟨j⟩ rfl
      simp [look, hj]
    | _ => rfl
  | _ => rfl

/-- A layer answers a field it overrides. -/
theorem look_override {f : Field} {v : Value} (h : w.row c = .overlay layer)
    (hf : layer.overrides.get? f = some v) : w.look (.ofRef c) f.word = .ok (.held v) := by
  show w.lookComponent c.index f.word = _
  rw [lookComponent, show w.components.get c.index = .overlay layer from h]
  simp [overlayOwn?_field, Field.ofWord?_word, hf]

/-- A layer does not get in the way of a field it does not override. -/
theorem look_field_under {f : Field} (h : w.row c = .overlay layer)
    (hearlier : ∀ j : Ref .component, layer.fallback = .ofRef j → j.index < c.index)
    (hf : layer.overrides.get? f = none) :
    w.look (.ofRef c) f.word = w.look layer.fallback f.word := by
  refine look_under h hearlier ?_ (request?_field w c.object f) (reserved_field f)
  rw [overlayOwn?_field, Field.ofWord?_word]
  simpa using hf

/-- A layer does not get in the way of a name it has nothing to say to. -/
theorem look_handedOn_under {name : String} (h : w.row c = .overlay layer)
    (hearlier : ∀ j : Ref .component, layer.fallback = .ofRef j → j.index < c.index)
    (hn : HandedOn name) : w.look (.ofRef c) name = w.look layer.fallback name := by
  have hnot : ∀ word ∈ Overlay.ownNames, name ≠ word := fun word hword heq =>
    hn.notOwn (heq ▸ hword)
  refine look_under h hearlier ?_ ?_ hn.notReserved
  · have hown : overlayOwn? layer c name = none := by
      unfold overlayOwn?
      split <;> first | rfl | exact absurd rfl (hnot _ (by decide))
    simp [hown, hn.noField]
  · have hm : w.methods c.object = (Component.overlay layer).methods := by
      rw [← h]
      rfl
    have hfind : (w.methods c.object).find? (fun m => m.word == name) = none := by
      rw [hm, List.find?_eq_none]
      intro m hmem heq
      have hwords : ∀ m ∈ [Method.queryInterface, .invalidateCaches, .annotate, .getField,
          .resolveField], m.word ∈ Overlay.ownNames := by decide
      have hword : m.word = name := by simpa using heq
      exact hnot _ (hwords m hmem) hword.symm
    have htype : w.components.get c.index = .overlay layer := h
    rw [request?, hfind]
    simp [typeRequest?, Ref.object, htype]

end World

/-! ## All layers -/

/-- The overlays that lie over a value, outermost first, each by what it overrides, down to
what the innermost was put over. -/
inductive World.Layered (w : World) : Value → List (OrderedMap Field Value) → Value → Prop where
  | bottom (v : Value) : w.Layered v [] v
  | stacked {c : Ref .component} {layer : Overlay} {inner : List (OrderedMap Field Value)}
      {base : Value} (held : w.row c = .overlay layer)
      (earlier : ∀ j : Ref .component, layer.fallback = .ofRef j → j.index < c.index)
      (under : w.Layered layer.fallback inner base) :
      w.Layered (.ofRef c) (layer.overrides :: inner) base

/-- What the outermost of several layers that overrides a field says to it. -/
def outermost? (layers : List (OrderedMap Field Value)) (f : Field) : Option Value :=
  layers.findSome? fun overrides => overrides.get? f

namespace World.Layered

variable {w w' : World} {v base : Value} {layers : List (OrderedMap Field Value)}

/-- A field is found in the outermost layer that overrides it, or else at the bottom. -/
theorem look_field (h : w.Layered v layers base) (f : Field) :
    w.look v f.word =
      match outermost? layers f with
      | some x => .ok (.held x)
      | none => w.look base f.word := by
  induction h with
  | bottom v => rfl
  | @stacked c layer inner base held earlier under ih =>
    rw [outermost?, List.findSome?_cons]
    cases hf : layer.overrides.get? f with
    | some x => exact look_override held hf
    | none => rw [look_field_under held earlier hf, ih, outermost?]

/-- A name that no layer has anything to say to is found at the bottom. -/
theorem look_handedOn (h : w.Layered v layers base) {name : String} (hn : HandedOn name) :
    w.look v name = w.look base name := by
  induction h with
  | bottom v => rfl
  | stacked held earlier _ ih => rw [look_handedOn_under held earlier hn, ih]

end World.Layered

/-! ## Later states -/

/-- In a later state every overlay overrides what it did, over what it did. Annotations may
have been added. -/
def World.KeepsLayers (w w' : World) : Prop :=
  ∀ (c : Ref .component) (layer : Overlay), w.row c = .overlay layer →
    ∃ notes, w'.row c = .overlay { layer with annotations := notes }

/-- The layers over a value stay what they are. -/
theorem World.Layered.later {w w' : World} {v base : Value}
    {layers : List (OrderedMap Field Value)} (h : w.Layered v layers base)
    (hlater : w.KeepsLayers w') : w'.Layered v layers base := by
  induction h with
  | bottom v => exact .bottom v
  | @stacked c layer _ _ held earlier _ ih =>
    obtain ⟨notes, hnotes⟩ := hlater _ _ held
    exact @World.Layered.stacked w' c { layer with annotations := notes } _ _ hnotes earlier ih

/-! ## The bottom -/

/-- A component that is no overlay holds what a thing holds. -/
theorem World.look_bottom {w : World} {c : Ref .component} (hc : ∀ layer, w.row c ≠ .overlay layer)
    (name : String) : w.look (.ofRef c) name = w.lookObject c.object name := by
  show w.lookComponent c.index name = _
  rw [lookComponent]
  split
  · rename_i layer hlayer
    exact absurd hlayer (hc layer)
  · rfl

/-- What a component answers to a field by what it was built with. -/
def Component.fact? : Component → Field → Option Value
  | .host facts _, f | .sample facts _, f => some (facts.answer f)
  | .overlay _, _ | .plain _ _, _ | .reporter _ _ _ _, _ => none

theorem Component.held?_field (x : Component) (c : Ref .component) (f : Field) :
    x.held? c f.word = x.fact? f := by
  have hf : Field.ofWord? f.word = some f := Field.ofWord?_word f
  cases x with
  | host facts invalidated =>
    have hname : f.word ≠ "invalidate_requested" := by cases f <;> decide
    rw [held?, if_neg hname, Facts.answer?, hf]
    rfl
  | sample facts count =>
    have hname : f.word ≠ "invalidate_call_count" := by cases f <;> decide
    rw [held?, if_neg hname, Facts.answer?, hf]
    rfl
  | overlay | plain => rfl
  | reporter => cases f <;> rfl

/-- At the bottom, a field is answered by what was assigned, or else by what the component was
built with. -/
theorem World.look_field_bottom {w : World} {c : Ref .component}
    (hc : ∀ layer, w.row c ≠ .overlay layer) (f : Field) :
    w.look (.ofRef c) f.word =
      match (w.assigned? c.object f.word).or ((w.row c : Component).fact? f) with
      | some v => .ok (.held v)
      | none => .error (.noAttribute (w.row c : Component).title f.word) := by
  have hproperty : w.property? c.object f.word = none := by
    cases f <;> rfl
  have hheld : w.held? c.object f.word = (w.row c : Component).fact? f :=
    (w.row c : Component).held?_field c f
  rw [look_bottom hc, lookObject, hproperty, hheld, request?_field]
  cases w.assigned? c.object f.word <;> cases (w.row c : Component).fact? f <;> rfl

/-- What an identity was built with is its answer to a field. -/
theorem World.look_facts {w : World} {c : Ref .component} {facts : Facts} (f : Field)
    (h : (∃ invalidated, w.row c = .host facts invalidated) ∨
      ∃ count, w.row c = .sample facts count)
    (hassigned : w.assigned? c.object f.word = none) :
    w.look (.ofRef c) f.word = .ok (.held (facts.answer f)) := by
  have hbottom : ∀ layer, w.row c ≠ .overlay layer := by
    intro layer hlayer
    obtain ⟨_, hc⟩ | ⟨_, hc⟩ := h <;> cases hc.symm.trans hlayer
  have hfact : (w.row c : Component).fact? f = some (facts.answer f) := by
    obtain ⟨_, hc⟩ | ⟨_, hc⟩ := h <;> rw [hc] <;> rfl
  rw [look_field_bottom hbottom, hassigned, hfact]
  rfl

end Understudy

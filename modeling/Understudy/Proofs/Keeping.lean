import Understudy.Proofs.Layers
import Understudy.Proofs.SessionSetUp

/-!
# What things stay

Nobody who deals with an environment changes what an identity was built with, what an
overlay overrides and what it was put over, or which component a provider hands out. At most
something is noted on a component, and a provider was asked once more. So what a component
answers to a field it answers ever after.

## Main definitions

* `Component.bare`: a component without what is noted on it.
* `World.Retains`: the things of a state are what they were in another one.

## Main statements

* `World.Retains.annotateSession`: telling the id of a session changes no thing.
* `World.Retains.look_field`: a field is answered as it was.
-/

namespace Understudy

/-! ## Components without what is noted on them -/

/-- A component without what was noted on it since it was built. -/
def Component.bare : Component → Component
  | .host facts _ => .host facts .none
  | .sample facts _ => .sample facts .none
  | .overlay layer => .overlay { layer with annotations := .empty }
  | .plain serial declared => .plain serial declared
  | .reporter serial declared _ fails => .reporter serial declared .empty fails

namespace Component

theorem fallback?_bare (c : Component) : c.bare.fallback? = c.fallback? := by
  cases c <;> rfl

theorem eq_overlay_of_bare {c : Component} {layer : Overlay}
    (h : c.bare = (overlay layer).bare) :
    ∃ notes, c = .overlay { layer with annotations := notes } := by
  cases c with
  | overlay other =>
    refine ⟨other.annotations, ?_⟩
    obtain ⟨overrides, fallback, annotations⟩ := other
    obtain ⟨overrides', fallback', annotations'⟩ := layer
    simp only [bare, overlay.injEq, Overlay.mk.injEq] at h
    obtain ⟨rfl, rfl, _⟩ := h
    rfl
  | _ => cases h

theorem eq_host_of_bare {c : Component} {facts : Facts} {invalidated : Value}
    (h : c.bare = (host facts invalidated).bare) :
    ∃ invalidated', c = .host facts invalidated' := by
  cases c with
  | host facts' invalidated' =>
    obtain ⟨rfl, _⟩ := Component.host.inj h
    exact ⟨invalidated', rfl⟩
  | _ => cases h

/-- What is noted on a component is held under names that are no fields. -/
theorem held?_bare (c : Component) (r : Ref .component) (f : Field) :
    c.bare.held? r f.word = c.held? r f.word := by
  cases c with
  | host facts invalidated | sample facts invalidated =>
    cases f <;> rfl
  | reporter serial declared notes fails =>
    cases f <;> rfl
  | _ => rfl

end Component

/-! ## States in which things are what they were -/

/-- What is never assigned by those who deal with an environment: anything of a component or a
session, the name of a capability, and the name of a function. -/
def Bearer.Spared : Bearer → String → Prop
  | .thing o, _ => o.kind = .component ∨ o.kind = .session
  | .capability _, name => name = "name"
  | .function _ _, name => name = "__name__"
  | _, _ => False

/-- The things of a state are what they were in another one, up to what is noted on them, and
what is spared has not been assigned. -/
structure World.Retains (w w' : World) : Prop where
  intact : w.Intact → w'.Intact
  assigned (bearer : Bearer) (name : String) (h : bearer.Spared name) :
    w'.assigned.get? (bearer, name) = w.assigned.get? (bearer, name)
  moreComponents : w.components.size ≤ w'.components.size
  bare (c : Ref .component) (h : c.index < w.components.size) :
    (w'.row c : Component).bare = (w.row c : Component).bare
  moreProviders : w.providers.size ≤ w'.providers.size
  provider (p : Ref .provider) (h : p.index < w.providers.size) :
    (w'.row p : Provider).withCalls .none = (w.row p : Provider).withCalls .none

namespace World.Retains

variable {w w' w'' : World}

theorem assigned? (h : w.Retains w') {o : Object} (ho : o.kind = .component ∨ o.kind = .session)
    (name : String) : w'.assigned? o name = w.assigned? o name := h.assigned (.thing o) name ho

theorem toExtends (h : w.Retains w') : w.Extends w' where
  intact := h.intact
  moreComponents := h.moreComponents
  fallback c hc := by
    rw [← Component.fallback?_bare, h.bare c hc, Component.fallback?_bare]
  moreProviders := h.moreProviders
  provider := h.provider

theorem refl (w : World) : w.Retains w where
  intact hw := hw
  assigned _ _ _ := rfl
  moreComponents := Nat.le_refl _
  bare _ _ := rfl
  moreProviders := Nat.le_refl _
  provider _ _ := rfl

theorem trans (h : w.Retains w') (h' : w'.Retains w'') : w.Retains w'' where
  intact hw := h'.intact (h.intact hw)
  assigned bearer name hb := (h'.assigned bearer name hb).trans (h.assigned bearer name hb)
  moreComponents := Nat.le_trans h.moreComponents h'.moreComponents
  bare c hc := (h'.bare c (Nat.lt_of_lt_of_le hc h.moreComponents)).trans (h.bare c hc)
  moreProviders := Nat.le_trans h.moreProviders h'.moreProviders
  provider p hp :=
    (h'.provider p (Nat.lt_of_lt_of_le hp h.moreProviders)).trans (h.provider p hp)

/-- Where no thing is changed and nothing is assigned, things are what they were. -/
theorem of_eq (hassigned : w'.assigned = w.assigned) (hcomponents : w'.components = w.components)
    (hproviders : w'.providers = w.providers) : w.Retains w' where
  intact hw := hw.congr hassigned
  assigned _ _ _ := by rw [hassigned]
  moreComponents := Nat.le_of_eq (congrArg Table.size hcomponents.symm)
  bare c _ := congrArg (fun t => (Table.get t c.index).bare) hcomponents
  moreProviders := Nat.le_of_eq (congrArg Table.size hproviders.symm)
  provider p _ := congrArg (fun t => (Table.get t p.index).withCalls .none) hproviders

theorem of_served (h : w.Served w') : w.Retains w' where
  intact := h.intact
  assigned _ _ _ := by rw [h.frame]
  moreComponents := Nat.le_of_eq (by rw [h.frame])
  bare c _ := by rw [h.row_component c]
  moreProviders := Nat.le_of_eq h.size.symm
  provider p _ := h.count p

theorem of_alike (h : w.Alike w') : w.Retains w' := of_served (.of_alike h)

theorem withRow_component {c : Ref .component} {component : Component}
    (hc : c.index < w.components.size)
    (hbare : component.bare = (w.row c : Component).bare) :
    w.Retains (w.withRow c component) where
  intact hw := hw.congr rfl
  assigned _ _ _ := rfl
  moreComponents := Nat.le_of_eq (Table.size_set w.components hc component).symm
  bare other _ := by
    rw [World.row_withRow]
    by_cases h : other = c
    · rw [if_pos h, hbare, h]
    · rw [if_neg h]
  moreProviders := Nat.le_refl _
  provider _ _ := rfl

/-- There may be one more component, and a provider of it. -/
theorem pushed (w : World) (component : Component) (provider : Provider) :
    w.Retains
      { w with
        components := w.components.push component
        providers := w.providers.push provider } where
  intact hw := hw.congr rfl
  assigned _ _ _ := rfl
  moreComponents := (World.Extends.pushed w component provider).moreComponents
  bare c hc := by
    show ((w.components.push component).get c.index).bare = _
    rw [Table.get_push_of_lt _ hc]
    rfl
  moreProviders := (World.Extends.pushed w component provider).moreProviders
  provider := (World.Extends.pushed w component provider).provider

theorem withRow_registry (w : World) (r : Ref .registry) (reg : Registry) :
    w.Retains (w.withRow r reg) := of_eq rfl rfl rfl

theorem installed (w : World) (r : Ref .registry) (i : Ref .installer) (layer : Overlay) :
    w.Retains (w.installed r i layer) :=
  (pushed w (.overlay layer) (.overlay (.ofRef w.nextComponent))).trans (of_eq rfl rfl rfl)

/-- An annotation is noted on a component, and that is all. -/
theorem annotate (hw : w.Intact) (call : Caller) {c : Ref .component}
    (htakes : (w.row c : Component).takesNotes = true) (key data : Value)
    (hk : key.unhashable? = none) : w.Retains (w.after (annotate call c key data)) := by
  have hthere := Component.lt_size_of_takesNotes htakes
  rw [Understudy.annotate, World.after_bind_of_run (World.run_fetch w c)]
  cases hc : (w.row c : Component) with
  | overlay layer =>
    cases key.text? with
    | some text => exact withRow_component hthere (by rw [hc]; rfl)
    | none => exact refl w
  | reporter serial capabilities notes fails =>
    show w.Retains (w.after (get >>= fun _ => _))
    rw [World.after_bind_of_run (World.run_get w)]
    split
    · exact refl w
    · rw [World.after_bind_of_run (hw.run_readAttribute_notes call hc),
        World.after_of_run (World.run_setItem_dict w _ data hk)]
      simp only [World.withPairs, hc]
      exact withRow_component hthere (by rw [hc]; rfl)
  | _ => exact refl w

theorem annotateSession {reg : Ref .registry} {s : Ref .session} (h : Sane reg w)
    (hr : (w.row s : Session).registry = .ofRef reg) (call : Caller) :
    w.Retains (w.after (annotateSession call s)) := by
  rcases h.annotateSession_cases hr call with hserved | ⟨asked, c, data, hserved, htakes, hafter⟩
  · exact of_served hserved
  · rw [hafter]
    exact (of_served hserved).trans (annotate (hserved.intact h.intact) call htakes _ _ rfl)

/-! ### What things answer -/

/-- An overlay overrides what it did, over what it did. -/
theorem row_overlay (h : w.Retains w') {c : Ref .component} {layer : Overlay}
    (hc : w.row c = Component.overlay layer) :
    ∃ notes, w'.row c = Component.overlay { layer with annotations := notes } := by
  have hlt : c.index < w.components.size := World.lt_size_of_row (by rw [hc]; simp)
  exact Component.eq_overlay_of_bare (hc ▸ h.bare c hlt)

theorem keepsLayers (h : w.Retains w') : w.KeepsLayers w' := fun _ _ hc => h.row_overlay hc

/-- The identity of the machine is what it was built with. -/
theorem row_host (h : w.Retains w') {c : Ref .component} {facts : Facts} {invalidated : Value}
    (hc : w.row c = Component.host facts invalidated) :
    ∃ invalidated', w'.row c = Component.host facts invalidated' := by
  have hlt : c.index < w.components.size := World.lt_size_of_row (by rw [hc]; simp)
  exact Component.eq_host_of_bare (hc ▸ h.bare c hlt)

/-- A component that is no overlay and is there answers a field as it did. -/
theorem look_bottom (h : w.Retains w') {c : Ref .component} (hlt : c.index < w.components.size)
    (hc : ∀ layer, w.row c ≠ Component.overlay layer) (f : Field) {v : Value}
    (hv : w.look (.ofRef c) f.word = .ok (.held v)) :
    w'.look (.ofRef c) f.word = .ok (.held v) := by
  have hproperty (w : World) : w.property? c.object f.word = none := by cases f <;> rfl
  have hc' : ∀ layer, w'.row c ≠ Component.overlay layer := by
    intro layer hlayer
    have hbare := h.bare c hlt
    rw [hlayer] at hbare
    obtain ⟨notes, hnotes⟩ := Component.eq_overlay_of_bare hbare.symm
    exact hc _ hnotes
  have hheld : w'.held? c.object f.word = w.held? c.object f.word := by
    show (w'.row c : Component).held? c f.word = (w.row c : Component).held? c f.word
    rw [← Component.held?_bare, h.bare c hlt, Component.held?_bare]
  rw [World.look_bottom hc, World.lookObject, hproperty] at hv
  rw [World.look_bottom hc', World.lookObject, hproperty,
    h.assigned? (o := c.object) (.inl rfl) f.word, hheld]
  dsimp only at hv ⊢
  split at hv
  · exact hv
  · rw [World.request?_field] at hv
    cases hv

/-- A field is answered as it was, through whatever overlays. -/
theorem look_field (h : w.Retains w') {v base : Value} {layers : List (OrderedMap Field Value)}
    (hlayers : w.Layered v layers base) {c : Ref .component} (hbase : base = .ofRef c)
    (hlt : c.index < w.components.size) (hc : ∀ layer, w.row c ≠ Component.overlay layer)
    {f : Field} {x : Value} (hx : w.look v f.word = .ok (.held x)) :
    w'.look v f.word = .ok (.held x) := by
  subst hbase
  rw [hlayers.look_field] at hx
  rw [(hlayers.later h.keepsLayers).look_field]
  cases hlayer : outermost? layers f with
  | some y =>
    rw [hlayer] at hx
    exact hx
  | none =>
    rw [hlayer] at hx
    exact h.look_bottom hlt hc f hx

end World.Retains

end Understudy

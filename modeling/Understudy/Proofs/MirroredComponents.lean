import Understudy.Proofs.MirroredServices

/-!
# Components in states that mirror each other

A field has the same answer in both states, through whatever layers it is asked for. Telling a
component that its caches are invalid, or an annotation, leaves the states mirroring each other.

## Main statements

* `World.Mirrors.look_field`: the answers to a field are alike, or missing in both.
* `Tally.invalidateCaches`: one identity notes what the other counts.
-/

namespace Understudy

/-! ## Fields -/

/-- A layer overrides the same fields in its guise. -/
theorem Overlay.get?_guise (layer : Overlay) (f : Field) :
    layer.guise.overrides.get? f = (layer.overrides.get? f).map Value.unstamped := by
  obtain ⟨⟨pairs⟩, fallback, annotations⟩ := layer
  simp only [guise, OrderedMap.get?]
  induction pairs with
  | nil => rfl
  | cons pair rest ih =>
    simp only [List.map_cons, OrderedMap.find?, ih]
    split <;> rfl

theorem Component.fact?_guise (x : Component) (f : Field) :
    x.guise.fact? f = (x.fact? f).map Value.unstamped := by
  cases x <;> rfl

theorem Component.Regular.fact? {c : Ref .component} {x : Component} (h : x.Regular c) {f : Field}
    {v : Value} (hv : x.fact? f = some v) : v.Simple := by
  cases x with
  | host facts | sample facts =>
    obtain rfl := Option.some.inj hv
    exact h.1 f
  | _ => cases hv

/-- What has no answer in its guise is called by its own name. -/
theorem Component.title_eq_of_fact? {x y : Component} (h : x.guise = y.guise) {f : Field}
    (hnone : x.fact? f = none) : x.title = y.title := by
  cases x <;> cases y <;> first | rfl | cases h | cases hnone

/-- Looks that find simple values that are alike, or fail for the same reason. -/
inductive World.Found.Agree : Except Fault Found → Except Fault Found → Prop
  | held {x y : Value} (agree : x.Agree y) : Agree (.ok (.held x)) (.ok (.held y))
  | fault (fault : Fault) : Agree (.error fault) (.error fault)

namespace World.Mirrors

variable {w v : World} (h : w.Mirrors v)
include h

theorem overlay_iff (c : Ref .component) :
    (∃ layer, w.row c = .overlay layer) ↔ ∃ layer, v.row c = .overlay layer := by
  have hrow : (w.row c : Component).guise = (v.row c : Component).guise := h.row c
  constructor
  · rintro ⟨layer, hlayer⟩
    rw [hlayer] at hrow
    cases hv : (v.row c : Component) with
    | overlay layer => exact ⟨layer, rfl⟩
    | _ =>
      rw [hv] at hrow
      cases hrow
  · rintro ⟨layer, hlayer⟩
    rw [hlayer] at hrow
    cases hw : (w.row c : Component) with
    | overlay layer => exact ⟨layer, rfl⟩
    | _ =>
      rw [hw] at hrow
      cases hrow

/-- At the bottom, a field has the same answer in both. -/
theorem look_field_bottom {c : Ref .component} (hc : ∀ layer, w.row c ≠ .overlay layer)
    (f : Field) : Found.Agree (w.look (.ofRef c) f.word) (v.look (.ofRef c) f.word) := by
  have hrow : (w.row c : Component).guise = (v.row c : Component).guise := h.row c
  have hc' : ∀ layer, v.row c ≠ .overlay layer := fun layer hlayer => by
    obtain ⟨layer, hlayer⟩ := (h.overlay_iff c).2 ⟨layer, hlayer⟩
    exact hc layer hlayer
  have hfact : ((w.row c : Component).fact? f).map Value.unstamped =
      ((v.row c : Component).fact? f).map Value.unstamped := by
    rw [← Component.fact?_guise, hrow, Component.fact?_guise]
  rw [World.look_field_bottom hc, World.look_field_bottom hc', h.assigned?]
  cases hassigned : v.assigned? c.object f.word with
  | some x => exact .held ⟨h.right.answer _ f x hassigned, .refl x⟩
  | none =>
    rcases found_cases hfact with ⟨hnone, hnone'⟩ | ⟨x, y, hx, hy, hsame⟩
    · rw [hnone, hnone', Component.title_eq_of_fact? hrow hnone]
      exact .fault _
    · rw [hx, hy]
      exact .held ⟨(h.left.component c).fact? hx, hsame⟩

/-- A field has the same answer in both, through all layers. -/
theorem look_field (c : Ref .component) (f : Field) :
    Found.Agree (w.look (.ofRef c) f.word) (v.look (.ofRef c) f.word) := by
  -- A layer is younger than what it was put over.
  induction hn : c.index using Nat.strongRecOn generalizing c with
  | _ n ih =>
    cases hw : (w.row c : Component) with
    | overlay layer =>
      obtain ⟨layer', hv⟩ := (h.overlay_iff c).1 ⟨layer, hw⟩
      have hrow : (w.row c : Component).guise = (v.row c : Component).guise := h.row c
      rw [hw, hv] at hrow
      have hlayers : layer.guise = layer'.guise := Component.overlay.inj hrow
      have hoverrides : (layer.overrides.get? f).map Value.unstamped =
          (layer'.overrides.get? f).map Value.unstamped := by
        rw [← Overlay.get?_guise, hlayers, Overlay.get?_guise]
      have hregular : (Component.overlay layer).Regular c := hw ▸ h.left.component c
      obtain ⟨hsimple, under, hunder, hless⟩ := hregular
      have hunder' : layer'.fallback = .ofRef under := by
        have hsame : layer.fallback.Alike layer'.fallback := congrArg Overlay.fallback hlayers
        rw [hsame.eq_of_names (.inr ⟨under, hunder⟩), hunder]
      rcases found_cases hoverrides with ⟨hnone, hnone'⟩ | ⟨x, y, hx, hy, hsame⟩
      · have hearlier (fallback : Value) (hfallback : fallback = .ofRef under) (j : Ref .component)
            (hj : fallback = .ofRef j) : j.index < c.index := by
          obtain rfl := Value.ofRef_injective (hfallback.symm.trans hj)
          exact hless
        rw [World.look_field_under hw (hearlier _ hunder) hnone, hunder,
          World.look_field_under hv (hearlier _ hunder') hnone', hunder']
        exact ih under.index (hn ▸ hless) under rfl
      · rw [World.look_override hw hx, World.look_override hv hy]
        exact .held ⟨hsimple f x hx, hsame⟩
    | _ => exact h.look_field_bottom (fun layer hlayer => nomatch hw.symm.trans hlayer) f

end World.Mirrors

namespace Tally

variable {w v : World} (h : w.Mirrors v) (call : Caller) (c : Ref .component)
include h

/-- Both answer a field alike. -/
theorem answerOf (f : Field) :
    Tally Value.Agree w v (Understudy.answerOf call (.ofRef c) f)
      (Understudy.answerOf call (.ofRef c) f) := by
  have hagree := h.look_field c f
  generalize hx : w.look (.ofRef c) f.word = x at hagree
  generalize hy : v.look (.ofRef c) f.word = y at hagree
  cases hagree with
  | held agree =>
    exact settled (run_readAttribute_held call hx) (run_readAttribute_held call hy)
      (.result agree) h
  | fault fault =>
    exact settled (run_readAttribute_error call hx) (run_readAttribute_error call hy) (.fault fault)
      h

end Tally

/-! ## Caches -/

/-- The state in which the identity of the machine noted that its caches are invalid. -/
def World.invalidated (w : World) (c : Ref .component) : World :=
  match (w.row c : Component) with
  | .host facts _ => w.withRow c (.host facts (.bool true))
  | _ => w

/-- Whether an identity notes it or counts it, what it was told is seen in its guise. -/
theorem World.Regular.run_invalidateCaches {w : World} (h : w.Regular) (c : Ref .component) :
    ∃ w', w.run (invalidateCaches c) = (.ok (), w') ∧ w'.Regular ∧
      w'.guise = w.guise.invalidated c ∧ w.Retains w' := by
  have hr : (w.row c : Component).Regular c := h.component c
  have hguise : (w.guise.row c : Component) = (w.row c : Component).guise := w.guise_row c
  rw [invalidateCaches, run_bind_of_run (run_fetch w c), World.invalidated, hguise]
  cases hc : (w.row c : Component) with
  | host facts invalidated =>
    rw [hc] at hr
    refine ⟨_, rfl, h.withRow_component c ⟨hr.1, true, rfl⟩, ?_,
      .withRow_component (lt_size_of_row (by rw [hc]; simp)) (by rw [hc]; rfl)⟩
    exact w.guise_withRow c (Component.host facts (.bool true))
  | sample facts invalidations =>
    rw [hc] at hr
    obtain ⟨hfacts, serial, n, hn, rfl⟩ := hr
    obtain ⟨other, hcounted⟩ := w.run_incremented_whole serial n 1
    have hregular : (w.retold w.log (w.nextSerial + 1)).Regular := h.alike ⟨_, _, rfl⟩
    have hthere : c.index < w.components.size := lt_size_of_row (by rw [hc]; simp)
    have hbare (calls : Value) :
        (Component.sample facts calls).bare = (w.row c : Component).bare := by
      rw [hc]
      rfl
    have hpositive : (Value.int other (n + 1)).positive = true := decide_eq_true (by omega)
    refine ⟨_, run_bind_of_run hcounted,
      hregular.withRow_component c ⟨hfacts, other, n + 1, by omega, rfl⟩, ?_,
      (World.Retains.of_alike ⟨_, _, rfl⟩).trans
        (.withRow_component hthere (hbare _))⟩
    show _ = w.guise.withRow c (.host facts.guise (.bool true))
    rw [guise_withRow]
    show w.guise.withRow c (Component.guise (.sample facts (.int other (n + 1)))) = _
    rw [Component.guise, hpositive]
  | _ => exact ⟨w, rfl, h, rfl, .refl w⟩

theorem Tally.invalidateCaches {w v : World} (h : w.Mirrors v) (c : Ref .component) :
    Tally (fun _ _ => True) w v (Understudy.invalidateCaches c)
      (Understudy.invalidateCaches c) := by
  obtain ⟨w', hw, hleft, hguise, hretains⟩ := h.left.run_invalidateCaches c
  obtain ⟨v', hv, hright, hguise', hretains'⟩ := h.right.run_invalidateCaches c
  exact of_run hw hv (.result trivial) ⟨hleft, hright, by rw [hguise, h.same, hguise']⟩ hretains
    hretains'

/-! ## Annotations -/

namespace World

variable {w : World} (call : Caller) {c : Ref .component} {key : Value} {s : String}

/-- A reporter takes any annotation under a text, unless it was told to fail. -/
theorem Intact.run_annotate_reporter (hw : w.Intact) {serial : Nat} {declared : List Value}
    {notes : Dict} {b : Bool} (hc : w.row c = Component.reporter serial declared notes (.bool b))
    (hs : key.text? = some s) (data : Value) :
    w.run (annotate call c key data) =
      if b then (.error .reporterDown, w)
      else (.ok (), w.withRow c (.reporter serial declared (notes.put key data) (.bool b))) := by
  have hpairs : w.pairs (.notes c) = notes := by simp only [pairs, hc]
  have hwritten : w.withPairs (.notes c) (notes.put key data) =
      w.withRow c (.reporter serial declared (notes.put key data) (.bool b)) := by
    simp only [withPairs, hc]
  rw [annotate, run_bind_of_run (run_fetch w c), hc]
  cases b with
  | true => rfl
  | false =>
    refine (run_bind_of_run (run_get w)).trans ?_
    refine (run_bind_of_run (hw.run_readAttribute_notes call hc)).trans ?_
    rw [run_setItem_dict w _ _ (Value.unhashable?_of_text? hs), hpairs, hwritten]
    rfl

end World

theorem Component.takesNotes_guise (x : Component) : x.guise.takesNotes = x.takesNotes := by
  cases x <;> rfl

/-- An annotation is taken in both, or refused for the same reason. -/
theorem Tally.annotate {w v : World} (h : w.Mirrors v) (call : Caller) {c : Ref .component}
    (htakes : (w.row c : Component).takesNotes = true) {key data data' : Value} {s : String}
    (hs : key.text? = some s) (hdata : data.Alike data') :
    Tally (fun _ _ => True) w v (Understudy.annotate call c key data)
      (Understudy.annotate call c key data') := by
  have hrow : (w.row c : Component).guise = (v.row c : Component).guise := h.row c
  have hr : (w.row c : Component).Regular c := h.left.component c
  have hr' : (v.row c : Component).Regular c := h.right.component c
  have hk : key.unhashable? = none := Value.unhashable?_of_text? hs
  have htakes' : (v.row c : Component).takesNotes = true := by
    rw [← Component.takesNotes_guise, ← hrow, Component.takesNotes_guise, htakes]
  have hretains := World.Retains.annotate h.left.intact call htakes key data hk
  have hretains' := World.Retains.annotate h.right.intact call htakes' key data' hk
  have hput {notes notes' : Dict} (hnotes : notes.unstamped = notes'.unstamped) :
      (notes.put key data).unstamped = (notes'.put key data').unstamped := by
    rw [OrderedMap.unstamped_put _ hs, OrderedMap.unstamped_put _ hs, hnotes, hdata]
  cases hw : (w.row c : Component) with
  | overlay layer =>
    obtain ⟨layer', hv⟩ := (h.overlay_iff c).1 ⟨layer, hw⟩
    rw [hw] at hr hrow
    rw [hv] at hr' hrow
    have hlayers : layer.guise = layer'.guise := Component.overlay.inj hrow
    have hrun := World.run_annotate_overlay call hw hs data
    have hrun' := World.run_annotate_overlay call hv hs data'
    refine of_run hrun hrun' (.result trivial)
      (h.withRow c (h.left.withRow_component c hr) (h.right.withRow_component c hr') ?_)
      (World.after_of_run hrun ▸ hretains) (World.after_of_run hrun' ▸ hretains')
    show Component.overlay { layer.guise with annotations := _ } =
      Component.overlay { layer'.guise with annotations := _ }
    rw [hlayers, hput (congrArg Overlay.annotations hlayers)]
  | reporter serial declared notes fails =>
    rw [hw] at hr hrow
    obtain ⟨hdeclared, b, rfl⟩ := hr
    cases hv : (v.row c : Component) with
    | reporter serial' declared' notes' fails' =>
      rw [hv] at hr' hrow
      obtain ⟨hdeclared', b', rfl⟩ := hr'
      obtain ⟨_, hcapabilities, hnotes, hfails⟩ := Component.reporter.inj hrow
      obtain rfl : b = b' := Value.bool.inj hfails
      have hrun := h.left.intact.run_annotate_reporter call hw hs data
      have hrun' := h.right.intact.run_annotate_reporter call hv hs data'
      cases b with
      | true => exact settled hrun hrun' (.fault _) h
      | false =>
        refine of_run hrun hrun' (.result trivial)
          (h.withRow c (h.left.withRow_component c ⟨hdeclared, false, rfl⟩)
            (h.right.withRow_component c ⟨hdeclared', false, rfl⟩) ?_)
          (World.after_of_run hrun ▸ hretains) (World.after_of_run hrun' ▸ hretains')
        show Component.reporter 0 _ _ _ = Component.reporter 0 _ _ _
        rw [hcapabilities, hput hnotes]
    | _ =>
      rw [hv] at hrow
      cases hrow
  | _ =>
    rw [hw] at htakes
    cases htakes

end Understudy

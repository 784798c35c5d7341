import Understudy.Creation
import Understudy.Proofs.Annotating
import Understudy.Proofs.CaptureOnce
import Understudy.Proofs.OneTimer

/-!
# The annotations of an overlay

An overlay comes to be without annotations, whether it is made directly or installed. From then on
its annotations are what the remarks made about it have left, one after the other: a remark under a
key that is there takes the place of the one before, and a remark under a new one comes last. What
it overrides and what it was put over stay as they are.

There are three ways to remark something about an overlay: to its face, through a registry that
serves it, and by setting up a session whose registry serves it. A remark counts where the request
succeeds, and it is about the overlay that is served at that moment. No other overlay is changed by
it; and no overlay is changed by anything else that is asked of registries, installers or overlays.

## Main definitions

* `Remark`, `notesAfter`: an annotation that was meant for a component, and what remarks leave.
* `OverlayRequest`: a request by which overlays are made, remarked on, installed or assigned to.
* `OverlayRequest.remark?`: what a request has remarked.
* `OverlayHistory`: requests one after the other, with anything else going on in between.
* `RemarksApart`: what holds of every history.

## Main statements

* `get?_notesAfter`, `keys_notesAfter`: the last remark under a key counts, and keys stay in order.
* `OverlayRequest.does`: a request changes the overlay that it remarks on, and no other.
* `OverlayHistory.remarksApart`: the annotations of every overlay are what the remarks about it
  left.
-/

namespace Understudy

/-! ## Remarks -/

/-- An annotation that was meant for a component. -/
structure Remark where
  target : Ref .component
  key : Value
  data : Value

/-- The annotations of a component after a remark, which may be about another one. -/
def Remark.onto (c : Ref .component) (notes : Dict) (remark : Remark) : Dict :=
  if remark.target = c then notes.put remark.key remark.data else notes

/-- The annotations of a component after remarks, of which some are about other ones. -/
def notesAfter (c : Ref .component) (notes : Dict) (remarks : List Remark) : Dict :=
  remarks.foldl (Remark.onto c) notes

section

variable (c : Ref .component) (notes : Dict) (remarks : List Remark)

theorem notesAfter_append (others : List Remark) :
    notesAfter c notes (remarks ++ others) = notesAfter c (notesAfter c notes remarks) others :=
  List.foldl_append

/-- Remarks about other components leave nothing. -/
theorem notesAfter_of_ne {remarks : List Remark} (h : ∀ remark ∈ remarks, remark.target ≠ c) :
    notesAfter c notes remarks = notes := by
  induction remarks generalizing notes with
  | nil => rfl
  | cons remark rest ih =>
    rw [notesAfter, List.foldl_cons, Remark.onto, if_neg (h _ List.mem_cons_self)]
    exact ih notes fun other hother => h other (List.mem_cons_of_mem _ hother)

/-- Whether a remark is about a component and under a key. -/
def Remark.concerns (key : Value) (remark : Remark) : Bool :=
  decide (remark.target = c) && remark.key == key

/-- What is found under a key is what the last remark under it says, or else what was there. -/
theorem get?_notesAfter (key : Value) :
    (notesAfter c notes remarks).get? key =
      ((remarks.reverse.find? (Remark.concerns c key)).map Remark.data).or (notes.get? key) := by
  induction remarks generalizing notes with
  | nil => rfl
  | cons remark rest ih =>
    have hnext : notesAfter c notes (remark :: rest) =
        notesAfter c (remark.onto c notes) rest := rfl
    rw [hnext, ih, List.reverse_cons, List.find?_append, Option.map_or, Option.or_assoc]
    congr 1
    rw [Remark.onto, List.find?_singleton, Remark.concerns]
    by_cases htarget : remark.target = c
    · rw [if_pos htarget, OrderedMap.get?_put]
      by_cases hkey : (remark.key == key) = true <;> simp [htarget, hkey]
    · simp [htarget]

/-- Keys stay where they are, and new ones come last. -/
theorem keys_notesAfter : notes.keys <+: (notesAfter c notes remarks).keys := by
  induction remarks generalizing notes with
  | nil => exact List.prefix_rfl
  | cons remark rest ih =>
    refine List.IsPrefix.trans ?_ (ih (remark.onto c notes))
    rw [Remark.onto]
    split
    · rw [OrderedMap.keys_put]
      split
      · exact List.prefix_rfl
      · exact List.prefix_append _ _
    · exact List.prefix_rfl

end

/-! ## What becomes of overlays -/

/-- Between two states every overlay has taken the remarks about it, and is the same otherwise. New
overlays have started without annotations. -/
structure World.Touched (remarks : List Remark) (w w' : World) : Prop where
  more : w.components.size ≤ w'.components.size
  /-- Remarks are about what is there. -/
  targets (remark : Remark) (h : remark ∈ remarks) : remark.target.index < w'.components.size
  kept (c : Ref .component) (layer : Overlay) (h : w.row c = Component.overlay layer) :
    w'.row c =
      Component.overlay { layer with annotations := notesAfter c layer.annotations remarks }
  made (c : Ref .component) (layer : Overlay) (h : w'.row c = Component.overlay layer) :
    (∃ before, w.row c = Component.overlay before) ∨
      w.components.size ≤ c.index ∧ layer.annotations = notesAfter c .empty remarks

namespace World.Touched

variable {w w' w'' : World} {remarks others : List Remark}

theorem of_components (h : w'.components = w.components) : w.Touched [] w' := by
  have hrow (c : Ref .component) : (w'.row c : Component) = w.row c :=
    congrArg (Table.get · c.index) h
  exact
    { more := Nat.le_of_eq (congrArg Table.size h.symm)
      targets := fun _ hno => nomatch hno
      kept := fun c layer hc => (hrow c).trans hc
      made := fun c layer hc => .inl ⟨layer, (hrow c).symm.trans hc⟩ }

theorem refl (w : World) : w.Touched [] w := of_components rfl

theorem of_alike (h : w.Alike w') : w.Touched [] w' := of_components (Served.of_alike h).components

theorem trans (h : w.Touched remarks w') (h' : w'.Touched others w'') :
    w.Touched (remarks ++ others) w'' where
  more := Nat.le_trans h.more h'.more
  targets remark hremark := by
    rcases List.mem_append.1 hremark with hremark | hremark
    · exact Nat.lt_of_lt_of_le (h.targets remark hremark) h'.more
    · exact h'.targets remark hremark
  kept c layer hc := by
    rw [notesAfter_append]
    exact h'.kept c _ (h.kept c layer hc)
  made c layer hc := by
    rw [notesAfter_append]
    rcases h'.made c layer hc with ⟨between, hbetween⟩ | ⟨hnew, hlayer⟩
    · obtain rfl := Component.overlay.inj ((h'.kept c between hbetween).symm.trans hc)
      refine (h.made c between hbetween).imp id fun ⟨hnew, hnotes⟩ => ⟨hnew, ?_⟩
      exact congrArg (notesAfter c · others) hnotes
    · -- What was remarked before was about what was there before.
      have hother (remark : Remark) (hremark : remark ∈ remarks) : remark.target ≠ c := by
        rintro rfl
        exact absurd (h.targets remark hremark) (Nat.not_lt_of_le hnew)
      exact .inr ⟨Nat.le_trans h.more hnew, by rw [hlayer, notesAfter_of_ne c .empty hother]⟩

/-- There may be one more overlay, which has no annotations. -/
theorem pushed {layer : Overlay} (hempty : layer.annotations = .empty)
    (h : w'.components = w.components.push (.overlay layer)) : w.Touched [] w' := by
  have hrow (c : Ref .component) : (w'.row c : Component) =
      (w.components.push (.overlay layer)).get c.index := congrArg (Table.get · c.index) h
  refine
    { more := ?_
      targets := fun _ hno => nomatch hno
      kept := fun c before hc => ?_
      made := fun c after hc => ?_ }
  · rw [h, Table.size_push]
    exact Nat.le_succ _
  · have hthere : c.index < w.components.size := lt_size_of_row (by rw [hc]; simp)
    rw [hrow, Table.get_push_of_lt _ hthere]
    exact hc
  · rw [hrow] at hc
    rcases Nat.lt_or_ge c.index w.components.size with hlt | hge
    · rw [Table.get_push_of_lt _ hlt] at hc
      exact .inl ⟨after, hc⟩
    · refine .inr ⟨hge, ?_⟩
      by_cases hnext : c.index = w.components.size
      · rw [hnext, Table.get_push, if_pos rfl] at hc
        obtain rfl := Component.overlay.inj hc
        exact hempty
      · rw [Table.get_push, if_neg hnext, Table.get_of_size_le _ hge] at hc
        cases hc

/-- What takes annotations has taken one. -/
theorem noted {c : Ref .component} {key data : Value}
    (htakes : (w.row c : Component).takesNotes = true)
    (h : w'.components = (w.noted c key data).components) : w.Touched [⟨c, key, data⟩] w' := by
  have hthere := Component.lt_size_of_takesNotes htakes
  have hrow (other : Ref .component) : (w'.row other : Component) =
      if other = c then (w.row c : Component).noting key data else w.row other :=
    (congrArg (Table.get · other.index) h).trans (World.row_withRow w c other _)
  have hsize : w'.components.size = w.components.size :=
    (congrArg Table.size h).trans (Table.size_set _ hthere _)
  refine
    { more := Nat.le_of_eq hsize.symm
      targets := fun remark hremark => ?_
      kept := fun other layer hother => ?_
      made := fun other layer hother => .inl ?_ }
  · obtain rfl := List.mem_singleton.1 hremark
    exact hsize ▸ hthere
  · rw [hrow, notesAfter, List.foldl_cons, List.foldl_nil, Remark.onto]
    by_cases hsame : other = c
    · subst hsame
      rw [if_pos rfl, if_pos rfl, hother]
      rfl
    · rw [if_neg hsame, if_neg (Ne.symm hsame)]
      exact hother
  · rw [hrow] at hother
    by_cases hsame : other = c
    · subst hsame
      rw [if_pos rfl] at hother
      cases hc : (w.row other : Component) with
      | overlay before => exact ⟨before, rfl⟩
      | _ =>
        rw [hc] at hother
        cases hother
    · rw [if_neg hsame] at hother
      exact ⟨layer, hother⟩

end World.Touched

/-! ## Requests -/

/-- No request was replaced, and every registry is sound. -/
structure World.Decent (w : World) : Prop where
  intact : w.Intact
  sound (r : Ref .registry) : (w.row r : Registry).Sound

namespace World.Decent

variable {w w' : World} (h : w.Decent)
include h

theorem sane (r : Ref .registry) : Sane r w := ⟨h.intact, h.sound r⟩

theorem congr (hassigned : w'.assigned = w.assigned) (hregistries : w'.registries = w.registries) :
    w'.Decent where
  intact := h.intact.congr hassigned
  sound r := by
    have hrow : w'.row r = w.row r := congrArg (Table.get · r.index) hregistries
    exact hrow ▸ h.sound r

theorem of_served (hserved : w.Served w') : w'.Decent :=
  h.congr (by rw [hserved.frame]) (by rw [hserved.frame])

theorem of_alike (hlike : w.Alike w') : w'.Decent := h.of_served (.of_alike hlike)

end World.Decent

/-- A request by which overlays are made, remarked on, installed or assigned to. -/
inductive OverlayRequest where
  | create (overrides fallback : Value)
  | standIn (id name version platformVersion fallback : Value)
  | annotate (c : Ref .component) (key data : Value)
  | annotateService (r : Ref .registry) (contract key data : Value)
  | setUp (s : Ref .session)
  | deal (r : Ref .registry) (d : Dealing)
  | assign (c : Ref .component) (name : String) (v : Value)

namespace OverlayRequest

/-- What is done on a request. -/
def perform (call : Caller) : OverlayRequest → Action Value
  | .create overrides fallback => make call .overlay [overrides, fallback]
  | .standIn id name version platformVersion fallback =>
    made (buildStandIn id name version platformVersion fallback)
  | .annotate c key data => nothing (Understudy.annotate call c key data)
  | .annotateService r contract key data => Understudy.annotateService call r contract key data
  | .setUp s => Understudy.setUp call s
  | .deal r d => d.perform call r
  | .assign c name v => nothing (Understudy.assign (.ofRef c) name v)

/-- The requests of those who keep to their types: overrides are a dictionary, a session has a
registry, and whatever is assigned to is an overlay. -/
def Fits (w : World) : OverlayRequest → Prop
  | .create overrides _ => ∃ pairs, w.pairsOf? overrides = some pairs
  | .setUp s => ∃ r : Ref .registry, (w.row s : Session).registry = .ofRef r
  | .deal r d => d.Fits r w
  | .assign c _ _ => ∃ layer, w.row c = Component.overlay layer
  | _ => True

/-- What a request remarks if it succeeds. A session tells its id where it has no policy yet, and
where its registry serves something that takes annotations. -/
def means? (w w' : World) : OverlayRequest → Option Remark
  | .annotate c key data => some ⟨c, key, data⟩
  | .annotateService r contract key data =>
    (w.reporter? r contract).map fun c => ⟨c, key, data⟩
  | .setUp s =>
    if (w.row s : Session).policy.isNone then
      ((w.row s : Session).registry.ref? .registry).bind fun r =>
        (w.reporter? r (.ofText appInfoContract)).map fun c =>
          ⟨c, .ofText sessionIdKey, (w'.row s : Session).sessionId⟩
    else none
  | _ => none

/-- What a request has remarked, if it has succeeded. -/
def remark? (call : Caller) (w : World) (d : OverlayRequest) : Option Remark :=
  match w.outcome (d.perform call) with
  | .ok _ => d.means? w (w.after (d.perform call))
  | .error _ => none

end OverlayRequest

/-! ## What requests do -/

/-- Reading overrides changes nothing. -/
theorem quiet_readOverrides (start : OrderedMap Field Value) (pairs : List (Value × Value)) :
    Quiet (readOverrides start pairs) := by
  induction pairs generalizing start with
  | nil => exact Quiet.pure start
  | cons pair rest ih =>
    obtain ⟨key, v⟩ := pair
    have hmember : Quiet (member "IdentityField" key.field? key) := by
      unfold member
      cases key.field? with
      | some field => exact Quiet.pure field
      | none => exact (Quiet.quotedText key).bind fun _ => Quiet.throw _
    exact hmember.bind fun field => ih (start.put field v)

/-- What a request can do: it leaves everything decent, and of the overlays it changes the one that
it remarks on, which was there before. -/
structure OverlayRequest.Does (call : Caller) (w : World) (d : OverlayRequest) : Prop where
  decent : (w.after (d.perform call)).Decent
  touched : w.Touched (d.remark? call w).toList (w.after (d.perform call))
  aimed (remark : Remark) (h : d.remark? call w = some remark) :
    remark.target.index < w.components.size

namespace OverlayRequest

variable {call : Caller} {w w' : World} {d : OverlayRequest}

theorem remark?_of_run {v : Value} (hrun : w.run (d.perform call) = (.ok v, w')) :
    d.remark? call w = d.means? w w' := by
  rw [remark?, World.outcome_of_run hrun, World.after_of_run hrun]

theorem remark?_of_error {fault : Fault}
    (hfault : w.outcome (d.perform call) = .error fault) : d.remark? call w = none := by
  rw [remark?, hfault]

/-- What means nothing has remarked nothing. -/
theorem remark?_of_means? (h : ∀ w', d.means? w w' = none) : d.remark? call w = none := by
  rw [remark?]
  split
  · exact h _
  · rfl

namespace Does

/-- A request that remarks nothing may make an overlay. -/
theorem of_none (hnone : d.remark? call w = none) (decent : (w.after (d.perform call)).Decent)
    (touched : w.Touched [] (w.after (d.perform call))) : d.Does call w where
  decent := decent
  touched := by
    rw [hnone]
    exact touched
  aimed remark h := by
    rw [hnone] at h
    cases h

theorem of_run {outcome : Except Fault Value} (hrun : w.run (d.perform call) = (outcome, w'))
    (hnone : d.remark? call w = none) (decent : w'.Decent) (touched : w.Touched [] w') :
    d.Does call w := by
  obtain rfl := World.after_of_run hrun
  exact of_none hnone decent touched

/-- A request that fails, and has done no more than ask for a service, touches nothing. -/
theorem of_error (hw : w.Decent) {fault : Fault}
    (hfault : w.outcome (d.perform call) = .error fault)
    (hserved : w.Served (w.after (d.perform call))) : d.Does call w :=
  of_none (remark?_of_error hfault) (hw.of_served hserved) (.of_components hserved.components)

theorem of_run_error (hw : w.Decent) {fault : Fault}
    (hrun : w.run (d.perform call) = (.error fault, w)) : d.Does call w :=
  of_error hw (World.outcome_of_run hrun) (by rw [World.after_of_run hrun]; exact .refl w)

/-- A request that remarks something leaves an annotation of what takes any. -/
theorem of_remark {v : Value} {c : Ref .component} {key data : Value}
    (hrun : w.run (d.perform call) = (.ok v, w')) (hmeans : d.means? w w' = some ⟨c, key, data⟩)
    (decent : w'.Decent) (htakes : (w.row c : Component).takesNotes = true)
    (hcomponents : w'.components = (w.noted c key data).components) : d.Does call w where
  decent := by
    rw [World.after_of_run hrun]
    exact decent
  touched := by
    rw [World.after_of_run hrun, remark?_of_run hrun, hmeans]
    exact .noted htakes hcomponents
  aimed remark h := by
    obtain rfl := Option.some.inj (hmeans.symm.trans ((remark?_of_run hrun).symm.trans h))
    exact Component.lt_size_of_takesNotes htakes

end Does

section

variable (hw : w.Decent)
include hw

/-- Making an overlay touches no other one. -/
theorem does_create {overrides : Value} {pairs : Dict}
    (hpairs : w.pairsOf? overrides = some pairs) (fallback : Value) :
    (create overrides fallback).Does call w := by
  have hitems : w.run (readItems call overrides) = (.ok pairs.toList, w) := by
    rw [readItems, World.run_bind_of_run (World.run_get w), hpairs]
    rfl
  have hrun : w.run ((create overrides fallback).perform call) =
      w.run (readOverrides .empty pairs.toList >>= fun read =>
        made (store .component (.overlay { overrides := read, fallback := fallback }))) :=
    World.run_bind_of_run hitems
  have hlike := quiet_readOverrides .empty pairs.toList w
  cases hread : w.outcome (readOverrides .empty pairs.toList) with
  | error fault =>
    have hrun := hrun.trans (World.run_bind_of_error hread)
    refine .of_error hw (World.outcome_of_run hrun) ?_
    rw [World.after_of_run hrun]
    exact .of_alike hlike
  | ok read =>
    have hafter : w.after ((create overrides fallback).perform call) = _ :=
      (congrArg Prod.snd hrun).trans (World.after_bind_of_ok hread)
    refine .of_none (remark?_of_means? fun _ => rfl) ?_ ?_
    · rw [hafter]
      exact (hw.of_alike hlike).congr rfl rfl
    · rw [hafter]
      exact (World.Touched.of_alike hlike).trans (.pushed rfl rfl)

theorem does_standIn (id name version platformVersion fallback : Value) :
    (standIn id name version platformVersion fallback).Does call w :=
  .of_none (remark?_of_means? fun _ => rfl) (hw.congr rfl rfl) (.pushed rfl rfl)

omit hw in
/-- An overlay refuses whatever is assigned to it. -/
theorem run_assign {c : Ref .component} {layer : Overlay} (hc : w.row c = Component.overlay layer)
    (name : String) (v : Value) :
    w.run ((assign c name v).perform call) =
      (.error (.immutable (Component.overlay layer).title name), w) := by
  have hrefusal : w.refusal? c.object name =
      some (.immutable (Component.overlay layer).title name) := by
    show (w.components.get c.index).refusal? name = _
    rw [show w.components.get c.index = .overlay layer from hc]
    rfl
  have hassign : w.run (Understudy.assign (.ofRef c) name v) =
      (.error (.immutable (Component.overlay layer).title name), w) := by
    rw [Understudy.assign, World.run_bind_of_run (World.run_get w)]
    simp only [Value.ofRef, hrefusal]
    rfl
  rw [perform, run_nothing, World.outcome_of_run hassign, World.after_of_run hassign]
  rfl

/-- An annotation touches the component that takes it. -/
theorem does_annotate (c : Ref .component) (key data : Value) :
    (annotate c key data).Does call w := by
  have hrun : w.run ((annotate c key data).perform call) = _ := run_nothing w _
  rcases hw.intact.annotate_cases call c key data with ⟨htakes, hannotate⟩ | ⟨fault, hannotate⟩
  · rw [World.outcome_of_run hannotate, World.after_of_run hannotate] at hrun
    exact .of_remark hrun rfl (hw.congr rfl rfl) htakes rfl
  · rw [World.outcome_of_run hannotate, World.after_of_run hannotate] at hrun
    exact .of_run_error hw hrun

/-- An annotation through a registry touches the component that is served, if it takes it. -/
theorem does_annotateService (r : Ref .registry) (contract key data : Value) :
    (annotateService r contract key data).Does call w := by
  rcases (hw.sane r).annotateService_cases call contract key data with
    ⟨asked, c, hserved, hreporter, hrun⟩ | ⟨⟨fault, hfault⟩, hserved⟩
  · have hmeans : (annotateService r contract key data).means? w (asked.noted c key data) =
        some ⟨c, key, data⟩ := by
      rw [means?, hreporter]
      rfl
    exact .of_remark hrun hmeans ((hw.of_served hserved).congr rfl rfl)
      (World.reporter?_eq_some.1 hreporter).2.2
      (World.components_noted hserved.components c key data)
  · exact .of_error hw hfault hserved

omit hw in
/-- A session that is given a policy means its id for what its registry serves. -/
theorem means?_setUp {s : Ref .session} {r : Ref .registry}
    (hr : (w.row s : Session).registry = .ofRef r) (hnone : (w.row s : Session).policy = .none)
    (w' : World) :
    (setUp s).means? w w' = (w.reporter? r (.ofText appInfoContract)).map fun c =>
      ⟨c, .ofText sessionIdKey, (w'.row s : Session).sessionId⟩ := by
  simp only [means?, hnone, hr, Value.ref?_ofRef, Option.bind_some]
  rfl

/-- A session that has told its id has touched the component that it was told to. -/
theorem does_setUp_told {s : Ref .session} {r : Ref .registry}
    (hr : (w.row s : Session).registry = .ofRef r) (hnone : (w.row s : Session).policy = .none)
    {policy : Policy} {k : Nat} {c : Ref .component} {asked w' : World} {v : Value}
    (hrun : w.run ((setUp s).perform call) = (.ok v, w'))
    (hreporter : w.reporter? r (.ofText appInfoContract) = some c)
    (hserved : (w.introduced s policy (.text k (sessionIdText w.issued))).Served asked)
    (hnoted : (asked.noted c (.ofText sessionIdKey) (.text k (sessionIdText w.issued))).Alike w') :
    (setUp s).Does call w := by
  have hid : (w'.row s : Session).sessionId = .text k (sessionIdText w.issued) := by
    rw [(World.Served.of_alike hnoted).row_session s]
    show (asked.row s : Session).sessionId = _
    rw [hserved.row_session, World.row_introduced]
  have hmeans : (setUp s).means? w w' =
      some ⟨c, .ofText sessionIdKey, .text k (sessionIdText w.issued)⟩ := by
    rw [means?_setUp hr hnone, hreporter, hid]
    rfl
  have hintroduced : (w.introduced s policy (.text k (sessionIdText w.issued))).Decent :=
    hw.congr rfl rfl
  have hasked : asked.Decent := hintroduced.of_served hserved
  have hdecent : (asked.noted c (.ofText sessionIdKey)
      (.text k (sessionIdText w.issued))).Decent := hasked.congr rfl rfl
  exact .of_remark hrun hmeans (hdecent.of_alike hnoted)
    (World.reporter?_eq_some.1 hreporter).2.2
    ((World.Served.of_alike hnoted).components.trans
      (World.components_noted hserved.components c _ _))

/-- Setting up touches the component that the id is told to, if there is one. -/
theorem does_setUp {s : Ref .session} {r : Ref .registry}
    (hr : (w.row s : Session).registry = .ofRef r) : (setUp s).Does call w := by
  by_cases hnone : (w.row s : Session).policy = .none
  · have hstep := (hw.sane r).setUpStep hr hnone call
    have hrun : w.run ((setUp s).perform call) = _ := World.run_eq w (Understudy.setUp call s)
    have hintroduced (policy : Policy) (sessionId : Value) :
        (w.introduced s policy sessionId).Decent := hw.congr rfl rfl
    revert hstep hrun
    generalize w.after (Understudy.setUp call s) = w'
    generalize w.outcome (Understudy.setUp call s) = outcome
    intro hstep hrun
    cases hstep with
    | refused quiet =>
      exact .of_run hrun (remark?_of_error (World.outcome_of_run hrun)) (hw.of_alike quiet)
        (.of_alike quiet)
    | faltered offered served =>
      exact .of_run hrun (remark?_of_error (World.outcome_of_run hrun))
        ((hintroduced _ _).of_served served) (.of_components served.components)
    | untold offered nobody served =>
      refine .of_run hrun ?_ ((hintroduced _ _).of_served served) (.of_components served.components)
      rw [remark?_of_run hrun, means?_setUp hr hnone, nobody]
      rfl
    | told offered reporter served noted =>
      exact does_setUp_told hw hr hnone hrun reporter served noted
  · have hkept := Value.isNone_eq_false hnone
    have hrun : w.run ((setUp s).perform call) = _ := w.run_setUp_kept call hkept
    refine .of_run hrun ?_ hw (.refl w)
    rw [remark?_of_run hrun, means?, hkept]
    rfl

/-- Whatever is asked of a registry or of an installer touches no overlay. -/
theorem does_deal {r : Ref .registry} {dealing : Dealing} (fits : dealing.Fits r w) :
    (deal r dealing).Does call w := by
  have hstep : Dealing.Step call r w _ dealing := dealing.step (hw.sane r) fits
  have hsane := hstep.sane (hw.sane r)
  refine .of_none (remark?_of_means? fun _ => rfl) ?_ ?_
  · show (w.after (dealing.perform call r)).Decent
    refine ⟨hsane.intact, fun other => ?_⟩
    by_cases hother : other = r
    · rw [hother]
      exact hsane.sound
    · rw [hstep.row_registry_of_ne hother]
      exact hw.sound other
  · show w.Touched [] (w.after (dealing.perform call r))
    rcases hstep.components with hsame | ⟨layer, hempty, hpushed⟩
    · exact .of_components hsame
    · exact .pushed hempty hpushed

/-- A request does nothing else. -/
theorem does (d : OverlayRequest) (fits : d.Fits w) : d.Does call w := by
  cases d with
  | create overrides fallback =>
    obtain ⟨pairs, hpairs⟩ := fits
    exact does_create hw hpairs fallback
  | standIn id name version platformVersion fallback =>
    exact does_standIn hw id name version platformVersion fallback
  | annotate c key data => exact does_annotate hw c key data
  | annotateService r contract key data => exact does_annotateService hw r contract key data
  | setUp s =>
    obtain ⟨r, hr⟩ := fits
    exact does_setUp hw hr
  | deal r dealing => exact does_deal hw fits
  | assign c name v =>
    obtain ⟨layer, hc⟩ := fits
    exact .of_run_error hw (run_assign hc name v)

end

end OverlayRequest

/-! ## A history of requests -/

/-- A request in the state in which it was made. -/
structure OverlayEvent where
  before : World
  request : OverlayRequest

namespace OverlayEvent

variable (call : Caller) (e : OverlayEvent)

/-- How a request ended. -/
def outcome : Except Fault Value := e.before.outcome (e.request.perform call)

/-- The state that a request left, however it ended. -/
def after : World := e.before.after (e.request.perform call)

/-- What a request has remarked. -/
def remark? : Option Remark := e.request.remark? call e.before

end OverlayEvent

/-- What may go on besides: registries stay sound, and no overlay is touched. There may be new
ones, without annotations. -/
structure World.Beside (w w' : World) : Prop where
  decent : w.Decent → w'.Decent
  touched : w.Touched [] w'

/-- Requests from a state on, one after the other, and whatever goes on besides. -/
inductive OverlayHistory (call : Caller) (w₀ : World) : List OverlayEvent → World → Prop
  | start : OverlayHistory call w₀ [] w₀
  | request {es : List OverlayEvent} {w : World} (before : OverlayHistory call w₀ es w)
      (d : OverlayRequest) (fits : d.Fits w) :
      OverlayHistory call w₀ (es ++ [⟨w, d⟩]) (OverlayEvent.after call ⟨w, d⟩)
  | elsewhere {es : List OverlayEvent} {w w' : World} (before : OverlayHistory call w₀ es w)
      (beside : w.Beside w') : OverlayHistory call w₀ es w'

/-- The remarks of a history, in the order in which they were made. -/
def remarksOf (call : Caller) (es : List OverlayEvent) : List Remark :=
  es.filterMap (OverlayEvent.remark? call)

theorem remarksOf_append (call : Caller) (es : List OverlayEvent) (e : OverlayEvent) :
    remarksOf call (es ++ [e]) = remarksOf call es ++ (e.remark? call).toList := by
  rw [remarksOf, List.filterMap_append, ← remarksOf]
  cases h : e.remark? call <;> simp [h]

namespace OverlayHistory

variable {call : Caller} {w₀ w : World} {es : List OverlayEvent}

/-- Everything stays decent, and of the overlays those are touched that something was remarked
on. -/
theorem touched (h : OverlayHistory call w₀ es w) (h₀ : w₀.Decent) :
    w.Decent ∧ w₀.Touched (remarksOf call es) w := by
  induction h with
  | start => exact ⟨h₀, .refl w₀⟩
  | request _ d fits ih =>
    obtain ⟨hdecent, htouched⟩ := ih
    have hdoes : d.Does call _ := d.does hdecent fits
    rw [remarksOf_append]
    exact ⟨hdoes.decent, htouched.trans hdoes.touched⟩
  | elsewhere _ beside ih =>
    obtain ⟨hdecent, htouched⟩ := ih
    rw [← List.append_nil (remarksOf call _)]
    exact ⟨beside.decent hdecent, htouched.trans beside.touched⟩

/-- Every request was made where everything was decent, and what was touched later was remarked
on. -/
theorem event (h : OverlayHistory call w₀ es w) (h₀ : w₀.Decent) {e : OverlayEvent} (he : e ∈ es) :
    e.before.Decent ∧ e.request.Fits e.before ∧ ∃ later, (e.after call).Touched later w := by
  induction h with
  | start => cases he
  | @request es w before d fits ih =>
    have hdecent := (before.touched h₀).1
    rcases List.mem_append.1 he with he | he
    · obtain ⟨hbefore, hfits, later, htouched⟩ := ih he
      have hdoes : d.Does call w := d.does hdecent fits
      exact ⟨hbefore, hfits, _, htouched.trans hdoes.touched⟩
    · obtain rfl := List.mem_singleton.1 he
      exact ⟨hdecent, fits, [], .refl _⟩
  | elsewhere _ beside ih =>
    obtain ⟨hbefore, hfits, later, htouched⟩ := ih he
    exact ⟨hbefore, hfits, _, htouched.trans beside.touched⟩

end OverlayHistory

/-! ## What holds of every history -/

/-- An annotation under what is no text, of an overlay: to its face, or through a registry that has
handed it out as a crash reporter. -/
def OverlayRequest.Illegible (call : Caller) (w : World) (c : Ref .component) (key : Value) :
    OverlayRequest → Prop
  | .annotate target key' _ => target = c ∧ key' = key ∧ key.text? = none
  | .annotateService r contract key' _ =>
    w.outcome (getService call r contract (.capability .crashReporter)) = .ok (.ofRef c) ∧
      key' = key ∧ key.text? = none
  | _ => False

/-- What holds of the events of a history and the state that they led to. -/
structure RemarksApart (call : Caller) (w₀ : World) (es : List OverlayEvent)
    (w : World) : Prop where
  /-- An overlay that was there has taken the remarks about it, and is the same otherwise. -/
  kept (c : Ref .component) (layer : Overlay) (h : w₀.row c = Component.overlay layer) :
    w.row c = Component.overlay
      { layer with annotations := notesAfter c layer.annotations (remarksOf call es) }
  /-- The annotations of an overlay that was not there are what the remarks about it left. -/
  made (c : Ref .component) (layer : Overlay) (hnew : w₀.components.size ≤ c.index)
    (h : w.row c = Component.overlay layer) :
    layer.annotations = notesAfter c .empty (remarksOf call es)
  /-- Under a key there is what was remarked last. -/
  latest (c : Ref .component) (layer : Overlay) (h : w.row c = Component.overlay layer)
    (key : Value) (remark : Remark)
    (hlast : (remarksOf call es).reverse.find? (Remark.concerns c key) = some remark) :
    layer.annotations.get? key = some remark.data
  /-- An overlay has no annotations when it comes to be. -/
  blank (e : OverlayEvent) (he : e ∈ es) (c : Ref .component) (layer : Overlay)
    (hnew : e.before.components.size ≤ c.index)
    (h : (e.after call).row c = Component.overlay layer) : layer.annotations = .empty
  /-- Whatever comes after a request, an overlay stays what it is and its keys stay in order. -/
  lasting (e : OverlayEvent) (he : e ∈ es) (c : Ref .component) (layer : Overlay)
    (h : (e.after call).row c = Component.overlay layer) :
    ∃ notes : Dict, w.row c = Component.overlay { layer with annotations := notes } ∧
      layer.annotations.keys <+: notes.keys
  /-- A request leaves every overlay as it is that it does not remark on. -/
  apart (e : OverlayEvent) (he : e ∈ es) (c : Ref .component) (layer : Overlay)
    (h : e.before.row c = Component.overlay layer)
    (hother : ∀ remark, e.remark? call = some remark → remark.target ≠ c) :
    (e.after call).row c = Component.overlay layer
  /-- An annotation under what is no text is refused, and no component changes. -/
  illegible (e : OverlayEvent) (he : e ∈ es) (c : Ref .component) (layer : Overlay)
    (h : e.before.row c = Component.overlay layer) (key : Value)
    (hkey : e.request.Illegible call e.before c key) :
    (∃ fault, e.outcome call = .error fault ∧ fault.kind = "TypeError") ∧
      (e.after call).components = e.before.components
  /-- What is assigned to an overlay is refused, and nothing changes. -/
  immutable (e : OverlayEvent) (he : e ∈ es) (c : Ref .component) (name : String) (v : Value)
    (hassign : e.request = .assign c name v) :
    (∃ fault, e.outcome call = .error fault) ∧ e.after call = e.before

/-- An overlay refuses an annotation under what is no text. -/
theorem OverlayRequest.run_illegible {call : Caller} {w : World} {d : OverlayRequest}
    (hw : w.Decent) {c : Ref .component} {layer : Overlay}
    (hc : w.row c = Component.overlay layer) {key : Value} (h : d.Illegible call w c key) :
    (∃ fault, w.outcome (d.perform call) = .error fault ∧ fault.kind = "TypeError") ∧
      (w.after (d.perform call)).components = w.components := by
  cases d with
  | annotate target key' data =>
    obtain ⟨rfl, rfl, hkey⟩ := h
    have hannotate := World.run_annotate_overlay_refused call hc hkey data
    rw [World.outcome, World.after, perform, run_nothing, World.outcome_of_run hannotate,
      World.after_of_run hannotate]
    exact ⟨⟨_, rfl, rfl⟩, rfl⟩
  | annotateService r contract key' data =>
    obtain ⟨hservice, rfl, hkey⟩ := h
    have hserved := hw.intact.served_getService call r (hw.sound r) contract
      (.capability .crashReporter)
    have hrun := World.run_eq w (getService call r contract (.capability .crashReporter))
    rw [hservice] at hrun
    rw [World.outcome, World.after, perform, Understudy.annotateService,
      World.run_bind_of_run hrun]
    revert hserved
    generalize w.after (getService call r contract (.capability .crashReporter)) = asked
    intro hserved
    have hrow : asked.row c = Component.overlay layer := (hserved.row_component c).trans hc
    have hannotate := World.run_annotate_overlay_refused call hrow hkey data
    rw [(hserved.intact hw.intact).run_request_annotate call (by rw [hrow]; rfl), run_nothing,
      World.outcome_of_run hannotate, World.after_of_run hannotate]
    exact ⟨⟨_, rfl, rfl⟩, hserved.components⟩
  | _ => cases h

/-- Over every history the annotations of an overlay are what the remarks about it have left, one
after the other, and nothing else makes a difference to any overlay. -/
theorem OverlayHistory.remarksApart {call : Caller} {w₀ w : World} {es : List OverlayEvent}
    (h₀ : w₀.Decent) (h : OverlayHistory call w₀ es w) : RemarksApart call w₀ es w := by
  obtain ⟨-, htouched⟩ := h.touched h₀
  have hdoes (e : OverlayEvent) (he : e ∈ es) : e.request.Does call e.before := by
    obtain ⟨hbefore, hfits, -⟩ := h.event h₀ he
    exact e.request.does hbefore hfits
  refine
    { kept := htouched.kept
      made := fun c layer hnew hc => ?_
      latest := fun c layer hc key remark hlast => ?_
      blank := fun e he c layer hnew hc => ?_
      lasting := fun e he c layer hc => ?_
      apart := fun e he c layer hc hother => ?_
      illegible := fun e he c layer hc key hkey => ?_
      immutable := fun e he c name v hassign => ?_ }
  · rcases htouched.made c layer hc with ⟨before, hbefore⟩ | ⟨-, hlayer⟩
    · have hthere : c.index < w₀.components.size := World.lt_size_of_row (by rw [hbefore]; simp)
      exact absurd hthere (Nat.not_lt_of_le hnew)
    · exact hlayer
  · rcases htouched.made c layer hc with ⟨before, hbefore⟩ | ⟨-, hlayer⟩
    · obtain rfl := Component.overlay.inj ((htouched.kept c before hbefore).symm.trans hc)
      rw [get?_notesAfter, hlast]
      rfl
    · rw [hlayer, get?_notesAfter, hlast]
      rfl
  · rcases (hdoes e he).touched.made c layer hc with ⟨before, hbefore⟩ | ⟨-, hlayer⟩
    · have hthere : c.index < e.before.components.size :=
        World.lt_size_of_row (by rw [hbefore]; simp)
      exact absurd hthere (Nat.not_lt_of_le hnew)
    · -- A request remarks on what was there before it.
      rw [hlayer, notesAfter_of_ne]
      rintro remark hremark rfl
      have haimed := (hdoes e he).aimed remark (Option.mem_toList.1 hremark)
      exact absurd haimed (Nat.not_lt_of_le hnew)
  · obtain ⟨-, -, later, hlater⟩ := h.event h₀ he
    exact ⟨_, hlater.kept c layer hc, keys_notesAfter c layer.annotations later⟩
  · have hkept := (hdoes e he).touched.kept c layer hc
    rwa [notesAfter_of_ne] at hkept
    intro remark hremark
    exact hother remark (Option.mem_toList.1 hremark)
  · obtain ⟨hbefore, -, -⟩ := h.event h₀ he
    exact OverlayRequest.run_illegible hbefore hc hkey
  · obtain ⟨before, request⟩ := e
    obtain rfl : request = _ := hassign
    obtain ⟨-, ⟨layer, hc⟩, -⟩ := h.event h₀ he
    exact ⟨⟨_, World.outcome_of_run (OverlayRequest.run_assign hc name v)⟩,
      World.after_of_run (OverlayRequest.run_assign hc name v)⟩

/-! ### Two remarks about a stand-in -/

/-- The sample identity is registered where there is a session. -/
def remarkRegister : OverlayEvent := ⟨sessionBench, .deal ⟨0⟩ benchRegister.dealing⟩

/-- Then a stand-in is installed. -/
def remarkInstall : OverlayEvent := ⟨remarkRegister.after invoke, .deal ⟨0⟩ benchInstall.dealing⟩

/-- The session tells its id, -/
def remarkTold : OverlayEvent := ⟨remarkInstall.after invoke, .setUp ⟨0⟩⟩

/-- and somebody puts something else in its place. -/
def remarkPut : OverlayEvent :=
  ⟨remarkTold.after invoke, .annotateService ⟨0⟩ (.ofText appInfoContract) (.ofText sessionIdKey)
    (.ofText "none")⟩

theorem sessionBench_decent : sessionBench.Decent := by
  refine ⟨fun _ _ _ => rfl, fun r => ?_⟩
  have hrow : sessionBench.row r = ({} : Registry) := by
    obtain ⟨_ | _⟩ := r <;> rfl
  exact hrow ▸ .empty

theorem remarkPut_history :
    OverlayHistory invoke sessionBench [remarkRegister, remarkInstall, remarkTold, remarkPut]
      (remarkPut.after invoke) := by
  have hregister : OverlayHistory invoke sessionBench [remarkRegister] _ :=
    .request .start remarkRegister.request ⟨⟨_, rfl⟩, ⟨_, rfl⟩, ⟨_, rfl⟩⟩
  have hinstall : OverlayHistory invoke sessionBench [remarkRegister, remarkInstall] _ :=
    .request hregister remarkInstall.request ⟨rfl, ⟨_, rfl⟩, ⟨_, rfl⟩⟩
  have htold : OverlayHistory invoke sessionBench [remarkRegister, remarkInstall, remarkTold] _ :=
    .request hinstall remarkTold.request ⟨⟨0⟩, rfl⟩
  exact .request htold remarkPut.request trivial

theorem remarkPut_apart :
    RemarksApart invoke sessionBench [remarkRegister, remarkInstall, remarkTold, remarkPut]
        (remarkPut.after invoke) ∧
      ((remarksOf invoke [remarkRegister, remarkInstall, remarkTold, remarkPut]).map fun remark =>
        (remark.target.index, remark.data.text?)) =
          [(1, some (sessionIdText 0)), (1, some "none")] :=
  ⟨OverlayHistory.remarksApart sessionBench_decent remarkPut_history, by decide +kernel⟩

end Understudy

import Understudy.Proofs.MirroredAppeals
import Understudy.Proofs.SessionReports

/-!
# Sample identities as doubles

Where the identity of the machine is asked for, a sample identity that was told the same answers
does as well. Whatever is asked of registries, installers and sessions comes to the same, step by
step, whichever of the two was made; and afterwards there is no more difference than in the serial
numbers, and in that the one notes what the other counts.

## Main definitions

* `World.told?`: what a report tells.
* `World.Doubles`: two states that differ in how an identity keeps track of its caches.

## Main statements

* `World.Mirrors.doubles`: states that mirror each other are doubles of each other.
* `World.Regular.interchangeable`: whatever is asked, either identity will do.
-/

namespace Understudy

/-! ## What states hold -/

namespace World

/-- The dictionaries of a guise are those of the state. -/
theorem guise_pairs (w : World) (d : DictRef) : w.guise.pairs d = (w.pairs d).unstamped := by
  have hcomponent (c : Ref .component) :
      (w.guise.row c : Component) = (w.row c : Component).guise := w.guise_row c
  cases d with
  | loose i => exact Table.get_map (f := OrderedMap.unstamped) rfl w.dicts i
  | annotations c | notes c =>
    simp only [pairs, hcomponent]
    cases (w.row c : Component) <;> rfl
  | entries r => exact congrArg Registry.entries (w.guise_row r)
  | captures r => exact congrArg Registry.captures (w.guise_row r)

theorem guise_overridePairs (w : World) (c : Ref .component) :
    w.guise.overridePairs c = (w.overridePairs c).unstamped := by
  have hcomponent : (w.guise.row c : Component) = (w.row c : Component).guise := w.guise_row c
  simp only [overridePairs, hcomponent]
  cases (w.row c : Component) with
  | overlay layer =>
    simp only [Component.guise, Overlay.guise, OrderedMap.unstamped, List.map_map]
    rfl
  | _ => rfl

theorem guise_pairsOf? (w : World) (v : Value) :
    w.guise.pairsOf? v.unstamped = (w.pairsOf? v).map OrderedMap.unstamped := by
  cases v with
  | dict d => exact congrArg some (w.guise_pairs d)
  | view c => exact congrArg some (w.guise_overridePairs c)
  | _ => simp [Value.unstamped, pairsOf?]

end World

/-! ### Reports -/

/-- What dictionaries hold under texts does not depend on the serial numbers of the texts. -/
theorem mapM_titled?_unstamped {α : Type} {read read' : Value → Option α} {f : α → α}
    (hread : ∀ x, read' x.unstamped = (read x).map f) (d : Dict) :
    d.unstamped.toList.mapM (titled? read') =
      (d.toList.mapM (titled? read)).map (List.map (Prod.map id f)) := by
  obtain ⟨pairs⟩ := d
  simp only [OrderedMap.unstamped]
  induction pairs with
  | nil => rfl
  | cons pair rest ih =>
    have hpair : titled? read' (pair.1.unstamped, pair.2.unstamped) =
        (titled? read pair).map (Prod.map id f) := by
      simp only [titled?, Value.text?_unstamped, hread]
      cases pair.1.text? <;> cases read pair.2 <;> rfl
    rw [List.map_cons, List.mapM_cons, List.mapM_cons, hpair, ih]
    cases titled? read pair <;> cases rest.mapM (titled? read) <;> rfl

/-- What a report tells, without serial numbers. -/
def World.told? (w : World) (v : Value) : Option (List (String × List (String × Value))) :=
  (w.sectionsOf? v).map (List.map (Prod.map id (List.map (Prod.map id Value.unstamped))))

/-- The guise of a state holds the same reports. -/
theorem World.guise_sectionsOf? (w : World) (v : Value) :
    w.guise.sectionsOf? v.unstamped = w.told? v := by
  have hsection (x : Value) : w.guise.sectionOf? x.unstamped =
      (w.sectionOf? x).map (List.map (Prod.map id Value.unstamped)) := by
    rw [sectionOf?, sectionOf?, guise_pairsOf?]
    cases w.pairsOf? x with
    | none => rfl
    | some d => exact mapM_titled?_unstamped (fun _ => rfl) d
  rw [told?, sectionsOf?, sectionsOf?, guise_pairsOf?]
  cases w.pairsOf? v with
  | none => rfl
  | some d => exact mapM_titled?_unstamped hsection d

namespace World.Mirrors

variable {w v : World} (h : w.Mirrors v)
include h

theorem pairs (d : DictRef) : (w.pairs d).unstamped = (v.pairs d).unstamped := by
  rw [← guise_pairs, h.same, guise_pairs]

theorem items (l : ListRef) :
    (w.items l).map Value.unstamped = (v.items l).map Value.unstamped := by
  cases l with
  | loose i =>
    have hget (w : World) : w.guise.lists.get i = (w.lists.get i).map Value.unstamped :=
      Table.get_map (f := List.map Value.unstamped) rfl w.lists i
    show (w.lists.get i).map _ = (v.lists.get i).map _
    rw [← hget, h.same, hget]
  | collections s => exact congrArg Session.collections (h.row s)
  | arms r => exact congrArg Recorder.arms (h.row r)
  | cancels r => exact congrArg Recorder.cancels (h.row r)
  | calls p =>
    have hprobes : w.guise.probes = v.guise.probes := congrArg World.probes h.same
    exact congrArg (fun probes => (Table.get probes p.index).calls.map Value.unstamped) hprobes

theorem told? {x y : Value} (hxy : x.Alike y) : w.told? x = v.told? y := by
  rw [← guise_sectionsOf?, ← guise_sectionsOf?, h.same, hxy]

end World.Mirrors

/-! ## Caches -/

/-- The sample identity is what it was built with. -/
theorem World.Retains.row_sample {w w' : World} (h : w.Retains w') {c : Ref .component}
    {facts : Facts} {calls : Value} (hc : w.row c = Component.sample facts calls) :
    ∃ calls', w'.row c = Component.sample facts calls' := by
  have hbare := h.bare c (World.lt_size_of_row (by rw [hc]; simp))
  rw [hc] at hbare
  cases hc' : (w'.row c : Component) with
  | sample facts' calls' =>
    rw [hc'] at hbare
    obtain ⟨rfl, _⟩ := Component.sample.inj hbare
    exact ⟨calls', rfl⟩
  | _ =>
    rw [hc'] at hbare
    cases hbare

namespace World.Regular

variable {w : World} (h : w.Regular) {c : Ref .component} {facts : Facts} {x : Value}
include h

theorem look_own (hc : ∀ layer, w.row c ≠ Component.overlay layer) {name : String}
    (hname : name ∈ ["arm_calls", "cancel_calls", "subsystem_name", "invalidate_requested",
      "invalidate_call_count"])
    (hproperty : w.property? c.object name = none) (hx : w.held? c.object name = some x) :
    w.look (.ofRef c) name = .ok (.held x) := by
  rw [look_bottom hc, lookObject, hproperty, h.own _ _ hname]
  simp only [Option.orElse, hx]

/-- The identity of the machine tells whether its caches were invalidated. -/
theorem look_invalidated (hc : w.row c = Component.host facts x) :
    w.look (.ofRef c) "invalidate_requested" = .ok (.held x) := by
  refine h.look_own (by rw [hc]; exact nofun) (by decide) rfl ?_
  show (w.row c : Component).held? c "invalidate_requested" = some x
  rw [hc]
  rfl

/-- A sample identity tells how often its caches were invalidated. -/
theorem look_invalidations (hc : w.row c = Component.sample facts x) :
    w.look (.ofRef c) "invalidate_call_count" = .ok (.held x) := by
  refine h.look_own (by rw [hc]; exact nofun) (by decide) rfl ?_
  show (w.row c : Component).held? c "invalidate_call_count" = some x
  rw [hc]
  rfl

end World.Regular

/-! ## Doubles -/

/-- Two states with an identity that the one has of the machine and the other has of a sample. They
hold the same, and report the same; the caches of the machine's identity are invalid if those of the
sample were invalidated at least once. -/
structure World.Doubles (identity : Ref .component) (w v : World) : Prop where
  items (l : ListRef) : (w.items l).map Value.unstamped = (v.items l).map Value.unstamped
  pairs (d : DictRef) : (w.pairs d).unstamped = (v.pairs d).unstamped
  reports (call : Caller) (s : Ref .session) :
    Concur (fun x y => (w.after (environment call s)).told? x =
        (v.after (environment call s)).told? y)
      (w.outcome (environment call s)) (v.outcome (environment call s))
  fields (call : Caller) (c : Ref .component) (f : Field) :
    Concur Value.Alike (w.outcome (answerOf call (.ofRef c) f))
      (v.outcome (answerOf call (.ofRef c) f))
  caches : ∃ (invalid : Bool) (serial : Nat) (count : Int),
    (∀ call, w.outcome (readAttribute call (.ofRef identity) "invalidate_requested") =
      .ok (.bool invalid)) ∧
    (∀ call, v.outcome (readAttribute call (.ofRef identity) "invalidate_call_count") =
      .ok (.int serial count)) ∧
    (invalid = true ↔ 0 < count)

/-- States that mirror each other are doubles of each other. -/
theorem World.Mirrors.doubles {w v : World} (h : w.Mirrors v) {c : Ref .component}
    {facts facts' : Facts} {x y : Value} (hw : w.row c = Component.host facts x)
    (hv : v.row c = Component.sample facts' y) : w.Doubles c v where
  items := h.items
  pairs := h.pairs
  reports call s := by
    have hreport := Tally.environment h call s
    exact hreport.concur.mono fun _ _ hxy => hreport.mirrors.told? hxy
  fields call c f := (Tally.answerOf h call c f).concur.mono fun _ _ hxy => hxy.alike
  caches := by
    obtain ⟨_, b, rfl⟩ : Component.Regular c (.host facts x) := hw ▸ h.left.component c
    obtain ⟨_, serial, n, _, rfl⟩ : Component.Regular c (.sample facts' y) :=
      hv ▸ h.right.component c
    have hsame : (w.row c : Component).guise = (v.row c : Component).guise := h.row c
    rw [hw, hv] at hsame
    have hinvalid : b = decide (0 < n) := Value.bool.inj (Component.host.inj hsame).2
    refine ⟨b, serial, n, fun call => ?_, fun call => ?_, ?_⟩
    · exact World.outcome_of_run (run_readAttribute_held call (h.left.look_invalidated hw))
    · exact World.outcome_of_run (run_readAttribute_held call (h.right.look_invalidations hv))
    · rw [hinvalid, decide_eq_true_iff]

/-- Whether the identity of the machine is made or a sample identity that answers the same, whatever
is asked from then on comes to the same, and the states that are left are doubles. -/
theorem World.Regular.interchangeable {w : World} (h : w.Regular) {answers : Field → Value}
    (ha : w.surroundings.machine.Answers answers) (call : Caller) (depth : Nat)
    {appeals : List Appeal} (hfits : ∀ appeal ∈ appeals, appeal.Fits) :
    w.outcome (enrolHost call answers) = .ok (.ofRef w.nextProvider) ∧
      w.outcome (enrolSample call answers) = .ok (.ofRef w.nextProvider) ∧
      List.Forall₂ (Concur Value.Alike)
        ((w.after (enrolHost call answers)).outcomes (invokeWithin depth) appeals)
        ((w.after (enrolSample call answers)).outcomes (invokeWithin depth) appeals) ∧
      World.Doubles w.nextComponent
        ((w.after (enrolHost call answers)).afterEach (invokeWithin depth) appeals)
        ((w.after (enrolSample call answers)).afterEach (invokeWithin depth) appeals) := by
  have hmade := h.enrolled call ha
  obtain ⟨houtcomes, hmirrors, hleft, hright⟩ := hmade.mirrors.appeals depth hfits
  -- Each identity stays what it was made, so that its own count can be read at the end.
  have hpushed (x : Component) (t : Table Component) : (t.push x).get t.size = x :=
    (Table.get_push t _ x).trans (if_pos rfl)
  obtain ⟨x, hhost⟩ := hleft.row_host (c := w.nextComponent)
    (hpushed (w.hostOf answers) w.components)
  obtain ⟨y, hsample⟩ := hright.row_sample (c := w.nextComponent)
    (hpushed (sampleIdentity answers) w.components)
  exact ⟨World.outcome_of_run (run_enrolHost w call answers),
    World.outcome_of_run (run_enrolSample w call answers), houtcomes,
    hmirrors.doubles hhost hsample⟩

/-! ## A bench with nothing on it -/

/-- The state in which nothing was made yet, on a machine. -/
def World.blank (machine : Machine) : World := { surroundings := { machine := machine } }

/-- Where there is nothing, everything is what it was made to be. -/
theorem World.Regular.blank (machine : Machine) : (World.blank machine).Regular where
  intact _ _ _ := rfl
  capability _ := rfl
  own _ _ _ := rfl
  answer _ _ _ h := nomatch h
  registry _ := .empty _
  component _ := nofun
  provider _ := .inl rfl
  installer _ := ⟨.inl rfl, fun h => absurd rfl h, fun h => absurd rfl h⟩
  policy _ := ⟨.idle 0, .idle 0⟩
  timeline _ := nofun
  bank _ := ⟨.inl rfl, nofun⟩
  session _ := .fresh (.inl rfl) (.inl rfl) trivial (.scenario 0)
  recorder _ := ⟨⟨_, _, rfl⟩, nofun⟩

/-- A machine. -/
def benchMachine : Machine := ⟨"Linux", "x86_64", "CPython", 4711, true⟩

/-- The answers of the sample identity, with the labels of the machine. -/
def benchAnswers : Field → Value
  | .os => .ofText benchMachine.osLabel
  | .abi => .ofText benchMachine.abiLabel
  | f => Component.sampleAnswer f

theorem benchAnswers_fit : benchMachine.Answers benchAnswers where
  simple f := by cases f <;> exact trivial
  os := rfl
  abi := rfl

/-- A session over a registry, with an installer over it as well. -/
def benchAppeals : List Appeal :=
  [.make .registry [],
    .register ⟨0⟩ (.ofText appInfoClass) (.ofText "HostAppInfo") (.ofText appInfoContract) ⟨0⟩,
    .create ⟨0⟩ .none .runtime,
    .create ⟨0⟩ (.bool true) .runtime,
    .create ⟨0⟩ .none .crashReporter,
    .make .installer [.ofRef (⟨0⟩ : Ref .registry), .ofText appInfoContract, .ofText appInfoClass],
    .install ⟨0⟩ (.ofText "shim@test") (.ofText "Shim") (.ofText "1") (.ofText "2"),
    .field ⟨1⟩ .vendor,
    .invalidate ⟨0⟩,
    .make .timeline [],
    .make .bank [.ofRef (⟨0⟩ : Ref .timeline)],
    .make .session [.ofRef (⟨0⟩ : Ref .registry), .ofRef (⟨0⟩ : Ref .bank), .ofFloat 5.0,
      .function 0 .clock],
    .session ⟨0⟩ .setUp,
    .session ⟨0⟩ .start,
    .session ⟨0⟩ .environment,
    .advance ⟨0⟩ (.ofFloat 12.0),
    .session ⟨0⟩ .shutdown]

theorem benchAppeals_fit : ∀ appeal ∈ benchAppeals, appeal.Fits := by
  simp only [benchAppeals, List.forall_mem_cons, Appeal.Fits, Creatable.Fits]
  refine ⟨trivial, ⟨⟨_, rfl⟩, ⟨_, rfl⟩, _, rfl⟩, trivial, trivial, trivial,
    ⟨.inr ⟨⟨0⟩, rfl⟩, ⟨_, rfl⟩, _, rfl⟩, ⟨trivial, trivial, trivial, trivial⟩, trivial, trivial,
    trivial, .inr ⟨⟨0⟩, rfl⟩, ⟨.inr ⟨⟨0⟩, rfl⟩, .inr ⟨⟨0⟩, rfl⟩, trivial, .scenario 0⟩, trivial,
    trivial, trivial, trivial, trivial, nofun⟩

/-- What is asked comes to something: the identity of the machine is handed out as what it declares
to be, and not to an outer component. -/
example :
    ((World.blank benchMachine).after (enrolHost invoke benchAnswers)).outcomes invoke
        (benchAppeals.take 5) =
      [.ok (.ofRef (⟨0⟩ : Ref .registry)), .ok .none, .ok (.ofRef (⟨0⟩ : Ref .component)),
        .error .aggregation, .error (.noInterface "CRASH_REPORTER")] := rfl

/-- Either identity will do on the bench. -/
theorem bench_interchangeable :
    (World.blank benchMachine).Regular ∧ benchMachine.Answers benchAnswers ∧
      (∀ appeal ∈ benchAppeals, appeal.Fits) ∧
      (World.blank benchMachine).outcome (enrolHost invoke benchAnswers) =
        .ok (.ofRef (⟨0⟩ : Ref .provider)) ∧
      (World.blank benchMachine).outcome (enrolSample invoke benchAnswers) =
        .ok (.ofRef (⟨0⟩ : Ref .provider)) ∧
      List.Forall₂ (Concur Value.Alike)
        (((World.blank benchMachine).after (enrolHost invoke benchAnswers)).outcomes
          (invokeWithin depthLimit) benchAppeals)
        (((World.blank benchMachine).after (enrolSample invoke benchAnswers)).outcomes
          (invokeWithin depthLimit) benchAppeals) ∧
      World.Doubles ⟨0⟩
        (((World.blank benchMachine).after (enrolHost invoke benchAnswers)).afterEach
          (invokeWithin depthLimit) benchAppeals)
        (((World.blank benchMachine).after (enrolSample invoke benchAnswers)).afterEach
          (invokeWithin depthLimit) benchAppeals) :=
  ⟨.blank benchMachine, benchAnswers_fit, benchAppeals_fit,
    World.Regular.interchangeable (.blank benchMachine) benchAnswers_fit invoke depthLimit
      benchAppeals_fit⟩

end Understudy

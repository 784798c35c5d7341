import Understudy.Proofs.Annotating
import Understudy.Proofs.DrivenSessions
import Understudy.Proofs.HookPairs

/-!
# A run of the daily task

The collections of a session are a list that only a run of the daily task adds to. A run adds one
element at most. What it adds has the number that comes next, the answers of the component that the
registry serves, and the delay that the session tells; and if one of the questions fails, the run
fails and adds nothing. Only the telling comes after the adding, so that a run whose answers cannot
be told fails with its element added.

Whatever else is asked of a session, of its registry or of its policy adds nothing.

## Main definitions

* `World.Adds`: the collections of a session have got some more elements at their end.
* `Collecting`: a session whose registry and clock leave its collections alone.
* `World.Notes`: what a run finds out when it is begun in a state.
* `CollectStep`: all that a run can do, with how it ends.

## Main statements

* `World.Adds.deal`, `World.Adds.setUp`, `World.Adds.of_swapStep`: requests that add nothing.
* `Collecting.collectStep`: a run does nothing else.
-/

namespace Understudy

/-! ## What is added -/

/-- The collections of a session have got some more elements at their end. The session asks the
same registry and the same clock. -/
structure World.Adds (r : Ref .registry) (s : Ref .session) (items : List Value) (w w' : World) :
    Prop where
  sane (h : Sane r w) : Sane r w'
  registry : (w'.row s : Session).registry = (w.row s : Session).registry
  clock : (w'.row s : Session).clock = (w.row s : Session).clock
  collections : (w'.row s : Session).collections = (w.row s : Session).collections ++ items

namespace World.Adds

variable {r : Ref .registry} {s : Ref .session} {items more : List Value} {w w' w'' : World}

theorem trans (h : w.Adds r s items w') (h' : w'.Adds r s more w'') :
    w.Adds r s (items ++ more) w'' where
  sane hs := h'.sane (h.sane hs)
  registry := h'.registry.trans h.registry
  clock := h'.clock.trans h.clock
  collections := by rw [h'.collections, h.collections, List.append_assoc]

/-- What adds nothing may come first. -/
theorem after (h : w.Adds r s [] w') (h' : w'.Adds r s items w'') : w.Adds r s items w'' :=
  h.trans h'

/-- What adds nothing may come last. -/
theorem before (h : w.Adds r s items w') (h' : w'.Adds r s [] w'') : w.Adds r s items w'' := by
  have hboth := h.trans h'
  rwa [List.append_nil] at hboth

/-- A session that is left alone has got nothing. -/
theorem of_row (hsane : Sane r w → Sane r w') (hrow : w'.row s = (w.row s : Session)) :
    w.Adds r s [] w' where
  sane := hsane
  registry := congrArg Session.registry hrow
  clock := congrArg Session.clock hrow
  collections := by rw [hrow, List.append_nil]

/-- Where registries and sessions are as they were, and nothing was put in the place of a request,
nothing else counts. -/
theorem of_eq (hassigned : w'.assigned = w.assigned) (hregistries : w'.registries = w.registries)
    (hsessions : w'.sessions = w.sessions) : w.Adds r s [] w' := by
  have hregistry : w'.row r = (w.row r : Registry) := congrArg (Table.get · r.index) hregistries
  have hsession : w'.row s = (w.row s : Session) := congrArg (Table.get · s.index) hsessions
  exact of_row (fun hs => ⟨hs.intact.congr hassigned, hregistry ▸ hs.sound⟩) hsession

theorem of_served (h : w.Served w') : w.Adds r s [] w' :=
  of_row (fun hs => hs.of_served h) (h.row_session s)

theorem of_alike (h : w.Alike w') : w.Adds r s [] w' := of_served (.of_alike h)

theorem refl (w : World) : w.Adds r s [] w := of_alike (.refl w)

/-- A session may be written that asks the same registry and the same clock. -/
theorem withRow_session {session : Session}
    (hregistry : session.registry = (w.row s : Session).registry)
    (hclock : session.clock = (w.row s : Session).clock)
    (hcollections : session.collections = (w.row s : Session).collections ++ items) :
    w.Adds r s items (w.withRow s session) := by
  refine ⟨fun hs => ⟨hs.intact.congr rfl, hs.sound⟩, ?_, ?_, ?_⟩
  all_goals rwa [World.row_withRow_self]

theorem collected (w : World) (item : Value) : w.Adds r s [item] (w.collected s item) :=
  withRow_session rfl rfl rfl

theorem withRunning (w : World) (b : Bool) : w.Adds r s [] (w.withRunning s b) :=
  withRow_session rfl rfl (List.append_nil _).symm

theorem dropped (w : World) : w.Adds r s [] (w.dropped s) :=
  withRow_session rfl rfl (List.append_nil _).symm

/-- A handle is kept, and its delay is told. -/
theorem keepHandle (w : World) (delay handle : Value) :
    w.Adds r s [] (w.after (keepHandle s delay handle)) := by
  have hgiven : w.Adds r s [] (w.withRow s { (w.row s : Session) with handle := handle }) :=
    withRow_session rfl rfl (List.append_nil _).symm
  exact hgiven.after (.of_alike (alike_keepHandle w s delay handle))

theorem letGo (w : World) : w.Adds r s [] (w.after (letGo s)) := by
  rw [Understudy.letGo, World.after_bind_of_run (World.run_update w s _)]
  exact (dropped w).after (.of_alike (Quiet.emit _ _ _ _ _))

/-! ### Requests that add nothing -/

/-- Whatever is requested of a registry adds nothing. -/
theorem deal (h : Sane r w) (call : Caller) {d : Dealing} (fits : d.Fits r w) :
    w.Adds r s [] (w.after (d.perform call r)) :=
  have hstep : Dealing.Step call r w _ d := d.step h fits
  of_row hstep.sane (congrArg (Table.get · s.index) hstep.dealt.unmoved.sessions)

/-- Nothing is added when the hooks of a policy are replaced, whether it succeeds or fails. -/
theorem of_swapStep {p : Ref .policy} {swap : Swap} {outcome : Except Fault Value}
    (h : swap.Step p w outcome w') : w.Adds r s [] w' := by
  have hgiven (hooks : Value × Value) : w.Adds r s [] (w.given p hooks) :=
    of_row (fun hs => ⟨hs.intact.given p hooks, hs.sound⟩) rfl
  cases h with
  | ownerless => exact refl w
  | uncallable => exact refl w
  | replaced _ _ given => exact (hgiven _).after (of_alike given)
  | untold _ _ _ _ given => exact (hgiven _).after (of_alike given)

/-- A session that is given a policy and an id has got no collections. -/
theorem introduced (w : World) (policy : Policy) (sessionId : Value) :
    w.Adds r s [] (w.introduced s policy sessionId) := by
  have hrow := w.row_introduced s policy sessionId
  refine ⟨fun hs => ⟨hs.intact.congr rfl, hs.sound⟩, ?_, ?_, ?_⟩
  all_goals rw [hrow]
  exact (List.append_nil _).symm

/-- An annotation is nothing to the collections. -/
theorem annotated (w : World) (c : Ref .component) (key data : Value) :
    w.Adds r s [] (w.noted c key data) := of_eq rfl rfl rfl

theorem of_setUpStep {call : Caller} {outcome : Except Fault Value}
    (h : SetUpStep call r s w outcome w') : w.Adds r s [] w' := by
  cases h with
  | refused quiet => exact of_alike quiet
  | faltered _ served | untold _ _ served => exact (introduced w _ _).after (of_served served)
  | @told _ _ _ asked _ _ _ served noted =>
    have hasked : w.Adds r s [] asked := (introduced w _ _).after (of_served served)
    exact hasked.after ((annotated asked _ _ _).after (of_alike noted))

/-- Nothing is added when a session is set up, wherever that fails. -/
theorem setUp (h : Sane r w) (hr : (w.row s : Session).registry = .ofRef r) (call : Caller) :
    w.Adds r s [] (w.after (setUp call s)) := by
  cases hpolicy : (w.row s : Session).policy.isNone with
  | false =>
    rw [World.after_of_run (w.run_setUp_kept call hpolicy)]
    exact refl w
  | true =>
    have hnone : (w.row s : Session).policy = .none := by
      cases hp : (w.row s : Session).policy with
      | none => rfl
      | _ =>
        rw [hp] at hpolicy
        cases hpolicy
    exact of_setUpStep (h.setUpStep hr hnone call)

end World.Adds

/-! ## A session that collects -/

/-- A value that adds nothing to the collections of a session wherever it is called. -/
def Value.Discreet (r : Ref .registry) (s : Ref .session) (v : Value) : Prop :=
  ∀ (depth : Nat) (w : World), Sane r w → w.Adds r s [] (w.after (invokeWithin depth v []))

/-- What leaves a session alone adds nothing to its collections. -/
theorem Aloof.discreet {r : Ref .registry} {s : Ref .session} {v : Value} (h : Aloof r s v) :
    v.Discreet r s := fun depth w _ => .of_row (h depth w).sane (h depth w).session

/-- A session that asks a registry for the identity, and a clock that does not call back into the
session. -/
structure Collecting (r : Ref .registry) (s : Ref .session) (w : World) : Prop where
  sane : Sane r w
  registry : (w.row s : Session).registry = .ofRef r
  clock : (w.row s : Session).clock.Discreet r s

/-- What a run finds out when it is begun in a state. It has the number that comes next. The
component is the one that the registry serves then, and it is asked for its id, its version and
its system after the session has been asked for the delay. -/
structure World.Notes (w : World) (call : Caller) (r : Ref .registry) (s : Ref .session)
    (collection : Collection) : Prop where
  sequence : collection.sequence = (w.row s : Session).collections.length + 1
  identity : ∃ c, w.serving? r (.ofText appInfoContract) = some c ∧
    (w.row c : Component).Declares .runtime ∧
    w.outcome (currentIdentity call s) = .ok (.ofRef c) ∧
    ((w.after (currentIdentity call s)).after (nextDailyDelay call s)).outcome
      (stampOf call (.ofRef c)) = .ok (collection.appId, collection.appVersion, collection.os)
  delay : (w.after (currentIdentity call s)).outcome (nextDailyDelay call s) =
    .ok collection.delay

/-- All that a run can do, with how it ends. -/
inductive CollectStep (call : Caller) (r : Ref .registry) (s : Ref .session) (w w' : World) :
    Except Fault Value → Prop
  /-- No component serves that can be viewed as an identity, or it is not handed out. -/
  | unfound {fault : Fault} (lookup : w.outcome (currentIdentity call s) = .error fault)
      (added : w.Adds r s [] w') : CollectStep call r s w w' (.error fault)
  /-- There is no delay to be told. -/
  | untimed {identity : Value} {fault : Fault}
      (lookup : w.outcome (currentIdentity call s) = .ok identity)
      (asked : (w.after (currentIdentity call s)).outcome (nextDailyDelay call s) = .error fault)
      (added : w.Adds r s [] w') : CollectStep call r s w w' (.error fault)
  /-- The identity does not answer one of the questions. -/
  | unread {identity delay : Value} {fault : Fault}
      (lookup : w.outcome (currentIdentity call s) = .ok identity)
      (asked : (w.after (currentIdentity call s)).outcome (nextDailyDelay call s) = .ok delay)
      (fields : ((w.after (currentIdentity call s)).after (nextDailyDelay call s)).outcome
        (stampOf call identity) = .error fault)
      (added : w.Adds r s [] w') : CollectStep call r s w w' (.error fault)
  | kept {collection : Collection} (notes : w.Notes call r s collection)
      (worded : (w.telling call s collection).Words collection)
      (added : w.Adds r s [collection.toValue] w') :
      CollectStep call r s w w' (.ok collection.toValue)
  /-- What was found out has been added, but it cannot be told. -/
  | untold {collection : Collection} {fault : Fault} (notes : w.Notes call r s collection)
      (unworded : ¬(w.telling call s collection).Words collection)
      (added : w.Adds r s [collection.toValue] w') : CollectStep call r s w w' (.error fault)

/-- A run adds nothing, or what it notes. -/
theorem CollectStep.adds {call : Caller} {r : Ref .registry} {s : Ref .session} {w w' : World}
    {outcome : Except Fault Value} (h : CollectStep call r s w w' outcome) :
    w.Adds r s [] w' ∨
      ∃ collection, w.Notes call r s collection ∧ w.Adds r s [collection.toValue] w' := by
  cases h with
  | unfound _ added | untimed _ _ added | unread _ _ _ added => exact .inl added
  | kept notes _ added | untold notes _ added => exact .inr ⟨_, notes, added⟩

namespace Collecting

variable {r : Ref .registry} {s : Ref .session} {items : List Value} {w w' : World}

/-- A session goes on collecting after something was added to its collections. -/
theorem adds (h : Collecting r s w) (ha : w.Adds r s items w') : Collecting r s w' where
  sane := ha.sane h.sane
  registry := ha.registry.trans h.registry
  clock := ha.clock ▸ h.clock

/-- Nothing is added when a session is asked for the identity or for the delay. -/
theorem askable (h : Collecting r s w) : Askable r s (w.Adds r s []) where
  sane _ ha := ha.sane h.sane
  registry _ ha := (h.adds ha).registry
  served _ _ hserved ha := ha.after (.of_served hserved)
  clock depth w' ha := ha.after ((h.adds ha).clock depth w' (ha.sane h.sane))

/-- What a run notes about an identity it notes about the component that the registry serves. -/
theorem notes (h : Collecting r s w) {call : Caller} {identity delay id version os : Value}
    (serial : Nat) (lookup : w.outcome (currentIdentity call s) = .ok identity)
    (asked : (w.after (currentIdentity call s)).outcome (nextDailyDelay call s) = .ok delay)
    (fields : ((w.after (currentIdentity call s)).after (nextDailyDelay call s)).outcome
      (stampOf call identity) = .ok (id, version, os)) :
    w.Notes call r s
      ⟨serial, (w.row s : Session).collections.length + 1, delay, id, version, os⟩ := by
  have hrun : w.run (currentIdentity call s) =
      w.run (getService call r (.ofText appInfoContract) (.capability .runtime)) :=
    h.sane.intact.run_identityService call h.registry .runtime
  have hanswers := h.sane.answers_getService call (.ofText appInfoContract) .runtime
  rw [World.outcome, ← hrun, ← World.outcome, lookup] at hanswers
  cases hanswers with
  | served serving declared => exact ⟨rfl, ⟨_, serving, declared, lookup, fields⟩, asked⟩

/-- A run does nothing else. It adds what it notes, or it fails before there is anything to be
added. -/
theorem collectStep (h : Collecting r s w) (depth : Nat) :
    CollectStep (invokeWithin depth) r s w (w.after (collectDaily (invokeWithin depth) s))
      (w.outcome (collectDaily (invokeWithin depth) s)) := by
  have hgathered := h.askable.keeps_gather depth w (.refl w)
  have hfails {fault : Fault} (hfault : w.outcome (gather (invokeWithin depth) s) = .error fault) :
      w.run (collectDaily (invokeWithin depth) s) =
        (.error fault, w.after (gather (invokeWithin depth) s)) := by
    rw [collectDaily_eq, World.run_bind_of_error hfault]
  rcases h.sane.noting h.registry (invokeWithin depth) with
    ⟨identity, fault, hfound, hasked, hfault⟩ | hnoting
  · have hrun := hfails hfault
    rw [World.outcome_of_run hrun, World.after_of_run hrun]
    exact .untimed hfound hasked hgathered
  · cases hnoted : w.outcome (gather (invokeWithin depth) s) with
    | error fault =>
      have hrun := hfails hnoted
      rw [World.outcome_of_run hrun, World.after_of_run hrun]
      rw [hnoted] at hnoting
      cases hnoting with
      | unfound lookup => exact .unfound lookup hgathered
      | unread lookup asked fields => exact .unread lookup asked fields hgathered
    | ok collection =>
      have hrun : w.run (collectDaily (invokeWithin depth) s) =
          (w.after (gather (invokeWithin depth) s)).run
            (keepCollection (invokeWithin depth) s collection) := by
        rw [collectDaily_eq, World.run_bind, World.run_eq, hnoted]
      have hintact := (hgathered.sane h.sane).intact
      have hnotes : w.Notes (invokeWithin depth) r s collection := by
        rw [hnoted] at hnoting
        cases hnoting with
        | noted serial lookup asked fields => exact h.notes serial lookup asked fields
      have hadded := (hgathered.after (.collected _ collection.toValue)).before
        (.of_alike (hintact.alike_keepCollection (invokeWithin depth) s collection))
      rw [World.outcome, World.after, hrun]
      rcases hintact.keepCollection_cases (invokeWithin depth) s collection with
        ⟨hwords, houtcome⟩ | ⟨hwords, fault, houtcome⟩
      · rw [← World.outcome, houtcome]
        exact .kept hnotes hwords hadded
      · rw [← World.outcome, houtcome]
        exact .untold hnotes hwords hadded

end Collecting

end Understudy

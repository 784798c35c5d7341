import Understudy.Proofs.Lifetime
import Understudy.Proofs.RecorderHooks

/-!
# A session and its recorder

A session whose hooks are those of a recorder arms its timer by having it noted. What becomes of
the two in the course of time is told by their rows, as long as everything else that they depend
on is left alone. A run of the session finds out what there is to find out, and keeps it.

## Main definitions

* `RecordedSession.Wired`: those who take part in the cycles of a session are set up for them.
* `World.Moves`: what has become of the session and of the recorder, and nothing else.
* `Noting`: what a run finds out, one question after the other.
* `World.Words`: what is told of a collection can be told.
* `World.telling`: the state in which it is told.

## Main statements

* `Sane.noting`, `RecordedSession.Wired.noting`: a run finds out what there is to find out.
* `World.Intact.keepCollection_cases`: what was noted is kept, even if it cannot be told.
* `RecordedSession.Wired.collectDaily_cases`: a run that has found something out fails if and only
  if that cannot be told.
* `RecordedSession.Wired.moves_collectDaily`: what was found out is kept.
-/

namespace Understudy

/-! ## Those who take part -/

/-- Those who take part in the cycles of a session: the registry that it asks, the session
itself, its policy, and the recorder that the policy's hooks belong to. -/
structure RecordedSession where
  registry : Ref .registry
  session : Ref .session
  policy : Ref .policy
  recorder : Ref .recorder

/-- The session and the recorder have become what is given, and what else the cycles depend on
was left alone. -/
structure World.Moves (k : RecordedSession) (w w' : World) (s : Session) (r : Recorder) : Prop where
  sane (h : Sane k.registry w) : Sane k.registry w'
  policy : w'.row k.policy = (w.row k.policy : Policy)
  records (h : w.Records k.recorder) : w'.Records k.recorder
  session : w'.row k.session = s
  recorder : w'.row k.recorder = r

/-- All that the cycles depend on was left alone. -/
def World.Spares (k : RecordedSession) (w w' : World) : Prop :=
  w.Moves k w' (w.row k.session) (w.row k.recorder)

namespace World.Moves

variable {k : RecordedSession} {w w' w'' : World} {s s' : Session} {r r' : Recorder}

theorem trans (h : w.Moves k w' s r) (h' : w'.Moves k w'' s' r') : w.Moves k w'' s' r' where
  sane hs := h'.sane (h.sane hs)
  policy := h'.policy.trans h.policy
  records hr := h'.records (h.records hr)
  session := h'.session
  recorder := h'.recorder

/-- What is left alone stays what it has become. -/
theorem spares (h : w.Moves k w' s r) (h' : w'.Spares k w'') : w.Moves k w'' s r where
  sane hs := h'.sane (h.sane hs)
  policy := h'.policy.trans h.policy
  records hr := h'.records (h.records hr)
  session := h'.session.trans h.session
  recorder := h'.recorder.trans h.recorder

theorem withRow_session (w : World) (s : Session) :
    w.Moves k (w.withRow k.session s) s (w.row k.recorder) where
  sane hs := ⟨hs.intact.congr rfl, hs.sound⟩
  policy := rfl
  records hr := hr.congr rfl
  session := World.row_withRow_self w k.session s
  recorder := rfl

theorem withRow_recorder (w : World) (r : Recorder) :
    w.Moves k (w.withRow k.recorder r) (w.row k.session) r where
  sane hs := ⟨hs.intact.congr rfl, hs.sound⟩
  policy := rfl
  records hr := hr.congr rfl
  session := rfl
  recorder := World.row_withRow_self w k.recorder r

end World.Moves

namespace World.Spares

variable {k : RecordedSession} {w w' w'' : World}

theorem trans (h : w.Spares k w') (h' : w'.Spares k w'') : w.Spares k w'' :=
  World.Moves.spares h h'

theorem of_dealt (h : w.Dealt w') (hsane : Sane k.registry w → Sane k.registry w') :
    w.Spares k w' where
  sane := hsane
  policy := by
    rw [h.frame]
    rfl
  records hr := hr.congr (by rw [h.frame])
  session := by
    rw [h.frame]
    rfl
  recorder := by
    rw [h.frame]
    rfl

theorem of_served (h : w.Served w') : w.Spares k w' :=
  of_dealt (.of_served h) fun hs => hs.of_served h

theorem of_alike (h : w.Alike w') : w.Spares k w' := of_served (.of_alike h)

theorem refl (w : World) : w.Spares k w := of_alike (.refl w)

end World.Spares

/-- A value that leaves the cycles alone when it is called. -/
def RecordedSession.Aloof (k : RecordedSession) (v : Value) : Prop :=
  ∀ (depth : Nat) (w : World), w.Spares k (w.after (invokeWithin depth v []))

/-- Those who take part are set up for the cycles: the session asks the registry and has the
policy, the policy has the hooks of the recorder, and the clock keeps to itself. -/
structure RecordedSession.Wired (k : RecordedSession) (w : World) : Prop where
  sane : Sane k.registry w
  registry : (w.row k.session : Session).registry = .ofRef k.registry
  clock : k.Aloof (w.row k.session : Session).clock
  policy : (w.row k.session : Session).policy = .ofRef k.policy
  arm : ∃ i, (w.row k.policy : Policy).arm = .function i (.method k.recorder.object .arm)
  cancel : ∃ i, (w.row k.policy : Policy).cancel = .function i (.method k.recorder.object .cancel)
  records : w.Records k.recorder

namespace RecordedSession.Wired

variable {k : RecordedSession} {w w' : World}

/-- What happens to the session and to the recorder leaves them set up, as long as the session
keeps what it has to ask. -/
theorem moves (h : k.Wired w) {s : Session} {r : Recorder} (hm : w.Moves k w' s r)
    (hg : s.gear = (w.row k.session : Session).gear) : k.Wired w' := by
  obtain ⟨hregistry, hclock, _, hpolicy⟩ := Session.gear_inj hg
  refine ⟨hm.sane h.sane, ?_, ?_, ?_, ?_, ?_, hm.records h.records⟩
  · rw [hm.session, hregistry, h.registry]
  · rw [hm.session, hclock]
    exact h.clock
  · rw [hm.session, hpolicy, h.policy]
  · rw [hm.policy]
    exact h.arm
  · rw [hm.policy]
    exact h.cancel

theorem spares (h : k.Wired w) (hs : w.Spares k w') : k.Wired w' := h.moves hs rfl

/-- The session can be asked for its delay and for the identity. -/
theorem askable (h : k.Wired w) : Askable k.registry k.session (w.Spares k) where
  sane _ hs := hs.sane h.sane
  registry _ hs := (h.spares hs).registry
  served _ _ hserved hs := hs.trans (.of_served hserved)
  clock depth w' hs := hs.trans ((h.spares hs).clock depth w')

end RecordedSession.Wired

/-! ## Collecting -/

/-- What an identity says of itself in a collection: its id, its version and its system. -/
def stampOf (call : Caller) (identity : Value) : Action (Value × Value × Value) := do
  let id ← answerOf call identity .id
  let version ← answerOf call identity .version
  let os ← answerOf call identity .os
  return (id, version, os)

/-- What a run finds out, one question after the other: it looks up the identity, asks for the
delay until the next run, and reads the fields of the identity. It notes nothing if there is no
identity, or if a field cannot be read. -/
inductive Noting (call : Caller) (s : Ref .session) (w : World) : Except Fault Collection → Prop
  | unfound {fault : Fault} (lookup : w.outcome (currentIdentity call s) = .error fault) :
      Noting call s w (.error fault)
  | unread {identity delay : Value} {fault : Fault}
      (lookup : w.outcome (currentIdentity call s) = .ok identity)
      (asked : (w.after (currentIdentity call s)).outcome (nextDailyDelay call s) = .ok delay)
      (fields : ((w.after (currentIdentity call s)).after (nextDailyDelay call s)).outcome
        (stampOf call identity) = .error fault) :
      Noting call s w (.error fault)
  | noted {identity delay id version os : Value} (serial : Nat)
      (lookup : w.outcome (currentIdentity call s) = .ok identity)
      (asked : (w.after (currentIdentity call s)).outcome (nextDailyDelay call s) = .ok delay)
      (fields : ((w.after (currentIdentity call s)).after (nextDailyDelay call s)).outcome
        (stampOf call identity) = .ok (id, version, os)) :
      Noting call s w (.ok
        ⟨serial, (w.row s : Session).collections.length + 1, delay, id, version, os⟩)

/-- What is kept of what a run found out. -/
def Collection.kept? : Except Fault Collection → Option Value
  | .ok collection => some collection.toValue
  | .error _ => none

/-- The delay until the next run is a number when the session is asked for it. -/
def World.Prompt (w : World) (call : Caller) (s : Ref .session) : Prop :=
  ∃ delay x, w.outcome (nextDailyDelay call s) = .ok delay ∧ delay.float? = some (some x)

theorem gather_eq (call : Caller) (s : Ref .session) :
    gather call s = (do
      let identity ← askSession call s .currentIdentity (currentIdentity call)
      let length ← (do lengthOf (← readAttribute call (.ofRef s) "collections"))
      let delay ← askDelay call s
      let stamp ← stampOf call identity
      return ⟨← freshSerial, length + 1, delay, stamp.1, stamp.2.1, stamp.2.2⟩) := by
  simp only [gather, stampOf, bind_assoc, pure_bind]

/-- A run that is begun finds out what there is to find out, or fails because there is no delay to
be told. -/
theorem Sane.noting {r : Ref .registry} {s : Ref .session} {w : World} (h : Sane r w)
    (hr : (w.row s : Session).registry = .ofRef r) (call : Caller) :
    (∃ identity fault, w.outcome (currentIdentity call s) = .ok identity ∧
      (w.after (currentIdentity call s)).outcome (nextDailyDelay call s) = .error fault ∧
      w.outcome (gather call s) = .error fault) ∨
    Noting call s w (w.outcome (gather call s)) := by
  have hlookup : w.run (askSession call s .currentIdentity (currentIdentity call)) =
      w.run (currentIdentity call s) := h.intact.run_request _ s [] _ rfl
  have hgathered : w.outcome (gather call s) = (w.run _).1 :=
    congrArg (fun a => (w.run a).1) (gather_eq call s)
  cases hfound : w.outcome (currentIdentity call s) with
  | error fault =>
    rw [World.run_eq w (currentIdentity call s), hfound] at hlookup
    rw [World.run_bind, hlookup] at hgathered
    rw [hgathered]
    exact .inr (.unfound hfound)
  | ok identity =>
    rw [World.run_eq w (currentIdentity call s), hfound] at hlookup
    have hserved : w.Served (w.after (currentIdentity call s)) :=
      h.served_identityService hr call .runtime
    generalize hw₁ : w.after (currentIdentity call s) = w₁ at hserved hlookup ⊢
    have hintact := hserved.intact h.intact
    have hlength : w₁.run (do lengthOf (← readAttribute call (.ofRef s) "collections")) =
        (.ok (w.row s : Session).collections.length, w₁) := by
      rw [World.run_bind_of_run (hintact.run_readAttribute_collections _ _),
        ← hserved.row_session s]
      rfl
    have hdelay : w₁.run (askDelay call s) = w₁.run (nextDailyDelay call s) :=
      hintact.run_request _ s [] _ rfl
    rw [World.run_bind_of_run hlookup, World.run_bind_of_run hlength] at hgathered
    rw [World.run_eq w₁ (nextDailyDelay call s)] at hdelay
    cases hasked : w₁.outcome (nextDailyDelay call s) with
    | error fault =>
      rw [hasked] at hdelay
      rw [World.run_bind, hdelay] at hgathered
      exact .inl ⟨identity, fault, rfl, rfl, hgathered⟩
    | ok delay =>
      rw [hasked] at hdelay
      rw [World.run_bind_of_run hdelay, World.run_bind, World.run_eq] at hgathered
      rw [hgathered]
      subst hw₁
      cases hstamp : ((w.after (currentIdentity call s)).after (nextDailyDelay call s)).outcome
          (stampOf call identity) with
      | error fault => exact .inr (.unread hfound hasked hstamp)
      | ok stamp =>
        obtain ⟨id, version, os⟩ := stamp
        exact .inr (.noted _ hfound hasked hstamp)

namespace RecordedSession.Wired

variable {k : RecordedSession} {w : World} (h : k.Wired w) (depth : Nat)
include h

theorem spares_gather : w.Spares k (w.after (gather (invokeWithin depth) k.session)) :=
  h.askable.keeps_gather depth w (.refl w)

/-- As long as the delay is there to be told, a run finds out what there is to find out. -/
theorem noting
    (hprompt : ∀ identity,
      w.outcome (currentIdentity (invokeWithin depth) k.session) = .ok identity →
        (w.after (currentIdentity (invokeWithin depth) k.session)).Prompt (invokeWithin depth)
          k.session) :
    Noting (invokeWithin depth) k.session w
      (w.outcome (gather (invokeWithin depth) k.session)) := by
  refine (h.sane.noting h.registry _).resolve_left ?_
  rintro ⟨identity, fault, hfound, hfault, _⟩
  obtain ⟨delay, _, hasked, _⟩ := hprompt identity hfound
  cases hasked.symm.trans hfault

/-- What was found out is kept, and nothing else happens. -/
theorem moves_collectDaily :
    w.Moves k (w.after (collectDaily (invokeWithin depth) k.session))
      { (w.row k.session : Session) with
        collections := (w.row k.session : Session).collections ++
          (Collection.kept? (w.outcome (gather (invokeWithin depth) k.session))).toList }
      (w.row k.recorder) := by
  have hspares := h.spares_gather depth
  have hintact := (hspares.sane h.sane).intact
  rw [collectDaily_eq]
  cases hgathered : w.outcome (gather (invokeWithin depth) k.session) with
  | error fault =>
    rw [World.after, World.run_bind_of_error hgathered]
    have hnone : (w.row k.session : Session).collections ++
        (Collection.kept? (.error fault)).toList = (w.row k.session : Session).collections :=
      List.append_nil _
    rw [hnone]
    exact hspares
  | ok collection =>
    rw [World.after_bind_of_ok hgathered]
    generalize w.after (gather (invokeWithin depth) k.session) = w₁ at hspares hintact
    have hkept := hintact.alike_keepCollection (invokeWithin depth) k.session collection
    have hcollected := World.Moves.withRow_session (k := k) w₁
      { (w₁.row k.session : Session) with
        collections := (w₁.row k.session : Session).collections ++ [collection.toValue] }
    rw [hspares.session, hspares.recorder] at hcollected
    refine World.Moves.spares (World.Moves.trans hspares hcollected) (.of_alike ?_)
    rw [← hspares.session]
    exact hkept

end RecordedSession.Wired

/-- A run that finds nothing out fails as it failed to. -/
theorem outcome_collectDaily_error {call : Caller} {s : Ref .session} {w : World} {fault : Fault}
    (h : w.outcome (gather call s) = .error fault) :
    w.outcome (collectDaily call s) = .error fault := by
  rw [collectDaily_eq, World.outcome, World.run_bind_of_error h]

/-- What is told of a collection can be told. -/
def World.Words (w : World) (collection : Collection) : Prop :=
  ∀ v ∈ [collection.appId, collection.appVersion, collection.os], ∃ text, w.display v = .ok text

/-- The state in which a run tells of what it has added, after it has found that out. -/
def World.telling (w : World) (call : Caller) (s : Ref .session) (collection : Collection) :
    World :=
  (w.after (gather call s)).collected s collection.toValue

/-- A value that is shown has a text, or nothing comes after it. -/
theorem World.outcome_shown_bind {α : Type} (w : World) (v : Value) (f : String → Action α) :
    (∃ text, w.display v = .ok text ∧ w.run (shown v >>= f) = w.run (f text)) ∨
      ∃ fault, w.display v = .error fault ∧ w.outcome (shown v >>= f) = .error fault := by
  have hrun := World.run_shown w v
  cases hshown : w.display v with
  | ok text =>
    rw [hshown] at hrun
    exact .inl ⟨text, rfl, World.run_bind_of_run hrun⟩
  | error fault =>
    refine .inr ⟨fault, rfl, ?_⟩
    rw [World.outcome, World.run_bind, hrun, hshown]

/-- What was noted is kept, and then told. It is the telling that can fail. -/
theorem World.Intact.keepCollection_cases {w : World} (hw : w.Intact) (call : Caller)
    (s : Ref .session) (collection : Collection) :
    (w.collected s collection.toValue).Words collection ∧
        w.outcome (keepCollection call s collection) = .ok collection.toValue ∨
      ¬(w.collected s collection.toValue).Words collection ∧
        ∃ fault, w.outcome (keepCollection call s collection) = .error fault := by
  let kept : World := w.collected s collection.toValue
  have happend : w.run (appendTo call (.list (.collections s)) collection.toValue) =
      (.ok (), kept) := rfl
  have huntold {v : Value} {fault : Fault} (hfault : kept.display v = .error fault)
      (hv : v ∈ [collection.appId, collection.appVersion, collection.os]) :
      ¬kept.Words collection := by
    intro hwords
    obtain ⟨text, htext⟩ := hwords v hv
    cases hfault.symm.trans htext
  rw [keepCollection, World.outcome, World.run_bind_of_run (hw.run_readAttribute_collections _ s),
    World.run_bind_of_run happend]
  rcases kept.outcome_shown_bind collection.appId _ with ⟨id, hid, hrun⟩ | ⟨fault, hid, hfault⟩
  · rw [hrun]
    rcases kept.outcome_shown_bind collection.appVersion _ with
      ⟨version, hversion, hrun⟩ | ⟨fault, hversion, hfault⟩
    · rw [hrun]
      rcases kept.outcome_shown_bind collection.os _ with ⟨os, hos, hrun⟩ | ⟨fault, hos, hfault⟩
      · rw [hrun]
        refine .inl ⟨?_, rfl⟩
        simp only [World.Words, List.forall_mem_cons, List.not_mem_nil, false_implies, implies_true,
          and_true]
        exact ⟨⟨id, hid⟩, ⟨version, hversion⟩, ⟨os, hos⟩⟩
      · exact .inr ⟨huntold hos (by simp), fault, hfault⟩
    · exact .inr ⟨huntold hversion (by simp), fault, hfault⟩
  · exact .inr ⟨huntold hid (by simp), fault, hfault⟩

/-- Texts can be told. -/
theorem World.words_of_texts (w : World) {collection : Collection}
    (htexts : ∀ v ∈ [collection.appId, collection.appVersion, collection.os], v.text? ≠ none) :
    w.Words collection := by
  intro v hv
  obtain ⟨_, htext⟩ := Option.ne_none_iff_exists'.1 (htexts v hv)
  obtain ⟨text, hshown⟩ := World.display_of_text? htext
  exact ⟨text, hshown w⟩

/-- A run that has found something out does not fail if that can be told, and fails otherwise. -/
theorem RecordedSession.Wired.collectDaily_cases {k : RecordedSession} {w : World} (h : k.Wired w)
    (depth : Nat) {collection : Collection}
    (hgathered : w.outcome (gather (invokeWithin depth) k.session) = .ok collection) :
    (w.telling (invokeWithin depth) k.session collection).Words collection ∧
        w.outcome (collectDaily (invokeWithin depth) k.session) = .ok collection.toValue ∨
      ¬(w.telling (invokeWithin depth) k.session collection).Words collection ∧
        ∃ fault, w.outcome (collectDaily (invokeWithin depth) k.session) = .error fault := by
  have hintact := ((h.spares_gather depth).sane h.sane).intact
  rw [collectDaily_eq, World.outcome, World.run_bind, World.run_eq, hgathered]
  exact hintact.keepCollection_cases _ k.session collection

end Understudy

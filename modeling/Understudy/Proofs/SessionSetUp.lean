import Understudy.Proofs.DailyCycle

/-!
# Setting a session up

Setting up gives a session a policy with the hooks of its bank. An injector puts other
hooks in their place.

## Main statements

* `Tended.setUp`: setting up keeps a session tended.
* `Tended.overrideScheduling`: so does replacing the hooks, by hooks that can cancel or while
  there is no timer.
-/

namespace Understudy

/-! ## Telling the session's id -/

/-- Two states that differ in what asking changes, and in the annotations of one component, at
most. The component is put over what it was put over before. -/
inductive World.Told (w w' : World) : Prop
  | served (served : w.Served w')
  | noted {asked : World} {c : Ref .component} {component : Component} (served : w.Served asked)
      (there : c.index < asked.components.size)
      (base : component.fallback? = (asked.row c : Component).fallback?)
      (written : w' = asked.withRow c component)

namespace World.Told

variable {w w' w'' : World} (h : w.Told w')
include h

/-- Nothing else is different. -/
theorem frame : w' = { w with
    components := w'.components, providers := w'.providers, log := w'.log,
    nextSerial := w'.nextSerial } := by
  cases h with
  | served served => rw [served.frame]
  | noted served _ _ written =>
    rw [written, served.frame]
    rfl

theorem alike (hlike : w'.Alike w'') : w.Told w'' := by
  cases h with
  | served served => exact .served (served.trans (.of_alike hlike))
  | noted served there base written =>
    obtain ⟨log, serial, rfl⟩ := hlike
    subst written
    exact .noted (served.trans (.of_alike ⟨log, serial, rfl⟩)) there base rfl

theorem row_registry (r : Ref .registry) : w'.row r = (w.row r : Registry) := by
  rw [h.frame]
  rfl

theorem intact (hw : w.Intact) : w'.Intact := hw.congr (by rw [h.frame])

theorem things : w.Extends w' := by
  cases h with
  | served served => exact .of_served served
  | noted served there base written =>
    exact written ▸ (World.Extends.of_served served).trans (.withRow_component there base)

theorem untouched (reg : Ref .registry) (s : Ref .session) : w.Untouched reg s w' where
  toSteady := .of_eq (fun hs => ⟨h.intact hs.intact, h.row_registry reg ▸ hs.sound⟩)
    (by rw [h.frame]) (by rw [h.frame])
  timelines := by rw [h.frame]
  session := by
    rw [h.frame]
    rfl

end World.Told

section

variable {reg : Ref .registry} {s : Ref .session} {t : Ref .timeline} {w w' : World}

/-- The annotations of a reporter are read where they are kept. -/
theorem World.Intact.run_readAttribute_notes (hw : w.Intact) (call : Caller) {c : Ref .component}
    {serial : Nat} {capabilities : List Value} {notes : Dict} {fails : Value}
    (hc : w.row c = Component.reporter serial capabilities notes fails) :
    w.run (readAttribute call (.ofRef c) "notes") = (.ok (.dict (.notes c)), w) := by
  have hget : w.components.get c.index = .reporter serial capabilities notes fails := hc
  have hnone : w.assigned? c.object "notes" = none := hw _ _ (.inr (by simp))
  refine run_readAttribute_held call ?_
  show w.lookComponent c.index "notes" = _
  rw [World.lookComponent, hget]
  show w.lookObject c.object "notes" = _
  have hheld : w.held? c.object "notes" = some (.dict (.notes c)) := by
    show (w.components.get c.index).held? c "notes" = _
    rw [hget]
    rfl
  unfold World.lookObject
  rw [hnone, hheld]
  rfl

/-- An overlay takes any annotation under a text. -/
theorem World.run_annotate_overlay (call : Caller) {c : Ref .component} {layer : Overlay}
    (hc : w.row c = Component.overlay layer) {key : Value} {text : String}
    (hs : key.text? = some text) (data : Value) :
    w.run (annotate call c key data) = (.ok (), w.withRow c
      (.overlay { layer with annotations := layer.annotations.put key data })) := by
  rw [annotate, World.run_bind_of_run (World.run_fetch w c), hc]
  simp only [hs]
  rfl

/-- Only a component that is there takes notes. -/
theorem Component.lt_size_of_takesNotes {c : Ref .component}
    (h : (w.row c : Component).takesNotes = true) : c.index < w.components.size := by
  refine World.lt_size_of_row fun hrow => ?_
  rw [hrow] at h
  cases h

/-- What takes annotations takes the request for one. -/
theorem Component.takes_annotate {c : Ref .component}
    (h : (w.row c : Component).takesNotes = true) :
    (w.methods c.object).contains .annotate = true := by
  show ((w.row c : Component).methods).contains .annotate = true
  revert h
  cases (w.row c : Component) <;> first | exact fun _ => rfl | exact fun hno => nomatch hno

/-- An annotation changes no more than the component that takes it. -/
theorem World.Served.told_annotate (hs : w.Served w') (hw : w'.Intact) (call : Caller)
    {c : Ref .component} (htakes : (w'.row c : Component).takesNotes = true) (key data : Value)
    (hk : key.unhashable? = none) : w.Told (w'.after (annotate call c key data)) := by
  have hthere := Component.lt_size_of_takesNotes htakes
  rw [annotate, World.after_bind_of_run (World.run_fetch w' c)]
  cases hc : (w'.row c : Component) with
  | overlay layer =>
    cases key.text? with
    | some text => exact .noted hs hthere (by rw [hc]; rfl) rfl
    | none => exact .served hs
  | reporter serial capabilities notes fails =>
    show w.Told (w'.after (get >>= fun _ => _))
    rw [World.after_bind_of_run (World.run_get w')]
    split
    · exact .served hs
    · rw [World.after_bind_of_run (hw.run_readAttribute_notes call hc),
        World.after_of_run (World.run_setItem_dict w' _ data hk)]
      have hwritten (pairs : Dict) : w'.withPairs (.notes c) pairs =
          w'.withRow c (.reporter serial capabilities pairs fails) := by
        simp only [World.withPairs, hc]
      exact .noted hs hthere (by rw [hc]; rfl) (hwritten _)
  | _ => exact .served hs

/-- Telling the id of a session is asking for the identity, and then an annotation, if what was
found takes any. -/
theorem Sane.annotateSession_cases (h : Sane reg w)
    (hr : (w.row s : Session).registry = .ofRef reg) (call : Caller) :
    w.Served (w.after (annotateSession call s)) ∨
      ∃ (asked : World) (c : Ref .component) (data : Value), w.Served asked ∧
        (asked.row c : Component).takesNotes = true ∧
        w.after (annotateSession call s) =
          asked.after (annotate call c (.ofText sessionIdKey) data) := by
  rw [annotateSession, World.after_bind_of_run (World.run_attempt w _)]
  have hserved := h.served_identityService hr call .crashReporter
  have hintact := hserved.intact h.intact
  revert hserved hintact
  generalize w.after (identityService call s .crashReporter) = w₁
  intro hserved hintact
  split
  · exact .inl (hserved.trans (.of_alike (Quiet.emit _ _ _ _ _)))
  · exact .inl hserved
  · rename_i reporter _
    cases hc : reporter.ref? .component with
    | none => exact .inl hserved
    | some c =>
      obtain rfl := Value.eq_ofRef_of_ref? hc
      dsimp only
      rw [World.after_bind_of_run (World.run_fetch w₁ s),
        World.after_bind_of_run (World.run_fetch w₁ c), World.after_bind_of_run (World.run_get w₁)]
      split
      · rename_i htakes
        have hnotes : (w₁.row c : Component).takesNotes = true := (Bool.and_eq_true_iff.1 htakes).1
        refine .inr ⟨w₁, c, (w₁.row s : Session).sessionId, hserved, hnotes, ?_⟩
        rw [World.after_bind_pure _ _ fun _ => (), World.after,
          hintact.run_request call c _ _ (Component.takes_annotate hnotes), run_nothing]
      · exact .inl hserved

/-- Telling the id of a session changes at most the component that it is told to. -/
theorem Sane.told_annotateSession (h : Sane reg w)
    (hr : (w.row s : Session).registry = .ofRef reg) (call : Caller) :
    w.Told (w.after (annotateSession call s)) := by
  rcases h.annotateSession_cases hr call with hserved | ⟨asked, c, data, hserved, htakes, hafter⟩
  · exact .served hserved
  · rw [hafter]
    exact hserved.told_annotate (hserved.intact h.intact) call htakes _ _ rfl

end

/-! ## Setting up -/

/-- The state in which a session has been given a policy. -/
def World.provided (w : World) (s : Ref .session) (policy : Policy) : World :=
  World.withRow { w with policies := w.policies.push policy } s
    { (w.row s : Session) with policy := .ofRef (⟨w.policies.size⟩ : Ref .policy) }

/-- Gives a session an id and tells it. -/
def identify (call : Caller) (s : Ref .session) : Action Value := do
  let sessionId ← freshSessionId
  update s fun session => { session with sessionId := sessionId }
  let _ ← askSession call s .annotateSession fun s => nothing (annotateSession call s)
  let session ← fetch s
  debug sessionLogger ("Daily session " ++ (← shown session.sessionId) ++ " initialized")
  return session.policy

/-- Setting up is giving a policy, and then an id, unless there is a policy. -/
theorem setUp_eq (call : Caller) (s : Ref .session) :
    setUp call s = (do
      let session ← fetch s
      if !session.policy.isNone then return session.policy
      let arm ← readAttribute call session.timers Method.arm.word
      let cancel ← readAttribute call session.timers Method.cancel.word
      let policy ← newPolicy arm cancel
      update s fun session => { session with policy := .ofRef policy }
      identify call s) := rfl

section

variable {reg : Ref .registry} {s : Ref .session} {t : Ref .timeline} {w w' : World}

/-- A session that has a policy gives it back, and nothing changes. -/
theorem World.run_setUp_kept (w : World) (call : Caller)
    (h : (w.row s : Session).policy.isNone = false) :
    w.run (setUp call s) = (.ok (w.row s : Session).policy, w) := by
  rw [setUp_eq, World.run_bind_of_run (World.run_fetch w s), h]
  rfl

/-- The hooks of a bank are made anew when they are read. -/
theorem World.Intact.run_readAttribute_hook (hw : w.Intact) (call : Caller) (b : Ref .bank)
    {m : Method} (hm : m = .arm ∨ m = .cancel) :
    w.run (readAttribute call (.ofRef b) m.word) =
      (.ok (.function w.nextSerial (.method b.object m)),
        { w with nextSerial := w.nextSerial + 1 }) := by
  refine run_readAttribute_made call ?_
  have hlook : w.look (.ofRef b) m.word = w.lookObject b.object m.word := by
    rcases hm with rfl | rfl <;> rfl
  rw [hlook, World.lookObject, hw.assigned?_word]
  rcases hm with rfl | rfl <;> rfl

/-- Hooks that can be called make a policy. -/
theorem run_newPolicy {arm cancel : Value} (h : checkHooks w arm cancel = .ok ()) :
    w.run (newPolicy arm cancel) = (.ok ⟨w.policies.size⟩,
      { w with
        nextSerial := w.nextSerial + 1
        policies := w.policies.push ⟨w.nextSerial, arm, cancel⟩ }) := by
  simp only [newPolicy, World.run_bind, World.run_get, World.run_orFail, h, World.run_freshSerial,
    World.run_store]
  rfl

/-- Setting up a session without a policy is giving it the hooks of its bank, and then an id. -/
theorem World.Intact.run_setUp (hw : w.Intact) (call : Caller) {b : Ref .bank}
    (hb : (w.row s : Session).timers = .ofRef b) (hnone : (w.row s : Session).policy = .none) :
    ∃ (w₁ : World) (serial i j : Nat), w.Alike w₁ ∧
      w.run (setUp call s) =
        (w₁.provided s ⟨serial, .function i (.method b.object .arm),
          .function j (.method b.object .cancel)⟩).run (identify call s) := by
  let w₁ : World := { w with nextSerial := w.nextSerial + 1 }
  let w₂ : World := { w with nextSerial := w.nextSerial + 1 + 1 }
  have hw₁ : w₁.Intact := hw.congr rfl
  have hpolicy : w₂.run (newPolicy (.function w.nextSerial (.method b.object .arm))
      (.function (w.nextSerial + 1) (.method b.object .cancel))) = _ := run_newPolicy rfl
  refine ⟨{ w with nextSerial := w.nextSerial + 1 + 1 + 1 }, w.nextSerial + 1 + 1, w.nextSerial,
    w.nextSerial + 1, ⟨w.log, _, rfl⟩, ?_⟩
  rw [setUp_eq, World.run_bind_of_run (World.run_fetch w s), hnone, if_neg (by decide), hb,
    World.run_bind_of_run (hw.run_readAttribute_hook call b (.inl rfl)),
    World.run_bind_of_run (hw₁.run_readAttribute_hook call b (.inr rfl)),
    World.run_bind_of_run hpolicy, World.run_bind_of_run (World.run_update _ s _)]
  rfl

theorem World.Intact.after_setUp (hw : w.Intact) (call : Caller) {b : Ref .bank}
    (hb : (w.row s : Session).timers = .ofRef b) (hnone : (w.row s : Session).policy = .none) :
    ∃ (w₁ : World) (serial i j : Nat), w.Alike w₁ ∧
      w.after (setUp call s) =
        (w₁.provided s ⟨serial, .function i (.method b.object .arm),
          .function j (.method b.object .cancel)⟩).after (identify call s) := by
  obtain ⟨w₁, serial, i, j, hlike, hrun⟩ := hw.run_setUp call hb hnone
  exact ⟨w₁, serial, i, j, hlike, congrArg Prod.snd hrun⟩

/-- A new policy, and a session that has it, change nothing else that counts. -/
theorem World.Steady.provided (w : World) (s : Ref .session) (policy : Policy) :
    w.Steady reg (w.provided s policy) where
  sane hs := ⟨hs.intact.congr rfl, hs.sound⟩
  morePolicies := by
    show w.policies.size ≤ (w.policies.push policy).size
    rw [Table.size_push]
    exact Nat.le_succ _
  policy p hp := Table.get_push_of_lt _ hp _
  bank _ _ hb := hb

/-- A session without a policy is given hooks. -/
theorem Equipped.provided (h : Equipped reg s t w) {policy : Policy}
    (hhooked : w.Hooked t policy.arm policy.cancel) : Equipped reg s t (w.provided s policy) := by
  have hsession : (w.provided s policy).row s =
      { (w.row s : Session) with policy := .ofRef (⟨w.policies.size⟩ : Ref .policy) } :=
    World.row_withRow_self _ s _
  have hsteady : w.Steady reg (w.provided s policy) := .provided w s policy
  have hrow : (w.provided s policy).row (⟨w.policies.size⟩ : Ref .policy) = policy :=
    (Table.get_push _ _ _).trans (if_pos rfl)
  refine ⟨hsteady.sane h.sane, ?_, ?_, ?_, .inr ⟨⟨w.policies.size⟩, ?_, ?_, ?_⟩⟩
  · rw [hsession]
    exact h.registry
  · rw [hsession]
    exact h.clock
  · rw [hsession]
    exact h.timers
  · rw [hsession]
  · show w.policies.size < (w.policies.push policy).size
    rw [Table.size_push]
    exact Nat.lt_succ_self _
  · rw [hrow]
    exact hhooked.of_banks fun b hb => hb

/-- The state in which a session has been given an id. -/
def World.named (w : World) (s : Ref .session) (sessionId : Value) : World :=
  World.withRow { w with issued := w.issued + 1, nextSerial := w.nextSerial + 1 } s
    { (w.row s : Session) with sessionId := sessionId }

theorem Value.exists_renewed_text (serial k : Nat) (s : String) :
    ∃ k', (Value.text k s).renewed serial = .text k' s := by
  unfold Value.renewed
  split
  · exact ⟨k, rfl⟩
  · exact ⟨serial, rfl⟩

/-- The next id that is given out. -/
def World.nextId (w : World) : Value := (Value.ofText (sessionIdText w.issued)).renewed w.nextSerial

theorem World.exists_nextId (w : World) : ∃ k, w.nextId = .text k (sessionIdText w.issued) :=
  Value.exists_renewed_text w.nextSerial 0 (sessionIdText w.issued)

/-- What comes after a session has told its id. -/
def concludeIdentify (s : Ref .session) : Action Value := do
  let session ← fetch s
  debug sessionLogger ("Daily session " ++ (← shown session.sessionId) ++ " initialized")
  return session.policy

/-- A session that is given an id keeps it before it tells it. -/
theorem World.Intact.run_identify (hw : w.Intact) (call : Caller) :
    w.run (identify call s) = (w.named s w.nextId).run (do
      annotateSession call s
      concludeIdentify s) := by
  let named : World := w.named s w.nextId
  have hissued : w.run freshSessionId = (.ok w.nextId,
      { w with issued := w.issued + 1, nextSerial := w.nextSerial + 1 }) := rfl
  have hnamed : named.Intact := hw.congr rfl
  have hask : named.run (askSession call s .annotateSession
      fun s => nothing (annotateSession call s)) = named.run (nothing (annotateSession call s)) :=
    hnamed.run_request _ s [] _ rfl
  rw [identify, World.run_bind_of_run hissued, World.run_bind_of_run (World.run_update _ s _)]
  show named.run _ = named.run _
  cases hannotated : named.outcome (annotateSession call s) with
  | error fault =>
    have hstop : named.run (nothing (annotateSession call s)) =
        (.error fault, named.after (annotateSession call s)) := World.run_bind_of_error hannotated
    rw [World.run_bind_of_error hannotated, World.run_bind_of_error
      (World.outcome_of_run (hask.trans hstop)), World.after_of_run (hask.trans hstop)]
  | ok _ =>
    have htold : named.run (annotateSession call s) =
        (.ok (), named.after (annotateSession call s)) := by rw [World.run_eq, hannotated]
    have hgo : named.run (nothing (annotateSession call s)) =
        (.ok .none, named.after (annotateSession call s)) := World.run_bind_of_run htold
    rw [World.run_bind_of_run (hask.trans hgo), World.run_bind_of_run htold]
    rfl

/-- What is left of giving a session an id is what telling it leaves. -/
theorem World.Intact.alike_identify (hw : w.Intact) (call : Caller) :
    ((w.named s w.nextId).after (annotateSession call s)).Alike (w.after (identify call s)) := by
  have hquiet : Quiet (concludeIdentify s) :=
    (Quiet.fetch s).bind fun _ => (Quiet.shown _).bind fun _ =>
      (Quiet.emit _ _ _ _).bind fun _ => Quiet.pure _
  rw [World.after_of_run (hw.run_identify call)]
  exact World.after_bind_cases (fun _ _ => .refl _) fun _ _ => hquiet _

/-- To give a session an id fails where telling it does, and only there, if the session itself is
not changed by it. -/
theorem World.Intact.outcome_identify (hw : w.Intact) (call : Caller)
    (hkept : ((w.named s w.nextId).after (annotateSession call s)).row s =
      ((w.named s w.nextId).row s : Session)) :
    (∃ fault, (w.named s w.nextId).outcome (annotateSession call s) = .error fault ∧
        w.outcome (identify call s) = .error fault) ∨
      (w.named s w.nextId).outcome (annotateSession call s) = .ok () ∧
        ∃ v, w.outcome (identify call s) = .ok v := by
  obtain ⟨k, hk⟩ := w.exists_nextId
  have hidentify : w.outcome (identify call s) = (w.named s w.nextId).outcome (do
      annotateSession call s
      concludeIdentify s) := congrArg Prod.fst (hw.run_identify call)
  have hrun := World.run_eq (w.named s w.nextId) (annotateSession call s)
  rw [hidentify]
  revert hrun hkept
  generalize (w.named s w.nextId).after (annotateSession call s) = told
  intro hkept hrun
  cases hannotated : (w.named s w.nextId).outcome (annotateSession call s) with
  | error fault =>
    exact .inl ⟨fault, rfl, World.outcome_of_run (World.run_bind_of_error hannotated)⟩
  | ok _ =>
    rw [hannotated] at hrun
    have hid : told.run (shown (told.row s : Session).sessionId) =
        (.ok (sessionIdText w.issued), told) := by
      rw [hkept, World.named, World.row_withRow_self]
      dsimp only
      rw [hk, World.run_shown, World.display_text]
    refine .inr ⟨rfl, (told.row s : Session).policy, ?_⟩
    rw [World.outcome, World.run_bind_of_run hrun, concludeIdentify,
      World.run_bind_of_run (World.run_fetch told s), World.run_bind_of_run hid]
    rfl

/-- A session is given an id, and tells it. -/
theorem Sane.told_identify (h : Sane reg w) (hr : (w.row s : Session).registry = .ofRef reg)
    (call : Caller) : (w.named s w.nextId).Told (w.after (identify call s)) := by
  have hnamed : Sane reg (w.named s w.nextId) := ⟨h.intact.congr rfl, h.sound⟩
  have hregistry : ((w.named s w.nextId).row s : Session).registry = .ofRef reg :=
    (congrArg Session.registry (World.row_withRow_self _ s _)).trans hr
  exact (hnamed.told_annotateSession hregistry call).alike (h.intact.alike_identify call)

/-- Giving a session an id changes nothing that its timer depends on. -/
theorem Equipped.filled_identify (h : Equipped reg s t w) (call : Caller) :
    w.Filled reg s (w.after (identify call s)) := by
  have hnamed (sessionId : Value) : w.Filled reg s (w.named s sessionId) := by
    refine ⟨.of_eq (fun hs => ⟨hs.intact.congr rfl, hs.sound⟩) rfl rfl, rfl, ?_⟩
    rw [World.named, World.row_withRow_self]
    rfl
  exact (hnamed w.nextId).trans ((h.sane.told_identify h.registry call).untouched reg s).filled

end

namespace Tended

variable {guarded : Prop} {reg : Ref .registry} {s : Ref .session} {t : Ref .timeline}
  {w : World}

/-- A session that is given hooks has no timer yet. -/
theorem provided (h : Tended guarded reg s t w) (hnone : (w.row s : Session).policy = .none)
    {policy : Policy} (hhooked : w.Hooked t policy.arm policy.cancel) :
    Tended guarded reg s t (w.provided s policy) := by
  have hsession : (w.provided s policy).row s =
      { (w.row s : Session) with policy := .ofRef (⟨w.policies.size⟩ : Ref .policy) } :=
    World.row_withRow_self _ s _
  have hhandle := h.stopped (h.unready hnone)
  refine
    { equipped := h.equipped.provided hhooked
      running := ?_
      unready := fun hno => ?_
      others := h.others
      awaits := fun t' seq => ?_
      handle := .inl ?_
      stopped := fun _ => ?_
      cancels := fun _ hno => absurd ?_ hno }
  all_goals rw [hsession]
  · exact h.running
  · rw [hsession] at hno
    cases hno
  · exact h.awaits t' seq
  all_goals exact hhandle

/-- Setting up keeps a session tended, and neither starts nor stops it. -/
theorem setUp (h : Tended guarded reg s t w) (call : Caller) :
    Tended guarded reg s t (w.after (setUp call s)) ∧
      ((w.after (Understudy.setUp call s)).row s : Session).running =
        (w.row s : Session).running := by
  rcases h.equipped.policy with hnone | ⟨p, hp, _⟩
  · obtain ⟨b, hb, hon⟩ := h.equipped.timers
    obtain ⟨w₁, serial, i, j, hlike, hafter⟩ := h.equipped.sane.intact.after_setUp call hb hnone
    have h₁ : Tended guarded reg s t w₁ := h.alike hlike
    have hsession : w₁.row s = (w.row s : Session) := by
      obtain ⟨_, _, rfl⟩ := hlike
      rfl
    have hhooked : w₁.Hooked t (.function i (.method b.object .arm))
        (.function j (.method b.object .cancel)) := by
      obtain ⟨_, _, rfl⟩ := hlike
      exact .banked i j hon
    have h₂ : Tended guarded reg s t (w₁.provided s ⟨serial, _, _⟩) :=
      h₁.provided (hsession ▸ hnone) hhooked
    have hfilled := h₂.equipped.filled_identify call
    rw [hafter]
    refine ⟨h₂.filled hfilled, (congrArg Session.running hfilled.session).trans ?_⟩
    show ((w₁.provided s _).row s : Session).running = _
    rw [World.provided, World.row_withRow_self, hsession]
  · rw [setUp_eq, World.after_bind_of_run (World.run_fetch w s), hp]
    exact ⟨h, rfl⟩

end Tended

/-! ## Replacing the hooks -/

/-- The state in which a policy has been given other hooks. -/
def World.rehooked (w : World) (p : Ref .policy) (policy : Policy) : World :=
  (w.withoutAssigned p.object hooksName).withRow p policy

/-- The hooks that a session is given can be called. -/
theorem World.Hooked.checkHooks {w : World} {t : Ref .timeline} {arm cancel : Value}
    (h : w.Hooked t arm cancel) (w' : World) : checkHooks w' arm cancel = .ok () := by
  cases h <;> rfl

/-- The idle hooks can be called. -/
theorem idle_checkHooks (w : World) :
    checkHooks w (.function 0 .idleArm) (.function 0 .idleCancel) = .ok () := rfl

/-- The hooks of a policy are replaced as a pair. -/
theorem World.Intact.run_setScheduler {w : World} (hw : w.Intact) {arm cancel : Value}
    (h : Understudy.checkHooks w arm cancel = .ok ()) (p : Ref .policy) :
    w.run (setScheduler p arm cancel) =
      (.ok (w.hooksOf p), World.rehooked { w with nextSerial := w.nextSerial + 1 } p
        ⟨w.nextSerial, arm, cancel⟩) := by
  simp only [setScheduler, run_bind, run_get, run_orFail, h, hw.run_enter, run_modify]
  rfl

/-- The policy of a session is what the session has for one. -/
theorem World.Intact.run_policyOf {w : World} (hw : w.Intact) (call : Caller) (s : Ref .session) :
    w.run (policyOf call (.ofRef s)) = (.ok (w.row s : Session).policy, w) :=
  (hw.run_request call s [] _ rfl).trans rfl

/-- The name of the subsystem is that of the session. -/
theorem run_subsystemName {w : World} (call : Caller) {s : Ref .session}
    (hs : w.assigned? s.object "subsystem_name" = none) :
    w.run (subsystemName call (.ofRef s)) = (.ok (.ofText "DailySession"), w) := by
  refine run_readAttribute_held call ?_
  show w.lookObject s.object "subsystem_name" = _
  unfold World.lookObject
  rw [hs]
  rfl

/-- Refuses an owner that has not been set up. -/
def refuseOwner (call : Caller) (i : Ref .injector) : Action Value := do
  throw (.notSetUp (← quotedText (← subsystemName call (← fetch i).owner)))

/-- Tells that the hooks of an owner were replaced. -/
def tellReplaced (call : Caller) (i : Ref .injector) (arm cancel previous : Value) :
    Action Value := do
  let name ← shown (← subsystemName call (← fetch i).owner)
  debug schedulingLogger
    ("Scheduling hooks of " ++ name ++ " replaced with " ++ (← hookName arm) ++ "/" ++
      (← hookName cancel))
  return previous

/-- Replacing hooks is refused where there is no policy, and told of where there is. -/
theorem overrideScheduling_eq (call : Caller) (i : Ref .injector) (arm cancel : Value) :
    overrideScheduling call i arm cancel = (do
      let policy ← policyOf call (← fetch i).owner
      if policy.isNone then refuseOwner call i
      else
        let previous ← request call policy .setScheduler [arm, cancel] fun p =>
          setScheduler p arm cancel
        tellReplaced call i arm cancel previous) := rfl

theorem quiet_subsystemName (call : Caller) (i : Ref .injector) :
    Quiet (do subsystemName call (← fetch i).owner) :=
  (Quiet.fetch i).bind fun _ => quiet_readAttribute call _ (by decide)

theorem quiet_refuseOwner (call : Caller) (i : Ref .injector) : Quiet (refuseOwner call i) :=
  (quiet_subsystemName call i).bind fun _ => (Quiet.quotedText _).bind fun _ => Quiet.throw _

theorem quiet_hookName (hook : Value) : Quiet (hookName hook) := by
  refine (Quiet.quotedText hook).bind fun text => Quiet.get.bind fun w => ?_
  cases w.read hook "__name__" with
  | ok name => exact Quiet.shown name
  | error _ => exact Quiet.pure text

theorem quiet_tellReplaced (call : Caller) (i : Ref .injector) (arm cancel previous : Value) :
    Quiet (tellReplaced call i arm cancel previous) :=
  (quiet_subsystemName call i).bind fun _ => (Quiet.shown _).bind fun _ =>
    (quiet_hookName arm).bind fun _ => (quiet_hookName cancel).bind fun _ =>
      (Quiet.emit _ _ _ _).bind fun _ => Quiet.pure previous

section

variable {w : World} {i : Ref .injector} {s : Ref .session} {p : Ref .policy} {arm cancel : Value}

/-- Replacing the hooks of an owner that has a policy is giving them to the policy, and then telling
about it. -/
theorem World.Intact.run_override (hw : w.Intact) (call : Caller)
    (hpolicy : w.run (policyOf call (w.row i : Injector).owner) = (.ok (.ofRef p), w))
    (hcheck : checkHooks w arm cancel = .ok ()) :
    w.run (overrideScheduling call i arm cancel) =
      (World.rehooked { w with nextSerial := w.nextSerial + 1 } p
        ⟨w.nextSerial, arm, cancel⟩).run (tellReplaced call i arm cancel (w.hooksOf p)) := by
  have hrun : w.run (request call (.ofRef p) .setScheduler [arm, cancel] fun p =>
      setScheduler p arm cancel) = _ :=
    (hw.run_request call p _ _ rfl).trans (hw.run_setScheduler hcheck p)
  rw [overrideScheduling_eq, World.run_bind_of_run (World.run_fetch w i),
    World.run_bind_of_run hpolicy, if_neg (by simp [Value.ofRef, Value.isNone]),
    World.run_bind_of_run hrun]

/-- Hooks that cannot be called are refused. -/
theorem World.run_setScheduler_refused {fault : Fault}
    (hcheck : checkHooks w arm cancel = .error fault) (p : Ref .policy) :
    w.run (setScheduler p arm cancel) = (.error fault, w) := by
  rw [setScheduler, World.run_bind_of_run (World.run_get w), World.run_bind, World.run_orFail,
    hcheck]

/-- So they are where the owner of a policy is to be given them. -/
theorem World.Intact.run_override_refused (hw : w.Intact) (call : Caller)
    (hpolicy : w.run (policyOf call (w.row i : Injector).owner) = (.ok (.ofRef p), w))
    {fault : Fault} (hcheck : checkHooks w arm cancel = .error fault) :
    w.run (overrideScheduling call i arm cancel) = (.error fault, w) := by
  have hrun : w.run (request call (.ofRef p) .setScheduler [arm, cancel] fun p =>
      setScheduler p arm cancel) = (.error fault, w) :=
    (hw.run_request call p _ _ rfl).trans (World.run_setScheduler_refused hcheck p)
  rw [overrideScheduling_eq, World.run_bind_of_run (World.run_fetch w i),
    World.run_bind_of_run hpolicy, if_neg (by simp [Value.ofRef, Value.isNone]), World.run_bind,
    hrun]

/-- The owner of an injector is asked for its policy, and a session has the one it was given. -/
theorem World.Intact.run_policyOf_owner (hw : w.Intact) (call : Caller)
    (hi : (w.row i : Injector).owner = .ofRef s) (hp : (w.row s : Session).policy = .ofRef p) :
    w.run (policyOf call (w.row i : Injector).owner) = (.ok (.ofRef p), w) := by
  rw [hi, hw.run_policyOf call s, hp]

theorem World.Intact.run_overrideScheduling (hw : w.Intact) (call : Caller)
    (hi : (w.row i : Injector).owner = .ofRef s) (hp : (w.row s : Session).policy = .ofRef p)
    (hcheck : checkHooks w arm cancel = .ok ()) :
    w.run (overrideScheduling call i arm cancel) =
      (World.rehooked { w with nextSerial := w.nextSerial + 1 } p
        ⟨w.nextSerial, arm, cancel⟩).run (tellReplaced call i arm cancel (w.hooksOf p)) :=
  hw.run_override call (hw.run_policyOf_owner call hi hp) hcheck

theorem World.Intact.run_overrideScheduling_refused (hw : w.Intact) (call : Caller)
    (hi : (w.row i : Injector).owner = .ofRef s) (hp : (w.row s : Session).policy = .ofRef p)
    {fault : Fault} (hcheck : checkHooks w arm cancel = .error fault) :
    w.run (overrideScheduling call i arm cancel) = (.error fault, w) :=
  hw.run_override_refused call (hw.run_policyOf_owner call hi hp) hcheck

/-- Replacing the hooks of a session that has been set up does no more than that. -/
theorem World.Intact.alike_overrideScheduling (hw : w.Intact) (call : Caller)
    (hi : (w.row i : Injector).owner = .ofRef s) (hp : (w.row s : Session).policy = .ofRef p)
    (hcheck : checkHooks w arm cancel = .ok ()) :
    (World.rehooked { w with nextSerial := w.nextSerial + 1 } p ⟨w.nextSerial, arm, cancel⟩).Alike
      (w.after (overrideScheduling call i arm cancel)) := by
  rw [World.after, hw.run_overrideScheduling call hi hp hcheck]
  exact quiet_tellReplaced call i arm cancel _ _

end

namespace Equipped

variable {reg : Ref .registry} {s : Ref .session} {t : Ref .timeline} {w : World}

/-- A session may be given other hooks. -/
theorem rehooked (h : Equipped reg s t w) {p : Ref .policy}
    (hp : (w.row s : Session).policy = .ofRef p) {policy : Policy}
    (hhooked : w.Hooked t policy.arm policy.cancel) :
    Equipped reg s t (w.rehooked p policy) := by
  obtain ⟨hlt, _⟩ := h.hooked hp
  have hsane : Sane reg (w.rehooked p policy) := ⟨h.sane.intact.erase rfl, h.sane.sound⟩
  refine ⟨hsane, h.registry, h.clock, h.timers, .inr ⟨p, hp, ?_, ?_⟩⟩
  · show p.index < (w.policies.set p.index policy).size
    rwa [Table.size_set _ hlt]
  · rw [World.rehooked, World.row_withRow_self]
    exact hhooked.of_banks fun b hb => hb

end Equipped

namespace Tended

variable {guarded : Prop} {reg : Ref .registry} {s : Ref .session} {t : Ref .timeline}
  {w : World}

/-- A session that has a policy may be given other hooks, if its timer is not guarded, or if it
has none. -/
theorem rehooked (h : Tended guarded reg s t w) {p : Ref .policy}
    (hp : (w.row s : Session).policy = .ofRef p) {policy : Policy}
    (hhooked : w.Hooked t policy.arm policy.cancel)
    (hn : guarded → (w.row s : Session).handle = .none) :
    Tended guarded reg s t (w.rehooked p policy) where
  equipped := h.equipped.rehooked hp hhooked
  running := h.running
  unready := h.unready
  others := h.others
  awaits := h.awaits
  handle := h.handle
  stopped := h.stopped
  cancels hguarded hno := absurd (hn hguarded) hno

/-- Replacing the hooks of a session keeps it tended, by hooks that it may have, and when it
may be given them. The session itself stays as it is. -/
theorem overrideScheduling (h : Tended guarded reg s t w) (call : Caller) {i : Ref .injector}
    (hi : (w.row i : Injector).owner = .ofRef s) {arm cancel : Value}
    (hhooked : w.Hooked t arm cancel) (hn : guarded → (w.row s : Session).handle = .none) :
    Tended guarded reg s t (w.after (overrideScheduling call i arm cancel)) ∧
      (w.after (Understudy.overrideScheduling call i arm cancel)).row s = (w.row s : Session) := by
  have hintact := h.equipped.sane.intact
  rcases h.equipped.policy with hnone | ⟨p, hp, _⟩
  · rw [overrideScheduling_eq, World.after_bind_of_run (World.run_fetch w i), hi,
      World.after_bind_of_run (hintact.run_policyOf call s), hnone]
    have htold : w.Untouched reg s (w.after (refuseOwner call i)) :=
      .of_quiet (quiet_refuseOwner call i)
    exact ⟨h.filled htold.filled, htold.session⟩
  · have h₁ : Tended guarded reg s t { w with nextSerial := w.nextSerial + 1 } :=
      h.alike ⟨w.log, w.nextSerial + 1, rfl⟩
    have hhooked₁ : World.Hooked { w with nextSerial := w.nextSerial + 1 } t arm cancel :=
      hhooked.of_banks fun b hb => hb
    have h₂ : Tended guarded reg s t (World.rehooked { w with nextSerial := w.nextSerial + 1 } p
        ⟨w.nextSerial, arm, cancel⟩) := h₁.rehooked hp hhooked₁ hn
    have htold :
        World.Untouched reg s _ (w.after (Understudy.overrideScheduling call i arm cancel)) :=
      .of_alike (hintact.alike_overrideScheduling call hi hp (hhooked.checkHooks w))
    exact ⟨h₂.filled htold.filled, htold.session⟩

end Tended

end Understudy

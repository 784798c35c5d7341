import Understudy.Proofs.BootstrapSucceeds
import Understudy.Proofs.OneTimer
import Understudy.Proofs.LeftAlone

/-!
# Setting up that fails

A session is given its policy and its id before it tells the id to the identity of the
application. If the telling fails, because there is no identity, because it cannot be provided or
because its reporter fails, the session keeps both. From then on it takes itself to be set up: it
tells nothing any more, and its hooks can be replaced.

## Main definitions

* `World.Faltered`: what is left where setting up failed halfway.

## Main statements

* `setUp_cases`: setting up is refused at once, or a policy is given.
* `Sane.run_identify_fails`: giving an id fails where telling it does.
* `Sane.setUp_falters`: a session that could not be set up has a policy and an id.
-/

namespace Understudy

/-! ## How far setting up goes -/

section

variable {r : Ref .registry} {s : Ref .session} {w w' : World}

/-- Hooks make a policy if they can be called. -/
theorem newPolicy_cases (w : World) (arm cancel : Value) :
    (∃ fault, w.run (newPolicy arm cancel) = (.error fault, w)) ∨
      ∃ (w₁ : World) (serial : Nat), w.Alike w₁ ∧
        w.run (newPolicy arm cancel) = (.ok ⟨w.policies.size⟩,
          { w₁ with policies := w.policies.push ⟨serial, arm, cancel⟩ }) := by
  cases hcheck : checkHooks w arm cancel with
  | ok _ =>
    exact .inr ⟨{ w with nextSerial := w.nextSerial + 1 }, _, ⟨w.log, _, rfl⟩, run_newPolicy hcheck⟩
  | error fault =>
    refine .inl ⟨fault, ?_⟩
    rw [newPolicy, World.run_bind_of_run (World.run_get w), World.run_bind, World.run_orFail,
      hcheck]

/-- What a value holds for the two hooks of a policy, which are read one after the other. -/
def World.Offers (call : Caller) (w : World) (timers arm cancel : Value) : Prop :=
  w.outcome (readAttribute call timers Method.arm.word) = .ok arm ∧
    (w.after (readAttribute call timers Method.arm.word)).outcome
      (readAttribute call timers Method.cancel.word) = .ok cancel

/-- Setting up a session without a policy is refused at once, where there are no hooks to be had
for it, or a policy is given, with the hooks of what it arms its timers with, and then an id. -/
theorem setUp_cases (call : Caller) (hnone : (w.row s : Session).policy = .none) :
    (∃ fault, w.outcome (setUp call s) = .error fault) ∧ w.Alike (w.after (setUp call s)) ∨
      ∃ (w₁ : World) (policy : Policy), w.Alike w₁ ∧
        w.Offers call (w.row s : Session).timers policy.arm policy.cancel ∧
        w.run (setUp call s) = (w₁.provided s policy).run (identify call s) := by
  rw [World.outcome, World.after, setUp_eq, World.run_bind_of_run (World.run_fetch w s), hnone,
    if_neg (by decide)]
  have harm : Quiet (readAttribute call (w.row s : Session).timers Method.arm.word) :=
    quiet_readAttribute call _ (by decide)
  have hcancel : Quiet (readAttribute call (w.row s : Session).timers Method.cancel.word) :=
    quiet_readAttribute call _ (by decide)
  unfold World.Offers
  rw [World.run_bind, World.run_eq w]
  have hread := harm w
  cases w.outcome (readAttribute call (w.row s : Session).timers Method.arm.word) with
  | error fault => exact .inl ⟨⟨fault, rfl⟩, hread⟩
  | ok arm =>
    revert hread
    generalize w.after (readAttribute call (w.row s : Session).timers Method.arm.word) = w₁
    intro hread
    dsimp only
    rw [World.run_bind, World.run_eq w₁]
    have hread₂ := hread.trans (hcancel w₁)
    cases w₁.outcome (readAttribute call (w.row s : Session).timers Method.cancel.word) with
    | error fault => exact .inl ⟨⟨fault, rfl⟩, hread₂⟩
    | ok cancel =>
      revert hread₂
      generalize w₁.after (readAttribute call (w.row s : Session).timers Method.cancel.word) = w₂
      intro hread₂
      dsimp only
      rcases newPolicy_cases w₂ arm cancel with ⟨fault, hrun⟩ | ⟨w₃, serial, hlike, hrun⟩
      · rw [World.run_bind, hrun]
        exact .inl ⟨⟨fault, rfl⟩, hread₂⟩
      · refine .inr ⟨w₃, ⟨serial, arm, cancel⟩, hread₂.trans hlike, ⟨rfl, rfl⟩, ?_⟩
        rw [World.run_bind_of_run hrun, World.run_bind_of_run (World.run_update _ s _)]
        obtain ⟨log, serial, rfl⟩ := hlike
        rfl

/-- Giving an id fails where telling it does, and leaves what is left of that. -/
theorem Sane.run_identify_fails (h : Sane r w) (hr : (w.row s : Session).registry = .ofRef r)
    (call : Caller) {fault : Fault}
    (hfails : w.outcome (Understudy.identify call s) = .error fault) :
    (w.named s w.nextId).outcome (annotateSession call s) = .error fault ∧
      (w.named s w.nextId).Told (w.after (Understudy.identify call s)) := by
  let named : World := w.named s w.nextId
  have hnamed : Sane r named := ⟨h.intact.congr rfl, h.sound⟩
  have hrow : named.row s = { (w.row s : Session) with sessionId := w.nextId } :=
    World.row_withRow_self _ s _
  have htold := hnamed.told_annotateSession (s := s) (by rw [hrow, hr]) call
  refine ⟨?_, h.told_identify hr call⟩
  rcases h.intact.outcome_identify call (htold.untouched r s).session with
    ⟨fault', hannotated, hfails'⟩ | ⟨_, v, hreturns⟩
  · rw [hfails] at hfails'
    cases hfails'
    exact hannotated
  · rw [hfails] at hreturns
    cases hreturns

/-! ## What is left -/

/-- A session that had no policy has been given one and an id, and has told nobody. -/
def World.Halfway (s : Ref .session) (w named : World) : Prop :=
  ∃ (w₁ : World) (policy : Policy), w.Alike w₁ ∧
    named = (w₁.provided s policy).named s (w₁.provided s policy).nextId

/-- What is left where setting up failed halfway: the session has a policy and the id that would
have been told. To set it up again gives back the policy and does nothing, so that nothing is told
any more; and its hooks are replaced where that is asked for. -/
structure World.Faltered (s : Ref .session) (w w' : World) : Prop where
  policy : (w'.row s : Session).policy = .ofRef (⟨w.policies.size⟩ : Ref .policy)
  sessionId : ∃ k, (w'.row s : Session).sessionId = .text k (sessionIdText w.issued)
  returned (w'' : World) (hc : w'.Continues w'') (call : Caller) :
    w''.run (setUp call s) = (.ok (.ofRef (⟨w.policies.size⟩ : Ref .policy)), w'')
  heeded (w'' : World) (hc : w'.Continues w'') (call : Caller) (i : Ref .injector)
    (hi : (w''.row i : Injector).owner = .ofRef s) (arm cancel : Value)
    (hcheck : checkHooks w'' arm cancel = .ok ()) :
    ∃ serial, (w''.after (overrideScheduling call i arm cancel)).row
      (⟨w.policies.size⟩ : Ref .policy) = (⟨serial, arm, cancel⟩ : Policy)

/-- What is kept of setting up counts as having been set up. -/
theorem World.Halfway.faltered {named : World} (hn : w.Halfway s named) (h : Sane r w)
    (hthere : s.index < w.sessions.size) (htold : named.Told w') : w.Faltered s w' := by
  obtain ⟨w₁, policy, ⟨log, serial, rfl⟩, rfl⟩ := hn
  let provided : World := World.provided { w with log := log, nextSerial := serial } s policy
  obtain ⟨k, hk⟩ : ∃ k, provided.nextId = .text k (sessionIdText w.issued) :=
    provided.exists_nextId
  change World.Told (provided.named s provided.nextId) w' at htold
  revert hk htold
  generalize provided.nextId = sessionId
  intro hk htold
  have hrow : w'.row s = { (provided.row s : Session) with sessionId := sessionId } :=
    ((htold.untouched r s).session).trans (World.row_withRow_self _ s _)
  have hprovided : provided.row s = _ := World.row_withRow_self _ s _
  have hpolicy : (w'.row s : Session).policy = .ofRef (⟨w.policies.size⟩ : Ref .policy) := by
    rw [hrow, hprovided]
  have hintact : w'.Intact := htold.intact (h.intact.congr rfl)
  have hthere' : s.index < w'.sessions.size := by
    rw [htold.frame]
    exact Nat.lt_of_lt_of_le hthere
      (Nat.le_trans (Table.size_le_set _ _ _) (Table.size_le_set _ _ _))
  have hlater (w'' : World) (hc : w'.Continues w'') :
      (w''.row s : Session).policy = .ofRef (⟨w.policies.size⟩ : Ref .policy) :=
    (congrArg Session.policy (hc.sessions.row s.index hthere').made).trans hpolicy
  refine ⟨hpolicy, ⟨k, (congrArg Session.sessionId hrow).trans hk⟩, fun w'' hc call => ?_,
    fun w'' hc call i hi arm cancel hcheck => ?_⟩
  · rw [w''.run_setUp_kept call (by rw [hlater w'' hc]; rfl), hlater w'' hc]
  · obtain ⟨_, _, hafter⟩ :=
      (hc.intact hintact).alike_overrideScheduling call hi (hlater w'' hc) hcheck
    refine ⟨w''.nextSerial, ?_⟩
    rw [hafter]
    exact World.row_withRow_self _ (⟨w.policies.size⟩ : Ref .policy) (⟨_, arm, cancel⟩ : Policy)

/-- A session that could not be set up has a policy and an id from then on, unless there are no
hooks to be had from what it arms its timers with. The fault is that of telling the id. -/
theorem Sane.setUp_falters (h : Sane r w) (hthere : s.index < w.sessions.size)
    (hr : (w.row s : Session).registry = .ofRef r) (hnone : (w.row s : Session).policy = .none)
    (call : Caller) {fault : Fault} (hfails : w.outcome (setUp call s) = .error fault) :
    (∀ b : Ref .bank, (w.row s : Session).timers ≠ .ofRef b) ∧ w.Alike (w.after (setUp call s)) ∨
      (∃ named, w.Halfway s named ∧ named.outcome (annotateSession call s) = .error fault ∧
        named.Told (w.after (setUp call s))) ∧ w.Faltered s (w.after (setUp call s)) := by
  have hcases : (∀ b : Ref .bank, (w.row s : Session).timers ≠ .ofRef b) ∧
      w.Alike (w.after (setUp call s)) ∨ ∃ (w₁ : World) (policy : Policy), w.Alike w₁ ∧
        w.run (setUp call s) = (w₁.provided s policy).run (Understudy.identify call s) := by
    by_cases hb : ∃ b : Ref .bank, (w.row s : Session).timers = .ofRef b
    · obtain ⟨b, hb⟩ := hb
      obtain ⟨w₁, serial, i, j, hlike, hrun⟩ := h.intact.run_setUp call hb hnone
      exact .inr ⟨w₁, _, hlike, hrun⟩
    · exact (setUp_cases call hnone).imp (fun hrefused => ⟨fun b hb' => hb ⟨b, hb'⟩, hrefused.2⟩)
        fun ⟨w₁, policy, hlike, _, hrun⟩ => ⟨w₁, policy, hlike, hrun⟩
  refine hcases.imp id ?_
  rintro ⟨w₁, policy, hlike, hrun⟩
  have hprovided : Sane r (w₁.provided s policy) := by
    obtain ⟨log, serial, rfl⟩ := hlike
    exact ⟨h.intact.congr rfl, h.sound⟩
  have hregistry : ((w₁.provided s policy).row s : Session).registry = .ofRef r := by
    obtain ⟨log, serial, rfl⟩ := hlike
    rw [World.provided, World.row_withRow_self]
    exact hr
  rw [World.outcome, hrun] at hfails
  obtain ⟨hannotated, htold⟩ := hprovided.run_identify_fails hregistry call hfails
  rw [World.after, hrun]
  have hhalfway : w.Halfway s _ := ⟨w₁, policy, hlike, rfl⟩
  exact ⟨⟨_, hhalfway, hannotated, htold⟩, hhalfway.faltered h hthere htold⟩

end

/-! ### A session without an identity -/

/-- The state after the session of the bench was to be set up, with nothing registered. -/
def sessionFaltered : World := sessionBench.after (setUp invoke ⟨0⟩)

theorem sessionBench_refuses : sessionBench.outcome (setUp invoke ⟨0⟩) =
    .error (.noService ("'" ++ appInfoContract ++ "'")) := by
  have hwhy : (match sessionBench.outcome (setUp invoke ⟨0⟩) with
      | .error (.noService contract) => contract == "'" ++ appInfoContract ++ "'"
      | _ => false) = true := by
    decide +kernel
  split at hwhy
  · rename_i contract hfault
    rw [hfault, beq_iff_eq.1 hwhy]
  · cases hwhy

theorem sessionFaltered_keeps :
    sessionBench.outcome (setUp invoke ⟨0⟩) = .error (.noService ("'" ++ appInfoContract ++ "'")) ∧
      sessionBench.Faltered ⟨0⟩ sessionFaltered := by
  refine ⟨sessionBench_refuses, ?_⟩
  rcases sessionBench_fresh.sane.setUp_falters Nat.zero_lt_one rfl rfl invoke
    sessionBench_refuses with ⟨hbank, _⟩ | ⟨_, hfaltered⟩
  · exact absurd rfl (hbank ⟨0⟩)
  · exact hfaltered

/-- Setting up that fails does not leave a session as it was. -/
theorem sessionFaltered_hasPolicy :
    ¬∀ (r : Ref .registry) (s : Ref .session) (w : World) (fault : Fault), Sane r w →
      s.index < w.sessions.size → (w.row s : Session).registry = .ofRef r →
        w.outcome (setUp invoke s) = .error fault →
          ((w.after (setUp invoke s)).row s : Session).policy = (w.row s : Session).policy ∧
            ((w.after (setUp invoke s)).row s : Session).sessionId =
              (w.row s : Session).sessionId := by
  intro hgeneral
  have hsame : (sessionFaltered.row (⟨0⟩ : Ref .session) : Session).policy = .none :=
    (hgeneral ⟨0⟩ ⟨0⟩ _ _ sessionBench_fresh.sane Nat.zero_lt_one rfl sessionBench_refuses).1
  have hgiven : ((sessionFaltered.row (⟨0⟩ : Ref .session) : Session).policy.ref? .policy).isSome =
      true := by
    decide +kernel
  rw [hsame] at hgiven
  cases hgiven

end Understudy

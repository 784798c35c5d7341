import Mathlib.Algebra.Group.Nat.Defs
import Understudy.Proofs.Annotating
import Understudy.Proofs.LastingCalls
import Understudy.Proofs.OneTimer

/-!
# Setting up once

A session that is set up is given a policy, whose hooks are those of what it arms its timers with,
and an id that was not given out before. The component that its registry serves as the identity of
the application is told the id, if it can be viewed as a crash reporter and takes annotations. No
other component is told anything, and registries and other sessions stay as they are.

That happens once. Whatever is asked of anything afterwards, the session has the policy that it was
given, and setting it up again gives that policy back and changes nothing: not the hooks, which may
have been replaced meanwhile, nor the id, nor what components were told. The only way round that is
to assign another policy to the session by hand.

## Main definitions

* `Introduced`: what setting up does for the first time, and from then on.

## Main statements

* `sessionIdText_ne_of_lt`: an id differs from those that were given out before.
* `lasting_policy`: that a session has a certain policy lasts.
* `Sane.introducedOnce`: a session is introduced once.
-/

namespace Understudy

/-! ## Ids -/

/-- The last digits of a number tell it, as far as they go. -/
theorem Text.mod_eq_of_hex_eq {width m n : Nat} (h : Text.hex width m = Text.hex width n) :
    m % 16 ^ width = n % 16 ^ width := by
  have hdigit : ∀ m < 16, ∀ n < 16, Nat.digitChar m = Nat.digitChar n → m = n := by decide
  induction width generalizing m n with
  | zero => rw [Nat.pow_zero, Nat.mod_one, Nat.mod_one]
  | succ width ih =>
    obtain ⟨hbefore, hlast⟩ := List.append_inj' h rfl
    have hmod : m % 16 = n % 16 :=
      hdigit _ (Nat.mod_lt _ (by decide)) _ (Nat.mod_lt _ (by decide)) (List.cons.inj hlast).1
    rw [Nat.pow_succ', Nat.mod_mul, Nat.mod_mul, ih hbefore, hmod]

/-- An id differs from those that were given out before, as long as its digits suffice. -/
theorem sessionIdText_ne_of_lt {j n : Nat} (h : j < n) (hwithin : n - j < 16 ^ 12) :
    sessionIdText j ≠ sessionIdText n := by
  intro heq
  have hhex : Text.hex 12 (j + 1) = Text.hex 12 (n + 1) :=
    String.ofList_injective (String.append_right_inj _ |>.1 heq)
  have hmod := Text.mod_eq_of_hex_eq hhex
  omega

/-! ## The policy that a session has -/

/-- A session has a policy. -/
def World.HasPolicy (s : Ref .session) (policy : Value) (w : World) : Prop :=
  (w.row s : Session).policy = policy

section

variable {s : Ref .session} {policy : Value}

/-- What other sessions are has nothing to do with that. -/
theorem World.HasPolicy.frees {other : Ref .session} (h : s ≠ other) :
    Frees (World.HasPolicy s policy) other := by
  intro w session hholds
  rw [HasPolicy, World.row_withRow, if_neg h]
  exact hholds

/-- That a session has a certain policy lasts. -/
theorem lasting_policy (h : policy.isNone = false) : Lasting (World.HasPolicy s policy) where
  congr hholds hsessions _ _ := (congrArg (fun t : Table Session => (t.get s.index).policy)
    hsessions).trans hholds
  emit hholds _ := hholds
  newSession {w} hholds session := by
    -- A session that is not there yet has no policy.
    have hthere : s.index < w.sessions.size := Nat.lt_of_not_le fun hnew => by
      have hrow : w.row s = (default : Session) := Table.get_of_size_le _ hnew
      rw [← hholds, hrow] at h
      cases h
    exact (congrArg Session.policy (Table.get_push_of_lt _ hthere session)).trans hholds
  session {w} hholds other session hkept := by
    rw [World.HasPolicy, World.row_withRow]
    split
    · next hsame => exact hkept.trans (hsame ▸ hholds)
    · exact hholds
  newComponent hholds _ := hholds
  component hholds _ _ _ := hholds
  guard other := by
    by_cases hother : s = other
    · exact .inl fun w hholds => by rw [← hother, hholds, h]
    · exact .inr (World.HasPolicy.frees hother)

end

/-! ## Setting up -/

/-- What setting up a session without a policy does, if it succeeds, and what it does from then
on. -/
structure Introduced (call : Caller) (r : Ref .registry) (s : Ref .session) (w : World) (v : Value)
    (w' : World) : Prop where
  /-- The result is a policy that was not there before. -/
  returned : v = .ofRef (⟨w.policies.size⟩ : Ref .policy)
  /-- Its hooks are what the session arms its timers with. -/
  hooked : ∃ policy : Policy, w'.policies = w.policies.push policy ∧
    w.Offers call (w.row s : Session).timers policy.arm policy.cancel
  /-- If that is a bank of timers, they are the two of the bank. -/
  banked (b : Ref .bank) (hb : (w.row s : Session).timers = .ofRef b) :
    ∃ i j, (w'.row (⟨w.policies.size⟩ : Ref .policy) : Policy).arm =
        .function i (.method b.object .arm) ∧
      (w'.row (⟨w.policies.size⟩ : Ref .policy) : Policy).cancel =
        .function j (.method b.object .cancel)
  /-- The session has the policy, and the next id, and is the same otherwise. -/
  session : ∃ k, w'.row s = { (w.row s : Session) with
    policy := v
    sessionId := .text k (sessionIdText w.issued) }
  /-- That id was not given out before, as long as its digits suffice, -/
  fresh (j : Nat) (h : j < w.issued) (hwithin : w.issued - j < 16 ^ 12) :
    sessionIdText j ≠ sessionIdText w.issued
  /-- and is not given out again. -/
  issued : w'.issued = w.issued + 1
  /-- The component that is served and can be told of it is told, and nothing else is noted. -/
  told (c : Ref .component) (serving : w.serving? r (.ofText appInfoContract) = some c)
    (declares : (w.row c : Component).Declares .crashReporter)
    (takes : (w.row c : Component).takesNotes = true) :
    w'.components = (w.noted c (.ofText sessionIdKey) (w'.row s : Session).sessionId).components
  /-- Where there is none, nothing is noted at all. -/
  untold (nobody : ∀ c, w.serving? r (.ofText appInfoContract) = some c →
    (w.row c : Component).Declares .crashReporter → (w.row c : Component).takesNotes = false) :
    w'.components = w.components
  /-- Registries have the entries and the originals that they had. -/
  registry (other : Ref .registry) : w'.row other = w.row other
  /-- Other sessions are as they were. -/
  apart (other : Ref .session) (h : other ≠ s) : w'.row other = w.row other
  /-- Of anything else, the providers have been asked more often, and there are more records. -/
  frame : w' = { w with
    policies := w'.policies
    sessions := w'.sessions
    issued := w'.issued
    components := w'.components
    providers := w'.providers
    log := w'.log
    nextSerial := w'.nextSerial }
  /-- Whatever is asked afterwards, setting up gives the same policy back and changes nothing. -/
  again (qs : List (Request Value)) (hqs : ∀ q ∈ qs, q.Modest ∧ q.Spares s) (call' : Caller) :
    (w'.afterAll qs).run (setUp call' s) = (.ok v, w'.afterAll qs)

section

variable {call : Caller} {r : Ref .registry} {s : Ref .session} {w w' : World}

/-- A session with a policy keeps it whatever is asked, unless it is given another one by hand. -/
theorem World.run_setUp_afterAll {policy : Value} (hhas : (w.row s : Session).policy = policy)
    (hpolicy : policy.isNone = false) {qs : List (Request Value)}
    (hqs : ∀ q ∈ qs, q.Modest ∧ q.Spares s) (call : Caller) :
    (w.afterAll qs).run (setUp call s) = (.ok policy, w.afterAll qs) := by
  have hmeets : (w.afterAll qs).Meets (World.HasPolicy s policy) := by
    refine Lasts.afterAll (fun q hq => ⟨(hqs q hq).1, fun other => ?_⟩)
      ⟨lasting_policy hpolicy, hhas⟩
    by_cases hother : s = other
    · exact .inl (hother ▸ (hqs q hq).2)
    · exact .inr (World.HasPolicy.frees hother)
  have hkept : ((w.afterAll qs).row s : Session).policy = policy := hmeets.holds
  rw [World.run_setUp_kept _ call (hkept ▸ hpolicy), hkept]

/-- Giving a session a policy and an id changes no other session. -/
theorem World.row_introduced_of_ne {other : Ref .session} (h : other ≠ s) (w : World)
    (policy : Policy) (sessionId : Value) :
    (w.introduced s policy sessionId).row other = (w.row other : Session) := by
  rw [introduced, named, World.row_withRow, if_neg h]
  show (w.provided s policy).row other = _
  rw [provided, World.row_withRow, if_neg h]
  rfl

/-- The hooks that a bank holds are its own two. -/
theorem World.Intact.eq_of_offers (hw : w.Intact) {b : Ref .bank} {arm cancel : Value}
    (h : w.Offers call (.ofRef b) arm cancel) :
    arm = .function w.nextSerial (.method b.object .arm) ∧
      cancel = .function (w.nextSerial + 1) (.method b.object .cancel) := by
  obtain ⟨harm, hcancel⟩ := h
  have hread := hw.run_readAttribute_hook call b (.inl rfl)
  have hafter : ({ w with nextSerial := w.nextSerial + 1 } : World).Intact := hw.congr rfl
  rw [World.outcome_of_run hread] at harm
  rw [World.after_of_run hread,
    World.outcome_of_run (hafter.run_readAttribute_hook call b (.inr rfl))] at hcancel
  exact ⟨(Except.ok.inj harm).symm, (Except.ok.inj hcancel).symm⟩

/-- A session that is set up is introduced, whether there is somebody to tell the id to or not. -/
theorem Introduced.of_components (hw : w.Intact) {policy : Policy} {k : Nat}
    (hoffered : w.Offers call (w.row s : Session).timers policy.arm policy.cancel)
    (hframe : w' = { w.introduced s policy (.text k (sessionIdText w.issued)) with
      components := w'.components
      providers := w'.providers
      log := w'.log
      nextSerial := w'.nextSerial })
    (htold : ∀ c, w.reporter? r (.ofText appInfoContract) = some c → w'.components =
      (w.noted c (.ofText sessionIdKey) (.text k (sessionIdText w.issued))).components)
    (huntold : w.reporter? r (.ofText appInfoContract) = none → w'.components = w.components) :
    Introduced call r s w (.ofRef (⟨w.policies.size⟩ : Ref .policy)) w' := by
  have hsession : w'.row s = { (w.row s : Session) with
      policy := .ofRef (⟨w.policies.size⟩ : Ref .policy)
      sessionId := .text k (sessionIdText w.issued) } := by
    rw [hframe]
    exact w.row_introduced s policy _
  have hpolicies : w'.policies = w.policies.push policy := by rw [hframe]; rfl
  have hpolicy : w'.row (⟨w.policies.size⟩ : Ref .policy) = policy := by
    show w'.policies.get _ = policy
    rw [hpolicies, Table.get_push, if_pos rfl]
  exact {
    returned := rfl
    hooked := ⟨policy, hpolicies, hoffered⟩
    banked := by
      intro b hb
      rw [hpolicy]
      obtain ⟨harm, hcancel⟩ := hw.eq_of_offers (hb ▸ hoffered)
      exact ⟨_, _, harm, hcancel⟩
    session := ⟨k, hsession⟩
    fresh := fun _ => sessionIdText_ne_of_lt
    issued := by rw [hframe]; rfl
    told := by
      intro c serving declares takes
      rw [hsession]
      exact htold c (World.reporter?_eq_some.2 ⟨serving, declares, takes⟩)
    untold := by
      intro nobody
      refine huntold (Option.eq_none_iff_forall_ne_some.2 fun c hc => ?_)
      obtain ⟨serving, declares, takes⟩ := World.reporter?_eq_some.1 hc
      exact Bool.false_ne_true ((nobody c serving declares).symm.trans takes)
    registry := by
      intro other
      rw [hframe]
      rfl
    apart := by
      intro other hother
      rw [hframe]
      exact World.row_introduced_of_ne hother w policy _
    frame := by
      rw [hframe]
      rfl
    again := fun qs hqs call' =>
      World.run_setUp_afterAll (congrArg Session.policy hsession) rfl hqs call' }

/-- A session without a policy that is set up is introduced, once and for all. -/
theorem Sane.introducedOnce (h : Sane r w) (hr : (w.row s : Session).registry = .ofRef r)
    (hnone : (w.row s : Session).policy = .none) {v : Value}
    (hok : w.outcome (setUp call s) = .ok v) :
    Introduced call r s w v (w.after (setUp call s)) := by
  have hstep := h.setUpStep hr hnone call
  rw [hok] at hstep
  revert hstep
  generalize w.after (setUp call s) = w'
  intro hstep
  cases hstep with
  | @untold policy k _ offered nobody served =>
    refine .of_components (k := k) h.intact offered ?_ (fun c reporter => ?_) fun _ => ?_
    · rw [served.frame]
    · rw [nobody] at reporter
      cases reporter
    · exact served.components
  | @told policy k c asked _ offered reporter served noted =>
    obtain ⟨log, serial, rfl⟩ := noted
    refine .of_components (k := k) h.intact offered ?_ (fun c' reporter' => ?_) fun nobody => ?_
    · rw [served.frame]
      rfl
    · obtain rfl := Option.some.inj (reporter.symm.trans reporter')
      exact World.components_noted served.components _ _ _
    · rw [nobody] at reporter
      cases reporter

end

/-! ### An introduction -/

/-- The sample identity is registered where there is a session, and a stand-in is installed. -/
def introductionBench : World :=
  (sessionBench.later (.deal benchRegister.dealing)).later (.deal benchInstall.dealing)

theorem introductionBench_sane : Sane ⟨0⟩ introductionBench := by
  have hregister : Sane ⟨0⟩ (sessionBench.later (.deal benchRegister.dealing)) :=
    (Dealing.step sessionBench_fresh.sane benchRegister.dealing
      ⟨⟨_, rfl⟩, ⟨_, rfl⟩, ⟨_, rfl⟩⟩).sane sessionBench_fresh.sane
  exact (Dealing.step hregister benchInstall.dealing ⟨rfl, ⟨_, rfl⟩, ⟨_, rfl⟩⟩).sane hregister

/-- The session of the bench is introduced, and the stand-in can be told of it. -/
theorem introductionBench_introducedOnce :
    Introduced invoke ⟨0⟩ ⟨0⟩ introductionBench (.ofRef (⟨0⟩ : Ref .policy))
        (introductionBench.after (setUp invoke ⟨0⟩)) ∧
      introductionBench.reporter? ⟨0⟩ (.ofText appInfoContract) = some ⟨1⟩ :=
  ⟨Sane.introducedOnce introductionBench_sane rfl rfl (outcome_of_ref? (by decide +kernel)),
    by decide +kernel⟩

end Understudy

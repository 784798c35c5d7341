import Understudy.Scenario
import Understudy.Proofs.SetUpFails

/-!
# Hooks are replaced in pairs

A policy is made with a pair of hooks and is given other ones as a pair, by itself or by the
injectors of its owners. A pair is accepted as a whole or refused with nothing changed, and the pair
before it is what an accepted call returns. So the hooks of a policy are at any time the pair that
was accepted last, and everything that is armed or cancelled through the policy goes to that pair.
Who passes the returned pairs back in reverse order has the pair that there was before.

An injector replaces the hooks first and tells of it afterwards, by the names of both. Where one of
them cannot be told the call fails, but its pair was accepted: the hooks are replaced, and the pair
before them is lost to the caller.

## Main definitions

* `World.Owner`: what has a policy and goes by its own name.
* `Swap`: a call that is to replace the hooks of a policy.
* `Swap.Step`: all that such a call can do.
* `Swapping`: calls one after the other, with anything else going on in between.
* `latest`: the pair that was accepted last.
* `WholePairs`: what holds of the hooks at any time.

## Main statements

* `Swap.step`: a call is refused with nothing changed, or it replaces both hooks.
* `Swapping.wholePairs`: the hooks of a policy are the pair that was accepted last.
-/

namespace Understudy

/-! ## Owners -/

/-- What has a policy, or none yet, and goes by its own name. -/
inductive World.Owner (w : World) : Value → Prop
  | session {s : Ref .session} (unnamed : w.assigned? s.object "subsystem_name" = none) :
      w.Owner (.ofRef s)
  | holder {h : Ref .holder} (unnamed : w.assigned? h.object "subsystem_name" = none) :
      w.Owner (.ofRef h)

/-- The policy of an owner. -/
def World.policyOf (w : World) (owner : Value) : Value :=
  match owner.ref? .holder with
  | some h => (w.row h : Holder).policy
  | none => ((owner.ref? .session).map fun s => (w.row s : Session).policy).getD .none

namespace World.Owner

variable {w : World} {owner : Value}

theorem run_policyOf (h : w.Owner owner) (hw : w.Intact) (call : Caller) :
    w.run (Understudy.policyOf call owner) = (.ok (w.policyOf owner), w) := by
  cases h with
  | session => exact hw.run_policyOf call _
  | @holder h => exact (hw.run_request call h [] _ rfl).trans rfl

/-- An owner is called by its own name. -/
theorem run_subsystemName (h : w.Owner owner) (call : Caller) :
    ∃ name, w.run (subsystemName call owner) = (.ok (.ofText name), w) := by
  cases h with
  | session unnamed => exact ⟨_, Understudy.run_subsystemName call unnamed⟩
  | @holder h unnamed =>
    have hlook : w.lookObject h.object "subsystem_name" =
        .ok (.held (.ofText "FakeSubsystem")) := by
      unfold World.lookObject
      rw [unnamed]
      rfl
    exact ⟨_, run_readAttribute_held call hlook⟩

end World.Owner

/-! ## Hooks as a pair -/

/-- A hook can be told by a name. -/
def World.Tells (w : World) (hook : Value) : Prop := ∃ name, w.outcome (hookName hook) = .ok name

/-- The hooks of a policy are a certain pair. -/
def World.Pairs (w : World) (p : Ref .policy) (hooks : Value × Value) : Prop :=
  ∃ serial, w.hooksOf p = .tuple serial [hooks.1, hooks.2]

/-- The state in which a policy has been given a pair. -/
def World.given (w : World) (p : Ref .policy) (hooks : Value × Value) : World :=
  World.rehooked { w with nextSerial := w.nextSerial + 1 } p ⟨w.nextSerial, hooks.1, hooks.2⟩

section

variable {w w' : World} {p : Ref .policy} {hooks : Value × Value}

theorem World.Intact.given (hw : w.Intact) (p : Ref .policy) (hooks : Value × Value) :
    (w.given p hooks).Intact := hw.erase rfl

/-- A policy that has been given a pair has it. -/
theorem World.Intact.pairs_given (hw : w.Intact) (p : Ref .policy) (hooks : Value × Value) :
    (w.given p hooks).Pairs p hooks := by
  refine ⟨w.nextSerial, ?_⟩
  rw [(hw.given p hooks).hooksOf, World.given, World.rehooked, World.row_withRow_self]
  rfl

theorem World.Pairs.of_alike (h : w.Pairs p hooks) (hlike : w.Alike w') : w'.Pairs p hooks := by
  obtain ⟨log, serial, rfl⟩ := hlike
  exact h

/-- Nothing is said about who owns a policy. -/
theorem World.Owner.given {owner : Value} (h : w.Owner owner) (p : Ref .policy)
    (hooks : Value × Value) : (w.given p hooks).Owner owner := by
  have hunnamed (o : Object) (hnone : w.assigned? o "subsystem_name" = none) :
      (w.given p hooks).assigned? o "subsystem_name" = none := by
    show (w.assigned.erase _).get? _ = none
    rw [OrderedMap.get?_erase]
    split
    · rfl
    · exact hnone
  cases h with
  | session unnamed => exact .session (hunnamed _ unnamed)
  | holder unnamed => exact .holder (hunnamed _ unnamed)

/-- A pair is two hooks. -/
theorem World.Pairs.row (h : w.Pairs p hooks) (hw : w.Intact) :
    (w.row p : Policy).arm = hooks.1 ∧ (w.row p : Policy).cancel = hooks.2 := by
  obtain ⟨serial, h⟩ := h
  rw [hw.hooksOf] at h
  obtain ⟨harm, hcancel⟩ := List.cons.inj (Value.tuple.inj h).2
  exact ⟨harm, (List.cons.inj hcancel).1⟩

/-- A policy is made with a pair. -/
theorem World.Intact.made (hw : w.Intact) {arm cancel : Value}
    (h : w.outcome (newPolicy arm cancel) = .ok p) :
    (w.after (newPolicy arm cancel)).Intact ∧
      (w.after (newPolicy arm cancel)).Pairs p (arm, cancel) := by
  rcases newPolicy_cases w arm cancel with ⟨fault, hrun⟩ | ⟨w₁, serial, ⟨log, n, rfl⟩, hrun⟩
  · rw [World.outcome_of_run hrun] at h
    cases h
  · obtain rfl : ⟨w.policies.size⟩ = p := Except.ok.inj ((World.outcome_of_run hrun).symm.trans h)
    rw [World.after_of_run hrun]
    have hintact : ({ w with
        log := log
        nextSerial := n
        policies := w.policies.push ⟨serial, arm, cancel⟩ } : World).Intact := hw.congr rfl
    refine ⟨hintact, serial, (hintact.hooksOf _).trans ?_⟩
    exact congrArg Policy.toValue ((Table.get_push ..).trans (if_pos rfl))

/-- Looking for the name of a hook changes nothing. -/
theorem World.after_hookName (w : World) (hook : Value) : w.after (hookName hook) = w := by
  rw [hookName, World.after, World.run_bind, World.run_quotedText]
  cases w.quoted hook with
  | error fault => rfl
  | ok text =>
    dsimp only
    rw [World.run_bind_of_run (World.run_get w)]
    cases w.read hook "__name__" with
    | error fault => rfl
    | ok name =>
      dsimp only
      rw [World.run_shown]

/-- What tells of a hook goes on if the hook can be told, and fails if it cannot. -/
theorem World.outcome_hookName_bind {α : Type} (w : World) (hook : Value)
    (f : String → Action α) :
    (∃ name, w.run (hookName hook >>= f) = w.run (f name)) ∨
      ∃ fault, w.outcome (hookName hook >>= f) = .error fault ∧ ¬w.Tells hook := by
  cases hname : w.outcome (hookName hook) with
  | ok name =>
    have hrun : w.run (hookName hook) = (.ok name, w) := by
      rw [World.run_eq, hname, World.after_hookName]
    exact .inl ⟨name, World.run_bind_of_run hrun⟩
  | error fault =>
    have hrun : w.run (hookName hook) = (.error fault, w) := by
      rw [World.run_eq, hname, World.after_hookName]
    refine .inr ⟨fault, World.outcome_of_run ((World.run_bind ..).trans (by rw [hrun])), ?_⟩
    rintro ⟨name, htold⟩
    rw [hname] at htold
    cases htold

/-- Telling of a pair fails only if one of the two cannot be told. -/
theorem tellReplaced_cases (call : Caller) {i : Ref .injector}
    (howner : w.Owner (w.row i : Injector).owner) (hooks : Value × Value) (previous : Value) :
    w.outcome (tellReplaced call i hooks.1 hooks.2 previous) = .ok previous ∨
      ∃ fault, w.outcome (tellReplaced call i hooks.1 hooks.2 previous) = .error fault ∧
        (¬w.Tells hooks.1 ∨ ¬w.Tells hooks.2) := by
  obtain ⟨name, hname⟩ := howner.run_subsystemName call
  have hshown : w.run (shown (.ofText name)) = (.ok name, w) :=
    (World.run_shown w _).trans (by rw [World.display_text])
  unfold tellReplaced
  rw [World.outcome, World.run_bind_of_run (World.run_fetch w i), World.run_bind_of_run hname,
    World.run_bind_of_run hshown]
  rcases w.outcome_hookName_bind hooks.1 _ with ⟨arm, harm⟩ | ⟨fault, hfault, huntold⟩
  · rw [harm]
    rcases w.outcome_hookName_bind hooks.2 _ with ⟨cancel, hcancel⟩ | ⟨fault, hfault, huntold⟩
    · rw [hcancel]
      exact .inl rfl
    · exact .inr ⟨fault, hfault, .inr huntold⟩
  · exact .inr ⟨fault, hfault, .inl huntold⟩

end

/-! ## A call -/

/-- A call that is to replace the hooks of a policy: by the policy itself, or by an injector. -/
inductive Swap where
  | set (arm cancel : Value)
  | override (i : Ref .injector) (arm cancel : Value)
  | disable (i : Ref .injector)

namespace Swap

/-- The pair that is to be the hooks. -/
def hooks : Swap → Value × Value
  | set arm cancel | override _ arm cancel => (arm, cancel)
  | disable _ => (.function 0 .idleArm, .function 0 .idleCancel)

/-- The injector that is called. -/
def injector? : Swap → Option (Ref .injector)
  | set _ _ => none
  | override i _ _ | disable i => some i

/-- What is done on a call. -/
def perform (call : Caller) (p : Ref .policy) : Swap → Action Value
  | set arm cancel => setScheduler p arm cancel
  | override i arm cancel => overrideScheduling call i arm cancel
  | disable i => disableTimers call i

/-- The owner of the injector has no policy. -/
def ownerless (w : World) (swap : Swap) : Bool :=
  swap.injector?.any fun i => (w.policyOf (w.row i : Injector).owner).isNone

/-- Both hooks can be called. -/
def callable (swap : Swap) : Bool := swap.hooks.1.callable && swap.hooks.2.callable

/-- There is a policy to give the pair to, and the pair can be given. -/
def accepted (w : World) (swap : Swap) : Bool := !swap.ownerless w && swap.callable

/-- The injector has an owner, which has this policy or none yet. -/
def Fits (p : Ref .policy) (w : World) (swap : Swap) : Prop :=
  ∀ i, swap.injector? = some i → w.Owner (w.row i : Injector).owner ∧
    (w.policyOf (w.row i : Injector).owner = .none ∨
      w.policyOf (w.row i : Injector).owner = .ofRef p)

/-- All that a call can do, with how it ends. -/
inductive Step (p : Ref .policy) (w : World) (swap : Swap) : Except Fault Value → World → Prop
  /-- There is no policy yet. -/
  | ownerless {shown : String} (ownerless : swap.ownerless w = true) :
      Step p w swap (.error (.notSetUp shown)) w
  /-- A hook cannot be called. -/
  | uncallable {role type : String} (owned : swap.ownerless w = false)
      (uncallable : swap.callable = false) :
      Step p w swap (.error (.hookNotCallable role type)) w
  /-- The pair is accepted. -/
  | replaced {w' : World} (owned : swap.ownerless w = false) (callable : swap.callable = true)
      (given : (w.given p swap.hooks).Alike w') :
      Step p w swap (.ok (w.hooksOf p)) w'
  /-- The pair is accepted, and the injector fails in telling of it. -/
  | untold {fault : Fault} {w' : World} (owned : swap.ownerless w = false)
      (callable : swap.callable = true) (injector : swap.injector?.isSome = true)
      (untold : ¬(w.given p swap.hooks).Tells swap.hooks.1 ∨
        ¬(w.given p swap.hooks).Tells swap.hooks.2)
      (given : (w.given p swap.hooks).Alike w') :
      Step p w swap (.error fault) w'

section

variable {call : Caller} {p : Ref .policy} {w : World} {swap : Swap}

/-- Hooks are checked before they are taken. -/
theorem checkHooks_cases (w : World) (arm cancel : Value) :
    (arm.callable && cancel.callable) = true ∧ checkHooks w arm cancel = .ok () ∨
      (arm.callable && cancel.callable) = false ∧
        ∃ role type, checkHooks w arm cancel = .error (.hookNotCallable role type) := by
  unfold checkHooks
  cases arm.callable with
  | false => exact .inr ⟨rfl, _, _, rfl⟩
  | true =>
    cases cancel.callable with
    | false => exact .inr ⟨rfl, _, _, rfl⟩
    | true => exact .inl ⟨rfl, rfl⟩

/-- An injector without a policy refuses, whatever it is given. -/
theorem run_refuseOwner {i : Ref .injector} (howner : w.Owner (w.row i : Injector).owner)
    (call : Caller) : ∃ shown, w.run (refuseOwner call i) = (.error (.notSetUp shown), w) := by
  obtain ⟨name, hname⟩ := howner.run_subsystemName call
  rw [refuseOwner, World.run_bind_of_run (World.run_fetch w i), World.run_bind_of_run hname]
  exact ⟨_, rfl⟩

/-- An injector gives the pair to the policy of its owner, and tells of it. -/
theorem step_of_injector (hw : w.Intact) {i : Ref .injector} (hi : swap.injector? = some i)
    (fits : swap.Fits p w) :
    swap.Step p w (w.outcome (overrideScheduling call i swap.hooks.1 swap.hooks.2))
      (w.after (overrideScheduling call i swap.hooks.1 swap.hooks.2)) := by
  obtain ⟨howner, hhas⟩ := fits i hi
  have hpolicy := howner.run_policyOf hw call
  have hownerless : swap.ownerless w = (w.policyOf (w.row i : Injector).owner).isNone := by
    rw [ownerless, hi]
    rfl
  rcases hhas with hnone | hp
  · obtain ⟨shown, hrefused⟩ := run_refuseOwner howner call
    have hrun : w.run (overrideScheduling call i swap.hooks.1 swap.hooks.2) =
        (.error (.notSetUp shown), w) := by
      rw [overrideScheduling_eq, World.run_bind_of_run (World.run_fetch w i),
        World.run_bind_of_run hpolicy, hnone]
      exact hrefused
    rw [World.outcome_of_run hrun, World.after_of_run hrun]
    exact .ownerless (by rw [hownerless, hnone]; rfl)
  · have howned : swap.ownerless w = false := by rw [hownerless, hp]; rfl
    rw [hp] at hpolicy
    rcases checkHooks_cases w swap.hooks.1 swap.hooks.2 with
      ⟨hcallable, hcheck⟩ | ⟨hcallable, role, type, hcheck⟩
    · -- The pair is accepted before anybody is told.
      rw [World.outcome, World.after, hw.run_override call hpolicy hcheck]
      have hlike := quiet_tellReplaced call i swap.hooks.1 swap.hooks.2 (w.hooksOf p)
        (w.given p swap.hooks)
      change Step p w swap ((w.given p swap.hooks).outcome _) _
      rcases tellReplaced_cases call (i := i) (howner.given p swap.hooks) swap.hooks
        (w.hooksOf p) with htold | ⟨fault, hfault, huntold⟩
      · rw [htold]
        exact .replaced howned hcallable hlike
      · rw [hfault]
        exact .untold howned hcallable (by rw [hi]; rfl) huntold hlike
    · have hrun := hw.run_override_refused call hpolicy hcheck
      rw [World.outcome_of_run hrun, World.after_of_run hrun]
      exact .uncallable howned hcallable

/-- A call does nothing else. -/
theorem step (hw : w.Intact) (fits : swap.Fits p w) :
    swap.Step p w (w.outcome (swap.perform call p)) (w.after (swap.perform call p)) := by
  cases swap with
  | set arm cancel =>
    rcases checkHooks_cases w arm cancel with ⟨hcallable, hcheck⟩ | ⟨hcallable, role, type, hcheck⟩
    · have hrun := hw.run_setScheduler hcheck p
      rw [perform, World.outcome_of_run hrun, World.after_of_run hrun]
      exact .replaced rfl hcallable (.refl _)
    · have hrun := World.run_setScheduler_refused hcheck p
      rw [perform, World.outcome_of_run hrun, World.after_of_run hrun]
      exact .uncallable rfl hcallable
  | override i arm cancel => exact step_of_injector hw rfl fits
  | disable i =>
    have hrun : w.run (disableTimers call i) = w.run (overrideScheduling call i _ _) :=
      hw.run_request call i _ _ rfl
    rw [perform, World.outcome, World.after, hrun]
    exact step_of_injector hw rfl fits

namespace Step

variable {outcome : Except Fault Value} {w' : World} (h : swap.Step p w outcome w')
include h

/-- Hooks that cannot be called are refused, and nothing changes. -/
theorem uncallable_refused (howned : swap.ownerless w = false) (hcallable : swap.callable = false) :
    (∃ role type, outcome = .error (.hookNotCallable role type)) ∧ w' = w := by
  cases h with
  | ownerless ownerless => cases howned.symm.trans ownerless
  | uncallable => exact ⟨⟨_, _, rfl⟩, rfl⟩
  | replaced _ callable | untold _ callable => cases hcallable.symm.trans callable

/-- Where there is no policy everything is refused, and nothing changes. -/
theorem ownerless_refused (hownerless : swap.ownerless w = true) :
    (∃ shown, outcome = .error (.notSetUp shown)) ∧ w' = w := by
  cases h with
  | ownerless => exact ⟨⟨_, rfl⟩, rfl⟩
  | uncallable owned | replaced owned | untold owned => cases owned.symm.trans hownerless

/-- What is accepted succeeds, but for an injector that cannot tell of it. -/
theorem accepted_cases (haccepted : swap.accepted w = true) :
    outcome = .ok (w.hooksOf p) ∨
      (∃ fault, outcome = .error fault) ∧ swap.injector?.isSome = true ∧
        (¬(w.given p swap.hooks).Tells swap.hooks.1 ∨
          ¬(w.given p swap.hooks).Tells swap.hooks.2) := by
  obtain ⟨howned, hcallable⟩ := Bool.and_eq_true_iff.1 haccepted
  cases h with
  | ownerless ownerless =>
    rw [ownerless] at howned
    cases howned
  | uncallable _ uncallable => cases hcallable.symm.trans uncallable
  | replaced => exact .inl rfl
  | untold _ _ injector untold => exact .inr ⟨⟨_, rfl⟩, injector, untold⟩

/-- A pair that is accepted is what the hooks are afterwards, however the call ends; a pair that is
not accepted makes no difference. -/
theorem settles (hw : w.Intact) :
    swap.accepted w = true ∧ w'.Intact ∧ w'.Pairs p swap.hooks ∨
      swap.accepted w = false ∧ w' = w := by
  have hgiven (hlike : (w.given p swap.hooks).Alike w') : w'.Intact ∧ w'.Pairs p swap.hooks := by
    refine ⟨?_, (hw.pairs_given p swap.hooks).of_alike hlike⟩
    obtain ⟨log, serial, rfl⟩ := hlike
    exact (hw.given p swap.hooks).congr rfl
  unfold accepted
  cases h with
  | ownerless ownerless => exact .inr ⟨by rw [ownerless]; rfl, rfl⟩
  | uncallable owned uncallable => exact .inr ⟨by rw [owned, uncallable]; rfl, rfl⟩
  | replaced owned callable given =>
    exact .inl ⟨by rw [owned, callable]; rfl, hgiven given⟩
  | untold owned callable _ _ given =>
    exact .inl ⟨by rw [owned, callable]; rfl, hgiven given⟩

end Step

end

end Swap

/-! ## Any number of calls -/

/-- A call in the state in which it is made. -/
structure Exchange where
  before : World
  swap : Swap

namespace Exchange

/-- How a call ended. -/
def outcome (call : Caller) (p : Ref .policy) (e : Exchange) : Except Fault Value :=
  e.before.outcome (e.swap.perform call p)

/-- The state that a call left, however it ended. -/
def after (call : Caller) (p : Ref .policy) (e : Exchange) : World :=
  e.before.after (e.swap.perform call p)

/-- The pair that a call was accepted with. -/
def accepted? (e : Exchange) : Option (Value × Value) :=
  if e.swap.accepted e.before then some e.swap.hooks else none

theorem isSome_accepted? (e : Exchange) : e.accepted?.isSome = e.swap.accepted e.before := by
  unfold accepted?
  cases e.swap.accepted e.before <;> rfl

/-- The pair that a call returned. -/
def returned? (call : Caller) (p : Ref .policy) (e : Exchange) : Option (Value × Value) :=
  match e.outcome call p with
  | .ok (.tuple _ [arm, cancel]) => some (arm, cancel)
  | _ => none

end Exchange

/-- The pair that was accepted last, after the one that there was at first. -/
def latest (hooks : Value × Value) (es : List Exchange) : Value × Value :=
  ((es.filterMap Exchange.accepted?).getLast?).getD hooks

section

variable (hooks : Value × Value) (es : List Exchange)

theorem latest_append (later : List Exchange) :
    latest hooks (es ++ later) = latest (latest hooks es) later := by
  rw [latest, List.filterMap_append, List.getLast?_append]
  unfold latest
  cases (later.filterMap Exchange.accepted?).getLast? <;> rfl

theorem latest_concat (e : Exchange) :
    latest hooks (es ++ [e]) = e.accepted?.getD (latest hooks es) := by
  rw [latest_append, latest, List.filterMap_cons]
  cases e.accepted? <;> rfl

end

/-- A policy is made, and calls are made to replace its hooks, while other things may happen that
leave them alone. -/
inductive Swapping (call : Caller) (p : Ref .policy) (hooks : Value × Value) :
    List Exchange → World → Prop
  /-- The policy is made with a pair. -/
  | made {w : World} (intact : w.Intact) (made : w.outcome (newPolicy hooks.1 hooks.2) = .ok p) :
      Swapping call p hooks [] (w.after (newPolicy hooks.1 hooks.2))
  /-- Something else happens. -/
  | elsewhere {es : List Exchange} {w w' : World} (h : Swapping call p hooks es w)
      (intact : w'.Intact) (kept : w'.hooksOf p = w.hooksOf p) : Swapping call p hooks es w'
  /-- A call is made. -/
  | swap {es : List Exchange} {w : World} (h : Swapping call p hooks es w) (swap : Swap)
      (fits : swap.Fits p w) :
      Swapping call p hooks (es ++ [⟨w, swap⟩]) (w.after (swap.perform call p))

/-- What holds of the hooks of a policy after any calls. -/
structure WholePairs (call : Caller) (p : Ref .policy) (hooks : Value × Value) (es : List Exchange)
    (w : World) : Prop where
  /-- They are the pair that was accepted last. -/
  inForce : w.Pairs p (latest hooks es)
  /-- Whoever reads the two hooks of the policy reads this pair. -/
  read (call' : Caller) :
    w.run (readAttribute call' (.ofRef p) "set_daily_timeout") = (.ok (latest hooks es).1, w) ∧
      w.run (readAttribute call' (.ofRef p) "clear_daily_timeout") = (.ok (latest hooks es).2, w)
  /-- What is armed or cancelled through the policy goes to this pair. -/
  through (args : List Value) (named : List (String × Value)) :
    w.run (perform (.call (.ofRef p) "set_daily_timeout" args named)) =
        w.run (callOnce invoke (latest hooks es).1 args named) ∧
      w.run (perform (.call (.ofRef p) "clear_daily_timeout" args named)) =
        w.run (callOnce invoke (latest hooks es).2 args named)
  /-- A call that succeeds was accepted, and it returns the very pair that there was before. -/
  returned {earlier later : List Exchange} {e : Exchange} (he : es = earlier ++ e :: later)
    {v : Value} (hok : e.outcome call p = .ok v) :
    e.accepted?.isSome = true ∧ v = e.before.hooksOf p ∧
      ∃ serial, v = .tuple serial [(latest hooks earlier).1, (latest hooks earlier).2]
  /-- Hooks that cannot be called are refused, and nothing changes. -/
  uncallable {e : Exchange} (he : e ∈ es) (howned : e.swap.ownerless e.before = false)
    (hcallable : e.swap.callable = false) :
    (∃ role type, e.outcome call p = .error (.hookNotCallable role type)) ∧
      e.after call p = e.before
  /-- Where there is no policy an injector refuses whatever it is given, and nothing changes. -/
  ownerless {e : Exchange} (he : e ∈ es) (hownerless : e.swap.ownerless e.before = true) :
    (∃ shown, e.outcome call p = .error (.notSetUp shown)) ∧ e.after call p = e.before
  /-- What was accepted succeeds, but for an injector that cannot tell of the pair it has given. -/
  accepted {e : Exchange} (he : e ∈ es) (haccepted : e.accepted?.isSome = true) :
    e.outcome call p = .ok (e.before.hooksOf p) ∨
      (∃ fault, e.outcome call p = .error fault) ∧ e.swap.injector?.isSome = true ∧
        (¬(e.before.given p e.swap.hooks).Tells e.swap.hooks.1 ∨
          ¬(e.before.given p e.swap.hooks).Tells e.swap.hooks.2)
  /-- If all that was accepted has succeeded, the returned pairs in reverse order bring back the
  pair that there was before. -/
  restored {earlier done undone : List Exchange} (he : es = earlier ++ done ++ undone)
    (hdone : ∀ e ∈ done, e.accepted?.isSome = true → ∃ v, e.outcome call p = .ok v)
    (hundone : undone.filterMap Exchange.accepted? =
      (done.filterMap (Exchange.returned? call p)).reverse) :
    w.Pairs p (latest hooks earlier)

namespace Swapping

variable {call : Caller} {p : Ref .policy} {hooks : Value × Value} {es : List Exchange} {w : World}

/-- Whatever happens, the hooks are the pair that was accepted last. -/
theorem pairs (h : Swapping call p hooks es w) : w.Intact ∧ w.Pairs p (latest hooks es) := by
  induction h with
  | made intact made => exact intact.made made
  | elsewhere _ intact kept ih =>
    obtain ⟨-, serial, hhooks⟩ := ih
    exact ⟨intact, serial, kept.trans hhooks⟩
  | @swap es w _ swap fits ih =>
    obtain ⟨hintact, hpairs⟩ := ih
    rw [latest_concat, Exchange.accepted?]
    rcases (swap.step hintact fits).settles hintact with ⟨haccepted, hsettled⟩ | ⟨hrefused, hsame⟩
    · rw [if_pos haccepted]
      exact hsettled
    · rw [hsame, if_neg (by rw [hrefused]; decide)]
      exact ⟨hintact, hpairs⟩

/-- Every call was made where the hooks were the pair that had been accepted last by then. -/
theorem exchange (h : Swapping call p hooks es w) {earlier later : List Exchange} {e : Exchange}
    (he : es = earlier ++ e :: later) :
    e.before.Intact ∧ e.swap.Fits p e.before ∧ e.before.Pairs p (latest hooks earlier) := by
  induction h generalizing later with
  | made => simp at he
  | elsewhere _ _ _ ih => exact ih he
  | @swap es w h swap fits ih =>
    rcases later.eq_nil_or_concat with rfl | ⟨front, last, rfl⟩
    · obtain ⟨rfl, hlast⟩ := List.append_inj' he rfl
      obtain rfl := (List.cons.inj hlast).1
      exact ⟨h.pairs.1, fits, h.pairs.2⟩
    · have he' : es ++ [⟨w, swap⟩] = (earlier ++ e :: front) ++ [last] := by
        rw [he, List.concat_eq_append, List.append_assoc, List.cons_append]
      exact ih (List.append_inj' he' rfl).1

/-- What a call of a run did. -/
theorem step (h : Swapping call p hooks es w) {e : Exchange} (he : e ∈ es) :
    e.swap.Step p e.before (e.outcome call p) (e.after call p) := by
  obtain ⟨earlier, later, hsplit⟩ := List.append_of_mem he
  obtain ⟨hintact, fits, -⟩ := h.exchange hsplit
  exact e.swap.step hintact fits

/-- A call that succeeds was accepted. It returns the pair that was accepted last by then. -/
theorem returned (h : Swapping call p hooks es w) {earlier later : List Exchange} {e : Exchange}
    (he : es = earlier ++ e :: later) {v : Value} (hok : e.outcome call p = .ok v) :
    e.accepted?.isSome = true ∧ v = e.before.hooksOf p ∧
      e.returned? call p = some (latest hooks earlier) := by
  obtain ⟨hintact, fits, serial, hpairs⟩ := h.exchange he
  have hstep : e.swap.Step p e.before (e.outcome call p) (e.after call p) :=
    e.swap.step hintact fits
  rw [hok] at hstep
  unfold Exchange.returned? Exchange.accepted? Swap.accepted
  rw [hok]
  cases hstep with
  | replaced owned callable _ =>
    rw [owned, callable, hpairs]
    exact ⟨rfl, rfl, rfl⟩

/-- If all that was accepted has succeeded, the first of the returned pairs is the one that there
was before, and where nothing was returned it is still there. -/
theorem head?_returned (h : Swapping call p hooks es w) {earlier done later : List Exchange}
    (he : es = earlier ++ (done ++ later))
    (hdone : ∀ e ∈ done, e.accepted?.isSome = true → ∃ v, e.outcome call p = .ok v) :
    ((done.filterMap (Exchange.returned? call p)).head?).getD (latest hooks (earlier ++ done)) =
      latest hooks earlier := by
  induction done generalizing earlier with
  | nil => rw [List.append_nil]; rfl
  | cons e rest ih =>
    cases haccepted : e.accepted? with
    | some pair =>
      obtain ⟨v, hok⟩ := hdone e List.mem_cons_self (by rw [haccepted]; rfl)
      rw [List.filterMap_cons_some (h.returned he hok).2.2]
      rfl
    | none =>
      -- What was not accepted did not return anything.
      have hnone : e.returned? call p = none := by
        cases houtcome : e.outcome call p with
        | error fault => rw [Exchange.returned?, houtcome]
        | ok v =>
          have hsome := (h.returned he houtcome).1
          rw [haccepted] at hsome
          cases hsome
      have hsplit : es = (earlier ++ [e]) ++ (rest ++ later) := by
        rw [he, List.append_assoc, List.cons_append, List.cons_append, List.nil_append]
      have hrest := ih hsplit fun e he => hdone e (List.mem_cons_of_mem _ he)
      rw [latest_concat, haccepted, List.append_assoc] at hrest
      rwa [List.filterMap_cons_none hnone]

/-- The hooks of a policy are a whole pair at any time, and the one that was accepted last. -/
theorem wholePairs (h : Swapping call p hooks es w) : WholePairs call p hooks es w := by
  obtain ⟨hintact, hpairs⟩ := h.pairs
  obtain ⟨harm, hcancel⟩ := hpairs.row hintact
  have hread (call' : Caller) :
      w.run (readAttribute call' (.ofRef p) "set_daily_timeout") = (.ok (latest hooks es).1, w) ∧
        w.run (readAttribute call' (.ofRef p) "clear_daily_timeout") =
          (.ok (latest hooks es).2, w) := by
    rw [hintact.run_readAttribute_armHook, hintact.run_readAttribute_cancelHook, harm, hcancel]
    exact ⟨rfl, rfl⟩
  refine {
    inForce := hpairs
    read := hread
    through := fun args named => ⟨World.run_bind_of_run (hread invoke).1,
      World.run_bind_of_run (hread invoke).2⟩
    returned := ?_
    uncallable := fun he => (h.step he).uncallable_refused
    ownerless := fun he => (h.step he).ownerless_refused
    accepted := fun {e} he haccepted =>
      (h.step he).accepted_cases (e.isSome_accepted? ▸ haccepted)
    restored := ?_ }
  · intro earlier later e he v hok
    obtain ⟨haccepted, hv, -⟩ := h.returned he hok
    obtain ⟨-, -, serial, hbefore⟩ := h.exchange he
    exact ⟨haccepted, hv, serial, hv.trans hbefore⟩
  · intro earlier done undone he hdone hundone
    have hfirst := h.head?_returned (he.trans (List.append_assoc ..)) hdone
    rw [he, latest_append, latest, hundone, List.getLast?_reverse, hfirst] at hpairs
    exact hpairs

end Swapping

/-! ### Hooks that are replaced and brought back -/

/-- A recorder, an injector of what has the first policy, and an overlay that cannot be told because
what it was put over has no id. -/
def swapBench : World :=
  { components := ⟨[.plain 2 [],
      .overlay { overrides := .empty, fallback := .ofRef (⟨0⟩ : Ref .component) }]⟩
    recorders := ⟨[{}]⟩
    holders := ⟨[{ policy := .ofRef (⟨0⟩ : Ref .policy) }]⟩
    injectors := ⟨[{ owner := .ofRef (⟨0⟩ : Ref .holder) }]⟩ }

/-- The hooks of the recorder. -/
def swapHooks : Value × Value :=
  (.method (⟨0⟩ : Ref .recorder).object .arm, .method (⟨0⟩ : Ref .recorder).object .cancel)

/-- The policy has been made with the hooks of the recorder. -/
def swapMade : World := swapBench.after (newPolicy swapHooks.1 swapHooks.2)

theorem swapMade_swapping (call : Caller) : Swapping call ⟨0⟩ swapHooks [] swapMade :=
  .made (fun _ _ _ => rfl) rfl

/-- The timers are disabled, -/
def swapDisabled : Exchange := ⟨swapMade, .disable ⟨0⟩⟩

/-- a pair is refused, -/
def swapRefused : Exchange :=
  ⟨swapDisabled.after invoke ⟨0⟩, .override ⟨0⟩ (.function 0 .idleArm) .none⟩

/-- and the policy is given the pair back that the first call returned. -/
def swapBack : Exchange := ⟨swapRefused.after invoke ⟨0⟩, .set swapHooks.1 swapHooks.2⟩

theorem swapBack_swapping :
    Swapping invoke ⟨0⟩ swapHooks [swapDisabled, swapRefused, swapBack]
      (swapBack.after invoke ⟨0⟩) := by
  have hdisabled : Swapping invoke ⟨0⟩ swapHooks [swapDisabled] _ :=
    .swap (swapMade_swapping invoke) swapDisabled.swap fun i hi => by
      cases hi
      exact ⟨.holder rfl, .inr rfl⟩
  have hrefused : Swapping invoke ⟨0⟩ swapHooks [swapDisabled, swapRefused] _ :=
    .swap hdisabled swapRefused.swap fun i hi => by
      cases hi
      exact ⟨.holder rfl, .inr rfl⟩
  exact .swap hrefused swapBack.swap fun i hi => nomatch hi

theorem swapBack_wholePairs :
    WholePairs invoke ⟨0⟩ swapHooks [swapDisabled, swapRefused, swapBack]
        (swapBack.after invoke ⟨0⟩) ∧
      swapDisabled.returned? invoke ⟨0⟩ = some swapHooks :=
  ⟨Swapping.wholePairs swapBack_swapping, rfl⟩

/-! ### A pair that is lost -/

/-- The hooks are to be replaced by a pair of which one cannot be told. -/
def swapUntold : Exchange :=
  ⟨swapMade, .override ⟨0⟩ (.function 0 .idleArm)
    (.method (⟨1⟩ : Ref .component).object .queryInterface)⟩

/-- A call that fails may have replaced the hooks, because it fails in telling of them. The pair in
force is not the one of the latest call that succeeded, then. -/
theorem swapUntold_losesPair :
    ¬∀ (p : Ref .policy) (hooks : Value × Value) (es : List Exchange) (w : World),
      Swapping invoke p hooks es w →
        w.Pairs p (((es.filter fun e => (e.outcome invoke p).isOk).getLast?.map
          (·.swap.hooks)).getD hooks) := by
  intro hlatest
  have hswapping : Swapping invoke ⟨0⟩ swapHooks [swapUntold] (swapUntold.after invoke ⟨0⟩) :=
    .swap (swapMade_swapping invoke) swapUntold.swap fun i hi => by
      cases hi
      exact ⟨.holder rfl, .inr rfl⟩
  obtain ⟨hintact, hpairs⟩ := hswapping.pairs
  have hfails : (swapUntold.outcome invoke ⟨0⟩).isOk = false := by decide +kernel
  have hbefore := hlatest _ _ _ _ hswapping
  rw [List.filter_cons, hfails] at hbefore
  -- By the assumption the recorder would still arm, but it is the idle hook that does.
  have harm := (hbefore.row hintact).1.symm.trans (hpairs.row hintact).1
  cases harm

end Understudy

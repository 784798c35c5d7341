import Understudy.Proofs.MirroredCreations
import Understudy.Proofs.MirroredInstallers
import Understudy.Proofs.MirroredTimelines

/-!
# Appeals to states that mirror each other

An appeal is whatever may be asked of registries, of installers over them and of sessions, and of
the components and providers behind them, by those who keep to their types. Any number of appeals
come to the same in states that mirror each other.

## Main definitions

* `Appeal`: what may be asked.
* `Appeal.perform`: what is done on it.
* `World.outcomes`, `World.afterEach`: what any number of appeals come to.

## Main statements

* `Tally.perform`: one appeal comes to the same in both states.
* `World.Mirrors.appeals`: so does any number of appeals.
-/

namespace Understudy

/-! ## Appeals -/

/-- What may be asked of registries, installers and sessions, and of what is behind them. A session
takes requests without arguments. -/
inductive Appeal where
  | make (t : Creatable) (args : List Value)
  | register (r : Ref .registry) (classId description contractId : Value) (p : Ref .provider)
  | unregister (r : Ref .registry) (contractId provider : Value)
  | query (r : Ref .registry) (q : Query)
  | serve (r : Ref .registry) (contractId : Value) (capability : Capability)
  | capture (r : Ref .registry) (contractId : Value) (capability : Capability)
  | create (p : Ref .provider) (outer : Value) (capability : Capability)
  | view (c : Ref .component) (capability : Capability)
  | field (c : Ref .component) (f : Field)
  | invalidate (c : Ref .component)
  | install (i : Ref .installer) (id name version platformVersion : Value)
  | captureOriginal (i : Ref .installer)
  | restore (i : Ref .installer)
  | original (i : Ref .installer)
  | current (i : Ref .installer)
  | session (s : Ref .session) (m : Method)
  | advance (t : Ref .timeline) (goal : Value)

/-- What is done on an appeal. -/
def Appeal.perform (call : Caller) : Appeal → Action Value
  | .make t args => Understudy.make call t args
  | .register r classId description contractId p =>
    Understudy.register call r classId description contractId (.ofRef p)
  | .unregister r contractId provider =>
    nothing (Understudy.unregister call r contractId provider)
  | .query r q => q.perform call r
  | .serve r contractId capability => getService call r contractId (.capability capability)
  | .capture r contractId capability => captureOnce call r contractId (.capability capability)
  | .create p outer capability => createInstance call p outer (.capability capability)
  | .view c capability => queryInterface call c (.capability capability)
  | .field c f => answerOf call (.ofRef c) f
  | .invalidate c => nothing (invalidateCaches c)
  | .install i id name version platformVersion =>
    Understudy.install call i id name version platformVersion
  | .captureOriginal i => Understudy.captureOriginal call i
  | .restore i => nothing (Understudy.restore call i)
  | .original i => readAttribute call (.ofRef i) "original"
  | .current i => readAttribute call (.ofRef i) "current"
  | .session s m => send call s.object m []
  | .advance t goal => do newList (← Understudy.advance call t goal)

/-- The appeals of those who keep to their types: contracts and classes are known by texts, and
stand-ins answer by simple values. -/
def Appeal.Fits : Appeal → Prop
  | .make t args => t.Fits args
  | .register _ classId description contractId _ =>
    (∃ s, classId.text? = some s) ∧ (∃ s, description.text? = some s) ∧
      ∃ s, contractId.text? = some s
  | .unregister _ contractId _ | .serve _ contractId _ | .capture _ contractId _ =>
    ∃ s, contractId.text? = some s
  | .query _ q => q.Fits
  | .install _ id name version platformVersion =>
    id.Simple ∧ name.Simple ∧ version.Simple ∧ platformVersion.Simple
  | .advance _ goal => goal.Simple
  | _ => True

/-- What appeals come to, one after the other, whether they fail or not. -/
def World.outcomes (call : Caller) : World → List Appeal → List (Except Fault Value)
  | _, [] => []
  | w, appeal :: rest =>
    w.outcome (appeal.perform call) :: outcomes call (w.after (appeal.perform call)) rest

/-- The state that appeals lead to, one after the other. -/
def World.afterEach (call : Caller) : World → List Appeal → World
  | w, [] => w
  | w, appeal :: rest => afterEach call (w.after (appeal.perform call)) rest

namespace Tally

/-! ## One appeal -/

/-- What a thing takes as a request it answers. -/
theorem answered {w v : World} {a b : Action Value} (o : Object) (m : Method)
    (hab : Tally Value.Alike w v a b) :
    Tally Value.Alike w v
      ((some <$> a) >>= fun answer =>
        match answer with
        | some v => Pure.pure v
        | none => do MonadExcept.throw (.noAttribute ((← get).title o) m.word))
      ((some <$> b) >>= fun answer =>
        match answer with
        | some v => Pure.pure v
        | none => do MonadExcept.throw (.noAttribute ((← get).title o) m.word)) :=
  congr (run_answered w a o m) (run_answered v b o m) hab

variable {w v : World} (h : w.Mirrors v) (depth : Nat)
include h

/-- Whatever a session is asked for, it does the same in both. -/
theorem askSession (s : Ref .session) (m : Method) :
    Tally Value.Alike w v (send (invokeWithin depth) s.object m [])
      (send (invokeWithin depth) s.object m []) := by
  cases m with
  | getPolicy =>
    exact settled rfl rfl (.result (congrArg Session.policy (h.row s))) h
  | setUp => exact answered s.object .setUp (setUp h s _)
  | annotateSession => exact answered s.object .annotateSession (annotateSession h s _).nothing
  | requirePolicy =>
    exact answered s.object .requirePolicy ((requirePolicy h s _).mono fun _ _ => Value.One.alike)
  | nextDelay =>
    exact answered s.object .nextDelay
      ((nextDailyDelay h s depth).mono fun _ _ hxy => hxy.alike)
  | start => exact answered s.object .start (start h s depth).nothing
  | armDaily => exact answered s.object .armDaily (armDaily h s depth).nothing
  | collectDaily => exact answered s.object .collectDaily (collectDaily h s depth)
  | currentIdentity =>
    exact answered s.object .currentIdentity
      ((identityService h s _ .runtime).mono fun _ _ => Value.One.alike)
  | environment => exact answered s.object .environment (environment h _ s)
  | shutdown => exact answered s.object .shutdown (shutdown h s depth).nothing
  | dailyTimeout => exact answered s.object .dailyTimeout (onDailyTimeout h s depth).nothing
  | _ => exact settled rfl rfl (.fault _) h

/-- One appeal comes to the same in both states. -/
theorem perform {appeal : Appeal} (hfits : appeal.Fits) :
    Tally Value.Alike w v (appeal.perform (invokeWithin depth))
      (appeal.perform (invokeWithin depth)) := by
  let call := invokeWithin depth
  cases appeal with
  | make t args => exact make h call hfits
  | register r classId description contractId p =>
    obtain ⟨⟨s, hs⟩, ⟨d, hd⟩, t, ht⟩ := hfits
    exact register h call r hs hd ht (.refl _) (.refl _) (.refl _) p
  | unregister r contractId provider =>
    obtain ⟨s, hs⟩ := hfits
    exact (unregister h call r hs provider).nothing
  | query r q => exact query h call r hfits
  | serve r contractId capability =>
    obtain ⟨s, hs⟩ := hfits
    exact (getService h call r hs (.refl _) capability).mono fun _ _ => Value.One.alike
  | capture r contractId capability =>
    obtain ⟨s, hs⟩ := hfits
    exact (captureOnce h call r hs (.refl _) capability).mono fun _ _ => Captured.alike
  | create p outer capability => exact createInstance h call p outer capability
  | view c capability => exact queryInterface h call c capability
  | field c f => exact (answerOf h call c f).mono fun _ _ hxy => hxy.alike
  | invalidate c => exact (invalidateCaches h c).nothing
  | install i id name version platformVersion =>
    obtain ⟨hid, hname, hversion, hplatform⟩ := hfits
    exact install h call i hid hname hversion hplatform
  | captureOriginal i => exact (captureOriginal h call i).mono fun _ _ => Value.One.alike
  | restore i => exact (restore h call i).nothing
  | original i => exact original h call i
  | current i => exact current h call i
  | session s m => exact askSession h depth s m
  | advance t goal =>
    exact bind (advance h depth t hfits) fun _ _ w v h hfired =>
      newList h (Value.map_unstamped_of_alike hfired)

end Tally

/-! ## Any number of appeals -/

/-- Any number of appeals come to the same in both states, one by one. -/
theorem World.Mirrors.appeals {w v : World} (h : w.Mirrors v) (depth : Nat) {appeals : List Appeal}
    (hfits : ∀ appeal ∈ appeals, appeal.Fits) :
    List.Forall₂ (Concur Value.Alike) (w.outcomes (invokeWithin depth) appeals)
        (v.outcomes (invokeWithin depth) appeals) ∧
      (w.afterEach (invokeWithin depth) appeals).Mirrors
        (v.afterEach (invokeWithin depth) appeals) ∧
      w.Retains (w.afterEach (invokeWithin depth) appeals) ∧
      v.Retains (v.afterEach (invokeWithin depth) appeals) := by
  induction appeals generalizing w v with
  | nil => exact ⟨.nil, h, .refl w, .refl v⟩
  | cons appeal rest ih =>
    have hfirst := Tally.perform h depth (hfits appeal List.mem_cons_self)
    obtain ⟨hrest, hmirrors, hleft, hright⟩ :=
      ih hfirst.mirrors fun a ha => hfits a (List.mem_cons_of_mem _ ha)
    exact ⟨.cons hfirst.concur hrest, hmirrors, hfirst.left.trans hleft,
      hfirst.right.trans hright⟩

end Understudy

import Understudy.Proofs.Dealing
import Understudy.Proofs.Hooks
import Understudy.Proofs.TimelineTimers

/-!
# Sessions and their timers

A session keeps the handle of the timer that it armed last. Whether that is the only timer
that will call it depends on its hooks, on the banks behind them, on the timeline, and on
what all others do to these. This module says what is left alone by whatever is not about
the timer, and what has to hold for a session to know all of its timers.

## Main definitions

* `World.Untouched`, `World.Filled`: what a session's timer depends on is left alone.
* `World.Awaits`: a timer will call a session when its time comes.
* `Tended`: the session knows all of the timers that will call it.

## Main statements

* `Tended.filled`: what leaves alone what counts keeps a session tended.
-/

namespace Understudy

/-! ## What is left alone -/

/-- What arms and cancels the timers of all sessions is left alone. There may be new policies
and new banks. -/
structure World.Steady (reg : Ref .registry) (w w' : World) : Prop where
  sane (h : Sane reg w) : Sane reg w'
  morePolicies : w.policies.size ≤ w'.policies.size
  policy (p : Ref .policy) (hp : p.index < w.policies.size) : w'.row p = (w.row p : Policy)
  bank (b : Ref .bank) (t : Ref .timeline) (hb : (w.row b : Bank).On t) : (w'.row b : Bank).On t

/-- The timelines and a session are left alone as well. -/
structure World.Untouched (reg : Ref .registry) (s : Ref .session) (w w' : World) : Prop
    extends w.Steady reg w' where
  timelines : w'.timelines = w.timelines
  session : w'.row s = (w.row s : Session)

/-- A session apart from what it has collected, and from the id that it is known by. -/
def Session.unfilled (session : Session) : Session :=
  { session with collections := [], sessionId := .none }

/-- The timelines are left alone, and so is a session but for what it has collected, and for
the id that it is known by. -/
structure World.Filled (reg : Ref .registry) (s : Ref .session) (w w' : World) : Prop
    extends w.Steady reg w' where
  timelines : w'.timelines = w.timelines
  session : (w'.row s : Session).unfilled = (w.row s : Session).unfilled

namespace World.Steady

variable {reg : Ref .registry} {w w' w'' : World}

theorem trans (h : w.Steady reg w') (h' : w'.Steady reg w'') : w.Steady reg w'' where
  sane hs := h'.sane (h.sane hs)
  morePolicies := Nat.le_trans h.morePolicies h'.morePolicies
  policy p hp := (h'.policy p (Nat.lt_of_lt_of_le hp h.morePolicies)).trans (h.policy p hp)
  bank b t hb := h'.bank b t (h.bank b t hb)

/-- Where policies stay, the registry and the banks count. -/
theorem of_policies (hsane : Sane reg w → Sane reg w') (hpolicies : w'.policies = w.policies)
    (hbank : ∀ (b : Ref .bank) (t : Ref .timeline), (w.row b : Bank).On t →
      (w'.row b : Bank).On t) :
    w.Steady reg w' where
  sane := hsane
  morePolicies := Nat.le_of_eq (congrArg Table.size hpolicies.symm)
  policy p _ := congrArg (Table.get · p.index) hpolicies
  bank := hbank

/-- Where policies and banks stay, only the registry counts. -/
theorem of_eq (hsane : Sane reg w → Sane reg w') (hpolicies : w'.policies = w.policies)
    (hbanks : w'.banks = w.banks) : w.Steady reg w' :=
  of_policies hsane hpolicies fun b t hb => by
    have hrow : w'.row b = (w.row b : Bank) := congrArg (Table.get · b.index) hbanks
    rwa [hrow]

end World.Steady

namespace World.Untouched

variable {reg : Ref .registry} {s : Ref .session} {w w' w'' : World}

theorem trans (h : w.Untouched reg s w') (h' : w'.Untouched reg s w'') : w.Untouched reg s w'' :=
  ⟨h.toSteady.trans h'.toSteady, h'.timelines.trans h.timelines, h'.session.trans h.session⟩

theorem of_served (h : w.Served w') : w.Untouched reg s w' where
  toSteady := .of_eq (fun hs => hs.of_served h) (by rw [h.frame]) (by rw [h.frame])
  timelines := by rw [h.frame]
  session := by
    rw [h.frame]
    rfl

theorem of_alike (h : w.Alike w') : w.Untouched reg s w' := of_served (.of_alike h)

theorem refl (w : World) : w.Untouched reg s w := of_alike (.refl w)

theorem filled (h : w.Untouched reg s w') : w.Filled reg s w' :=
  ⟨h.toSteady, h.timelines, congrArg Session.unfilled h.session⟩

end World.Untouched

namespace World.Filled

variable {reg : Ref .registry} {s : Ref .session} {w w' w'' : World}

theorem trans (h : w.Filled reg s w') (h' : w'.Filled reg s w'') : w.Filled reg s w'' :=
  ⟨h.toSteady.trans h'.toSteady, h'.timelines.trans h.timelines, h'.session.trans h.session⟩

theorem of_alike (h : w.Alike w') : w.Filled reg s w' := (Untouched.of_alike h).filled

end World.Filled

/-- A value that leaves alone what a session's timer depends on when it is called. -/
def Aloof (reg : Ref .registry) (s : Ref .session) (v : Value) : Prop :=
  ∀ (depth : Nat) (w : World), w.Untouched reg s (w.after (invokeWithin depth v []))

/-- A value that can be taken for a clock or a callback without harm: a function that tells the
time or notes its own name, or something that cannot be called. -/
def Value.Harmless : Value → Prop
  | .function _ .clock | .function _ .wallClock | .function _ (.callback _) => True
  | v => v.callable = false

/-- A harmless value that is called notes a name at most. -/
theorem Value.Harmless.after_invoke {v : Value} (h : v.Harmless) (depth : Nat) (w : World) :
    ∃ fired, w.after (invokeWithin depth v []) = { w with fired := fired } := by
  cases depth with
  | zero => exact ⟨w.fired, rfl⟩
  | succ depth =>
    unfold Value.Harmless at h
    split at h
    · exact ⟨w.fired, rfl⟩
    · exact ⟨w.fired, rfl⟩
    · exact ⟨_, rfl⟩
    · cases v with
      | function serial f => cases h
      | operation serial owner op => cases h
      | expiry bank serial callback => cases h
      | object o =>
        obtain ⟨kind, index⟩ := o
        cases kind with
        | probe => cases h
        | _ => exact ⟨w.fired, rfl⟩
      | _ => exact ⟨w.fired, rfl⟩

/-- What is harmless leaves every session alone. -/
theorem Value.Harmless.aloof {v : Value} (h : v.Harmless) (reg : Ref .registry)
    (s : Ref .session) : Aloof reg s v := by
  intro depth w
  obtain ⟨fired, hafter⟩ := h.after_invoke depth w
  rw [hafter]
  exact ⟨.of_eq (fun hs => ⟨hs.intact.congr rfl, hs.sound⟩) rfl rfl, rfl, rfl⟩

/-! ## Timers that call a session -/

/-- A timer that calls a session when it fires. -/
def Timer.Calls (timer : Timer) (s : Ref .session) : Prop :=
  ∃ serial, timer.callback = .function serial (.method s.object .dailyTimeout)

/-- A timer of a timeline that has neither fired nor been cancelled, and calls a session. -/
def World.Awaits (w : World) (s : Ref .session) (t : Ref .timeline) (seq : Nat) : Prop :=
  ∃ timer, (w.row t : Timeline).timer? seq = some timer ∧ timer.live = true ∧ timer.Calls s

/-- The pairs of hooks that a session is given: those that do nothing, and those of a bank on
the timeline. -/
inductive World.Hooked (w : World) (t : Ref .timeline) : Value → Value → Prop
  | idle (i j : Nat) : Hooked w t (.function i .idleArm) (.function j .idleCancel)
  | banked (i j : Nat) {b : Ref .bank} (on : (w.row b : Bank).On t) :
      Hooked w t (.function i (.method b.object .arm)) (.function j (.method b.object .cancel))

theorem World.Hooked.of_banks {w w' : World} {t : Ref .timeline} {arm cancel : Value}
    (h : w.Hooked t arm cancel)
    (hb : ∀ b : Ref .bank, (w.row b : Bank).On t → (w'.row b : Bank).On t) :
    w'.Hooked t arm cancel := by
  cases h with
  | idle i j => exact .idle i j
  | banked i j on => exact .banked i j (hb _ on)

/-- The hooks of a session can cancel what a bank has armed. -/
def World.CanCancel (w : World) (s : Ref .session) : Prop :=
  ∃ (p : Ref .policy) (j : Nat) (b : Ref .bank), (w.row s : Session).policy = .ofRef p ∧
    (w.row p : Policy).cancel = .function j (.method b.object .cancel)

/-- Nothing keeps a session from being shut down for good: it has no timer, or hooks that can
cancel it. -/
def World.CanStop (w : World) (s : Ref .session) : Prop :=
  (w.row s : Session).handle = .none ∨ w.CanCancel s

/-- A session with all that it needs to arm its timer: a registry, a clock that leaves it alone,
a bank on the timeline, and, once it has been set up, a policy with hooks. -/
structure Equipped (reg : Ref .registry) (s : Ref .session) (t : Ref .timeline) (w : World) :
    Prop where
  sane : Sane reg w
  registry : (w.row s : Session).registry = .ofRef reg
  clock : Aloof reg s (w.row s : Session).clock
  timers : ∃ b : Ref .bank, (w.row s : Session).timers = .ofRef b ∧ (w.row b : Bank).On t
  policy : (w.row s : Session).policy = .none ∨
    ∃ p : Ref .policy, (w.row s : Session).policy = .ofRef p ∧ p.index < w.policies.size ∧
      w.Hooked t (w.row p : Policy).arm (w.row p : Policy).cancel

/-- What has to hold for a session to know all of the timers that will call it. If it is
guarded, its hooks can cancel a timer as long as there is one. -/
structure Tended (guarded : Prop) (reg : Ref .registry) (s : Ref .session) (t : Ref .timeline)
    (w : World) : Prop where
  equipped : Equipped reg s t w
  running : ∃ b, (w.row s : Session).running = .bool b
  /-- It is not running before it has been set up. -/
  unready (h : (w.row s : Session).policy = .none) : (w.row s : Session).running = .bool false
  /-- The other timers of the timeline leave it alone. -/
  others (seq : Nat) (timer : Timer) (h : (w.row t : Timeline).timer? seq = some timer)
    (hlive : timer.live = true) : timer.Calls s ∨ Aloof reg s timer.callback
  /-- The timers that will call it are those that it has the handle of. -/
  awaits (t' : Ref .timeline) (seq : Nat) :
    w.Awaits s t' seq ↔ (w.row s : Session).handle = .handle t' seq
  /-- It has the handle of a timer of the timeline, or none. -/
  handle : (w.row s : Session).handle = .none ∨ ∃ seq, (w.row s : Session).handle = .handle t seq
  /-- It has none unless it is running. -/
  stopped (h : (w.row s : Session).running = .bool false) : (w.row s : Session).handle = .none
  cancels (h : guarded) (hn : (w.row s : Session).handle ≠ .none) : w.CanCancel s

/-- The parts of a session that its equipment consists of. -/
def Session.gear (session : Session) : List Value :=
  [session.registry, session.clock, session.timers, session.policy]

theorem Session.gear_inj {x y : Session} (h : x.gear = y.gear) :
    x.registry = y.registry ∧ x.clock = y.clock ∧ x.timers = y.timers ∧ x.policy = y.policy := by
  simpa [gear] using h

namespace Equipped

variable {reg : Ref .registry} {s : Ref .session} {t : Ref .timeline} {w w' : World}

theorem steady (h : Equipped reg s t w) (hs : w.Steady reg w')
    (hg : (w'.row s : Session).gear = (w.row s : Session).gear) : Equipped reg s t w' := by
  obtain ⟨hregistry, hclock, htimers, hpolicy⟩ := Session.gear_inj hg
  refine ⟨hs.sane h.sane, hregistry.trans h.registry, hclock ▸ h.clock, ?_, ?_⟩
  · obtain ⟨b, hb, hon⟩ := h.timers
    exact ⟨b, htimers.trans hb, hs.bank b t hon⟩
  · rcases h.policy with hnone | ⟨p, hp, hlt, hhooked⟩
    · exact .inl (hpolicy.trans hnone)
    · refine .inr ⟨p, hpolicy.trans hp, Nat.lt_of_lt_of_le hlt hs.morePolicies, ?_⟩
      rw [hs.policy p hlt]
      exact hhooked.of_banks fun b => hs.bank b t

/-- The policy of a session is there, and has hooks. -/
theorem hooked (h : Equipped reg s t w) {p : Ref .policy}
    (hp : (w.row s : Session).policy = .ofRef p) :
    p.index < w.policies.size ∧ w.Hooked t (w.row p : Policy).arm (w.row p : Policy).cancel := by
  rcases h.policy with hnone | ⟨p', hp', hrest⟩
  · rw [hnone] at hp
    cases hp
  · exact Value.ofRef_injective (hp'.symm.trans hp) ▸ hrest

/-- Hooks that can cancel stay in place. -/
theorem canCancel (h : Equipped reg s t w) (hs : w.Steady reg w')
    (hg : (w'.row s : Session).gear = (w.row s : Session).gear) (hc : w.CanCancel s) :
    w'.CanCancel s := by
  obtain ⟨_, _, _, hpolicy⟩ := Session.gear_inj hg
  obtain ⟨p, j, b, hp, hcancel⟩ := hc
  have hkept := hs.policy p (h.hooked hp).1
  exact ⟨p, j, b, hpolicy.trans hp, (congrArg Policy.cancel hkept).trans hcancel⟩

end Equipped

namespace Tended

variable {guarded : Prop} {reg : Ref .registry} {s : Ref .session} {t : Ref .timeline}
  {w w' : World}

/-- What leaves alone what counts keeps a session tended. -/
theorem filled (h : Tended guarded reg s t w) (hf : w.Filled reg s w') :
    Tended guarded reg s t w' := by
  have hfield {α : Type} (f : Session → α) (hu : ∀ x : Session, f x.unfilled = f x) :
      f (w'.row s) = f (w.row s) := by
    rw [← hu (w'.row s), hf.session, hu]
  have hgear := hfield Session.gear fun _ => rfl
  have hrunning := hfield Session.running fun _ => rfl
  have hpolicy := hfield Session.policy fun _ => rfl
  have hhandle := hfield Session.handle fun _ => rfl
  have hline (t' : Ref .timeline) : w'.row t' = (w.row t' : Timeline) :=
    congrArg (Table.get · t'.index) hf.timelines
  refine
    { equipped := h.equipped.steady hf.toSteady hgear
      running := hrunning ▸ h.running
      unready := fun hn => hrunning.trans (h.unready (hpolicy.symm.trans hn))
      others := fun seq timer htimer => h.others seq timer (hline t ▸ htimer)
      awaits := fun t' seq => ?_
      handle := hhandle ▸ h.handle
      stopped := fun hr => hhandle.trans (h.stopped (hrunning.symm.trans hr))
      cancels := fun hg hn => ?_ }
  · rw [World.Awaits, hline, hhandle]
    exact h.awaits t' seq
  · exact h.equipped.canCancel hf.toSteady hgear (h.cancels hg (hhandle ▸ hn))

theorem alike (h : Tended guarded reg s t w) (ha : w.Alike w') : Tended guarded reg s t w' :=
  h.filled (.of_alike ha)

end Tended

/-! ### Changes of a timeline -/

namespace World

variable {s : Ref .session} {t : Ref .timeline} {w w' : World}

/-- A timer that is given up is the only one that does not call any more. -/
theorem awaits_of_dropped (hlines : ∀ t', t' ≠ t → w'.row t' = (w.row t' : Timeline)) {seq : Nat}
    {dropped : Option Timer} (hdropped : ∀ timer, dropped = some timer → timer.live = false)
    (hline : ∀ other, (w'.row t : Timeline).timer? other =
      if other = seq then dropped else (w.row t : Timeline).timer? other)
    (t' : Ref .timeline) (other : Nat) :
    w'.Awaits s t' other ↔ w.Awaits s t' other ∧ ¬(t' = t ∧ other = seq) := by
  unfold Awaits
  by_cases ht : t' = t
  · subst ht
    rw [hline]
    by_cases hother : other = seq
    · rw [if_pos hother]
      constructor
      · rintro ⟨timer, htimer, hlive, _⟩
        rw [hdropped timer htimer] at hlive
        cases hlive
      · exact fun hno => absurd ⟨rfl, hother⟩ hno.2
    · rw [if_neg hother]
      exact ⟨fun ha => ⟨ha, fun hno => hother hno.2⟩, And.left⟩
  · rw [hlines t' ht]
    exact ⟨fun ha => ⟨ha, fun hno => ht hno.1⟩, And.left⟩

/-- A timer that is added calls, and the others do as before. -/
theorem awaits_of_added (hlines : ∀ t', t' ≠ t → w'.row t' = (w.row t' : Timeline))
    {timer : Timer} (hcalls : timer.Calls s) (hlive : timer.live = true)
    (hline : ∀ other, (w'.row t : Timeline).timer? other =
      if other = (w.row t : Timeline).nextSeq then some timer
      else (w.row t : Timeline).timer? other)
    (t' : Ref .timeline) (other : Nat) :
    w'.Awaits s t' other ↔
      w.Awaits s t' other ∨ (t' = t ∧ other = (w.row t : Timeline).nextSeq) := by
  unfold Awaits
  by_cases ht : t' = t
  · subst ht
    rw [hline]
    by_cases hother : other = (w.row t' : Timeline).nextSeq
    · rw [if_pos hother]
      exact ⟨fun _ => .inr ⟨rfl, hother⟩, fun _ => ⟨timer, rfl, hlive, hcalls⟩⟩
    · rw [if_neg hother]
      exact ⟨.inl, fun ha => ha.resolve_right fun hno => hother hno.2⟩
  · rw [hlines t' ht]
    exact ⟨.inl, fun ha => ha.resolve_right fun hno => ht hno.1⟩

end World

namespace Tended

variable {guarded : Prop} {reg : Ref .registry} {s : Ref .session} {t : Ref .timeline}
  {w w' : World}

/-- One timer of the timeline may be given up, and with it the handle of it. -/
theorem drop (h : Tended guarded reg s t w) (hs : w.Steady reg w')
    (hg : (w'.row s : Session).gear = (w.row s : Session).gear)
    (hlines : ∀ t', t' ≠ t → w'.row t' = (w.row t' : Timeline)) {seq : Nat}
    {dropped : Option Timer} (hdropped : ∀ timer, dropped = some timer → timer.live = false)
    (hline : ∀ other, (w'.row t : Timeline).timer? other =
      if other = seq then dropped else (w.row t : Timeline).timer? other)
    (hgiven : (w.row s : Session).handle = .handle t seq → (w'.row s : Session).handle = .none)
    (hkept : (w.row s : Session).handle ≠ .handle t seq →
      (w'.row s : Session).handle = (w.row s : Session).handle)
    (hrunning : ∃ b, (w'.row s : Session).running = .bool b)
    (hunready : (w.row s : Session).policy = .none → (w'.row s : Session).running = .bool false)
    (hstopped : (w'.row s : Session).running = .bool false → (w'.row s : Session).handle = .none) :
    Tended guarded reg s t w' := by
  have hpolicy := (Session.gear_inj hg).2.2.2
  refine
    { equipped := h.equipped.steady hs hg
      running := hrunning
      unready := fun hn => hunready (hpolicy.symm.trans hn)
      others := fun q timer htimer hlive => ?_
      awaits := fun t' q => ?_
      handle := ?_
      stopped := hstopped
      cancels := fun hguarded hn => ?_ }
  · rw [hline] at htimer
    by_cases hq : q = seq
    · rw [if_pos hq] at htimer
      rw [hdropped timer htimer] at hlive
      cases hlive
    · rw [if_neg hq] at htimer
      exact h.others q timer htimer hlive
  · rw [World.awaits_of_dropped hlines hdropped hline, h.awaits]
    by_cases hhandle : (w.row s : Session).handle = .handle t seq
    · rw [hgiven hhandle, hhandle]
      constructor
      · rintro ⟨hsame, hno⟩
        cases hsame
        exact absurd ⟨rfl, rfl⟩ hno
      · exact fun hno => nomatch hno
    · rw [hkept hhandle]
      refine ⟨And.left, fun hsame => ⟨hsame, ?_⟩⟩
      rintro ⟨rfl, rfl⟩
      exact hhandle hsame
  · by_cases hhandle : (w.row s : Session).handle = .handle t seq
    · exact .inl (hgiven hhandle)
    · rw [hkept hhandle]
      exact h.handle
  · by_cases hhandle : (w.row s : Session).handle = .handle t seq
    · exact absurd (hgiven hhandle) hn
    · exact h.equipped.canCancel hs hg (h.cancels hguarded (hkept hhandle ▸ hn))

/-- A running session without a timer may be given the handle of a new one that calls it. -/
theorem take (h : Tended guarded reg s t w) (hn : (w.row s : Session).handle = .none)
    (hs : w.Steady reg w') (hg : (w'.row s : Session).gear = (w.row s : Session).gear)
    (hlines : ∀ t', t' ≠ t → w'.row t' = (w.row t' : Timeline)) {timer : Timer}
    (hcalls : timer.Calls s) (hlive : timer.live = true)
    (hline : ∀ other, (w'.row t : Timeline).timer? other =
      if other = (w.row t : Timeline).nextSeq then some timer
      else (w.row t : Timeline).timer? other)
    (hhandle : (w'.row s : Session).handle = .handle t (w.row t : Timeline).nextSeq)
    (hready : (w.row s : Session).policy ≠ .none)
    (hrunning : (w'.row s : Session).running = .bool true) (hcan : w'.CanCancel s) :
    Tended guarded reg s t w' := by
  have hpolicy := (Session.gear_inj hg).2.2.2
  refine
    { equipped := h.equipped.steady hs hg
      running := ⟨true, hrunning⟩
      unready := fun hp => absurd (hpolicy.symm.trans hp) hready
      others := fun q other hother hl => ?_
      awaits := fun t' q => ?_
      handle := .inr ⟨_, hhandle⟩
      stopped := fun hr => by
        rw [hrunning] at hr
        cases hr
      cancels := fun _ _ => hcan }
  · rw [hline] at hother
    split at hother
    · cases hother
      exact .inl hcalls
    · exact h.others q other hother hl
  · rw [World.awaits_of_added hlines hcalls hlive hline, h.awaits, hn, hhandle]
    constructor
    · rintro (hno | ⟨rfl, rfl⟩)
      · cases hno
      · rfl
    · intro hsame
      cases hsame
      exact .inr ⟨rfl, rfl⟩

end Tended

end Understudy

import Mathlib.Logic.Relation
import Understudy.Proofs.ContextsApart

/-!
# Banks that stay dormant

The hooks of an environment do nothing when it has been set up, and nothing but an override gives
it others. So its bank arms no timer, whatever goes on, unless it is given a hook that is the bank's
own or calls it. Other hooks may do a lot: arm timers elsewhere, call back at once, deal with the
registry, or ask something of the environment themselves. All that counts is that what they do is
again something that may go on.

Calls go down to a depth, and a call within a call goes one less deep. By induction on the depth,
what goes on keeps the bank dormant.

## Main definitions

* `ContextRequest`: what can be asked of an environment.
* `Outsiders`: the hooks and the callbacks that an environment is given.
* `ContextParts.Dormant`: a bank without timers, and hooks of outsiders.
* `ContextParts.Move`, `ContextParts.Course`: what may go on.
* `Outsiders.Comply`: what outsiders do is again something that may go on.

## Main statements

* `ContextParts.Dormant.move`: one move keeps a bank dormant.
* `ContextParts.Dormant.course`: so does whatever goes on.
-/

namespace Understudy

/-! ## Requests -/

/-- What can be asked of an environment. -/
inductive ContextRequest where
  | deal (d : Dealing)
  | install (id name version platformVersion : Value)
  | setUp
  | start
  | shutdown
  | collect
  | report
  | advance (t : Ref .timeline) (goal : Value)
  | override (arm cancel : Value)

/-- The state that a request leads to, whether it fails or not. -/
def ContextRequest.after (call : Caller) (l : ContextParts) (r : Ref .registry) (c : Ref .context)
    (w : World) :
    ContextRequest → World
  | deal d => w.after (d.perform call r)
  | install id name version platformVersion =>
    w.after (installIn call c id name version platformVersion)
  | setUp => w.after (Understudy.setUp call l.session)
  | start => w.after (Understudy.start call l.session)
  | shutdown => w.after (Understudy.shutdown call l.session)
  | collect => w.after (collectDaily call l.session)
  | report => w.after (environment call l.session)
  | advance t goal => w.after (Understudy.advance call t goal)
  | override arm cancel => w.after (overrideIn call c arm cancel)

/-! ## Outsiders -/

/-- What others give to an environment: hooks that arm, hooks that cancel, and the callbacks of
timers of their own. -/
structure Outsiders where
  arm : Value → Prop
  cancel : Value → Prop
  alarm : Value → Prop

/-- Hooks that are accepted are those of outsiders, and a registry is dealt with by those who keep
to their types. -/
def ContextRequest.Fits (r : Ref .registry) (o : Outsiders) (w : World) : ContextRequest → Prop
  | deal d => d.Fits r w
  | override arm cancel => checkHooks w arm cancel = .ok () → o.arm arm ∧ o.cancel cancel
  | _ => True

/-- A callback that is the request of a session to itself when its timer fires. -/
def ContextParts.Wakes (l : ContextParts) (v : Value) : Prop :=
  ∃ serial, v = .function serial (.method l.session.object .dailyTimeout)

/-- A bank is dormant: it has no timers, the hooks of its context are those of outsiders, and the
timers elsewhere wake the session or are those of outsiders. -/
structure ContextParts.Dormant (l : ContextParts) (r : Ref .registry) (host : Ref .component)
    (c : Ref .context) (o : Outsiders) (w : World) : Prop extends l.Stands r host c w where
  sane : Sane r w
  idle : (w.row l.bank : Bank).active = []
  arm : o.arm (w.row l.policy : Policy).arm
  cancel : o.cancel (w.row l.policy : Policy).cancel
  due (v : Value) (h : w.Due v) : l.Wakes v ∨ o.alarm v

/-- What may go on, with calls within calls down to a depth: a request, a timer that wakes the
session, and whatever leaves the context alone, even if it arms timers elsewhere. -/
inductive ContextParts.Move (l : ContextParts) (r : Ref .registry) (c : Ref .context)
    (o : Outsiders) (depth : Nat) (w : World) : World → Prop
  | contextRequest {d : Nat} (within : d ≤ depth) (e : ContextRequest) (fits : e.Fits r o w) :
      Move l r c o depth w (e.after (invokeWithin d) l r c w)
  | wake {d : Nat} (within : d ≤ depth) :
      Move l r c o depth w (w.after (onDailyTimeout (invokeWithin d) l.session))
  | elsewhere {w' : World} (apart : l.Apart r (fun v => l.Wakes v ∨ o.alarm v) w w') :
      Move l r c o depth w w'

/-- Any number of moves. -/
abbrev ContextParts.Course (l : ContextParts) (r : Ref .registry) (c : Ref .context) (o : Outsiders)
    (depth : Nat) : World → World → Prop := Relation.ReflTransGen (l.Move r c o depth)

/-- What outsiders do when they are called is again something that may go on. The callbacks of
their timers leave the context alone. -/
structure Outsiders.Comply (o : Outsiders) (l : ContextParts) (r : Ref .registry)
    (host : Ref .component) (c : Ref .context) : Prop where
  idleArm : o.arm (.function 0 .idleArm)
  idleCancel : o.cancel (.function 0 .idleCancel)
  arm (v : Value) (hv : o.arm v) (w : World) (h : l.Dormant r host c o w) (depth serial : Nat)
    (delay : Value) :
    l.Course r c o depth w (w.after (invokeWithin (depth + 1) v
      [delay, .function serial (.method l.session.object .dailyTimeout)]))
  cancel (v : Value) (hv : o.cancel v) (w : World) (h : l.Dormant r host c o w) (depth : Nat)
    (handle : Value) : l.Course r c o depth w (w.after (invokeWithin (depth + 1) v [handle]))
  alarm (v : Value) (hv : o.alarm v) (w : World) (h : l.Dormant r host c o w) (depth : Nat) :
    l.Apart r o.alarm w (w.after (invokeWithin depth v []))

/-! ## Reporting -/

theorem quiet_answersOf (call : Caller) (v : Value) (fields : List Field) :
    Quiet (answersOf call v fields) := by
  induction fields with
  | nil => exact Quiet.pure []
  | cons f rest ih => exact (quiet_answerOf call v f).bind fun _ => ih.bind fun _ => Quiet.pure _

section

variable {I : World → Prop} (hdicts : ∀ (w : World) (dicts : Table Dict), I w →
  I { w with dicts := dicts })
include hdicts

theorem keeps_newDict (pairs : Dict) : Keeps I (newDict pairs) := fun w hw => hdicts w _ hw

theorem Report.keeps_sectionPairs (report : Report)
    (asked : List (String × List (String × Field))) : Keeps I (report.sectionPairs asked) := by
  induction asked with
  | nil => exact .pure []
  | cons first rest ih =>
    obtain ⟨title, fields⟩ := first
    exact (keeps_newDict hdicts _).bind fun _ => ih.bind fun _ => .pure _

/-- To report is to ask for the identity, to ask it for fields, and to make dictionaries. -/
theorem Askable.keeps_environment {r : Ref .registry} {s : Ref .session} (h : Askable r s I)
    (call : Caller) : Keeps I (environment call s) := by
  have hidentity : Keeps I (askSession call s .currentIdentity (currentIdentity call)) := by
    intro w hw
    have hrun : w.run (askSession call s .currentIdentity (currentIdentity call)) =
        w.run (identityService call s .runtime) := (h.sane w hw).intact.run_request _ s [] _ rfl
    rw [World.after, hrun]
    exact h.keeps_identityService call _ w hw
  refine (hidentity.bind fun identity => ?_).bind fun report =>
    (report.keeps_sectionPairs hdicts _).bind fun _ => keeps_newDict hdicts _
  exact (h.quiet (quiet_answersOf _ _ _)).bind fun _ => .pure _

end

/-! ## What keeps a bank dormant -/

namespace ContextParts.Dormant

variable {l : ContextParts} {r : Ref .registry} {host : Ref .component} {c : Ref .context}
  {o : Outsiders} {w w' : World}

/-- A bank stays dormant where its context is left alone. -/
theorem apart (h : l.Dormant r host c o w) {P : Value → Prop} (ha : l.Apart r P w w')
    (hP : ∀ v, P v → l.Wakes v ∨ o.alarm v) : l.Dormant r host c o w' where
  toStands := h.toStands.continues ha.toContinues
  sane := ha.sane h.sane
  idle := List.subset_nil.1 (h.idle ▸ ha.active)
  arm := ha.policy ▸ h.arm
  cancel := ha.policy ▸ h.cancel
  due v hv := (ha.due v hv).elim (h.due v) (hP v)

theorem alike (h : l.Dormant r host c o w) (hlike : w.Alike w') : l.Dormant r host c o w' :=
  h.apart (P := fun _ => False) (.of_alike hlike) fun _ hv => hv.elim

/-- A bank stays dormant where the session goes on. -/
theorem withSession (h : l.Dormant r host c o w) {session : Session}
    (hmade : session.made = (w.row l.session : Session).made) (hdecided : session.Decided) :
    l.Dormant r host c o (w.withRow l.session session) where
  toStands := h.toStands.continues (.withRow_session ⟨hmade, fun _ => hdecided⟩)
  sane := ⟨h.sane.intact.congr rfl, h.sane.sound⟩
  idle := h.idle
  arm := h.arm
  cancel := h.cancel
  due v hv := h.due v (hv.of_timelines rfl)

theorem withRunning (h : l.Dormant r host c o w) (b : Bool) :
    l.Dormant r host c o (w.withRunning l.session b) := h.withSession rfl ⟨b, rfl⟩

theorem letGo (h : l.Dormant r host c o w) :
    l.Dormant r host c o (w.after (letGo l.session)) := by
  rw [Understudy.letGo, World.after_bind_of_run (World.run_update w l.session _)]
  have hgiven : l.Dormant r host c o
      (w.withRow l.session { (w.row l.session : Session) with handle := .none }) :=
    h.withSession rfl h.decided
  exact hgiven.alike (Quiet.emit 10 sessionLogger "Daily session shut down" none _)

/-- A session that has been set up is not set up again. -/
theorem run_setUp (h : l.Dormant r host c o w) (call : Caller) :
    w.run (setUp call l.session) = (.ok (w.row l.session : Session).policy, w) := by
  rw [setUp_eq, World.run_bind_of_run (World.run_fetch w l.session), h.policy]
  rfl

/-- Hooks that are accepted are those of outsiders, and a bank stays dormant. -/
theorem override (h : l.Dormant r host c o w) (call : Caller) {arm cancel : Value}
    (fits : (ContextRequest.override arm cancel).Fits r o w) :
    l.Dormant r host c o (w.after (overrideIn call c arm cancel)) := by
  rcases h.overrideIn_cases h.sane.intact call arm cancel with ⟨fault, _, hrun⟩ | ⟨hcheck, hlike⟩
  · rw [World.after_of_run hrun]
    exact h
  · obtain ⟨harm, hcancel⟩ := fits hcheck
    have hcalm := h.overrideIn h.sane.intact call arm cancel
    obtain ⟨log, serial, hafter⟩ := hlike
    have hpolicy : (w.after (overrideIn call c arm cancel)).row l.policy =
        (⟨w.nextSerial, arm, cancel⟩ : Policy) := by
      rw [hafter]
      exact World.row_withRow_self _ l.policy _
    exact
      { toStands := h.toStands.continues hcalm.toContinues
        sane := ⟨hcalm.intact h.sane.intact, hcalm.row_registry r ▸ h.sane.sound⟩
        idle := by
          rw [hafter]
          exact h.idle
        arm := by rwa [hpolicy]
        cancel := by rwa [hpolicy]
        due := fun v hv => h.due v (hv.of_timelines (by rw [hafter]; rfl)) }

end ContextParts.Dormant

/-! ## Moves -/

section

variable {l : ContextParts} {r : Ref .registry} {host : Ref .component} {c : Ref .context}
  {o : Outsiders} {depth : Nat} (hcomply : o.Comply l r host c)
  (hbelow : ∀ d < depth, ∀ w w', l.Dormant r host c o w → l.Course r c o d w w' →
    l.Dormant r host c o w')
include hcomply hbelow

/-- The daily cycle keeps a bank dormant, if it is kept dormant by what goes on less deep. -/
theorem Outsiders.Comply.drivable :
    Drivable depth r l.session l.policy (l.Dormant r host c o) where
  sane _ h := h.sane
  registry _ h := h.sessionRegistry
  served _ _ hs h := h.apart (.of_served hs) fun _ hv => hv
  clock d w h := by
    obtain ⟨fired, hafter⟩ := h.clock.after_invoke d w
    rw [hafter]
    exact h.apart (.noted w fired w.lists w.dicts) fun _ hv => hv
  policy _ h := h.policy
  arm serial delay w h := by
    cases depth with
    | zero => exact h
    | succ d =>
      exact hbelow d (Nat.lt_succ_self d) w _ h (hcomply.arm _ h.arm w h d serial delay)
  handle _ h _ _ := h.withSession rfl h.decided
  collected _ h _ := h.withSession rfl h.decided

/-- The cancelling hook keeps a bank dormant as well. -/
theorem Outsiders.Comply.shutdown {w : World} (h : l.Dormant r host c o w) :
    l.Dormant r host c o (w.after (shutdown (invokeWithin depth) l.session)) := by
  rw [World.after, h.sane.intact.run_shutdown _ h.policy]
  split
  · have hstopped := h.withRunning false
    have hcancelled (handle : Value) : l.Dormant r host c o ((w.withRunning l.session false).after
        (invokeWithin depth (w.row l.policy : Policy).cancel [handle])) := by
      cases depth with
      | zero => exact hstopped
      | succ d =>
        exact hbelow d (Nat.lt_succ_self d) _ _ hstopped
          (hcomply.cancel _ h.cancel _ hstopped d handle)
    exact World.after_bind_cases (fun _ _ => hcancelled _) fun _ _ => (hcancelled _).letGo
  · exact h

/-- A timer that wakes the session keeps the bank dormant. -/
theorem Outsiders.Comply.wakes {w : World} (h : l.Dormant r host c o w) {v : Value}
    (hv : l.Wakes v) : l.Dormant r host c o (w.after (invokeWithin depth v [])) := by
  obtain ⟨serial, rfl⟩ := hv
  cases depth with
  | zero => exact h
  | succ d =>
    have hbelow' (d' : Nat) (hd : d' < d) := hbelow d' (Nat.lt_succ_of_lt hd)
    rw [World.after, run_invoke_dailyTimeout, run_nothing]
    exact (hcomply.drivable hbelow').keeps_onDailyTimeout w h

/-- A request keeps a bank dormant. -/
theorem ContextParts.Dormant.contextRequest {w : World} (h : l.Dormant r host c o w)
    (e : ContextRequest)
    (fits : e.Fits r o w) : l.Dormant r host c o (e.after (invokeWithin depth) l r c w) := by
  have hdrivable := hcomply.drivable hbelow
  cases e with
  | deal d => exact h.apart (.deal h.sane _ fits) fun _ hv => hv
  | install id name version platformVersion =>
    have fits : (Dealing.install l.installer id name version platformVersion).Fits r w :=
      h.ofHost.over
    rw [ContextRequest.after, World.after, h.run_installIn h.sane.intact]
    exact h.apart (.deal h.sane (invokeWithin depth) fits) fun _ hv => hv
  | setUp =>
    rw [ContextRequest.after, World.after_of_run (h.run_setUp _)]
    exact h
  | start =>
    rw [ContextRequest.after, World.after, h.sane.intact.run_start _ h.policy]
    split
    · exact h.alike (Quiet.emit _ _ _ _ w)
    · exact hdrivable.keeps_askToArm _ (h.withRunning true)
  | shutdown => exact hcomply.shutdown hbelow h
  | collect => exact hdrivable.keeps_collectDaily w h
  | report =>
    exact hdrivable.toAskable.keeps_environment (fun w dicts hw =>
      hw.apart (.noted w w.fired w.lists dicts) fun _ hv => hv) _ w h
  | advance t goal =>
    refine ContextParts.keeps_advance (l := l) (r := r)
      (fun _ _ hw ha => hw.apart ha fun _ => False.elim)
      (fun w w' v hw hdue hw' => ?_) t goal w h
    rcases hw.due v hdue with hwakes | halarm
    · exact hcomply.wakes hbelow hw' hwakes
    · exact hw'.apart (hcomply.alarm v halarm w' hw' depth) fun _ => .inr
  | override arm cancel => exact h.override _ fits

/-- One move keeps a bank dormant. -/
theorem ContextParts.Dormant.move {w w' : World} (h : l.Dormant r host c o w)
    (hm : l.Move r c o depth w w') : l.Dormant r host c o w' := by
  have hwithin {d : Nat} (hd : d ≤ depth) (d' : Nat) (hd' : d' < d) :=
    hbelow d' (Nat.lt_of_lt_of_le hd' hd)
  cases hm with
  | contextRequest within e fits => exact h.contextRequest hcomply (hwithin within) e fits
  | wake within => exact (hcomply.drivable (hwithin within)).keeps_onDailyTimeout w h
  | elsewhere hapart => exact h.apart hapart fun _ hv => hv

end

/-- Whatever goes on keeps a bank dormant. -/
theorem ContextParts.Dormant.course {l : ContextParts} {r : Ref .registry} {host : Ref .component}
    {c : Ref .context} {o : Outsiders} (hcomply : o.Comply l r host c) (depth : Nat) :
    ∀ w w', l.Dormant r host c o w → l.Course r c o depth w w' → l.Dormant r host c o w' := by
  induction depth using Nat.strongRecOn with
  | ind depth hbelow =>
    intro w w' h hcourse
    induction hcourse with
    | refl => exact h
    | tail _ hmove ih => exact ih.move hcomply hbelow hmove

end Understudy

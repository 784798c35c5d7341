import Understudy.Proofs.PassingTime
import Understudy.Proofs.SessionSetUp
import Understudy.Proofs.SessionShutdown

/-!
# The lifetime of a session

A session is set up, started and shut down, any number of times and in any order. In between
time passes, runs are asked for, its hooks are replaced, and things are registered and
installed. Whichever of these fail, the session knows all of the timers that will call it.

## Main definitions

* `Turn`, `Lifetime`: what may happen to a session, and what may have happened to it so far.
* `World.Fresh`: a session that nothing has happened to.

## Main statements

* `Tended.turn`: what one turn keeps.
* `Lifetime.tended`: what a lifetime keeps.
-/

namespace Understudy

/-! ## Turns -/

/-- What may happen to a session. -/
inductive Turn where
  | setUp
  | start
  | shutdown
  | collect
  | advance (goal : Value)
  | override (i : Ref .injector) (arm cancel : Value)
  | deal (d : Dealing)

namespace Turn

/-- The state that a turn leads to, whether it fails or not. -/
def after (reg : Ref .registry) (s : Ref .session) (t : Ref .timeline) (w : World) : Turn → World
  | setUp => w.after (Understudy.setUp invoke s)
  | start => w.after (Understudy.start invoke s)
  | shutdown => w.after (Understudy.shutdown invoke s)
  | collect => w.after (collectDaily invoke s)
  | advance goal => w.after (Understudy.advance invoke t goal)
  | override i arm cancel => w.after (overrideScheduling invoke i arm cancel)
  | deal d => w.after (d.perform invoke reg)

/-- Injectors of the session give it hooks that it may have, and registries are dealt with by
those who keep to their types. -/
def Fits (reg : Ref .registry) (s : Ref .session) (t : Ref .timeline) (w : World) : Turn → Prop
  | override i arm cancel => (w.row i : Injector).owner = .ofRef s ∧ w.Hooked t arm cancel
  | deal d => d.Fits reg w
  | _ => True

/-- Hooks are replaced only while the session has no timer. -/
def Timely (s : Ref .session) (w : World) : Turn → Prop
  | override _ _ _ => (w.row s : Session).handle = .none
  | _ => True

/-- The session is shut down only with hooks that can cancel its timer, if it has one. -/
def Clean (s : Ref .session) (w : World) : Turn → Prop
  | shutdown => w.CanStop s
  | _ => True

end Turn

/-- What may have happened to a session since a state: turns that were allowed, and whatever
leaves alone what its timer depends on. -/
inductive Lifetime (reg : Ref .registry) (s : Ref .session) (t : Ref .timeline)
    (Allowed : World → Turn → Prop) (w₀ : World) : World → Prop
  | begin : Lifetime reg s t Allowed w₀ w₀
  | turn {w : World} (before : Lifetime reg s t Allowed w₀ w) (turn : Turn)
      (fits : turn.Fits reg s t w) (allowed : Allowed w turn) :
      Lifetime reg s t Allowed w₀ (turn.after reg s t w)
  | elsewhere {w w' : World} (before : Lifetime reg s t Allowed w₀ w)
      (aside : w.Untouched reg s w') : Lifetime reg s t Allowed w₀ w'

/-- A session that nothing has happened to: it has no policy, does not run, has no timer, and
no timer that is about to fire on its timeline has to do with it. -/
structure World.Fresh (reg : Ref .registry) (s : Ref .session) (t : Ref .timeline) (w : World) :
    Prop where
  sane : Sane reg w
  registry : (w.row s : Session).registry = .ofRef reg
  clock : Aloof reg s (w.row s : Session).clock
  timers : ∃ b : Ref .bank, (w.row s : Session).timers = .ofRef b ∧ (w.row b : Bank).On t
  policy : (w.row s : Session).policy = .none
  running : (w.row s : Session).running = .bool false
  handle : (w.row s : Session).handle = .none
  unawaited (t' : Ref .timeline) (seq : Nat) : ¬w.Awaits s t' seq
  others (seq : Nat) (timer : Timer) (h : (w.row t : Timeline).timer? seq = some timer)
    (hlive : timer.live = true) : Aloof reg s timer.callback

theorem World.Fresh.tended {reg : Ref .registry} {s : Ref .session} {t : Ref .timeline}
    {w : World} (h : w.Fresh reg s t) (guarded : Prop) : Tended guarded reg s t w where
  equipped :=
    { sane := h.sane
      registry := h.registry
      clock := h.clock
      timers := h.timers
      policy := .inl h.policy }
  running := ⟨false, h.running⟩
  unready _ := h.running
  others seq timer htimer hlive := .inr (h.others seq timer htimer hlive)
  awaits t' seq := by
    rw [h.handle]
    exact ⟨fun ha => absurd ha (h.unawaited t' seq), fun hno => nomatch hno⟩
  handle := .inl h.handle
  stopped _ := h.handle
  cancels _ hno := absurd h.handle hno

/-! ## What dealing with a registry leaves alone -/

/-- Two states that differ in the registries, in the identities and their providers, in the
installers, in the log and in the supply of serial numbers, at most. -/
structure World.Dealt (w w' : World) : Prop where
  frame : w' =
    { w with
      registries := w'.registries
      components := w'.components
      providers := w'.providers
      installers := w'.installers
      log := w'.log
      nextSerial := w'.nextSerial }

/-- Timelines, banks, policies and sessions are as they were. -/
structure World.Unmoved (w w' : World) : Prop where
  policies : w'.policies = w.policies
  banks : w'.banks = w.banks
  timelines : w'.timelines = w.timelines
  sessions : w'.sessions = w.sessions

namespace World.Dealt

variable {w w' w'' : World}

theorem trans (h : w.Dealt w') (h' : w'.Dealt w'') : w.Dealt w'' := ⟨by rw [h'.frame, h.frame]⟩

theorem of_served (h : w.Served w') : w.Dealt w' := ⟨by rw [h.frame]⟩

theorem of_alike (h : w.Alike w') : w.Dealt w' := of_served (.of_alike h)

theorem of_captureStep {call : Caller} {r : Ref .registry} {contractId capability : Value}
    {capture : Capture} (h : CaptureStep call r contractId capability w w' capture) :
    w.Dealt w' := by
  cases h with
  | known _ same =>
    rw [same]
    exact .of_served (.refl w)
  | first _ _ _ served remembered =>
    exact (of_served served).trans (.trans ⟨rfl⟩ (of_alike remembered))

theorem unmoved (h : w.Dealt w') : w.Unmoved w' := by
  constructor <;> rw [h.frame]

end World.Dealt

theorem World.Unmoved.untouched {w w' : World} (h : w.Unmoved w') {reg : Ref .registry}
    (hsane : Sane reg w → Sane reg w') (s : Ref .session) : w.Untouched reg s w' :=
  ⟨.of_eq hsane h.policies h.banks, h.timelines, congrArg (Table.get · s.index) h.sessions⟩

theorem Dealing.Step.dealt {call : Caller} {r : Ref .registry} {w w' : World} {d : Dealing}
    (hd : d.Step call r w w') : w.Dealt w' := by
  cases hd with
  | served served => exact .of_served served
  | registered _ placed | unregistered placed | restored _ placed =>
    exact .trans ⟨rfl⟩ (.of_alike placed)
  | captured captured => exact .of_captureStep captured
  | refused captured made => exact made ▸ (World.Dealt.of_captureStep captured).trans ⟨rfl⟩
  | installed captured _ _ placed =>
    exact (World.Dealt.of_captureStep captured).trans (.trans ⟨rfl⟩ (.of_alike placed))

/-- Whatever is requested of a registry has nothing to do with the timer of a session. -/
theorem Sane.untouched_deal {reg : Ref .registry} {w : World} (h : Sane reg w) {d : Dealing}
    (fits : d.Fits reg w) (s : Ref .session) :
    w.Untouched reg s (w.after (d.perform invoke reg)) :=
  have hstep := d.step h fits
  hstep.dealt.unmoved.untouched hstep.sane s

/-! ## What turns keep -/

namespace Tended

variable {guarded : Prop} {reg : Ref .registry} {s : Ref .session} {t : Ref .timeline}
  {w : World}

/-- Hooks that can cancel a timer as long as there is one make for clean shutdowns. -/
theorem clean (h : Tended True reg s t w) (turn : Turn) : turn.Clean s w := by
  cases turn with
  | shutdown =>
    by_cases hn : (w.row s : Session).handle = .none
    · exact .inl hn
    · exact .inr (h.cancels trivial hn)
  | _ => trivial

/-- A turn keeps a session tended, if hooks are replaced in time and shutdowns are clean. -/
theorem turn (h : Tended guarded reg s t w) (turn : Turn) (fits : turn.Fits reg s t w)
    (timely : guarded → turn.Timely s w) (clean : turn.Clean s w) :
    Tended guarded reg s t (turn.after reg s t w) := by
  cases turn with
  | setUp => exact (h.setUp invoke).1
  | start => exact h.start depthLimit
  | shutdown => exact h.shutdown 999 clean
  | collect => exact h.filled (h.equipped.filled_collectDaily depthLimit)
  | advance goal => exact (h.advance 999 goal).1
  | override i arm cancel => exact (h.overrideScheduling invoke fits.1 fits.2 timely).1
  | deal d => exact h.filled (h.equipped.sane.untouched_deal fits s).filled

/-- A session that does not run has no timer, and does not run by itself. -/
theorem resting (h : Tended guarded reg s t w)
    (hrunning : (w.row s : Session).running = .bool false) (turn : Turn)
    (fits : turn.Fits reg s t w) (timely : guarded → turn.Timely s w) (hstart : turn ≠ .start) :
    ((turn.after reg s t w).row s : Session).running = .bool false := by
  cases turn with
  | setUp => exact (h.setUp invoke).2.trans hrunning
  | start => exact absurd rfl hstart
  | shutdown => exact (h.shutdown_rests 999).1
  | collect =>
    have hfilled := h.equipped.filled_collectDaily depthLimit
    exact (congrArg Session.running hfilled.session).trans hrunning
  | advance goal =>
    have hsame := (h.advance 999 goal).2 (h.stopped hrunning)
    exact (congrArg Session.running hsame).trans hrunning
  | override i arm cancel =>
    have hsame := (h.overrideScheduling invoke fits.1 fits.2 timely).2
    exact (congrArg Session.running hsame).trans hrunning
  | deal d =>
    have hsame := (h.equipped.sane.untouched_deal fits s).session
    exact (congrArg Session.running hsame).trans hrunning

end Tended

/-- In a lifetime of turns that keep a session tended it stays tended. -/
theorem Lifetime.tended {guarded : Prop} {reg : Ref .registry} {s : Ref .session}
    {t : Ref .timeline} {Allowed : World → Turn → Prop} {w₀ w : World}
    (h : Lifetime reg s t Allowed w₀ w) (h₀ : Tended guarded reg s t w₀)
    (hallowed : ∀ w turn, Tended guarded reg s t w → Allowed w turn →
      (guarded → turn.Timely s w) ∧ turn.Clean s w) : Tended guarded reg s t w := by
  induction h with
  | begin => exact h₀
  | turn _ turn fits allowed ih =>
    obtain ⟨timely, clean⟩ := hallowed _ turn ih allowed
    exact ih.turn turn fits timely clean
  | elsewhere _ aside ih => exact ih.filled aside.filled

end Understudy

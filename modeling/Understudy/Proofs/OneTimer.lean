import Understudy.Proofs.CaptureOnce
import Understudy.Proofs.Lifetime

/-!
# A session has one timer

As long as the hooks of a session are replaced only while it has no timer, it has one timer
at most, and it has the handle of that one. A session that does not run has none, so that
time may pass without anything being collected.

## Main definitions

* `World.OneTimer`: what holds of a session at any time.

## Main statements

* `Lifetime.oneTimer`: a new session has one timer at most, whatever happens to it.
-/

namespace Understudy

/-- A session has one timer at most, and has the handle of it. -/
structure World.OneTimer (s : Ref .session) (t : Ref .timeline) (w : World) : Prop where
  /-- The timers that will call it are those that it has the handle of. -/
  awaits (t' : Ref .timeline) (seq : Nat) :
    w.Awaits s t' seq ↔ (w.row s : Session).handle = .handle t' seq
  handle : (w.row s : Session).handle = .none ∨ ∃ seq, (w.row s : Session).handle = .handle t seq
  running : ∃ b, (w.row s : Session).running = .bool b
  stopped (h : (w.row s : Session).running = .bool false) : (w.row s : Session).handle = .none
  single (t₁ t₂ : Ref .timeline) (seq₁ seq₂ : Nat) (h₁ : w.Awaits s t₁ seq₁)
    (h₂ : w.Awaits s t₂ seq₂) : t₁ = t₂ ∧ seq₁ = seq₂
  /-- While it does not run the passing of time collects nothing. -/
  idle (h : (w.row s : Session).running = .bool false) (goal : Value) :
    ((w.after (advance invoke t goal)).row s : Session).collections =
      (w.row s : Session).collections

theorem Tended.keepsOne {guarded : Prop} {reg : Ref .registry} {s : Ref .session}
    {t : Ref .timeline} {w : World} (h : Tended guarded reg s t w) : w.OneTimer s t where
  awaits := h.awaits
  handle := h.handle
  running := h.running
  stopped := h.stopped
  single t₁ t₂ seq₁ seq₂ h₁ h₂ := by
    have hsame := ((h.awaits t₁ seq₁).1 h₁).symm.trans ((h.awaits t₂ seq₂).1 h₂)
    cases hsame
    exact ⟨rfl, rfl⟩
  idle hrunning goal := congrArg Session.collections ((h.advance 999 goal).2 (h.stopped hrunning))

/-- A new session has one timer at most, whatever happens to it, if its hooks are replaced only
while it has none. -/
theorem Lifetime.oneTimer {reg : Ref .registry} {s : Ref .session} {t : Ref .timeline}
    {w₀ w : World} (hfresh : w₀.Fresh reg s t)
    (h : Lifetime reg s t (fun w turn => turn.Timely s w) w₀ w) : w.OneTimer s t :=
  Tended.keepsOne <| h.tended (hfresh.tended True) fun _ turn htended timely =>
    ⟨fun _ => timely, htended.clean turn⟩

/-! ## A short lifetime -/

/-- The bench with a timeline, a bank on it, a session that collects every ten seconds, and an
injector of the session. -/
def sessionBench : World :=
  { bench with
    timelines := ⟨[{}]⟩
    banks := ⟨[{ timeline := .ofRef (⟨0⟩ : Ref .timeline) }]⟩
    injectors := ⟨[{ owner := .ofRef (⟨0⟩ : Ref .session) }]⟩
    sessions :=
      ⟨[{ registry := .ofRef (⟨0⟩ : Ref .registry)
          timers := .ofRef (⟨0⟩ : Ref .bank)
          interval := .ofInt 10 }]⟩ }

/-- No timeline of the bench has a timer. -/
theorem sessionBench_timer? (t : Ref .timeline) (seq : Nat) :
    (sessionBench.row t : Timeline).timer? seq = none := by
  obtain ⟨_ | _⟩ := t <;> cases seq <;> rfl

theorem sessionBench_fresh : sessionBench.Fresh ⟨0⟩ ⟨0⟩ ⟨0⟩ where
  sane := ⟨fun _ _ _ => rfl, .empty⟩
  registry := rfl
  clock := Value.Harmless.aloof (v := .function 0 .clock) trivial _ _
  timers := ⟨⟨0⟩, rfl, .inl rfl⟩
  policy := rfl
  running := rfl
  handle := rfl
  unawaited t seq := by
    rintro ⟨timer, htimer, _⟩
    rw [sessionBench_timer?] at htimer
    cases htimer
  others seq timer htimer := by
    rw [sessionBench_timer?] at htimer
    cases htimer

/-- The state after a turn in the life of the session of the bench. -/
def World.later (w : World) (turn : Turn) : World := turn.after ⟨0⟩ ⟨0⟩ ⟨0⟩ w

/-- The sample identity is registered, and the session is set up and started. -/
def sessionStarted : World :=
  ((sessionBench.later (.deal benchRegister.dealing)).later .setUp).later .start

theorem sessionStarted_lifetime {Allowed : World → Turn → Prop}
    (hdeal : ∀ w d, Allowed w (.deal d)) (hsetUp : ∀ w, Allowed w .setUp)
    (hstart : ∀ w, Allowed w .start) :
    Lifetime ⟨0⟩ ⟨0⟩ ⟨0⟩ Allowed sessionBench sessionStarted := by
  let w₁ : World := sessionBench.later (.deal benchRegister.dealing)
  have hfits : benchRegister.dealing.Fits ⟨0⟩ sessionBench := ⟨⟨_, rfl⟩, ⟨_, rfl⟩, ⟨_, rfl⟩⟩
  have h₁ : Lifetime ⟨0⟩ ⟨0⟩ ⟨0⟩ Allowed sessionBench w₁ := .turn .begin _ hfits (hdeal _ _)
  have h₂ : Lifetime ⟨0⟩ ⟨0⟩ ⟨0⟩ Allowed sessionBench (w₁.later .setUp) :=
    .turn h₁ .setUp trivial (hsetUp _)
  exact .turn h₂ .start trivial (hstart _)

/-- The session that was started has one timer, and that is one more than none. -/
theorem sessionStarted_oneTimer :
    sessionStarted.OneTimer ⟨0⟩ ⟨0⟩ ∧
      (sessionStarted.row (⟨0⟩ : Ref .session) : Session).handle.isNone = false :=
  ⟨Lifetime.oneTimer sessionBench_fresh
    (sessionStarted_lifetime (fun _ _ => trivial) (fun _ => trivial) fun _ => trivial),
    by decide +kernel⟩

end Understudy

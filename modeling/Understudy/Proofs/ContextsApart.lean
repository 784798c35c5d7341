import Understudy.Proofs.BootstrapAnywhere
import Understudy.Proofs.ContextAtRest

/-!
# Contexts that are left alone

Others may do as they like around an environment, as long as they leave alone what its timer
depends on: its session, its policy and its bank. Dealing with the registry does so, and so does
time as long as it passes for timers of others. Whatever is kept by all of this is kept when time
is moved on, if it is kept by the callbacks of the timers that are due.

## Main definitions

* `World.Due`: a timer has been armed, and has neither fired nor been cancelled.
* `ContextParts.Apart`: a context is left alone.

## Main statements

* `ContextParts.Apart.deal`: whatever is requested of a registry leaves every context alone.
* `ContextParts.keeps_advance`: what is kept when time is moved on.
-/

namespace Understudy

/-! ## Timers that are due -/

/-- A timer with a callback waits on some timeline. It has neither fired nor been cancelled. -/
def World.Due (w : World) (v : Value) : Prop :=
  ∃ (t : Ref .timeline) (seq : Nat) (timer : Timer),
    (w.row t : Timeline).timer? seq = some timer ∧ timer.live = true ∧ timer.callback = v

namespace World.Due

variable {w w' : World} {v : Value}

theorem of_timelines (h : w'.timelines = w.timelines) (hv : w'.Due v) : w.Due v := by
  obtain ⟨t, seq, timer, htimer, hrest⟩ := hv
  have hrow : w'.row t = (w.row t : Timeline) := congrArg (Table.get · t.index) h
  exact ⟨t, seq, timer, hrow ▸ htimer, hrest⟩

/-- Where no timeline has got another timer that waits, there is none. -/
theorem of_rows (hrows : ∀ (t : Ref .timeline) (seq : Nat) (timer : Timer), timer.live = true →
      (w'.row t : Timeline).timer? seq = some timer → (w.row t : Timeline).timer? seq = some timer)
    (hv : w'.Due v) : w.Due v := by
  obtain ⟨t, seq, timer, htimer, hlive, hcallback⟩ := hv
  exact ⟨t, seq, timer, hrows t seq timer hlive htimer, hlive, hcallback⟩

/-- A timeline may be written that has no other timers that wait. -/
theorem of_line {t : Ref .timeline} {line : Timeline}
    (hline : ∀ (seq : Nat) (timer : Timer), timer.live = true → line.timer? seq = some timer →
      (w.row t : Timeline).timer? seq = some timer)
    (hv : (w.withRow t line).Due v) : w.Due v := by
  refine of_rows (fun t' seq timer hlive htimer => ?_) hv
  rw [World.row_withRow] at htimer
  split at htimer
  · rename_i hsame
    exact hsame ▸ hline seq timer hlive htimer
  · exact htimer

end World.Due

/-- What was taken off a line does not wait on it any more. -/
theorem Timeline.timer?_of_take {line : Timeline} {taken seq : Nat} {timer : Timer}
    (hlive : timer.live = true) (h : (line.take taken).timer? seq = some timer) :
    line.timer? seq = some timer := by
  rw [Timeline.timer?_take] at h
  split at h
  · rw [Timer.live_of_taken h] at hlive
    cases hlive
  · exact h

/-! ## A context that is left alone -/

/-- A context is left alone: its session and its policy are what they were, its bank keeps track of
no further timer, and the callbacks of the timers that have been armed elsewhere are of a kind. -/
structure ContextParts.Apart (l : ContextParts) (r : Ref .registry) (P : Value → Prop)
    (w w' : World) : Prop
    extends w.Continues w' where
  sane (h : Sane r w) : Sane r w'
  session : w'.row l.session = (w.row l.session : Session)
  policy : w'.row l.policy = (w.row l.policy : Policy)
  active : (w'.row l.bank : Bank).active ⊆ (w.row l.bank : Bank).active
  due (v : Value) (h : w'.Due v) : w.Due v ∨ P v

/-- Whatever is requested of a registry, everything that was made is still there. -/
theorem Dealing.Step.continues {call : Caller} {r : Ref .registry} {w w' : World} {d : Dealing}
    (h : d.Step call r w w') : w.Continues w' := by
  have hplaced (w₁ : World) (reg : Registry) : w₁.Continues (w₁.withRow r reg) :=
    .of_retains (.withRow_registry w₁ r reg) rfl rfl rfl rfl rfl rfl
  have hmade (w₁ : World) (layer : Overlay) : w₁.Continues (w₁.withStandIn layer) :=
    .of_retains (.pushed w₁ _ _) rfl rfl rfl rfl rfl rfl
  cases h with
  | served served => exact .of_served served
  | registered _ placed => exact (hplaced w _).trans (.of_alike placed)
  | unregistered removed => exact (hplaced w _).trans (.of_alike removed)
  | captured captured => exact .of_captureStep captured
  | refused captured made =>
    exact made ▸ (World.Continues.of_captureStep captured).trans (hmade _ _)
  | installed captured _ _ placed =>
    exact (World.Continues.of_captureStep captured).trans
      ((World.Continues.installed _ r _ _).trans (.of_alike placed))
  | @restored i _ e _ _ replaced =>
    have hreset : Installer.made { (w.row i : Installer) with current := .none } =
        ((w.withRow r ((w.row r : Registry).register { e with serial := w.nextSerial })).row i :
          Installer).made := rfl
    exact (hplaced w _).trans
      ((World.Continues.withRow_installer hreset).trans (.of_alike replaced))

namespace ContextParts.Apart

variable {l : ContextParts} {r : Ref .registry} {P Q : Value → Prop} {w w' w'' : World}

theorem mono (h : l.Apart r P w w') (hPQ : ∀ v, P v → Q v) : l.Apart r Q w w' :=
  { h with due := fun v hv => (h.due v hv).imp_right (hPQ v) }

theorem trans (h : l.Apart r P w w') (h' : l.Apart r P w' w'') : l.Apart r P w w'' where
  toContinues := h.toContinues.trans h'.toContinues
  sane hs := h'.sane (h.sane hs)
  session := h'.session.trans h.session
  policy := h'.policy.trans h.policy
  active := List.Subset.trans h'.active h.active
  due v hv := (h'.due v hv).elim (h.due v) .inr

/-- Where timelines, banks, policies and sessions are as they were, nothing else counts. -/
theorem of_unmoved (hc : w.Continues w') (hs : Sane r w → Sane r w') (h : w.Unmoved w') :
    l.Apart r P w w' where
  toContinues := hc
  sane := hs
  session := congrArg (Table.get · l.session.index) h.sessions
  policy := congrArg (Table.get · l.policy.index) h.policies
  active := by
    have hrow : w'.row l.bank = (w.row l.bank : Bank) := congrArg (Table.get · l.bank.index) h.banks
    rw [hrow]
    exact List.Subset.refl _
  due v hv := .inl (hv.of_timelines h.timelines)

theorem of_served (h : w.Served w') : l.Apart r P w w' :=
  of_unmoved (.of_served h) (fun hs => hs.of_served h)
    ⟨by rw [h.frame], by rw [h.frame], by rw [h.frame], by rw [h.frame]⟩

theorem of_alike (h : w.Alike w') : l.Apart r P w w' := of_served (.of_alike h)

/-- Whatever is requested of a registry, all contexts are left alone. -/
theorem deal (h : Sane r w) (call : Caller) {d : Dealing} (fits : d.Fits r w) :
    l.Apart r P w (w.after (d.perform call r)) :=
  have hstep : Dealing.Step call r w _ d := d.step h fits
  of_unmoved hstep.continues hstep.sane hstep.dealt.unmoved

/-- What is noted of callbacks that ran, or in a new list or a new dictionary, is of no concern. -/
theorem noted (w : World) (fired : List String) (lists : Table (List Value))
    (dicts : Table Dict) :
    l.Apart r P w { w with fired := fired, lists := lists, dicts := dicts } :=
  of_unmoved (.of_retains (.of_eq rfl rfl rfl) rfl rfl rfl rfl rfl rfl)
    (fun hs => ⟨hs.intact.congr rfl, hs.sound⟩) ⟨rfl, rfl, rfl, rfl⟩

/-- A timeline may be written that has no other timers that wait. -/
theorem withLine (w : World) (t : Ref .timeline) {line : Timeline}
    (hline : ∀ (seq : Nat) (timer : Timer), timer.live = true → line.timer? seq = some timer →
      (w.row t : Timeline).timer? seq = some timer) :
    l.Apart r P w (w.withRow t line) where
  toContinues := .of_retains (.of_eq rfl rfl rfl) rfl rfl rfl rfl rfl rfl
  sane hs := ⟨hs.intact.congr rfl, hs.sound⟩
  session := rfl
  policy := rfl
  active := List.Subset.refl _
  due _ hv := .inl (hv.of_line hline)

/-- A bank may lose track of a timer. -/
theorem discard (w : World) (b : Ref .bank) (handle : Value) :
    l.Apart r P w (w.withRow b ((w.row b : Bank).discard handle)) where
  toContinues := .discard w b handle
  sane hs := ⟨hs.intact.congr rfl, hs.sound⟩
  session := rfl
  policy := rfl
  active := by
    rw [World.row_withRow]
    split
    · rename_i hsame
      rw [hsame]
      exact fun _ hv => (List.mem_filter.1 hv).1
    · exact List.Subset.refl _
  due _ hv := .inl (hv.of_timelines rfl)

/-- A timer that is about to call back has left its line and its bank, and that is all. -/
theorem ringing (w : World) (t : Ref .timeline) (seq : Nat) (timer : Timer) :
    l.Apart r P w (w.ringing t seq timer) := by
  have hreach : l.Apart r P w (w.withRow t ((w.row t : Timeline).reach seq timer.due)) :=
    withLine w t fun _ _ => Timeline.timer?_of_take
  unfold World.ringing
  cases timer.alarm with
  | banked b callback => exact hreach.trans (discard _ b _)
  | direct callback => exact hreach

end ContextParts.Apart

/-! ## Moving time on -/

section

variable {l : ContextParts} {r : Ref .registry} {depth : Nat} {I : World → Prop}
  (hapart : ∀ w w', I w → l.Apart r (fun _ => False) w w' → I w')
  (hring : ∀ w w' v, I w → w.Due v → I w' → I (w'.after (invokeWithin depth v [])))
include hapart hring

/-- What is kept by what leaves a context alone, and by the callbacks of timers, is kept when timers
fire. -/
theorem ContextParts.keeps_fireDue (t : Ref .timeline) (goal : Decimal.Parts) (limit : Nat) :
    Keeps I (fireDue (invokeWithin depth) t goal limit) := by
  induction limit with
  | zero => exact .pure []
  | succ limit ih =>
    intro w hw
    obtain hafter | ⟨seq, timer, htimer, hcancelled, hafter⟩ |
      ⟨seq, timer, note, htimer, hlive, hafter⟩ :=
        fireDue_cases (invokeWithin depth) limit w t goal
    · rw [hafter]
      exact hw
    · rw [hafter]
      exact ih _ (hapart _ _ hw (.withLine w t fun _ _ => Timeline.timer?_of_take))
    · rw [hafter, after_ring]
      have hrung := hring w _ _ hw ⟨t, seq, timer, htimer, hlive, rfl⟩
        (hapart _ _ hw (.ringing w t seq timer))
      generalize (w.ringing t seq timer).after (invokeWithin depth timer.callback []) = w₁
        at hrung ⊢
      exact ih _ (hapart _ _ hrung (.noted w₁ w₁.fired _ w₁.dicts))

/-- What is kept by what leaves a context alone, and by the callbacks of timers, is kept when time
is moved on. -/
theorem ContextParts.keeps_advance (t : Ref .timeline) (goal : Value) :
    Keeps I (advance (invokeWithin depth) t goal) := by
  intro w hw
  obtain ⟨w₁, w₂, hfirst, hlike, hlast⟩ := advance_cases w (invokeWithin depth) t goal
  have hfired : I w₁ := by
    obtain rfl | ⟨limit, rfl⟩ := hfirst
    · exact hw
    · exact ContextParts.keeps_fireDue hapart hring t limit fireLimit w hw
  have hspelled : I w₂ := hapart _ _ hfired (.of_alike hlike)
  obtain hafter | ⟨now, hafter⟩ := hlast
  · rw [hafter]
    exact hspelled
  · rw [hafter]
    exact hapart _ _ hspelled (.withLine w₂ t fun seq timer _ htimer =>
      (Timeline.timer?_withNow _ now seq).symm.trans htimer)

end

end Understudy

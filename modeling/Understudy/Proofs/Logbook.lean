import Understudy.Proofs.Lasting

/-!
# What happens to the log

The log is set up when an environment is set up. Whatever is asked of the environment afterwards
logs records and does nothing else to the log: that the log has come of the one there was by records
alone is a property that lasts.

## Main definitions

* `Logging.Leads`: a log comes of another one by records.
* `World.Logged`: a state whose log comes of another log by records.

## Main statements

* `World.Logged.lasting`: that property lasts.
* `Lasts.leads`: what the log is after an action that keeps whatever lasts.
-/

namespace Understudy

/-! ## Records -/

/-- A log comes of another one by records that were logged one after the other. -/
def Logging.Leads (log log' : Logging) : Prop :=
  ∃ records : List LogRecord, log' = records.foldl Logging.emit log

namespace Logging.Leads

variable {log log' log'' : Logging}

theorem refl (log : Logging) : log.Leads log := ⟨[], rfl⟩

theorem trans (h : log.Leads log') (h' : log'.Leads log'') : log.Leads log'' := by
  obtain ⟨records, rfl⟩ := h
  obtain ⟨more, rfl⟩ := h'
  exact ⟨records ++ more, (List.foldl_append ..).symm⟩

theorem emit (h : log.Leads log') (r : LogRecord) : log.Leads (log'.emit r) := h.trans ⟨[r], rfl⟩

/-- What no record changes is the same after any number of records. -/
theorem congr {α : Type} {f : Logging → α} (hf : ∀ (log : Logging) (r : LogRecord),
    f (log.emit r) = f log) (h : log.Leads log') : f log' = f log := by
  obtain ⟨records, rfl⟩ := h
  induction records generalizing log with
  | nil => rfl
  | cons r rest ih => exact ih.trans (hf log r)

theorem time (h : log.Leads log') : log'.time = log.time :=
  h.congr fun _ _ => by unfold Logging.emit; split <;> rfl

theorem level (h : log.Leads log') : log'.level = log.level :=
  h.congr fun _ _ => by unfold Logging.emit; split <;> rfl

theorem handlers (h : log.Leads log') : log'.handlers = log.handlers :=
  h.congr fun _ _ => by unfold Logging.emit; split <;> rfl

theorem loggers (h : log.Leads log') : log'.loggers = log.loggers :=
  h.congr fun _ _ => by unfold Logging.emit; split <;> rfl

end Logging.Leads

/-- A state whose log comes of another log by records. -/
def World.Logged (log : Logging) (w : World) : Prop := log.Leads w.log

namespace World.Logged

variable (log : Logging)

/-- What sessions are has nothing to do with the log. -/
theorem frees (s : Ref .session) : Frees (World.Logged log) s := fun _ _ h => h

theorem lasting : Lasting (World.Logged log) where
  congr h _ hlog _ := by
    rw [Logged, hlog]
    exact h
  emit h := h.emit
  newSession h _ := h
  session h _ _ _ := h
  newComponent h _ := h
  component h _ _ _ := h
  guard s := .inr (frees log s)

end World.Logged

/-- The log after an action that keeps whatever lasts comes of the one before. -/
theorem Lasts.leads {α : Type} {a : Action α} (h : ∀ log, Lasts (World.Logged log) a) (w : World) :
    w.log.Leads (w.after a).log :=
  (h w.log w ⟨World.Logged.lasting w.log, .refl w.log⟩).holds

end Understudy

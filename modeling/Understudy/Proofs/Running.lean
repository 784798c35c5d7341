import Understudy.Asking

/-!
# What actions come to

An action that is begun in a state ends with a result or a fault, and leaves a state
either way, because what was changed before a fault stays changed. This module names
the two halves and gives the rules by which actions are taken apart: a sequence runs
on only if its first part ended with a result, and whatever both parts keep the
sequence keeps.

## Main definitions

* `World.run`: what an action comes to in a state, and its halves `World.outcome` and
  `World.after`.
* `Keeps`: an action leaves a property of the state intact, however it ends.
* `World.Alike`, `Quiet`: nothing but the log and the supply of serial numbers changes.

## Main statements

* `World.run_bind`: a sequence of two actions.
* `Keeps.bind`: what both parts keep, the sequence keeps.
* `Quiet.keeps`: a quiet action keeps what does not depend on the log.
-/

namespace Understudy

namespace World

variable {α β : Type}

/-- What an action comes to in a state: how it ends, and the state it leaves. -/
def run (w : World) (a : Action α) : Except Fault α × World := a.run.run w

/-- How an action ends that is begun in a state. -/
def outcome (w : World) (a : Action α) : Except Fault α := (w.run a).1

/-- The state that an action leaves, however it ends. -/
def after (w : World) (a : Action α) : World := (w.run a).2

theorem run_eq (w : World) (a : Action α) : w.run a = (w.outcome a, w.after a) := rfl

theorem outcome_of_run {w w' : World} {a : Action α} {r : Except Fault α}
    (h : w.run a = (r, w')) : w.outcome a = r := by rw [outcome, h]

theorem after_of_run {w w' : World} {a : Action α} {r : Except Fault α}
    (h : w.run a = (r, w')) : w.after a = w' := by rw [after, h]

/-! ## Running an action -/

section

variable (w : World)

@[simp] theorem run_pure (a : α) : w.run (pure a) = (.ok a, w) := rfl

@[simp] theorem run_throw (fault : Fault) :
    w.run (throw fault : Action α) = (.error fault, w) := rfl

/-- A sequence runs on only if its first part ended with a result. -/
@[simp] theorem run_bind (a : Action α) (f : α → Action β) :
    w.run (a >>= f) =
      match w.run a with
      | (.ok x, w') => w'.run (f x)
      | (.error fault, w') => (.error fault, w') := by
  show (match w.run a with | (r, w') => StateT.run (ExceptT.bindCont f r) w') = _
  rcases w.run a with ⟨_ | _, _⟩ <;> rfl

@[simp] theorem run_map (f : α → β) (a : Action α) :
    w.run (f <$> a) =
      match w.run a with
      | (.ok x, w') => (.ok (f x), w')
      | (.error fault, w') => (.error fault, w') := by
  rw [map_eq_pure_bind, run_bind]
  rfl

@[simp] theorem run_ite (p : Prop) [Decidable p] (a b : Action α) :
    w.run (if p then a else b) = if p then w.run a else w.run b := by
  split <;> rfl

@[simp] theorem run_get : w.run get = (.ok w, w) := rfl

@[simp] theorem run_set (w' : World) : w.run (set w') = (.ok ⟨⟩, w') := rfl

@[simp] theorem run_modify (f : World → World) : w.run (modify f) = (.ok ⟨⟩, f w) := rfl

@[simp] theorem run_modifyGet (f : World → α × World) :
    w.run (modifyGet f) = (.ok (f w).1, (f w).2) := rfl

@[simp] theorem run_orFail (x : Except Fault α) : w.run (orFail x) = (x, w) := by
  cases x <;> rfl

@[simp] theorem run_attempt (a : Action α) :
    w.run (attempt a) = (.ok (w.outcome a), w.after a) := rfl

/-- A sequence ends with a result only if both of its parts do. -/
theorem outcome_bind_eq_ok {w : World} {a : Action α} {f : α → Action β} {y : β} :
    w.outcome (a >>= f) = .ok y ↔
      ∃ x, w.outcome a = .ok x ∧ (w.after a).outcome (f x) = .ok y := by
  rw [outcome, run_bind, run_eq w a]
  cases w.outcome a with
  | ok x => simp [outcome]
  | error fault => simp

/-- After a first part with a result the state is that of the second part. -/
theorem after_bind_of_ok {w : World} {a : Action α} {f : α → Action β} {x : α}
    (h : w.outcome a = .ok x) : w.after (a >>= f) = (w.after a).after (f x) := by
  rw [after, run_bind, run_eq w a, h]
  rfl

/-- A first part that is known to come to a result leaves the second part. -/
theorem run_bind_of_run {w w' : World} {a : Action α} {f : α → Action β} {x : α}
    (h : w.run a = (.ok x, w')) : w.run (a >>= f) = w'.run (f x) := by
  rw [run_bind, h]

@[inherit_doc run_bind_of_run]
theorem after_bind_of_run {w w' : World} {a : Action α} {f : α → Action β} {x : α}
    (h : w.run a = (.ok x, w')) : w.after (a >>= f) = w'.after (f x) := by
  rw [after, run_bind_of_run h, after]

/-- What holds after a fault of the first part, and after the second part where there is one,
holds after the sequence. -/
theorem after_bind_cases {P : World → Prop} {w : World} {a : Action α} {f : α → Action β}
    (hfault : ∀ fault, w.outcome a = .error fault → P (w.after a))
    (hok : ∀ x, w.outcome a = .ok x → P ((w.after a).after (f x))) : P (w.after (a >>= f)) := by
  rw [after, run_bind, run_eq w a]
  cases h : w.outcome a with
  | ok x => exact hok x h
  | error fault => exact hfault fault h

/-- A sequence ends with a fault only if one of its parts does. -/
theorem outcome_bind_ne {w : World} {a : Action α} {f : α → Action β} {fault : Fault}
    (hfirst : w.outcome a ≠ .error fault)
    (hsecond : ∀ x, w.outcome a = .ok x → (w.after a).outcome (f x) ≠ .error fault) :
    w.outcome (a >>= f) ≠ .error fault := by
  rw [outcome, run_bind, run_eq w a]
  cases h : w.outcome a with
  | ok x => exact hsecond x h
  | error other => exact fun heq => hfirst (h.trans (congrArg Except.error (Except.error.inj heq)))

/-- After a first part with a fault there is no second part. -/
theorem run_bind_of_error {w : World} {a : Action α} {f : α → Action β} {fault : Fault}
    (h : w.outcome a = .error fault) : w.run (a >>= f) = (.error fault, w.after a) := by
  rw [run_bind, run_eq w a, h]

/-- What is given back in the end changes nothing. -/
theorem after_bind_pure (a : Action α) (f : α → β) :
    w.after (a >>= fun x => pure (f x)) = w.after a := by
  rw [after, run_bind, run_eq w a]
  cases w.outcome a <;> rfl

variable {kind : Kind} [Inhabited α] [Stored kind α]

@[simp] theorem run_fetch (r : Ref kind) : w.run (fetch r) = (.ok (w.row r), w) := rfl

@[simp] theorem run_put (r : Ref kind) (a : α) : w.run (put r a) = (.ok (), w.withRow r a) := rfl

@[simp] theorem run_update (r : Ref kind) (f : α → α) :
    w.run (update r f) = (.ok (), w.withRow r (f (w.row r))) := rfl

omit [Inhabited α] in
@[simp] theorem run_store (a : α) :
    w.run (store kind a) =
      (.ok ⟨(Stored.table kind w).size⟩,
        Stored.withTable kind w ((Stored.table kind w).push a)) := rfl

@[simp] theorem run_freshSerial :
    w.run freshSerial = (.ok w.nextSerial, { w with nextSerial := w.nextSerial + 1 }) := rfl

@[simp] theorem run_emit (severity : Int) (logger message : String) (fault : Option String) :
    w.run (emit severity logger message fault) =
      (.ok (), { w with log := w.log.emit ⟨severity, logger, message, fault⟩ }) := rfl

@[simp] theorem run_hold (v : Value) :
    w.run (hold v) = (.ok (v.stamped w.nextSerial), { w with nextSerial := w.nextSerial + 1 }) :=
  rfl

@[simp] theorem run_renew (v : Value) :
    w.run (renew v) = (.ok (v.renewed w.nextSerial), { w with nextSerial := w.nextSerial + 1 }) :=
  rfl

/-- A sum is made anew, and a failing addition changes nothing. -/
theorem run_incremented (v : Value) (n : Int) :
    w.run (incremented v n) =
      match w.increment v n with
      | .ok sum => (.ok (sum.renewed w.nextSerial), { w with nextSerial := w.nextSerial + 1 })
      | .error fault => (.error fault, w) := by
  unfold incremented
  simp only [run_bind, run_get, run_orFail]
  cases w.increment v n <;> rfl

@[simp] theorem run_shown (v : Value) : w.run (shown v) = (w.display v, w) := by
  simp [shown]

@[simp] theorem run_quotedText (v : Value) : w.run (quotedText v) = (w.quoted v, w) := by
  simp [quotedText]

@[simp] theorem run_needKey (v : Value) :
    w.run (needKey v) =
      (match v.unhashable? with
        | some type => .error (.unhashable type)
        | none => .ok (), w) := by
  unfold needKey
  cases v.unhashable? <;> rfl

end

end World

/-- A result that is found among the results is the result. -/
theorem outcome_of_toOption {α : Type} {w : World} {a : Action α} {x : α}
    (h : (w.outcome a).toOption = some x) : w.outcome a = .ok x := by
  revert h
  cases w.outcome a with
  | ok y => exact fun h => congrArg Except.ok (Option.some.inj h)
  | error fault => exact fun h => nomatch h

/-- A result that is found to be a thing is that thing. -/
theorem outcome_of_ref? {w : World} {a : Action Value} {kind : Kind} {o : Ref kind}
    (h : (w.outcome a).toOption.bind (·.ref? kind) = some o) : w.outcome a = .ok (.ofRef o) := by
  obtain ⟨v, hv, ho⟩ := Option.bind_eq_some_iff.1 h
  exact Value.eq_ofRef_of_ref? ho ▸ outcome_of_toOption hv

/-! ## What actions keep -/

/-- An action leaves a property of the state intact, however it ends. -/
def Keeps {α : Type} (I : World → Prop) (a : Action α) : Prop := ∀ w, I w → I (w.after a)

namespace Keeps

variable {α β : Type} {I : World → Prop}

theorem pure (a : α) : Keeps I (pure a : Action α) := fun _ h => h

theorem throw (fault : Fault) : Keeps I (throw fault : Action α) := fun _ h => h

theorem orFail (x : Except Fault α) : Keeps I (orFail x) := by
  cases x with
  | ok a => exact pure a
  | error fault => exact throw fault

/-- What both parts of a sequence keep, the sequence keeps. -/
theorem bind {a : Action α} {f : α → Action β} (ha : Keeps I a) (hf : ∀ x, Keeps I (f x)) :
    Keeps I (a >>= f) := by
  intro w hw
  have hw' : I (w.after a) := ha w hw
  rw [World.after, World.run_bind, World.run_eq w a]
  cases w.outcome a with
  | ok x => exact hf x _ hw'
  | error fault => exact hw'

theorem map {a : Action α} (f : α → β) (ha : Keeps I a) : Keeps I (f <$> a) := by
  rw [map_eq_pure_bind]
  exact ha.bind fun x => pure (f x)

end Keeps

/-! ## Quiet actions -/

/-- The state with another log and another supply of serial numbers. -/
def World.retold (w : World) (log : Logging) (serial : Nat) : World :=
  { w with log := log, nextSerial := serial }

/-- Two states that differ in the log and in the supply of serial numbers at most. -/
def World.Alike (w w' : World) : Prop := ∃ log serial, w' = w.retold log serial

namespace World.Alike

theorem refl (w : World) : Alike w w := ⟨w.log, w.nextSerial, rfl⟩

theorem trans {w w' w'' : World} (h : Alike w w') (h' : Alike w' w'') : Alike w w'' := by
  obtain ⟨_, _, rfl⟩ := h
  obtain ⟨log, serial, rfl⟩ := h'
  exact ⟨log, serial, rfl⟩

theorem symm {w w' : World} (h : Alike w w') : Alike w' w := by
  obtain ⟨_, _, rfl⟩ := h
  exact ⟨w.log, w.nextSerial, rfl⟩

end World.Alike

/-- An action that changes nothing but the log and the supply of serial numbers. -/
def Quiet {α : Type} (a : Action α) : Prop := ∀ w : World, w.Alike (w.after a)

theorem quiet_iff_keeps {α : Type} {a : Action α} : Quiet a ↔ ∀ w₀, Keeps (World.Alike w₀) a :=
  ⟨fun h _ w hw => hw.trans (h w), fun h w => h w w (World.Alike.refl w)⟩

/-- A quiet action keeps whatever does not depend on the log and on serial numbers. -/
theorem Quiet.keeps {α : Type} {a : Action α} {I : World → Prop} (h : Quiet a)
    (hI : ∀ w w', World.Alike w w' → I w → I w') : Keeps I a := fun w hw => hI w _ (h w) hw

namespace Quiet

variable {α β : Type}

theorem pure (a : α) : Quiet (pure a : Action α) := World.Alike.refl

theorem throw (fault : Fault) : Quiet (throw fault : Action α) := World.Alike.refl

theorem bind {a : Action α} {f : α → Action β} (ha : Quiet a) (hf : ∀ x, Quiet (f x)) :
    Quiet (a >>= f) :=
  quiet_iff_keeps.2 fun w₀ =>
    (quiet_iff_keeps.1 ha w₀).bind fun x => quiet_iff_keeps.1 (hf x) w₀

theorem ite {p : Prop} [Decidable p] {a b : Action α} (ha : Quiet a) (hb : Quiet b) :
    Quiet (if p then a else b) := by
  split
  · exact ha
  · exact hb

theorem get : Quiet (get : Action World) := World.Alike.refl

theorem fetch {kind : Kind} [Inhabited α] [Stored kind α] (r : Ref kind) : Quiet (fetch r) :=
  World.Alike.refl

theorem orFail (x : Except Fault α) : Quiet (orFail x) :=
  quiet_iff_keeps.2 fun _ => Keeps.orFail x

theorem freshSerial : Quiet freshSerial := fun w => ⟨w.log, w.nextSerial + 1, rfl⟩

theorem emit (severity : Int) (logger message : String) (fault : Option String) :
    Quiet (emit severity logger message fault) := fun w => ⟨_, w.nextSerial, rfl⟩

theorem hold (v : Value) : Quiet (hold v) := freshSerial.bind fun _ => pure _

theorem renew (v : Value) : Quiet (renew v) := freshSerial.bind fun _ => pure _

theorem shown (v : Value) : Quiet (shown v) := get.bind fun _ => orFail _

theorem quotedText (v : Value) : Quiet (quotedText v) := get.bind fun _ => orFail _

theorem needKey (v : Value) : Quiet (needKey v) := by
  unfold Understudy.needKey
  cases v.unhashable? with
  | none => exact pure ()
  | some type => exact throw _

end Quiet

end Understudy

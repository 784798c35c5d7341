import Understudy.Proofs.Hooks

/-!
# Hooks that keep a record

A recorder takes part in a cycle as a pair of hooks. Its first hook notes what was to be armed
and gives out the next number as a handle, its second one notes what was to be cancelled, and
a test lets the time of the callback come that was noted last.

## Main definitions

* `World.Records`: nothing was put in the place of what a recorder has noted.
* `World.withArm`: a recorder with one more arming.

## Main statements

* `World.Records.run_recordArm`, `World.Records.run_recordCancel`: what the two hooks do.
* `World.Records.run_fireLast`: the callback that was armed last is called, and nothing else.
-/

namespace Understudy

/-- Nothing was put in the place of what a recorder has noted. -/
structure World.Records (r : Ref .recorder) (w : World) : Prop where
  arms : w.assigned? r.object "arm_calls" = none
  cancels : w.assigned? r.object "cancel_calls" = none

/-- The state in which a recorder has noted one more arming, and has given out a handle for it. -/
def World.withArm (w : World) (r : Ref .recorder) (arm handle : Value) : World :=
  w.withRow r
    { (w.row r : Recorder) with arms := (w.row r : Recorder).arms ++ [arm], lastHandle := handle }

/-- A whole number that is made just now is the same number. -/
theorem Value.exists_renewed_int (n : Int) (serial : Nat) :
    ∃ k, (Value.ofInt n).renewed serial = .int k n := by
  unfold Value.renewed
  by_cases hunique : (Value.ofInt n).unique = true
  · rw [if_pos hunique]
    exact ⟨0, rfl⟩
  · rw [if_neg hunique]
    exact ⟨serial, rfl⟩

/-- The place before the first one is the last one. -/
theorem World.itemAt?_last (items : List Value) : itemAt? items (-1) = items.getLast? := by
  rw [List.getLast?_eq_getElem?]
  show (if 1 ≤ items.length then items[items.length - 1]? else none) = _
  by_cases hsome : 1 ≤ items.length
  · rw [if_pos hsome]
  · rw [if_neg hsome, List.getElem?_eq_none (by omega)]

section

variable (w : World) (depth serial : Nat) (r : Ref .recorder)

theorem run_invoke_recordArm (delay callback : Value) :
    w.run (invokeWithin (depth + 1) (.function serial (.method r.object .arm)) [delay, callback]) =
      w.run (recordArm (invokeWithin depth) r delay callback) := by
  rw [run_invoke_method w depth serial r.object rfl rfl]
  exact run_answered w _ r.object .arm

theorem run_invoke_recordCancel (handle : Value) :
    w.run (invokeWithin (depth + 1) (.function serial (.method r.object .cancel)) [handle]) =
      w.run (nothing (recordCancel (invokeWithin depth) r handle)) := by
  rw [run_invoke_method w depth serial r.object rfl rfl]
  exact run_answered w _ r.object .cancel

end

namespace World.Records

variable {r : Ref .recorder} {w : World} (h : w.Records r) (call : Caller)
include h

theorem congr {w' : World} (hassigned : w'.assigned = w.assigned) : w'.Records r := by
  have hsame (name : String) : w'.assigned? r.object name = w.assigned? r.object name :=
    congrArg (OrderedMap.get? · (Bearer.thing r.object, name)) hassigned
  exact ⟨(hsame _).trans h.arms, (hsame _).trans h.cancels⟩

/-- The calls of the first hook are read where they are kept. -/
theorem run_readAttribute_arms :
    w.run (readAttribute call (.ofRef r) "arm_calls") = (.ok (.list (.arms r)), w) := by
  refine run_readAttribute_held call ?_
  show w.lookObject r.object "arm_calls" = _
  unfold World.lookObject
  rw [h.arms]
  rfl

theorem run_readAttribute_cancels :
    w.run (readAttribute call (.ofRef r) "cancel_calls") = (.ok (.list (.cancels r)), w) := by
  refine run_readAttribute_held call ?_
  show w.lookObject r.object "cancel_calls" = _
  unfold World.lookObject
  rw [h.cancels]
  rfl

/-- The first hook notes a call and gives out the next number. -/
theorem run_recordArm (delay callback : Value) {last : Int}
    (hlast : ∃ k, (w.row r : Recorder).lastHandle = .int k last) :
    ∃ arm handle next,
      w.run (recordArm call r delay callback) =
        (.ok (.int handle (last + 1)),
          (w.withArm r (.tuple arm [delay, callback]) (.int handle (last + 1))).retold
            w.log next) := by
  obtain ⟨k, hlast⟩ := hlast
  obtain ⟨handle, hhandle⟩ := Value.exists_renewed_int (last + 1) (w.nextSerial + 1)
  let arm : Value := .tuple w.nextSerial [delay, callback]
  -- The call is kept before there is a number for it.
  let kept : World := World.withRow { w with nextSerial := w.nextSerial + 1 } r
    { (w.row r : Recorder) with arms := (w.row r : Recorder).arms ++ [arm] }
  have hkept : kept.row r =
      { (w.row r : Recorder) with arms := (w.row r : Recorder).arms ++ [arm] } :=
    World.row_withRow_self _ r _
  have hnext : kept.run (incremented (kept.row r : Recorder).lastHandle 1) =
      (.ok (.int handle (last + 1)), { kept with nextSerial := kept.nextSerial + 1 }) := by
    rw [World.run_incremented, hkept, hlast, World.increment_int]
    show (Except.ok ((Value.ofInt (last + 1)).renewed (w.nextSerial + 1)), _) = _
    rw [hhandle]
  refine ⟨w.nextSerial, handle, w.nextSerial + 2, ?_⟩
  have happend : World.run { w with nextSerial := w.nextSerial + 1 }
      (appendTo call (.list (.arms r)) arm) = (.ok (), kept) := rfl
  rw [recordArm, World.run_bind_of_run (h.run_readAttribute_arms call),
    World.run_bind_of_run (World.run_freshSerial w), World.run_bind_of_run happend,
    World.run_bind_of_run (World.run_fetch kept r), World.run_bind_of_run hnext]
  show (Except.ok _, World.withRow { kept with nextSerial := kept.nextSerial + 1 } r
    { (kept.row r : Recorder) with lastHandle := .int handle (last + 1) }) = _
  rw [hkept]
  exact congrArg (fun recorders => (Except.ok (Value.int handle (last + 1)),
    { w with nextSerial := w.nextSerial + 2, recorders := recorders })) (Table.set_set _ _ _ _)

/-- The second hook notes a call. -/
theorem run_recordCancel (handle : Value) :
    w.run (recordCancel call r handle) =
      (.ok (), w.withRow r
        { (w.row r : Recorder) with cancels := (w.row r : Recorder).cancels ++ [handle] }) := by
  rw [recordCancel, World.run_bind_of_run (h.run_readAttribute_cancels call)]
  rfl

/-- The callback that was armed last is called, and nothing else is done. -/
theorem run_fireLast {arm : Nat} {delay callback : Value}
    (hlast : (w.row r : Recorder).arms.getLast? = some (.tuple arm [delay, callback])) :
    w.run (fireLast call r) =
      ((w.outcome (call callback [])).map fun _ => (), w.after (call callback [])) := by
  have hsome : w.truthy (.list (.arms r)) = true := by
    show (!(w.row r : Recorder).arms.isEmpty) = true
    cases harms : (w.row r : Recorder).arms with
    | nil =>
      rw [harms] at hlast
      cases hlast
    | cons _ _ => rfl
  have hsubscript : w.run (subscript (.list (.arms r)) (.ofInt (-1))) =
      (.ok (.tuple arm [delay, callback]), w) := by
    have hplace : World.itemAt? (w.items (.arms r)) (-1) = some (.tuple arm [delay, callback]) :=
      (World.itemAt?_last _).trans hlast
    have hwhole : (Value.ofInt (-1)).whole? = some (-1) := rfl
    have hfits : World.fitsWord (-1) = true := rfl
    simp [subscript, hwhole, hfits, hplace]
  have hpair : w.run (unpackPair (.tuple arm [delay, callback])) = (.ok (delay, callback), w) := rfl
  rw [fireLast, World.run_bind_of_run (h.run_readAttribute_arms call),
    World.run_bind_of_run (World.run_get w), hsome]
  show w.run (subscript _ _ >>= fun item => unpackPair item >>= fun pair => _) = _
  rw [World.run_bind_of_run hsubscript, World.run_bind_of_run hpair, World.run_bind,
    World.run_eq w (call callback [])]
  cases w.outcome (call callback []) <;> rfl

end World.Records

end Understudy

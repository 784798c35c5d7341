import Understudy.Asking

/-!
# Scheduling hooks

A policy holds the pair of hooks that a subsystem arms and cancels its timer with.
The pair is checked as a whole and replaced as a whole, so that no arming hook is
ever paired with a cancelling hook of another pair. An injector replaces the pair of
a subsystem that is already set up.

## Main definitions

* `checkHooks`: whether two values can be a pair of hooks.
* `setScheduler`: replaces the pair of a policy.
* `overrideScheduling`, `disableTimers`: replace the pair of an owner's policy.
* `recordArm`, `fireLast`: hooks that keep a record.
* `callProbe`: a hook that does what it was told to.
-/

namespace Understudy

/-- The logger of the injectors. -/
def schedulingLogger : String := "hostshim.core.scheduling"

/-- Both hooks have to be callable; the arming one is looked at first. -/
def checkHooks (w : World) (arm cancel : Value) : Except Fault Unit :=
  if !arm.callable then .error (.hookNotCallable "arm" (w.typeName arm))
  else if !cancel.callable then .error (.hookNotCallable "cancel" (w.typeName cancel))
  else .ok ()

/-- A new policy. -/
def newPolicy (arm cancel : Value) : Action (Ref .policy) := do
  orFail (checkHooks (← get) arm cancel)
  store .policy ⟨← freshSerial, arm, cancel⟩

/-- Replaces the pair of hooks and returns the previous one. -/
def setScheduler (p : Ref .policy) (arm cancel : Value) : Action Value := do
  orFail (checkHooks (← get) arm cancel)
  enter p.object
  let previous := (← get).hooksOf p
  modify fun w => w.withoutAssigned p.object hooksName
  put p ⟨← freshSerial, arm, cancel⟩
  return previous

/-! ## Replacing the hooks of a subsystem -/

/-- The policy of an owner. -/
def policyOf (call : Caller) (owner : Value) : Action Value :=
  match owner.ref? .holder with
  | some _ =>
    request call owner .getPolicy [] fun (h : Ref .holder) => return (← fetch h).policy
  | none =>
    request call owner .getPolicy [] fun (s : Ref .session) => return (← fetch s).policy

/-- The name a hook is logged by: that of the function, or else its quoted text, which
it has to have in either case. -/
def hookName (hook : Value) : Action String := do
  let text ← quotedText hook
  match (← get).read hook "__name__" with
  | .ok name => shown name
  | .error _ => return text

/-- The name of the subsystem that owns a policy. -/
def subsystemName (call : Caller) (owner : Value) : Action Value :=
  readAttribute call owner "subsystem_name"

/-- Replaces the pair of hooks of the owner's policy and returns the previous one. An
owner without a policy is refused before the hooks are looked at. -/
def overrideScheduling (call : Caller) (i : Ref .injector) (arm cancel : Value) :
    Action Value := do
  let policy ← policyOf call (← fetch i).owner
  if policy.isNone then
    throw (.notSetUp (← quotedText (← subsystemName call (← fetch i).owner)))
  let previous ← request call policy .setScheduler [arm, cancel] fun p =>
    setScheduler p arm cancel
  let name ← shown (← subsystemName call (← fetch i).owner)
  debug schedulingLogger
    ("Scheduling hooks of " ++ name ++ " replaced with " ++ (← hookName arm) ++ "/" ++
      (← hookName cancel))
  return previous

/-- Installs the hooks that do nothing. -/
def disableTimers (call : Caller) (i : Ref .injector) : Action Value :=
  let arm := Value.function 0 .idleArm
  let cancel := Value.function 0 .idleCancel
  request call (.ofRef i) .overrideScheduling [arm, cancel] fun i =>
    overrideScheduling call i arm cancel

/-! ## Hooks that keep a record -/

/-- Notes what was to be armed and returns a fresh handle. -/
def recordArm (call : Caller) (r : Ref .recorder) (delay callback : Value) : Action Value := do
  let calls ← readAttribute call (.ofRef r) "arm_calls"
  appendTo call calls (.tuple (← freshSerial) [delay, callback])
  let handle ← incremented (← fetch r).lastHandle 1
  update r fun recorder => { recorder with lastHandle := handle }
  return handle

/-- Notes what was to be cancelled. -/
def recordCancel (call : Caller) (r : Ref .recorder) (handle : Value) : Action Unit := do
  appendTo call (← readAttribute call (.ofRef r) "cancel_calls") handle

/-- Runs the callback that was armed last, as if its time had come. -/
def fireLast (call : Caller) (r : Ref .recorder) : Action Unit := do
  let calls ← readAttribute call (.ofRef r) "arm_calls"
  if !(← get).truthy calls then throw .nothingArmed
  let (_, callback) ← unpackPair (← subscript calls (.ofInt (-1)))
  let _ ← call callback []

/-- Runs the callback of an earlier arming, counted from the first, or from the last if
the place is below zero. -/
def fireAt (call : Caller) (recorder : Value) (place : Int) : Action Unit := do
  let calls ← readAttribute call recorder "arm_calls"
  let callback ← subscript (← subscript calls (.ofInt place)) (.ofInt 1)
  let _ ← call callback []

/-- Forgets all calls. -/
def resetRecorder (call : Caller) (r : Ref .recorder) : Action Unit := do
  clearAll call (← readAttribute call (.ofRef r) "arm_calls")
  clearAll call (← readAttribute call (.ofRef r) "cancel_calls")
  update r fun recorder => { recorder with lastHandle := .ofInt 0 }

/-! ## Hooks that do what they are told -/

/-- Takes one from the budget of a probe, if there is something left of it. -/
def spend (p : Ref .probe) : Action Bool := do
  let w ← get
  let budget := (w.row p : Probe).budget
  let spent ← orFail (w.ordered ">" budget (.ofInt 0))
  let positive ← orFail (w.ordered ">" (.ofInt 0) budget)
  if spent || !positive then return false
  let rest ← incremented budget (-1)
  update p fun probe => { probe with budget := rest }
  return true

/-- A call of a probe. It notes the first argument, which has to be there, and fails if it
is told to.
Otherwise it calls its second argument as long as its budget lasts. It returns its
handle, or the number of this call. -/
def callProbe (call : Caller) (p : Ref .probe) (args : List Value) : Action Value := do
  let calls ← readAttribute call (.ofRef p) "calls"
  match args with
  | [] => throw (.placeRange "tuple index out of range")
  | first :: _ => appendTo call calls first
  let count ← lengthOf (← readAttribute call (.ofRef p) "calls")
  let probe ← fetch p
  if (← get).truthy probe.fails then throw (.probeFailed (← shown probe.name))
  match args with
  | _ :: second :: _ =>
    if ← spend p then
      let _ ← call second []
  | _ => pure ()
  let handle := (← fetch p).handle
  return if handle.isNone then .ofInt count else handle

end Understudy

import Understudy.Asking
import Understudy.Decimal.Fixed
import Understudy.Decimal.Read

/-!
# Banks of timers

A bank arms timers on a timeline and keeps the set of those that neither fired nor
were cancelled through it. Moving the clock of the timeline fires the timers that
are due, one after the other; a timer that fires leaves its bank before its callback
runs.

Instead of a timeline a bank may be given anything else that takes the request to call
something later. It is then handed an expiry, by which the timer leaves the bank, and
the bank learns the handle of the timer from the answer.

## Main definitions

* `armTimer`, `cancelTimer`, `cancelAll`: what is asked of a bank.
* `callLater`, `advance`: what is asked of a timeline.
-/

namespace Understudy

/-- The logger of the banks. -/
def timersLogger : String := "hostshim.adapters.scheduler.timers"

/-! ## Delays -/

/-- A value with a fixed number of places. A date and time shows the pattern itself, in
which it finds nothing to fill in. -/
def fixedText (w : World) (places : Nat) (v : Value) : Except Fault String :=
  match v.float? with
  | some (some x) => .ok (Decimal.fixed places x)
  | some none => .error .floatRange
  | none =>
    match v with
    | .text _ _ | .capability _ | .field _ => .error .fixedFormatOfText
    | .moment _ _ => .ok ("." ++ toString places ++ "f")
    | _ => .error (.noFixedFormat (w.fullTypeName v))

/-- The time that lies a delay after another. -/
def dueAfter (w : World) (now : Float) (delay : Value) : Except Fault Float :=
  match delay.float? with
  | some (some x) => .ok (now + x)
  | some none => .error .floatRange
  | none => .error (.noSum "+" "float" (w.fullTypeName delay))

/-- A value as a float, where a text may spell one. -/
def spelledFloat (v : Value) : Action Float := do
  match v.float?, v.text? with
  | some (some x), _ => return x
  | some none, _ => throw .floatRange
  | none, some s =>
    match Decimal.read? s with
    | some x => return x
    | none => throw (.unreadableNumber (← quotedText v))
  | none, none => throw (.notANumber ((← get).fullTypeName v))

/-! ## Arming -/

/-- Arms a timer on a timeline and returns its number, which is used up even if there is
no telling when the timer would be due. -/
def schedule (t : Ref .timeline) (delay : Value) (alarm : Alarm) : Action Nat := do
  let timeline ← fetch t
  match dueAfter (← get) timeline.now delay with
  | .ok due =>
    put t (timeline.schedule due alarm)
    return timeline.nextSeq
  | .error fault =>
    put t timeline.skip
    throw fault

/-- Arms a callback on a timeline itself. -/
def callLater (t : Ref .timeline) (delay callback : Value) : Action Value :=
  return .handle t (← schedule t delay (.direct callback))

/-- A bank that keeps track of one more timer, if it did not before. -/
def Bank.add (bank : Bank) (handle : Value) : Bank :=
  { bank with active := if bank.active.any (· == handle) then bank.active
      else bank.active ++ [handle] }

/-- A bank no longer keeps track of a timer. -/
def Bank.discard (bank : Bank) (handle : Value) : Bank :=
  { bank with active := bank.active.filter fun other => !(other == handle) }

/-- Has a callback called later by what a bank was given to arm timers on. -/
def callLaterOn (call : Caller) (b : Ref .bank) (line delay callback : Value) :
    Action Value := do
  match (← get).taker? .timeline line .callLater with
  | some t => return .handle t (← schedule t delay (.banked b callback))
  | none =>
    let serial ← freshSerial
    let callee ← readAttribute call line Method.callLater.word
    let handle ← call callee [delay, .expiry b serial callback]
    update b fun bank => { bank with learned := bank.learned.put serial handle }
    return handle

/-- Arms a callback. The delay is logged only after the timer was armed, and a delay
that cannot be written leaves the timer armed. -/
def armTimer (call : Caller) (b : Ref .bank) (delay callback : Value) : Action Value := do
  let line := (← fetch b).timeline
  if !(← get).truthy line then throw .noTimeline
  let handle ← callLaterOn call b line delay callback
  needKey handle
  update b (·.add handle)
  let text ← orFail (fixedText (← get) 3 delay)
  debug timersLogger ("Armed timer for " ++ text ++ "s")
  return handle

/-! ## Cancelling -/

/-- Cancels a timer on its timeline. -/
def cancelOn (t : Ref .timeline) (seq : Nat) : Action Unit := do
  modify fun w => { w with assigned := w.assigned.erase (.timer t seq, cancelledName) }
  update t (·.cancel seq)

/-- Asks a timer to cancel itself, whoever armed it. What is no timer may not know how
to. -/
def cancelHandle (call : Caller) : Value → Action Unit
  | .handle t seq => do
    match (← get).assigned.get? (.timer t seq, Method.cancel.word) with
    | none => cancelOn t seq
    | some callee =>
      let _ ← call callee []
  | other => do
    let callee ← readAttribute call other Method.cancel.word
    let _ ← call callee []

/-- Cancels a timer, and the bank no longer keeps track of it. What is absent is passed
over. -/
def cancelTimer (call : Caller) (b : Ref .bank) (handle : Value) : Action Unit := do
  if !handle.isNone then
    cancelHandle call handle
    needKey handle
    update b (·.discard handle)
    debug timersLogger "Cancelled timer"

/-- Cancels timers, one after the other. -/
def cancelEach (call : Caller) (b : Ref .bank) : List Value → Action Unit
  | [] => pure ()
  | handle :: rest => do
    let _ ← request call (.ofRef b) .cancel [handle] fun b => do
      cancelTimer call b handle
      return .none
    cancelEach call b rest

/-- Cancels every timer that the bank keeps track of. -/
def cancelAll (call : Caller) (b : Ref .bank) : Action Unit := do
  cancelEach call b (← fetch b).active

/-! ## Moving the clock -/

/-- What happens when a timer of a bank fires: it leaves the bank, and its callback
runs. -/
def ringBanked (call : Caller) (b : Ref .bank) (handle callback : Value) : Action Unit := do
  needKey handle
  update b (·.discard handle)
  let _ ← call callback []

/-- What happens when a timer fires. -/
def ring (call : Caller) (t : Ref .timeline) (seq : Nat) : Alarm → Action Unit
  | .banked bank callback => ringBanked call bank (.handle t seq) callback
  | .direct callback => do
    let _ ← call callback []

/-- What happens when an expiry is called. A bank that has not learned the handle of the
timer yet cannot tell which one it is. -/
def expire (call : Caller) (b : Ref .bank) (serial : Nat) (callback : Value) : Action Unit := do
  match (← fetch b).learned.get? serial with
  | some handle => ringBanked call b handle callback
  | none => throw .unknownTimer

/-- Takes the timers that are due, earliest first, fires those that were not cancelled,
and notes how each ended. A fault of a callback goes no further. At most `limit` timers
are taken, since a callback may arm another timer that is due at once, without an end. -/
def fireDue (call : Caller) (t : Ref .timeline) (goal : Decimal.Parts) :
    Nat → Action (List Value)
  | 0 => return []
  | limit + 1 => do
    match (← fetch t).next? goal with
    | none => return []
    | some (seq, timer) =>
      if timer.cancelled then
        update t (·.take seq)
        fireDue call t goal limit
      else
        update t (·.reach seq timer.due)
        let outcome := match ← attempt (ring call t seq timer.alarm) with
          | .ok _ => "ok"
          | .error fault => fault.kind
        let entry ← newList [.ofFloat timer.due, .ofInt seq, .ofText outcome]
        let rest ← fireDue call t goal limit
        return entry :: rest

/-- More timers than any scenario takes. -/
def fireLimit : Nat := 1000000

/-- Moves the clock of a timeline. The goal is compared with the times of the timers
before it is taken for a time itself. -/
def advance (call : Caller) (t : Ref .timeline) (goal : Value) : Action (List Value) := do
  let fired ← match goal.number?, (← fetch t).first? with
    | some limit, _ => fireDue call t limit fireLimit
    | none, none => pure []
    | none, some _ => throw (.noOrder "<=" "float" ((← get).fullTypeName goal))
  let now ← spelledFloat goal
  update t fun timeline => { timeline with now := now }
  return fired

end Understudy

import Understudy.Heap
import Understudy.Value.Number

/-!
# Virtual time and timers

A timeline is a clock that only moves when it is told to, with the timers that wait
on it. When its time has come a timer is taken off the line, and it fires unless it
was cancelled before. Timers of equal time are taken in the order in which they were
armed. A time that is no number is never reached, and a timer of such a time holds up
the others once it is first on the line. As such a time comes neither before nor after
another one, what is first is then told by the row in which the timers wait.

## Main definitions

* `Timer`: one timer.
* `Timeline`: a clock and its timers. A timer is known by its number, from one.
* `Timeline.schedule`, `Timeline.cancel`, `Timeline.next?`: the operations.
* `Timeline.waiting`: the row of the timers that wait, as a heap.
-/

namespace Understudy

/-- What happens when a timer fires. -/
inductive Alarm where
  /-- A bank forgets the timer and the callback runs. -/
  | banked (bank : Ref .bank) (callback : Value)
  /-- The callback runs. -/
  | direct (callback : Value)

/-- One timer. It is taken off the line when the clock reaches it, whether it then
fires or not. -/
structure Timer where
  due : Float
  alarm : Alarm
  cancelled : Bool := false
  taken : Bool := false

/-- Whether a timer will fire when the clock reaches it. -/
def Timer.live (t : Timer) : Bool := !t.cancelled && !t.taken

/-- A clock and its timers in the order in which they were armed. Those that wait stand
in a row as well, by their numbers. -/
structure Timeline where
  now : Float := 0.0
  timers : List Timer := []
  waiting : Array Nat := #[]
  deriving Inhabited

namespace Timeline

/-- The timer of a number. -/
def timer? (t : Timeline) (seq : Nat) : Option Timer :=
  match seq with
  | 0 => none
  | i + 1 => t.timers[i]?

/-- Whether the timer of a number is live. -/
def live (t : Timeline) (seq : Nat) : Bool := (t.timer? seq).any Timer.live

/-- How many timers are live. -/
def pending (t : Timeline) : Nat := t.timers.countP Timer.live

/-- The number of the timer that is armed next. -/
def nextSeq (t : Timeline) : Nat := t.timers.length + 1

/-- Whether the timer of one number is due before that of another one. Of two that are due
at the same time it is the one with the lower number. -/
def before (t : Timeline) (a b : Nat) : Bool :=
  match t.timer? a, t.timer? b with
  | some x, some y => if x.due == y.due then a < b else x.due < y.due
  | _, _ => false

/-- Arms a timer. -/
def schedule (t : Timeline) (due : Float) (alarm : Alarm) : Timeline :=
  let armed : Timeline := { t with timers := t.timers ++ [{ due := due, alarm := alarm }] }
  { armed with waiting := Heap.push armed.before t.waiting t.nextSeq }

/-- Uses up a number for a timer that could not be armed, which is as good as taken. -/
def skip (t : Timeline) : Timeline :=
  { t with timers := t.timers ++ [{ due := 0.0, alarm := .direct .none, taken := true }] }

/-- Changes the timer of a number. -/
def modify (t : Timeline) (seq : Nat) (f : Timer → Timer) : Timeline :=
  match seq with
  | 0 => t
  | i + 1 => { t with timers := t.timers.modify i f }

/-- Cancels a timer. One that was taken stays taken. -/
def cancel (t : Timeline) (seq : Nat) : Timeline :=
  t.modify seq fun timer => { timer with cancelled := true }

/-- Sets whether a timer is cancelled. -/
def withCancelled (t : Timeline) (seq : Nat) (cancelled : Bool) : Timeline :=
  t.modify seq fun timer => { timer with cancelled := cancelled }

/-- Takes the timer that is first in the row off the line. -/
def take (t : Timeline) (seq : Nat) : Timeline :=
  { t.modify seq fun timer => { timer with taken := true } with
    waiting := Heap.pop t.before t.waiting }

/-- Takes a timer off the line and moves the clock to its time. -/
def reach (t : Timeline) (seq : Nat) (due : Float) : Timeline := { t.take seq with now := due }

/-- The earlier of a timer found before and another one with its number. Only what is
strictly earlier takes precedence. -/
def earlier (found : Option (Nat × Timer)) (seq : Nat) (t : Timer) : Option (Nat × Timer) :=
  if t.taken then found
  else
    match found with
    | none => some (seq, t)
    | some (_, best) => if t.due < best.due then some (seq, t) else found

/-- The earliest of a timer found before and of further ones, numbered from `seq`. -/
def earliest : Option (Nat × Timer) → Nat → List Timer → Option (Nat × Timer)
  | found, _, [] => found
  | found, seq, t :: rest => earliest (earlier found seq t) (seq + 1) rest

/-- Whether a timer waits whose time is no number. -/
def blocked (t : Timeline) : Bool := t.timers.any fun timer => !timer.taken && timer.due.isNaN

/-- The timer that is first in the row. -/
def firstWaiting? (t : Timeline) : Option (Nat × Timer) :=
  t.waiting[0]?.bind fun seq =>
    ((t.timer? seq).filter fun timer => !timer.taken).map fun timer => (seq, timer)

/-- The timer that is first on the line. -/
def first? (t : Timeline) : Option (Nat × Timer) :=
  if t.blocked then t.firstWaiting? else earliest none 1 t.timers

/-- The timer that is taken next if the clock moves on to a limit. -/
def next? (t : Timeline) (limit : Decimal.Parts) : Option (Nat × Timer) :=
  t.first?.filter fun (_, timer) => (Decimal.Parts.ofFloat timer.due).atMost limit

/-! ## What an operation leaves alone -/

/-- A change of one timer is a change of that timer only. -/
theorem timer?_modify (t : Timeline) (seq other : Nat) (f : Timer → Timer) :
    (t.modify seq f).timer? other =
      if other = seq then (t.timer? other).map f else t.timer? other := by
  cases seq with
  | zero => cases other <;> simp [modify, timer?]
  | succ i =>
    cases other with
    | zero => simp [timer?]
    | succ j =>
      by_cases h : j = i
      · subst h
        simp [modify, timer?]
      · simp [modify, timer?, h, Ne.symm h]

end Timeline

end Understudy

import Courier.Failure
import Courier.Metrics

/-!
# The way out

All envelopes of a session leave through one sink. Sends wait for the sink in the order of their
start, and one send holds it until its frame is written and flushed, so frames never mix. A send
that fails or is cancelled once it holds the sink gives the sink up for good, since a part of its
frame may have left. Shutting down waits its turn and then takes the sink away.

A send acts when it is started, and when it is polled later on; the sink acts by taking bytes,
by flushing or by failing. While the switch is on every send that is polled fails.
-/

namespace Courier

/-- An envelope that is being sent. -/
structure Outbound.Send where
  /-- What tells this send from others. -/
  number : Nat
  subject : String
  frame : Bytes
deriving DecidableEq, Repr

/-- Who waits for the sink. -/
inductive Outbound.Waiter where
  | send (s : Outbound.Send)
  | shutdown (number : Nat)
deriving DecidableEq, Repr

/-- The number of what waits. -/
def Outbound.Waiter.number : Outbound.Waiter → Nat
  | .send s => s.number
  | .shutdown number => number

@[simp] theorem Outbound.Waiter.number_send (s : Outbound.Send) :
    (Outbound.Waiter.send s).number = s.number := rfl

@[simp] theorem Outbound.Waiter.number_shutdown (number : Nat) :
    (Outbound.Waiter.shutdown number).number = number := rfl

/-- A send that holds the sink, and how many bytes of its frame the sink has taken. -/
structure Outbound.Active where
  send : Outbound.Send
  taken : Nat
deriving DecidableEq, Repr

/-- The sending side of a session. -/
structure Outbound where
  /-- Whether there is a sink. -/
  attached : Bool
  /-- Whether the sink was shut down. -/
  shut : Bool
  /-- All bytes that the sink has taken. -/
  written : Bytes
  /-- Whether the switch is on. -/
  cancelled : Bool
  active : Option Outbound.Active
  /-- Who waits for the sink, in turn. -/
  waiting : List Outbound.Waiter
  /-- What became of sends and shutdowns, in order. -/
  finished : List (Nat × Except Failure Unit)

namespace Outbound

/-- The sending side with a new sink. -/
def start : Outbound := ⟨true, false, [], false, none, [], []⟩

/-- How something ended, if it did. -/
def result? (o : Outbound) (number : Nat) : Option (Except Failure Unit) := o.finished.lookup number

/-- Whether a number is taken. -/
def isKnown (o : Outbound) (number : Nat) : Bool :=
  o.active.any (·.send.number = number) || o.waiting.any (·.number = number)
    || (o.result? number).isSome

/-- Note how something ended. -/
def finish (o : Outbound) (number : Nat) (result : Except Failure Unit) : Outbound :=
  { o with finished := o.finished ++ [(number, result)] }

section Finish

variable (o : Outbound) (number : Nat) (result : Except Failure Unit)

@[simp] theorem written_finish : (o.finish number result).written = o.written := rfl

@[simp] theorem waiting_finish : (o.finish number result).waiting = o.waiting := rfl

/-- What was noted first stands. -/
@[simp] theorem result?_finish (n : Nat) :
    (o.finish number result).result? n =
      (o.result? n).or (if n = number then some result else none) := by
  rw [result?, finish, List.lookup_append, result?]
  by_cases hn : n = number
  · simp [hn]
  · simp [List.lookup_cons, beq_eq_false_iff_ne.2 hn, hn]

end Finish

/-- Note that something failed. -/
def fail (o : Outbound) (number : Nat) (fault : WriteFault) : Outbound :=
  o.finish number (.error (.write fault))

/-- Let something wait no longer. -/
def dismiss (o : Outbound) (number : Nat) : Outbound :=
  { o with waiting := o.waiting.filter fun w => w.number ≠ number }

@[simp] theorem written_dismiss (o : Outbound) (number : Nat) :
    (o.dismiss number).written = o.written := rfl

@[simp] theorem waiting_dismiss (o : Outbound) (number : Nat) :
    (o.dismiss number).waiting = o.waiting.filter fun w => w.number ≠ number := rfl

/-- Give the sink up for good. -/
def detach (o : Outbound) : Outbound := { o with attached := false, active := none }

/-- Whether it is the turn of what has some number. -/
def isTurn (o : Outbound) (number : Nat) : Bool :=
  o.active.isNone && o.waiting.head?.any (·.number = number)

/-- It is the turn of what waits first where nobody holds the sink. -/
@[simp] theorem isTurn_iff {o : Outbound} {number : Nat} :
    o.isTurn number = true ↔
      o.active = none ∧ ∃ w, o.waiting.head? = some w ∧ w.number = number := by
  simp [isTurn, Option.any_eq_true]

/-- What happens when something that waits looks at the switch and at the sink. -/
def pollWaiter (o : Outbound) : Waiter → Outbound
  | .send s =>
    if o.cancelled then (o.dismiss s.number).fail s.number .closed
    else if !o.isTurn s.number then o
    else if o.attached then { o.dismiss s.number with active := some ⟨s, 0⟩ }
    else (o.dismiss s.number).fail s.number .closed
  | .shutdown number =>
    if o.isTurn number then
      ({ o.dismiss number with attached := false, shut := o.shut || o.attached }).finish number
        (.ok ())
    else o

/-- Let something wait, and look at once whether it has to. -/
def enqueue (o : Outbound) (w : Waiter) : Outbound :=
  { o with waiting := o.waiting ++ [w] }.pollWaiter w

/-- What can happen to the sending side. -/
inductive Action where
  /-- A send starts. -/
  | send (number : Nat) (e : Envelope)
  /-- A shutdown starts. -/
  | shutdown (number : Nat)
  /-- A send or shutdown looks again at what it waits for. -/
  | poll (number : Nat)
  /-- The sink takes some bytes. -/
  | accept (count : Nat)
  /-- The sink has flushed the frame. -/
  | flush
  /-- Writing or flushing fails. -/
  | refuse (reason : String)
  /-- A send or shutdown is given up from outside. -/
  | abandon (number : Nat)
  /-- The switch is turned on or off. -/
  | turn (on : Bool)
deriving DecidableEq, Repr

/-- The send that holds the sink, if the switch lets it go on. -/
def running? (o : Outbound) : Option Active := if o.cancelled then none else o.active

@[simp] theorem running?_eq_some_iff {o : Outbound} {a : Active} :
    o.running? = some a ↔ o.active = some a ∧ o.cancelled = false := by
  rw [running?]
  cases o.cancelled <;> simp

/-- Look again at what is waited for. -/
def poll? (o : Outbound) (number : Nat) : Option Outbound :=
  match o.active.filter (·.send.number = number) with
  | some a =>
    some (if o.cancelled then o.detach.fail number (.cancelled a.send.subject) else o)
  | none => (o.waiting.find? (·.number = number)).map o.pollWaiter

/-- What an action leads to, if it can happen. -/
def step? (o : Outbound) (metrics : Metrics) : Action → Option (Outbound × Metrics)
  | .send number e =>
    if o.isKnown number then none
    else
      match e.toFrame with
      | .error fault => some (o.finish number (.error fault.failure), metrics)
      | .ok frame => some (o.enqueue (.send ⟨number, e.subject, frame⟩), metrics)
  | .shutdown number =>
    if o.isKnown number then none else some (o.enqueue (.shutdown number), metrics)
  | .poll number => (o.poll? number).map fun o => (o, metrics)
  | .accept count =>
    match o.running? with
    | none => none
    | some a =>
      if 0 < count && a.taken + count ≤ a.send.frame.length then
        some ({ o with
          written := o.written ++ (a.send.frame.drop a.taken).take count
          active := some { a with taken := a.taken + count } }, metrics)
      else none
  | .flush =>
    match o.running? with
    | none => none
    | some a =>
      if a.taken = a.send.frame.length then
        some ({ o with active := none }.finish a.send.number (.ok ()),
          metrics.countSent a.send.frame.length)
      else none
  | .refuse reason =>
    o.running?.map fun a =>
      (o.detach.fail a.send.number (.failed a.send.subject reason), metrics)
  | .abandon number =>
    if o.active.any (·.send.number = number) then some ({ o with active := none }, metrics)
    else if o.waiting.any (·.number = number) then some (o.dismiss number, metrics)
    else none
  | .turn on => some ({ o with cancelled := on }, metrics)

end Outbound

end Courier

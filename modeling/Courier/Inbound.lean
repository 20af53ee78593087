import Courier.Failure
import Courier.Metrics

/-!
# The way in

The receiving side of a session reads bytes, cuts them into frames and puts the envelope of each
frame into a queue, in the order of receipt. A frame without an envelope is put there as well, as
the fault that it is. The queue is bounded; while it is full the next item waits, and nothing is
read.

Receiving ends at the end of the stream, at a refused length, when reading fails, when nobody
takes items any more, and when the switch is touched. It is suspended at two points only: where it
waits for bytes, and where it waits for room. What happens between them is one step, so the steps
here are all that can be interleaved with it. The switch has precedence at both points.
-/

namespace Courier

/-- What receiving hands on for one frame. -/
abbrev Inbound.Item := Except Envelope.Fault Envelope

/-- Where receiving is suspended. -/
inductive Inbound.Stage where
  /-- It waits for bytes. -/
  | reading
  /-- It waits for room for an item. -/
  | delivering (item : Inbound.Item)
  | ended (outcome : Except Failure Unit)

/-- The receiving side of a session. -/
structure Inbound where
  buffer : FrameBuffer
  /-- How many items the queue holds at most. -/
  capacity : Nat
  stage : Inbound.Stage
  /-- The items that wait to be taken, oldest first. -/
  queue : List Inbound.Item
  /-- All items that were ever put into the queue. -/
  delivered : List Inbound.Item
  /-- Whether somebody may still take items. -/
  consumed : Bool
  /-- Whether the switch was touched, or is gone. -/
  disturbed : Bool

namespace Inbound

/-- Receiving that has not begun. -/
def start (limit capacity : Nat) : Inbound :=
  ⟨FrameBuffer.empty limit, capacity, .reading, [], [], true, false⟩

/-- How receiving ended, if it did. -/
def outcome? (r : Inbound) : Option (Except Failure Unit) :=
  match r.stage with
  | .ended outcome => some outcome
  | _ => none

/-- Receiving has an outcome just where it has ended. -/
@[simp] theorem outcome?_eq_some_iff {r : Inbound} {outcome : Except Failure Unit} :
    r.outcome? = some outcome ↔ r.stage = .ended outcome := by
  cases hstage : r.stage <;> simp [outcome?, hstage]

/-- Receiving that ends. -/
def finish (r : Inbound) (outcome : Except Failure Unit) : Inbound :=
  { r with stage := .ended outcome }

section Finish

variable (r : Inbound) (outcome : Except Failure Unit)

@[simp] theorem stage_finish : (r.finish outcome).stage = .ended outcome := rfl

@[simp] theorem buffer_finish : (r.finish outcome).buffer = r.buffer := rfl

@[simp] theorem delivered_finish : (r.finish outcome).delivered = r.delivered := rfl

end Finish

/-- Whether the queue has room. -/
def hasRoom (r : Inbound) : Bool := r.queue.length < r.capacity

@[simp] theorem hasRoom_iff {r : Inbound} : r.hasRoom = true ↔ r.queue.length < r.capacity := by
  rw [hasRoom, decide_eq_true_eq]

/-- Put an item into the queue. -/
def enqueue (r : Inbound) (item : Item) : Inbound :=
  { r with queue := r.queue ++ [item], delivered := r.delivered ++ [item] }

@[simp] theorem queue_enqueue (r : Inbound) (item : Item) :
    (r.enqueue item).queue = r.queue ++ [item] := rfl

@[simp] theorem delivered_enqueue (r : Inbound) (item : Item) :
    (r.enqueue item).delivered = r.delivered ++ [item] := rfl

/-- Count a frame and the fault in it. -/
def countItem (metrics : Metrics) (item : Item) : Metrics :=
  match item with
  | .ok _ => metrics.countReceived
  | .error fault => metrics.countReceived.countUndecoded (Failure.malformedEnvelope fault).code

/-- Hand on the frames that have arrived, as far as there is room. -/
def deliver (r : Inbound) (metrics : Metrics) : Inbound × Metrics :=
  match _taken : r.buffer.next with
  | .error fault => (r.finish (.error fault.failure), metrics)
  | .ok none => ({ r with stage := .reading }, metrics)
  | .ok (some (payload, buffer)) =>
    let item := Envelope.decode payload
    let metrics := countItem metrics item
    if !r.consumed then ({ r with buffer }.finish (.ok ()), metrics)
    else if r.hasRoom then deliver ({ r with buffer }.enqueue item) metrics
    else ({ r with buffer, stage := .delivering item }, metrics)
termination_by r.buffer.buffered
decreasing_by exact FrameBuffer.buffered_lt_of_next _taken

/-- The most bytes that are read at once. -/
def chunkLength : Nat := 4096

/-- What can happen to receiving. -/
inductive Action where
  /-- Some bytes are read. -/
  | read (chunk : Bytes)
  /-- The stream ends. -/
  | readEnd
  /-- Reading fails. -/
  | readFailure (reason : String)
  /-- Receiving looks again at what it waits for. -/
  | resume
  /-- The oldest item is taken out of the queue. -/
  | take
  /-- Nobody takes items any more, and those in the queue are lost. -/
  | leave
  /-- The switch is set to some value, or is gone. -/
  | disturb
deriving DecidableEq, Repr

/-- Whether receiving waits for bytes, undisturbed. -/
def isReading (r : Inbound) : Bool :=
  match r.stage with
  | .reading => !r.disturbed
  | _ => false

@[simp] theorem isReading_iff {r : Inbound} :
    r.isReading = true ↔ r.stage = .reading ∧ r.disturbed = false := by
  cases hstage : r.stage <;> simp [isReading, hstage]

/-- Look again at what is waited for: the switch, a consumer that is gone, or room. -/
def resume? (r : Inbound) (metrics : Metrics) : Option (Inbound × Metrics) :=
  match r.stage with
  | .reading => if r.disturbed then some (r.finish (.ok ()), metrics) else none
  | .delivering item =>
    if r.disturbed || !r.consumed then some (r.finish (.ok ()), metrics)
    else if r.hasRoom then some ((r.enqueue item).deliver metrics)
    else none
  | .ended _ => none

/-- What an action leads to, if it can happen. -/
def step? (r : Inbound) (metrics : Metrics) : Action → Option (Inbound × Metrics)
  | .read chunk =>
    if r.isReading && !chunk.isEmpty && chunk.length ≤ chunkLength then
      some ({ r with buffer := r.buffer.extend chunk }.deliver (metrics.countRead chunk.length))
    else none
  | .readEnd =>
    if r.isReading then
      some (r.finish (r.buffer.finish.mapError Frame.Fault.failure), metrics)
    else none
  | .readFailure reason =>
    if r.isReading then
      some (r.finish (.error (.connection (.unreadable reason))), metrics)
    else none
  | .resume => r.resume? metrics
  | .take =>
    match r.queue with
    | [] => none
    | _ :: rest => if r.consumed then some ({ r with queue := rest }, metrics) else none
  | .leave => some ({ r with queue := [], consumed := false }, metrics)
  | .disturb => some ({ r with disturbed := true }, metrics)

end Inbound

end Courier

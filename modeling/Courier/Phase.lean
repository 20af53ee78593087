/-!
# The phases of a session

A session goes forward from phase to phase until it streams, and ends either closed or failed.
-/

namespace Courier

/-- How far a session has come. -/
inductive Phase where
  | disconnected
  | connecting
  | connected
  | registering
  | streaming
  | closed
  | failed
deriving DecidableEq, Repr

namespace Phase

/-- The name of a phase. -/
def name : Phase → String
  | .disconnected => "Disconnected"
  | .connecting => "Connecting"
  | .connected => "Connected"
  | .registering => "Registering"
  | .streaming => "Streaming"
  | .closed => "Closed"
  | .failed => "Failed"

/-- Whether the session has ended. -/
def isTerminal : Phase → Bool
  | .closed | .failed => true
  | _ => false

@[simp] theorem isTerminal_closed : isTerminal .closed = true := rfl

/-- The phase after a wish to go on to the next one, which an ended session does not grant. -/
def advance (current next : Phase) : Phase := if current.isTerminal then current else next

variable {p q : Phase}

/-- A session that has not ended goes on as it is wished. -/
@[simp] theorem advance_of_open (h : p.isTerminal = false) : p.advance q = q := by
  simp [advance, h]

/-- A session that has ended stays as it is. -/
@[simp] theorem advance_of_isTerminal (h : p.isTerminal = true) : p.advance q = p := by
  rw [advance, if_pos h]

/-- A session that goes on has ended if it had, or if it goes on to its end. -/
@[simp] theorem isTerminal_advance (p q : Phase) :
    (p.advance q).isTerminal = (p.isTerminal || q.isTerminal) := by
  cases hopen : p.isTerminal <;> simp [hopen]

/-- Closing makes no session fail, and leaves one that has failed as it is. -/
@[simp] theorem advance_closed_eq_failed_iff (p : Phase) :
    p.advance .closed = .failed ↔ p = .failed := by
  cases p <;> decide

end Phase

end Courier

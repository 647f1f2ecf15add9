import Gatehouse.Fault
import Gatehouse.Text.Numeral

/-!
# Periods of statistics streams

A period is a positive number of seconds. The gateway sets a largest one.
-/

namespace Gatehouse

/-- A positive number of seconds. -/
structure Period where
  seconds : Nat
  pos : 0 < seconds
  deriving DecidableEq

namespace Period

/-- The period in milliseconds. -/
def milliseconds (p : Period) : Nat := 1000 * p.seconds

/-- The fault of a number of seconds that is not allowed. -/
def outOfRange (max : Nat) : Fault :=
  .badRequest ("interval_seconds must be between 1 and " ++ Text.decimal max)

/-- The period of so many seconds, when they are between one and `max`. -/
def ofSeconds (max seconds : Nat) : Except Fault Period :=
  if h : 0 < seconds ∧ seconds ≤ max then .ok ⟨seconds, h.1⟩ else .error (outOfRange max)

/-- How many milliseconds a tick may be late without moving the next one. -/
def grace : Nat := 5

/-- When the next tick is due after one that was due at `due` and came at `now`. -/
def next (p : Period) (due now : Nat) : Nat :=
  if due + grace < now then now + p.milliseconds else due + p.milliseconds

end Period

end Gatehouse

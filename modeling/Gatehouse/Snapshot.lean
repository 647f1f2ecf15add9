import Gatehouse.Event
import Gatehouse.TextMap

/-!
# Call counts

A snapshot counts calls by method and by consumer. Counts have 64 bits and stay at the largest
value instead of wrapping.
-/

namespace Gatehouse

/-- Call counts of one window of time. -/
structure Snapshot where
  byMethod : TextMap UInt64
  byConsumer : TextMap UInt64
  deriving DecidableEq, Inhabited

/-- One more, but never more than 64 bits hold. -/
def bump (n : UInt64) : UInt64 := if n.toNat + 1 < UInt64.size then n + 1 else n

namespace Snapshot

/-- No calls. -/
def empty : Snapshot := ⟨.empty, .empty⟩

/-- Counts one more under the key. -/
def countKey (m : TextMap UInt64) (key : String) : TextMap UInt64 :=
  m.adjust key fun n => bump (n.getD 0)

/-- Counts one more call. -/
def count (s : Snapshot) (e : Event) : Snapshot :=
  ⟨countKey s.byMethod e.method, countKey s.byConsumer e.consumer⟩

/-- Whether no call was counted. -/
def isEmpty (s : Snapshot) : Bool := s.byMethod.isEmpty && s.byConsumer.isEmpty

/-- Adds a count unless the sum needs more than 64 bits. -/
def addCount (sum : Option UInt64) (n : UInt64) : Option UInt64 :=
  sum.bind fun s => if s.toNat + n.toNat < UInt64.size then some (s + n) else none

/-- The number of calls, when 64 bits hold it. -/
def total? (s : Snapshot) : Option UInt64 := s.byMethod.values.foldl addCount (some 0)

end Snapshot

end Gatehouse

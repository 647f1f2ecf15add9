import Gatehouse.Metrics.Family

/-!
# Histograms of durations

Durations are whole microseconds. A bucket counts the observations up to its bound, so buckets
are cumulative. All numbers of a histogram wrap at 64 bits.
-/

namespace Gatehouse

/-- The bounds of the buckets in microseconds. -/
def Histogram.bounds : List Nat := [50, 250, 1000, 5000, 25000, 100000, 500000]

/-- The counts of one series of observed durations. -/
@[ext]
structure Histogram where
  count : UInt64
  sum : UInt64
  /-- One count for each bound, in the order of the bounds. -/
  buckets : List UInt64
  full : buckets.length = Histogram.bounds.length
  deriving DecidableEq

namespace Histogram

/-- The histogram whose buckets have these counts. -/
def ofCounts (count sum : UInt64) (upTo : Nat → UInt64) : Histogram where
  count
  sum
  buckets := bounds.map upTo
  full := List.length_map _

/-- No observations. -/
def empty : Histogram := .ofCounts 0 0 fun _ => 0

/-- A duration in microseconds, clipped to what 64 bits hold. -/
def clip (micros : Nat) : UInt64 := (min micros (UInt64.size - 1)).toUInt64

/-- Counts an observation. -/
def observe (h : Histogram) (micros : Nat) : Histogram where
  count := h.count + 1
  sum := h.sum + clip micros
  buckets := h.buckets.zipWith
    (fun n bound => if (clip micros).toNat ≤ bound then n + 1 else n) bounds
  full := by rw [List.length_zipWith, h.full, Nat.min_self]

end Histogram

/-- Whole microseconds of a duration in seconds and nanoseconds. -/
def microseconds (secs nanos : Nat) : Nat := secs * 1000000 + nanos / 1000

/-- A family of histograms. -/
abbrev Histograms := Family Histogram

/-- Counts an observation in the series with the labels. -/
def Histograms.observe (m : Histograms) (l : Labels) (micros : Nat) : Histograms :=
  Family.adjust m l fun h => (h.getD .empty).observe micros

end Gatehouse

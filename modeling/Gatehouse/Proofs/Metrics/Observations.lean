import Mathlib.Algebra.BigOperators.Group.List.Basic
import Gatehouse.Metrics.Exposition
import Gatehouse.Proofs.Metrics.Family

/-!
# What histograms count

A histogram is made by the durations that were observed under permutations of its labels. Each of
its buckets counts those up to its bound, so the values rise with the bounds up to the number of all
durations, as long as that fits in 64 bits.
-/

namespace Gatehouse

namespace Histogram

/-- The histogram of durations in microseconds. -/
def ofDurations (durations : List Nat) : Histogram := durations.foldl observe empty

theorem toNat_clip (micros : Nat) : (clip micros).toNat = min micros (2 ^ 64 - 1) := by
  rw [clip, Nat.toUInt64, UInt64.toNat_ofNat']
  exact Nat.mod_eq_of_lt (by rw [UInt64.size]; omega)

/-- Clipping does not move a duration across a bound. -/
theorem toNat_clip_le_iff {bound : Nat} (h : bound ∈ bounds) (micros : Nat) :
    (clip micros).toNat ≤ bound ↔ micros ≤ bound := by
  have small : ∀ bound ∈ bounds, bound < 2 ^ 64 - 1 := by decide
  have := small bound h
  rw [toNat_clip]
  omega

theorem ofDurations_concat (durations : List Nat) (micros : Nat) :
    ofDurations (durations ++ [micros]) = (ofDurations durations).observe micros :=
  List.foldl_concat ..

theorem ofCounts_congr {count sum : UInt64} {upTo upTo' : Nat → UInt64}
    (h : ∀ bound ∈ bounds, upTo bound = upTo' bound) :
    ofCounts count sum upTo = ofCounts count sum upTo' :=
  Histogram.ext rfl rfl (List.map_congr_left h)

theorem observe_ofCounts (count sum : UInt64) (upTo : Nat → UInt64) (micros : Nat) :
    (ofCounts count sum upTo).observe micros =
      ofCounts (count + 1) (sum + clip micros)
        fun bound ↦ if (clip micros).toNat ≤ bound then upTo bound + 1 else upTo bound := by
  refine Histogram.ext rfl rfl ?_
  simp only [observe, ofCounts, List.zipWith_map_left, List.zipWith_self]

/-- The histogram of durations has their number and the sum of what is left of them when each is
clipped. A bucket counts the durations up to its bound. -/
theorem ofDurations_eq (durations : List Nat) :
    ofDurations durations =
      ofCounts (UInt64.ofNat durations.length)
        (UInt64.ofNat (durations.map (min · (2 ^ 64 - 1))).sum)
        fun bound ↦ UInt64.ofNat (durations.countP (· ≤ bound)) := by
  induction durations using List.reverseRecOn with
  | nil => rfl
  | append_singleton durations micros ih =>
    have number : UInt64.ofNat (durations ++ [micros]).length =
        UInt64.ofNat durations.length + 1 := by
      rw [List.length_append, UInt64.ofNat_add]
      rfl
    have total : UInt64.ofNat ((durations ++ [micros]).map (min · (2 ^ 64 - 1))).sum =
        UInt64.ofNat (durations.map (min · (2 ^ 64 - 1))).sum + clip micros := by
      rw [List.map_append, List.sum_append, UInt64.ofNat_add, List.map_singleton,
        List.sum_singleton, ← toNat_clip, UInt64.ofNat_toNat]
    rw [ofDurations_concat, ih, observe_ofCounts, number, total]
    refine ofCounts_congr fun bound known ↦ ?_
    rw [List.countP_append, UInt64.ofNat_add, List.countP_singleton]
    by_cases within : micros ≤ bound
    · simp only [toNat_clip_le_iff known, within, decide_true, ↓reduceIte]
      rfl
    · simp only [toNat_clip_le_iff known, within, decide_false, ↓reduceIte]
      exact (UInt64.add_zero _).symm

/-- The values of buckets rise with their bounds, and none exceeds the number of all durations. -/
theorem ascending_ofDurations {durations : List Nat} (few : durations.length < 2 ^ 64) :
    (ofDurations durations).buckets.Pairwise (· ≤ ·) ∧
      ∀ n ∈ (ofDurations durations).buckets, n ≤ (ofDurations durations).count := by
  have small (bound : Nat) : durations.countP (· ≤ bound) < 2 ^ 64 :=
    Nat.lt_of_le_of_lt List.countP_le_length few
  rw [ofDurations_eq]
  constructor
  · have bounds_ascending : bounds.Pairwise (· ≤ ·) := by decide
    refine List.pairwise_map.mpr (bounds_ascending.imp fun {a b} le ↦ ?_)
    have fewer : durations.countP (· ≤ a) ≤ durations.countP (· ≤ b) := by
      refine List.countP_mono_left fun d _ within ↦ ?_
      exact decide_eq_true (Nat.le_trans (of_decide_eq_true within) le)
    exact (UInt64.ofNat_le_iff_le (small a) (small b)).mpr fewer
  · refine List.forall_mem_map.mpr fun bound _ ↦ ?_
    exact (UInt64.ofNat_le_iff_le (small bound) few).mpr List.countP_le_length

/-- The lines of a histogram, of which each is a bucket's but for the last two. -/
theorem lines_ofCounts (count sum : UInt64) (upTo : Nat → UInt64) (name : String) (l : LabelList) :
    (ofCounts count sum upTo).lines name l =
      bounds.map (fun bound ↦ bucketLine name l (Text.decimal bound) (upTo bound)) ++
      [bucketLine name l "+Inf" count,
        seriesText (name ++ "_sum") l ++ " " ++ Text.decimal sum.toNat,
        seriesText (name ++ "_count") l ++ " " ++ Text.decimal count.toNat] := by
  simp only [lines, ofCounts, List.zipWith_map_right, List.zipWith_self]

end Histogram

namespace Histograms

/-- A new family after observations of durations in seconds and nanoseconds, one after another. -/
def after (calls : List (LabelList × Nat × Nat)) : Histograms :=
  calls.foldl (fun m c ↦ m.observe (.ofList c.1) (microseconds c.2.1 c.2.2)) Family.empty

/-- The durations that were observed under permutations of the labels, in whole microseconds. -/
def durationsUnder (labels : LabelList) (calls : List (LabelList × Nat × Nat)) : List Nat :=
  (writtenUnder labels calls).map fun d ↦ microseconds d.1 d.2

/-- A series is the histogram of its durations, and without any there is none. -/
theorem get?_after (calls : List (LabelList × Nat × Nat)) (labels : LabelList) :
    Family.get? (after calls) (.ofList labels) =
      if durationsUnder labels calls = [] then none
      else some (.ofDurations (durationsUnder labels calls)) := by
  have written : after calls = Family.empty.writeAll
      (fun old d ↦ (old.getD Histogram.empty).observe (microseconds d.1 d.2)) calls := rfl
  rw [written, Family.get?_writeAll, durationsUnder]
  -- The first duration makes the series, and each later one is added to what is there.
  induction writtenUnder labels calls using List.reverseRecOn with
  | nil => rfl
  | append_singleton own d ih =>
    rw [List.foldl_concat, ih, List.map_append, List.map_singleton, Histogram.ofDurations_concat,
      if_neg (List.append_ne_nil_of_right_ne_nil _ (List.cons_ne_nil _ _))]
    split
    · next none => rw [none]; rfl
    · rfl

/-- Whatever durations were observed under whatever labels, a series is found by its labels in any
order, and it is made by the durations that were observed under permutations of them. A bucket
counts those of at most so many whole microseconds as its bound, the bucket of all and the count
count all of them, and the sum is that of their microseconds, each clipped to what 64 bits hold. All
of this wraps at 64 bits; with fewer durations than that the buckets hold ascending numbers, and
none more than the count. An observation under other labels leaves the series as it is, and without
one under its own there is no series. -/
theorem series_count_observations (calls : List (LabelList × Nat × Nat)) (labels : LabelList) :
    let m := after calls
    let own := durationsUnder labels calls
    let upTo (bound : Nat) := UInt64.ofNat (own.countP (· ≤ bound))
    let all := UInt64.ofNat own.length
    let sum := UInt64.ofNat (own.map (min · (2 ^ 64 - 1))).sum
    Family.get? m (.ofList labels) =
      (if own = [] then none else some (.ofCounts all sum upTo)) ∧
    (∀ h, Family.get? m (.ofList labels) = some h →
      (∀ name l, h.lines name l =
        Histogram.bounds.map (fun bound ↦ bucketLine name l (Text.decimal bound) (upTo bound)) ++
        [bucketLine name l "+Inf" all,
          seriesText (name ++ "_sum") l ++ " " ++ Text.decimal sum.toNat,
          seriesText (name ++ "_count") l ++ " " ++ Text.decimal all.toNat]) ∧
      (own.length < 2 ^ 64 → h.buckets.Pairwise (· ≤ ·) ∧ ∀ n ∈ h.buckets, n ≤ h.count)) ∧
    (∀ labels', labels'.Perm labels →
      Family.get? m (.ofList labels') = Family.get? m (.ofList labels)) ∧
    ∀ other micros, ¬other.Perm labels →
      Family.get? (m.observe (.ofList other) micros) (.ofList labels) =
        Family.get? m (.ofList labels) := by
  intro m own upTo all sum
  have series := get?_after calls labels
  have made : Histogram.ofDurations own = .ofCounts all sum upTo := Histogram.ofDurations_eq own
  refine ⟨?_, fun h found ↦ ?_, fun labels' perm ↦ ?_, fun other micros apart ↦ ?_⟩
  · rw [series, ← made]
  · rw [series] at found
    split at found
    · cases found
    · cases found
      refine ⟨fun name l ↦ ?_, Histogram.ascending_ofDurations⟩
      exact (congrArg (Histogram.lines · name l) made).trans (Histogram.lines_ofCounts ..)
  · rw [Labels.ofList_eq_iff.mpr perm]
  · exact (Family.get?_adjust ..).trans
      (if_neg fun same ↦ apart (Labels.ofList_eq_iff.mp same.symm))

/-- Durations on a bound, above one, and of more microseconds than 64 bits hold, observed under
labels in either order, and a duration under fewer labels. -/
theorem series_count_observations_of_clipped :
    let labels := [("method", "/Biz/Add"), ("zone", "a")]
    let swapped := [("zone", "a"), ("method", "/Biz/Add")]
    let calls := [(labels, 0, 250999), (swapped, 0, 251000), ([("zone", "a")], 0, 0),
      (swapped, 18446744073710, 0)]
    let h : Histogram := ⟨3, 500, [0, 1, 2, 2, 2, 2, 2], rfl⟩
    Family.get? (after calls) (.ofList swapped) = some h ∧ h.buckets.Pairwise (· ≤ ·) := by
  intro labels swapped calls h
  obtain ⟨value, shown, order, -⟩ := series_count_observations calls labels
  have found : Family.get? (after calls) (.ofList labels) = some h :=
    value.trans (by decide +kernel)
  exact ⟨(order swapped (List.Perm.swap _ _ _)).trans found,
    ((shown h found).2 (by decide +kernel)).1⟩

end Histograms

end Gatehouse

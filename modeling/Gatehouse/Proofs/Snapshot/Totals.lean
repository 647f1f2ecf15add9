import Mathlib.Data.List.Induction
import Gatehouse.Proofs.Frame
import Gatehouse.Proofs.Hub.Windows

/-!
# When the total of a snapshot overflows

Each count of a snapshot has 64 bits, and so has the total, but a snapshot may hold any number of
counts. The total is their sum as long as 64 bits hold it, and then no addition on the way
overflows. Otherwise one does, whether the counts were read from a frame or taken from events.
-/

namespace Gatehouse.Snapshot

/-- The sum of the counts of all methods. -/
def sum (s : Snapshot) : Nat := (s.byMethod.values.map UInt64.toNat).sum

/-- The counts of events, one after another. -/
def ofEvents (events : List Event) : Snapshot := events.foldl count empty

theorem foldl_addCount_none (counts : List UInt64) : counts.foldl addCount none = none := by
  induction counts with
  | nil => rfl
  | cons c counts ih => exact ih

/-- Counts that do not fit overflow. -/
theorem foldl_addCount_of_overflow {counts : List UInt64} {sum : UInt64}
    (h : UInt64.size ≤ sum.toNat + (counts.map UInt64.toNat).sum) :
    counts.foldl addCount (some sum) = none := by
  induction counts generalizing sum with
  | nil =>
    have small := sum.toNat_lt_size
    rw [List.map_nil, List.sum_nil] at h
    omega
  | cons c counts ih =>
    rw [List.map_cons, List.sum_cons] at h
    rw [List.foldl_cons, addCount, Option.bind_some]
    split
    · next fits =>
      apply ih
      rw [UInt64.toNat_add, Nat.mod_eq_of_lt fits]
      omega
    · exact foldl_addCount_none counts

variable {s : Snapshot}

theorem total?_of_lt (h : s.sum < UInt64.size) : s.total?.map UInt64.toNat = some s.sum := by
  rw [sum] at h
  rw [total?, foldl_addCount, UInt64.toNat_zero, Nat.zero_add, sum]
  rwa [UInt64.toNat_zero, Nat.zero_add]

theorem total?_eq_none_iff : s.total? = none ↔ UInt64.size ≤ s.sum := by
  constructor
  · intro none
    by_contra small
    have total := total?_of_lt (Nat.not_le.mp small)
    rw [none] at total
    cases total
  · intro large
    refine foldl_addCount_of_overflow ?_
    rw [UInt64.toNat_zero, Nat.zero_add]
    exact large

/-- A total is the exact sum. -/
theorem total?_eq_some_iff {n : UInt64} : s.total? = some n ↔ n.toNat = s.sum := by
  constructor
  · intro total
    have small : s.sum < UInt64.size := by
      by_contra large
      rw [total?_eq_none_iff.mpr (Nat.not_lt.mp large)] at total
      cases total
    have fits := total?_of_lt small
    rw [total] at fits
    exact Option.some.inj fits
  · intro same
    have small : s.sum < UInt64.size := same ▸ n.toNat_lt_size
    obtain ⟨m, total, hm⟩ := Option.map_eq_some_iff.mp (total?_of_lt small)
    rw [total, UInt64.toNat_inj.mp (hm.trans same.symm)]

/-- Counts overflow just if some first ones of them do. -/
theorem le_sum_iff_exists_prefix {counts : List UInt64} :
    UInt64.size ≤ (counts.map UInt64.toNat).sum ↔
      ∃ first, first <+: counts ∧ UInt64.size ≤ (first.map UInt64.toNat).sum := by
  constructor
  · intro large
    exact ⟨counts, List.prefix_refl counts, large⟩
  · rintro ⟨first, ⟨rest, rfl⟩, large⟩
    rw [List.map_append, List.sum_append]
    exact Nat.le_add_right_of_le large

/-- Every snapshot is read from its frame. -/
theorem ofFrame_frame (s : Snapshot) : ofFrame s.frame = .ok s :=
  (Canonical.of_written (fun s ↦ ⟨s.written, s.text_written, _, rfl, s.fits_written⟩) printed_frame
    (fun _ _ ↦ reading_eq_ok_iff) fun _ _ _ ↦ Fits.rearranged).decodes s

/-! ### Counts of events -/

theorem tallies_ofEvents (events : List Event) : (ofEvents events).Tallies events := by
  induction events using List.reverseRecOn with
  | nil => exact tallies_empty
  | append_singleton events e ih =>
    rw [ofEvents, List.foldl_append]
    exact ih.count e

/-- The counts of events add up over the methods, each as far as 64 bits show it. -/
theorem sum_ofEvents (events : List Event) :
    (ofEvents events).sum = ((events.map (·.method)).dedup.map fun m ↦
      saturated ((events.map (·.method)).count m)).sum :=
  TextMap.sum_values_of_shown (tallies_ofEvents events).byMethod

/-- Fewer events than 64 bits can tell are counted exactly. -/
theorem sum_ofEvents_of_lt {events : List Event} (few : events.length < UInt64.size) :
    (ofEvents events).sum = events.length := by
  rw [sum, ((tallies_ofEvents events).reports few).sum_byMethod]

/-- The count of one method stays at the largest number. -/
theorem sum_ofEvents_of_same {events : List Event} {m : String}
    (same : ∀ e ∈ events, e.method = m) : (ofEvents events).sum = saturated events.length := by
  have methods : events.map (·.method) = List.replicate events.length m := by
    rw [← List.map_const']
    exact List.map_congr_left same
  rw [sum_ofEvents, methods]
  cases events with
  | nil => rfl
  | cons e events =>
    have some : (e :: events).length ≠ 0 := Nat.succ_ne_zero _
    rw [List.replicate_dedup some, List.map_singleton, List.sum_singleton,
      List.count_replicate_self]

/-- What the flushes of a subscription took are the counts of its windows. -/
theorem taken_eq_map_ofEvents {h : Hub} (coherent : h.Coherent) {id : Nat}
    (fresh : h.tally? id = some ⟨id, .empty⟩) {ops : List HubOp}
    (live : .drop .statistics id ∉ ops) :
    h.taken id ops = (windows id ops).map ofEvents := by
  rw [← List.forall₂_eq_eq_eq, List.forall₂_map_right_iff]
  exact (Hub.taken_tallies coherent fresh live).imp fun _ window shown ↦
    shown.unique (tallies_ofEvents window)

/-- A frame may carry any snapshot, and a flush takes the counts of the events of its window. The
total of a snapshot, be it read from a frame or counted from events, is the exact sum of its counts
of methods if 64 bits hold that sum, and else an addition on the way to it overflows. Events of one
method saturate their count, and fewer than 2 ^ 64 events have their number as the total; otherwise
the counts of different methods may overflow as those of a frame may. -/
theorem totals_are_exact_or_overflow (s : Snapshot) (events : List Event) :
    ofFrame s.frame = .ok s ∧
    (∀ n, s.total? = some n ↔ n.toNat = s.sum) ∧
    (s.total? = none ↔ UInt64.size ≤ s.sum) ∧
    (s.total? = none ↔ ∃ first, first <+: s.byMethod.values ∧
      UInt64.size ≤ (first.map UInt64.toNat).sum) ∧
    (∀ q pre post,
      let hub := ((Hub.ofDepth q).after pre).subscribeStatistics.1
      let id := ((Hub.ofDepth q).after pre).subscribeStatistics.2
      .drop .statistics id ∉ post → hub.taken id post = (windows id post).map ofEvents) ∧
    (ofEvents events).sum = ((events.map (·.method)).dedup.map fun m ↦
      saturated ((events.map (·.method)).count m)).sum ∧
    (events.length < UInt64.size →
      (ofEvents events).total?.map UInt64.toNat = some events.length) ∧
    (∀ m, (∀ e ∈ events, e.method = m) →
      (ofEvents events).total?.map UInt64.toNat = some (saturated events.length)) := by
  refine ⟨ofFrame_frame s, fun n ↦ total?_eq_some_iff, total?_eq_none_iff,
    total?_eq_none_iff.trans le_sum_iff_exists_prefix, ?_, sum_ofEvents events, ?_, ?_⟩
  · intro q pre post hub id live
    have coherent := Hub.coherent_after (Hub.coherent_ofDepth q) pre
    exact taken_eq_map_ofEvents (Hub.coherent_step coherent (.subscribe .statistics))
      (Hub.tally?_subscribeStatistics coherent) live
  · intro few
    have sum := sum_ofEvents_of_lt few
    rw [total?_of_lt (by rwa [sum]), sum]
  · intro m same
    have sum := sum_ofEvents_of_same same
    rw [total?_of_lt (by rw [sum]; exact saturated_lt _), sum]

/-- Counts up to the limit have a total, which is the limit; one more does not. -/
theorem totals_are_exact_or_overflow_of_limit :
    let s : Snapshot := ⟨.ofList [("a", 9223372036854775808), ("b", 9223372036854775807)], .empty⟩
    let t : Snapshot := ⟨.ofList [("a", 9223372036854775808), ("b", 9223372036854775808)], .empty⟩
    s.total? = some 18446744073709551615 ∧ ofFrame t.frame = .ok t ∧ t.total? = none := by
  intro s t
  obtain ⟨-, exact, -⟩ := totals_are_exact_or_overflow s []
  obtain ⟨decoded, -, overflow, -⟩ := totals_are_exact_or_overflow t []
  exact ⟨(exact _).mpr (by decide), decoded, overflow.mpr (by decide)⟩

/-- The decoder takes counts that have no total. -/
theorem decoded_counts_overflow :
    ∃ s, ofFrame "\x7b\"by_method\":\x7b\"a\":18446744073709551615,\"b\":1\x7d\x7d" = .ok s ∧
      s.total? = none :=
  ⟨⟨.ofList [("a", 18446744073709551615), ("b", 1)], .empty⟩, by decide +kernel, by decide⟩

end Gatehouse.Snapshot

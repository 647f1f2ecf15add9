import Mathlib.Algebra.BigOperators.Group.List.Lemmas
import Mathlib.Algebra.GroupWithZero.Nat
import Mathlib.Data.List.Dedup
import Gatehouse.Snapshot
import Gatehouse.Proofs.TextMap

/-!
# What a snapshot says about its events

Counting events one by one leaves a snapshot that holds, for each method and each consumer that
occurred, how often it did, or the largest count that 64 bits hold. Where they hold the number of
events, both maps have the same sum, which is that number, and the order of the events does not
matter. Snapshots of windows in turn add up to the counts of all their events.
-/

namespace Gatehouse

/-- The map holds, for each key that occurs in the list, how often it occurs, and nothing else. -/
def TextMap.CountsOf (m : TextMap UInt64) (keys : List String) : Prop :=
  ∀ k, (m.get? k).map UInt64.toNat = if k ∈ keys then some (keys.count k) else none

/-- What a snapshot of a window of events tells: the number of calls of each method and of each
consumer that occurs in the window, none that does not, and the number of all calls. -/
structure Snapshot.Reports (s : Snapshot) (window : List Event) : Prop where
  byMethod : s.byMethod.CountsOf (window.map (·.method))
  byConsumer : s.byConsumer.CountsOf (window.map (·.consumer))
  isEmpty_iff : s.isEmpty = true ↔ window = []
  sum_byMethod : (s.byMethod.values.map UInt64.toNat).sum = window.length
  sum_byConsumer : (s.byConsumer.values.map UInt64.toNat).sum = window.length
  total : s.total?.map UInt64.toNat = some window.length

/-- The number that a count shows. -/
def saturated (n : Nat) : Nat := min n (UInt64.size - 1)

theorem saturated_of_lt {n : Nat} (h : n < UInt64.size) : saturated n = n :=
  Nat.min_eq_left (by omega)

theorem saturated_lt (n : Nat) : saturated n < UInt64.size := by
  rw [saturated]
  have pos : 0 < UInt64.size := by decide
  omega

theorem bump_toNat (n : UInt64) : (bump n).toNat = saturated (n.toNat + 1) := by
  have bound := n.toNat_lt_size
  rw [bump]
  split
  · next h =>
    rw [saturated_of_lt h, UInt64.toNat_add, UInt64.toNat_one]
    exact Nat.mod_eq_of_lt h
  · rw [saturated]
    omega

/-- The map holds, for each key that occurs in the list, the number that its count shows, and
nothing else. -/
def TextMap.TalliesOf (m : TextMap UInt64) (keys : List String) : Prop :=
  ∀ k, (m.get? k).map UInt64.toNat = if k ∈ keys then some (saturated (keys.count k)) else none

/-- The count of a key, which is zero for a key that is not in the map. -/
def TextMap.countAt (m : TextMap UInt64) (k : String) : Nat := ((m.get? k).getD 0).toNat

/-- One event more in a snapshot: the counts of its method and of its consumer go up by one, as far
as 64 bits hold, and all others stay. -/
structure Snapshot.OneMore (s : Snapshot) (e : Event) (t : Snapshot) : Prop where
  byMethod : ∀ k, t.byMethod.countAt k =
    if k = e.method then saturated (s.byMethod.countAt k + 1) else s.byMethod.countAt k
  byConsumer : ∀ k, t.byConsumer.countAt k =
    if k = e.consumer then saturated (s.byConsumer.countAt k + 1) else s.byConsumer.countAt k

namespace TextMap

variable {m n : TextMap UInt64} {keys : List String}

theorem talliesOf_empty : (empty : TextMap UInt64).TalliesOf [] := fun _ ↦ rfl

theorem TalliesOf.countAt_eq (h : m.TalliesOf keys) (k : String) :
    m.countAt k = saturated (keys.count k) := by
  have hk := h k
  rw [countAt]
  by_cases mem : k ∈ keys
  · rw [if_pos mem] at hk
    obtain ⟨c, hc, hn⟩ := Option.map_eq_some_iff.mp hk
    rw [hc]
    exact hn
  · rw [if_neg mem] at hk
    rw [Option.map_eq_none_iff.mp hk, List.count_eq_zero_of_not_mem mem]
    rfl

/-- Counting a key more counts it in the list. -/
theorem TalliesOf.countKey (h : m.TalliesOf keys) (k : String) :
    (Snapshot.countKey m k).TalliesOf (keys ++ [k]) := by
  intro k'
  rw [Snapshot.countKey, get?_adjust, List.count_append]
  by_cases hk : k' = k
  · subst hk
    have old := h.countAt_eq k'
    rw [countAt] at old
    rw [if_pos rfl, if_pos (by simp), Option.map_some, bump_toNat, old, List.count_singleton_self,
      Option.some.injEq, saturated, saturated, saturated]
    omega
  · rw [if_neg hk, h k']
    simp [hk, Ne.symm hk]

/-- Counting a key more raises its count by one, as far as 64 bits hold, and no other. -/
theorem countAt_countKey (m : TextMap UInt64) (k k' : String) :
    (Snapshot.countKey m k).countAt k' =
      if k' = k then saturated (m.countAt k' + 1) else m.countAt k' := by
  rw [countAt, Snapshot.countKey, get?_adjust]
  split
  · next same => rw [Option.getD_some, bump_toNat, same, countAt]
  · rfl

/-- A map of fewer keys than 64 bits hold counts exactly. -/
theorem TalliesOf.countsOf (h : m.TalliesOf keys) (few : keys.length < UInt64.size) :
    m.CountsOf keys := by
  intro k
  have count : keys.count k < UInt64.size := Nat.lt_of_le_of_lt List.count_le_length few
  rw [h k, saturated_of_lt count]

/-- A map that shows a number for each member of a list, and nothing else, has these keys. -/
theorem mem_keys_iff_of_shown {shown : String → Nat}
    (h : ∀ k, (m.get? k).map UInt64.toNat = if k ∈ keys then some (shown k) else none)
    {k : String} : k ∈ m.keys ↔ k ∈ keys := by
  have hk := h k
  rw [TextMap.mem_keys_iff]
  split at hk
  · next mem =>
    obtain ⟨c, hc, -⟩ := Option.map_eq_some_iff.mp hk
    simp [hc, mem]
  · next absent => simp [Option.map_eq_none_iff.mp hk, absent]

/-- What such a map shows adds up over the different members of the list. -/
theorem sum_values_of_shown {shown : String → Nat}
    (h : ∀ k, (m.get? k).map UInt64.toNat = if k ∈ keys then some (shown k) else none) :
    (m.values.map UInt64.toNat).sum = (keys.dedup.map shown).sum := by
  have hvalues : m.values.map UInt64.toNat = m.keys.map shown := by
    rw [values, TextMap.keys, List.map_map, List.map_map]
    apply List.map_congr_left
    rintro ⟨k, c⟩ hm
    have hk := h k
    rw [mem_entries_iff.mp hm] at hk
    split at hk
    · exact Option.some.inj hk
    · cases hk
  have hperm : m.keys.Perm keys.dedup := by
    rw [List.perm_ext_iff_of_nodup m.nodup_keys keys.nodup_dedup]
    intro k
    rw [mem_keys_iff_of_shown h, List.mem_dedup]
  rw [hvalues, (hperm.map _).sum_eq]

theorem CountsOf.mem_keys_iff (h : m.CountsOf keys) {k : String} : k ∈ m.keys ↔ k ∈ keys :=
  mem_keys_iff_of_shown h

theorem CountsOf.isEmpty_iff (h : m.CountsOf keys) : m.isEmpty = true ↔ keys = [] := by
  rw [TextMap.isEmpty_iff, List.eq_nil_iff_forall_not_mem]
  refine forall_congr' fun k ↦ ?_
  rw [← h.mem_keys_iff, TextMap.mem_keys_iff, Bool.not_eq_true, Option.isSome_eq_false_iff,
    Option.isNone_iff_eq_none]

/-- The counts of all keys add up to the length of the list. -/
theorem CountsOf.sum_values (h : m.CountsOf keys) :
    (m.values.map UInt64.toNat).sum = keys.length := by
  rw [sum_values_of_shown h]
  exact List.sum_map_count_dedup_eq_length keys

/-- Maps that show the same numbers are equal. -/
theorem eq_of_shown {shown : String → Option Nat} (h : ∀ k, (m.get? k).map UInt64.toNat = shown k)
    (h' : ∀ k, (n.get? k).map UInt64.toNat = shown k) : m = n := by
  have hinj : Function.Injective (Option.map UInt64.toNat) :=
    Option.map_injective fun _ _ he ↦ UInt64.toNat_inj.mp he
  exact TextMap.ext fun k ↦ hinj ((h k).trans (h' k).symm)

/-- A map of counts does not depend on the order of the list. -/
theorem CountsOf.eq_of_perm {keys' : List String} (h : m.CountsOf keys) (h' : n.CountsOf keys')
    (hp : keys.Perm keys') : m = n := by
  refine eq_of_shown h fun k ↦ ?_
  rw [h' k]
  simp only [hp.mem_iff, hp.count_eq]

end TextMap

namespace Snapshot

/-- Counts that fit add up exactly. -/
theorem foldl_addCount {counts : List UInt64} {sum : UInt64}
    (h : sum.toNat + (counts.map UInt64.toNat).sum < UInt64.size) :
    (counts.foldl addCount (some sum)).map UInt64.toNat
      = some (sum.toNat + (counts.map UInt64.toNat).sum) := by
  induction counts generalizing sum with
  | nil => simp
  | cons c rest ih =>
    rw [List.map_cons, List.sum_cons] at h ⊢
    have hfits : sum.toNat + c.toNat < UInt64.size := by omega
    have hadd : (sum + c).toNat = sum.toNat + c.toNat := by
      rw [UInt64.toNat_add]
      exact Nat.mod_eq_of_lt hfits
    have hstep : addCount (some sum) c = some (sum + c) := by
      rw [addCount, Option.bind_some, if_pos hfits]
    rw [List.foldl_cons, hstep, ih (by omega), hadd, Nat.add_assoc]

/-- The maps of a snapshot show the counts of the methods and the consumers of the events. -/
structure Tallies (s : Snapshot) (window : List Event) : Prop where
  byMethod : s.byMethod.TalliesOf (window.map (·.method))
  byConsumer : s.byConsumer.TalliesOf (window.map (·.consumer))

variable {s t : Snapshot} {window : List Event}

theorem tallies_empty : empty.Tallies [] := ⟨TextMap.talliesOf_empty, TextMap.talliesOf_empty⟩

theorem Tallies.count (h : s.Tallies window) (e : Event) : (s.count e).Tallies (window ++ [e]) := by
  constructor
  · rw [List.map_append]
    exact h.byMethod.countKey e.method
  · rw [List.map_append]
    exact h.byConsumer.countKey e.consumer

theorem oneMore_count (s : Snapshot) (e : Event) : s.OneMore e (s.count e) :=
  ⟨TextMap.countAt_countKey s.byMethod e.method, TextMap.countAt_countKey s.byConsumer e.consumer⟩

/-- A snapshot that counts fewer events than 64 bits can tell reports them. -/
theorem Tallies.reports (h : s.Tallies window) (hl : window.length < UInt64.size) :
    s.Reports window := by
  have byMethod := h.byMethod.countsOf (by rwa [List.length_map])
  have byConsumer := h.byConsumer.countsOf (by rwa [List.length_map])
  have sum := byMethod.sum_values
  rw [List.length_map] at sum
  refine ⟨byMethod, byConsumer, ?_, sum, ?_, ?_⟩
  · rw [isEmpty, Bool.and_eq_true, byMethod.isEmpty_iff, byConsumer.isEmpty_iff,
      List.map_eq_nil_iff, List.map_eq_nil_iff, and_self]
  · rw [byConsumer.sum_values, List.length_map]
  · rw [total?, foldl_addCount]
    · rw [sum, UInt64.toNat_zero, Nat.zero_add]
    · rw [sum, UInt64.toNat_zero, Nat.zero_add]
      exact hl

/-- The counts of a key in the snapshots of windows in turn add up to its number of events, if 64
bits hold it in each window. -/
theorem sum_countAt {map : Snapshot → TextMap UInt64} {key : Event → String} {ss : List Snapshot}
    {ws : List (List Event)} (h : List.Forall₂ (fun s w ↦ (map s).TalliesOf (w.map key)) ss ws)
    {k : String} (few : ∀ w ∈ ws, (w.map key).count k < UInt64.size) :
    (ss.map fun s ↦ (map s).countAt k).sum = (ws.flatten.map key).count k := by
  induction h with
  | nil => rfl
  | cons first _ ih =>
    rw [List.map_cons, List.sum_cons, List.flatten_cons, List.map_append, List.count_append,
      first.countAt_eq, saturated_of_lt (few _ List.mem_cons_self),
      ih fun w hw ↦ few w (List.mem_cons_of_mem _ hw)]

theorem eq_of_maps (hm : s.byMethod = t.byMethod) (hc : s.byConsumer = t.byConsumer) : s = t := by
  cases s
  cases t
  cases hm
  cases hc
  rfl

/-- What the maps show of the events is all that a snapshot holds. -/
theorem Tallies.unique (h : s.Tallies window) (h' : t.Tallies window) : s = t :=
  eq_of_maps (TextMap.eq_of_shown h.byMethod h'.byMethod)
    (TextMap.eq_of_shown h.byConsumer h'.byConsumer)

/-- Snapshots of the same events in different orders are equal. -/
theorem Reports.eq_of_perm {window' : List Event} (h : s.Reports window) (h' : t.Reports window')
    (hp : window.Perm window') : s = t :=
  eq_of_maps (h.byMethod.eq_of_perm h'.byMethod (hp.map _))
    (h.byConsumer.eq_of_perm h'.byConsumer (hp.map _))

end Snapshot

end Gatehouse

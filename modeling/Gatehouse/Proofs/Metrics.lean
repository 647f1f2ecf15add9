import Mathlib.Algebra.GroupWithZero.Nat
import Mathlib.Data.List.Perm.Basic
import Gatehouse.Metrics

/-!
# What counters count

A series is found by its labels, in whatever order they were given. A family that is counted up once
for each item of a list tells of each series how often its labels occur in the list, and all series
together tell the length of the list, as long as that fits in 64 bits.
-/

namespace Gatehouse

/-- Equal labels were made from the same pairs. -/
theorem Labels.perm_of_ofList_eq {xs ys : List (String × String)}
    (h : Labels.ofList xs = Labels.ofList ys) : xs.Perm ys := by
  have pairs : xs.mergeSort labelLe = ys.mergeSort labelLe := congrArg Labels.pairs h
  apply (List.mergeSort_perm xs labelLe).symm.trans
  rw [pairs]
  exact List.mergeSort_perm ys labelLe

theorem Labels.ofList_singleton_inj {name v w : String} :
    Labels.ofList [(name, v)] = Labels.ofList [(name, w)] ↔ v = w := by
  constructor
  · intro h
    have pair := List.perm_singleton.mp (perm_of_ofList_eq h)
    exact congrArg Prod.snd (List.singleton_inj.mp pair)
  · rintro rfl
    rfl

theorem CallKind.label_inj {k k' : CallKind} : k.label = k'.label ↔ k = k' := by
  cases k <;> cases k' <;> simp [label]

theorem CallOutcome.label_inj {o o' : CallOutcome} : o.label = o'.label ↔ o = o' := by
  cases o <;> cases o' <;> simp [label]

theorem StreamKind.label_inj {k k' : StreamKind} : k.label = k'.label ↔ k = k' := by
  cases k <;> cases k' <;> simp [label]

/-- Calls of different kinds or outcomes are counted in different series. -/
theorem Metrics.callLabels_inj {k k' : CallKind} {o o' : CallOutcome} :
    callLabels k o = callLabels k' o' ↔ k = k' ∧ o = o' := by
  constructor
  · intro h
    have same := Labels.perm_of_ofList_eq h
    have kind : ("kind", k.label) ∈ [("kind", k'.label), ("outcome", o'.label)] :=
      same.mem_iff.mp List.mem_cons_self
    have outcome : ("outcome", o.label) ∈ [("kind", k'.label), ("outcome", o'.label)] :=
      same.mem_iff.mp (List.mem_cons_of_mem _ List.mem_cons_self)
    simp only [List.mem_cons, Prod.mk.injEq, List.not_mem_nil, or_false] at kind outcome
    exact ⟨CallKind.label_inj.mp (by simpa using kind),
      CallOutcome.label_inj.mp (by simpa using outcome)⟩
  · rintro ⟨rfl, rfl⟩
    rfl

theorem Metrics.denialLabels_inj {reason reason' : String} :
    denialLabels reason = denialLabels reason' ↔ reason = reason' := Labels.ofList_singleton_inj

theorem Metrics.methodLabels_inj {method method' : String} :
    methodLabels method = methodLabels method' ↔ method = method' := Labels.ofList_singleton_inj

/-- Streams of different kinds are counted in different series. -/
theorem Metrics.streamLabels_inj {k k' : StreamKind} : streamLabels k = streamLabels k' ↔ k = k' :=
  Labels.ofList_singleton_inj.trans StreamKind.label_inj

theorem Gauges.get_add (m : Gauges) (l l' : Labels) (amount : Int64) :
    (m.add l amount).get l' = if l' = l then m.get l + amount else m.get l' := by
  rw [get, add, Family.get?_adjust]
  split <;> rfl

namespace Counters

theorem get_add (m : Counters) (l l' : Labels) (amount : UInt64) :
    (m.add l amount).get l' = if l' = l then m.get l + amount else m.get l' := by
  rw [get, add, Family.get?_adjust]
  split <;> rfl

/-- A family that is counted up once for each of some labels. -/
def incAll (m : Counters) (ls : List Labels) : Counters := ls.foldl inc m

theorem get_incAll (m : Counters) (ls : List Labels) (l : Labels) :
    (m.incAll ls).get l = m.get l + UInt64.ofNat (ls.count l) := by
  induction ls generalizing m with
  | nil => simp [incAll]
  | cons l' ls ih =>
    change ((m.inc l').incAll ls).get l = _
    rw [ih, inc, get_add, List.count_cons]
    by_cases h : l = l'
    · subst h
      rw [if_pos rfl, beq_self_eq_true, if_pos rfl, UInt64.ofNat_add, UInt64.add_assoc,
        UInt64.add_comm (UInt64.ofNat _)]
      rfl
    · have other : (l' == l) = false := by simpa using Ne.symm h
      rw [if_neg h, other, if_neg Bool.false_ne_true, Nat.add_zero]

theorem incAll_append (m : Counters) (xs ys : List Labels) :
    m.incAll (xs ++ ys) = (m.incAll xs).incAll ys := List.foldl_append

/-- All series of a family together. -/
def total (m : Counters) : Nat := (m.series.map (·.2.toNat)).sum

private theorem sum_adjustSeries {l : Labels} {ss : List (Labels × UInt64)}
    (h : (ss.map (·.2.toNat)).sum + 1 < 2 ^ 64) :
    ((Family.adjustSeries l (fun n ↦ n.getD 0 + 1) ss).map (·.2.toNat)).sum =
      (ss.map (·.2.toNat)).sum + 1 := by
  induction ss with
  | nil => rfl
  | cons s rest ih =>
    rw [List.map_cons, List.sum_cons] at h
    rw [Family.adjustSeries]
    split
    · have fits : (s.2 + 1).toNat = s.2.toNat + 1 := by
        rw [UInt64.toNat_add]
        exact Nat.mod_eq_of_lt (by rw [UInt64.toNat_one]; omega)
      simp only [List.map_cons, List.sum_cons, Option.getD_some, fits]
      omega
    · simp only [List.map_cons, List.sum_cons, ih (by omega)]
      omega

theorem total_inc {m : Counters} (l : Labels) (h : m.total + 1 < 2 ^ 64) :
    (m.inc l).total = m.total + 1 := sum_adjustSeries h

theorem total_incAll {m : Counters} {ls : List Labels} (h : m.total + ls.length < 2 ^ 64) :
    (m.incAll ls).total = m.total + ls.length := by
  induction ls generalizing m with
  | nil => rfl
  | cons l ls ih =>
    rw [List.length_cons] at h
    have first := total_inc (m := m) l (by omega)
    change ((m.inc l).incAll ls).total = _
    rw [ih (by omega), first, List.length_cons]
    omega

end Counters

/-- How many observations a series holds; none when it was never written. -/
def Histograms.count (m : Histograms) (l : Labels) : UInt64 :=
  ((Family.get? m l).map (·.count)).getD 0

theorem Histograms.count_observe (m : Histograms) (l l' : Labels) (micros : Nat) :
    (m.observe l micros).count l' = if l' = l then m.count l + 1 else m.count l' := by
  rw [count, observe, Family.get?_adjust]
  split
  · cases h : Family.get? m l with
    | none => simp [count, h, Histogram.observe, Histogram.empty, Histogram.ofCounts]
    | some old => simp [count, h, Histogram.observe]
  · rfl

namespace Metrics

variable (m : Metrics) (n : Nat)

@[simp] theorem calls_countEvicted : (m.countEvicted n).calls = m.calls := by
  unfold countEvicted
  split <;> rfl

@[simp] theorem denials_countEvicted : (m.countEvicted n).denials = m.denials := by
  unfold countEvicted
  split <;> rfl

@[simp] theorem adminStreams_countEvicted : (m.countEvicted n).adminStreams = m.adminStreams := by
  unfold countEvicted
  split <;> rfl

@[simp] theorem dispatchDuration_countEvicted :
    (m.countEvicted n).dispatchDuration = m.dispatchDuration := by
  unfold countEvicted
  split <;> rfl

@[simp] theorem draining_countEvicted : (m.countEvicted n).draining = m.draining := by
  unfold countEvicted
  split <;> rfl

theorem evictions_countEvicted :
    (m.countEvicted n).evictions.get .none = m.evictions.get .none + UInt64.ofNat n := by
  unfold countEvicted
  split
  · next h => simp [h]
  · exact (Counters.get_add m.evictions .none .none n.toUInt64).trans (if_pos rfl)

variable (kind : CallKind) (why : Refusal)

theorem calls_countRefused :
    (m.countRefused kind why).calls = m.calls.inc (callLabels kind why.outcome) := by
  unfold countRefused
  cases why.outcome <;> rfl

theorem denials_countRefused :
    (m.countRefused kind why).denials =
      if why.outcome = .denied then m.denials.inc (denialLabels why.label) else m.denials := by
  unfold countRefused
  cases why.outcome <;> rfl

@[simp] theorem evictions_countRefused : (m.countRefused kind why).evictions = m.evictions := by
  unfold countRefused
  cases why.outcome <;> rfl

@[simp] theorem adminStreams_countRefused :
    (m.countRefused kind why).adminStreams = m.adminStreams := by
  unfold countRefused
  cases why.outcome <;> rfl

@[simp] theorem dispatchDuration_countRefused :
    (m.countRefused kind why).dispatchDuration = m.dispatchDuration := by
  unfold countRefused
  cases why.outcome <;> rfl

@[simp] theorem draining_countRefused : (m.countRefused kind why).draining = m.draining := by
  unfold countRefused
  cases why.outcome <;> rfl

end Metrics

end Gatehouse

import Mathlib.Algebra.BigOperators.Group.List.Basic
import Mathlib.Algebra.Ring.Int.Defs
import Gatehouse.Proofs.Metrics.Family

/-!
# Totals of counters and gauges

Each amount is added to the series of its labels, so a series holds the total of what was written
under permutations of its labels, as far as 64 bits tell it. Reading a series that was never written
finds nothing and leaves nothing behind.
-/

namespace Gatehouse

section

variable {ι α : Type} [AddMonoid ι] [Add α]

/-- A number with an amount added, which is written as a number of the same kind. -/
def addTo (of : ι → α) (old : Option α) (amount : ι) : α := old.getD (of 0) + of amount

theorem getD_foldl_addTo {of : ι → α} (add : ∀ i j, of (i + j) = of i + of j) (amounts : List ι) :
    (amounts.foldl (fun old i ↦ some (addTo of old i)) none).getD (of 0) = of amounts.sum := by
  induction amounts using List.reverseRecOn with
  | nil => rfl
  | append_singleton amounts i ih =>
    rw [List.foldl_concat, Option.getD_some, addTo, ih, List.sum_append, List.sum_singleton, add]

end

/-! ### Calls -/

/-- A call of a family of counters. -/
inductive CounterCall where
  | inc (labels : LabelList)
  | add (labels : LabelList) (amount : UInt64)
  | get (labels : LabelList)

/-- A call of a family of gauges. -/
inductive GaugeCall where
  | inc (labels : LabelList)
  | dec (labels : LabelList)
  | add (labels : LabelList) (amount : Int64)
  | get (labels : LabelList)

/-- The labels that a call writes under, and the amount. -/
def CounterCall.written? : CounterCall → Option (LabelList × Nat)
  | .inc labels => some (labels, 1)
  | .add labels amount => some (labels, amount.toNat)
  | .get _ => none

/-- The labels that a call writes under, and the amount. -/
def GaugeCall.written? : GaugeCall → Option (LabelList × Int)
  | .inc labels => some (labels, 1)
  | .dec labels => some (labels, -1)
  | .add labels amount => some (labels, amount.toInt)
  | .get _ => none

namespace Counters

/-- The family behind a call, and what a reading call is told. -/
def call (m : Counters) : CounterCall → Counters × Option UInt64
  | .inc labels => (m.inc (.ofList labels), none)
  | .add labels amount => (m.add (.ofList labels) amount, none)
  | .get labels => (m, some (m.get (.ofList labels)))

/-- A new family after calls, one after another. -/
def after (calls : List CounterCall) : Counters :=
  calls.foldl (fun m c ↦ (m.call c).1) Family.empty

theorem call_eq (m : Counters) (c : CounterCall) :
    (m.call c).1 = m.writeAll (addTo UInt64.ofNat) c.written?.toList := by
  cases c with
  | inc labels => rfl
  | add labels amount =>
    refine congrArg (Family.adjust m (.ofList labels)) (funext fun old ↦ ?_)
    rw [addTo, UInt64.ofNat_toNat]
    rfl
  | get labels => rfl

theorem after_eq (calls : List CounterCall) :
    after calls =
      Family.empty.writeAll (addTo UInt64.ofNat) (calls.filterMap CounterCall.written?) := by
  induction calls using List.reverseRecOn with
  | nil => rfl
  | append_singleton calls c ih =>
    rw [after, List.foldl_concat, ← after, call_eq, ih, List.filterMap_append]
    exact (Family.writeAll_append ..).symm

theorem get_after (calls : List CounterCall) (labels : LabelList) :
    (after calls).get (.ofList labels) =
      UInt64.ofNat (writtenUnder labels (calls.filterMap CounterCall.written?)).sum := by
  rw [after_eq, get, Family.get?_writeAll]
  exact getD_foldl_addTo UInt64.ofNat_add _

end Counters

namespace Gauges

/-- The family behind a call, and what a reading call is told. -/
def call (m : Gauges) : GaugeCall → Gauges × Option Int64
  | .inc labels => (m.inc (.ofList labels), none)
  | .dec labels => (m.dec (.ofList labels), none)
  | .add labels amount => (m.add (.ofList labels) amount, none)
  | .get labels => (m, some (m.get (.ofList labels)))

/-- A new family after calls, one after another. -/
def after (calls : List GaugeCall) : Gauges :=
  calls.foldl (fun m c ↦ (m.call c).1) Family.empty

theorem call_eq (m : Gauges) (c : GaugeCall) :
    (m.call c).1 = m.writeAll (addTo Int64.ofInt) c.written?.toList := by
  cases c with
  | inc labels => rfl
  | dec labels => rfl
  | add labels amount =>
    refine congrArg (Family.adjust m (.ofList labels)) (funext fun old ↦ ?_)
    rw [addTo, Int64.ofInt_toInt]
    rfl
  | get labels => rfl

theorem after_eq (calls : List GaugeCall) :
    after calls =
      Family.empty.writeAll (addTo Int64.ofInt) (calls.filterMap GaugeCall.written?) := by
  induction calls using List.reverseRecOn with
  | nil => rfl
  | append_singleton calls c ih =>
    rw [after, List.foldl_concat, ← after, call_eq, ih, List.filterMap_append]
    exact (Family.writeAll_append ..).symm

theorem get_after (calls : List GaugeCall) (labels : LabelList) :
    (after calls).get (.ofList labels) =
      Int64.ofInt (writtenUnder labels (calls.filterMap GaugeCall.written?)).sum := by
  rw [after_eq, get, Family.get?_writeAll]
  exact getD_foldl_addTo Int64.ofInt_add _

end Gauges

/-- Whatever calls a family of counters or of gauges went through, under any labels it tells the sum
of the amounts that were written under a permutation of them, with 64 bits: a counter without a
sign, a gauge in two's complement. Where nothing was written this is zero. The order of the labels
does not matter, nor do the order of the calls and the calls with other labels. There is a series
for labels just if they were written, and reading leaves the family as it is. -/
theorem families_total_by_labels (labels : LabelList) :
    (∀ calls : List CounterCall,
      let m := Counters.after calls
      let own (calls : List CounterCall) :=
        writtenUnder labels (calls.filterMap CounterCall.written?)
      (∃ total, m.call (.get labels) = (m, some total) ∧
        total.toNat = (own calls).sum % 2 ^ 64) ∧
      (∀ l, (Family.get? m l).isSome ↔
        ∃ w ∈ calls.filterMap CounterCall.written?, .ofList w.1 = l) ∧
      (∀ labels', labels'.Perm labels → (m.call (.get labels')).2 = (m.call (.get labels)).2) ∧
      ∀ calls', (own calls').Perm (own calls) →
        ((Counters.after calls').call (.get labels)).2 = (m.call (.get labels)).2) ∧
    ∀ calls : List GaugeCall,
      let m := Gauges.after calls
      let own (calls : List GaugeCall) := writtenUnder labels (calls.filterMap GaugeCall.written?)
      (∃ total, m.call (.get labels) = (m, some total) ∧
        total.toInt = (own calls).sum.bmod (2 ^ 64)) ∧
      (∀ l, (Family.get? m l).isSome ↔
        ∃ w ∈ calls.filterMap GaugeCall.written?, .ofList w.1 = l) ∧
      (∀ labels', labels'.Perm labels → (m.call (.get labels')).2 = (m.call (.get labels)).2) ∧
      ∀ calls', (own calls').Perm (own calls) →
        ((Gauges.after calls').call (.get labels)).2 = (m.call (.get labels)).2 := by
  refine ⟨fun calls ↦ ?_, fun calls ↦ ?_⟩
  · intro m own
    refine ⟨⟨m.get (.ofList labels), rfl, ?_⟩, fun l ↦ ?_, fun labels' perm ↦ ?_,
      fun calls' perm ↦ ?_⟩
    · rw [Counters.get_after]
      exact UInt64.toNat_ofNat'
    · simp only [m, Counters.after_eq]
      exact Family.isSome_get?_writeAll _ _ l
    · exact congrArg (fun l ↦ some (Counters.get m l)) (Labels.ofList_eq_iff.mpr perm)
    · refine congrArg some ?_
      rw [Counters.get_after, Counters.get_after]
      exact congrArg UInt64.ofNat perm.sum_eq
  · intro m own
    refine ⟨⟨m.get (.ofList labels), rfl, ?_⟩, fun l ↦ ?_, fun labels' perm ↦ ?_,
      fun calls' perm ↦ ?_⟩
    · rw [Gauges.get_after]
      exact Int64.toInt_ofInt
    · simp only [m, Gauges.after_eq]
      exact Family.isSome_get?_writeAll _ _ l
    · exact congrArg (fun l ↦ some (Gauges.get m l)) (Labels.ofList_eq_iff.mpr perm)
    · refine congrArg some ?_
      rw [Gauges.get_after, Gauges.get_after]
      exact congrArg Int64.ofInt perm.sum_eq

/-- A counter that passes its largest value and a gauge that does, both written and read under their
labels in either order, between calls with fewer labels and with a label twice. -/
theorem families_total_by_labels_of_wrapped :
    let labels := [("kind", "unary"), ("outcome", "denied")]
    let swapped := [("outcome", "denied"), ("kind", "unary")]
    let counts : List CounterCall := [.add labels 18446744073709551615, .inc [("kind", "unary")],
      .get [("kind", "stream")], .add swapped 3]
    let moves : List GaugeCall := [.add labels 9223372036854775807, .dec [("kind", "unary")],
      .inc swapped, .inc (("kind", "unary") :: labels)]
    ((Counters.after counts).call (.get swapped)).2 = some 2 ∧
      (Family.get? (Counters.after counts) (.ofList [("kind", "stream")])).isSome = false ∧
      ((Gauges.after moves).call (.get swapped)).2 = some (-9223372036854775808) := by
  intro labels swapped counts moves
  have perm : swapped.Perm labels := List.Perm.swap _ _ _
  obtain ⟨counters, gauges⟩ := families_total_by_labels labels
  obtain ⟨⟨count, told, value⟩, stored, order, -⟩ := counters counts
  obtain ⟨⟨level, told', value'⟩, -, order', -⟩ := gauges moves
  refine ⟨(order swapped perm).trans ?_, ?_, (order' swapped perm).trans ?_⟩
  · rw [told]
    exact congrArg some (UInt64.toNat_inj.mp (value.trans (by decide +kernel)))
  · rw [Bool.eq_false_iff, Ne, stored]
    simp only [Labels.ofList_eq_iff]
    decide
  · rw [told']
    exact congrArg some (Int64.toInt_inj.mp (value'.trans (by decide +kernel)))

end Gatehouse

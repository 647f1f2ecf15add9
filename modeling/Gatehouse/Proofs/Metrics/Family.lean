import Mathlib.Data.List.Induction
import Gatehouse.Proofs.Metrics

/-!
# What is written to a family

What is written under labels goes to one series, in whatever order the labels are given: their
ascending order is the same for all of them. So each series is what was written under permutations
of its labels, one after another, and nothing else is in it. Only writing makes a series.
-/

namespace Gatehouse

/-! ### The order of labels -/

theorem labelLe_antisymm {a b : String × String} (ab : labelLe a b = true)
    (ba : labelLe b a = true) : a = b := by
  rw [labelLe_iff] at ab ba
  rcases ab with ab | ⟨same, le⟩
  · rcases ba with ba | ⟨same, -⟩
    · exact absurd ba (String.lt_asymm ab)
    · exact absurd ab (same ▸ String.lt_irrefl _)
  · rcases ba with ba | ⟨-, le'⟩
    · exact absurd ba (same ▸ String.lt_irrefl _)
    · exact Prod.ext same (String.le_antisymm le le')

/-- Labels are the same just if they are given alike but for their order. -/
theorem Labels.ofList_eq_iff {xs ys : LabelList} : ofList xs = ofList ys ↔ xs.Perm ys := by
  constructor
  · exact perm_of_ofList_eq
  · intro perm
    have same : (ofList xs).pairs.Perm (ofList ys).pairs :=
      (List.mergeSort_perm xs labelLe).trans (perm.trans (List.mergeSort_perm ys labelLe).symm)
    refine Labels.ext (List.Perm.eq_of_pairwise ?_ (ofList xs).ascending (ofList ys).ascending same)
    exact fun _ _ _ _ ab ba ↦ labelLe_antisymm ab ba

/-! ### Writing -/

section

variable {ι α : Type}

/-- What was written under a permutation of the labels, in order. -/
def writtenUnder (labels : LabelList) (written : List (LabelList × ι)) : List ι :=
  (written.filter fun w ↦ w.1.Perm labels).map (·.2)

theorem writtenUnder_snoc (labels : LabelList) (written : List (LabelList × ι))
    (w : LabelList × ι) :
    writtenUnder labels (written ++ [w]) =
      writtenUnder labels written ++ if w.1.Perm labels then [w.2] else [] := by
  rw [writtenUnder, List.filter_append, List.map_append, ← writtenUnder]
  by_cases own : w.1.Perm labels <;> simp [own]

namespace Family

/-- The family after it was written to, each time by the same kind of change. -/
def writeAll (change : Option α → ι → α) (m : Family α) (written : List (LabelList × ι)) :
    Family α :=
  written.foldl (fun m w ↦ m.adjust (.ofList w.1) fun old ↦ change old w.2) m

variable (change : Option α → ι → α)

theorem writeAll_append (m : Family α) (written later : List (LabelList × ι)) :
    m.writeAll change (written ++ later) = (m.writeAll change written).writeAll change later :=
  List.foldl_append ..

theorem writeAll_snoc (m : Family α) (written : List (LabelList × ι)) (w : LabelList × ι) :
    m.writeAll change (written ++ [w]) =
      (m.writeAll change written).adjust (.ofList w.1) fun old ↦ change old w.2 :=
  writeAll_append change m written [w]

/-- A series is made by what was written under permutations of its labels. -/
theorem get?_writeAll (written : List (LabelList × ι)) (labels : LabelList) :
    (empty.writeAll change written).get? (.ofList labels) =
      (writtenUnder labels written).foldl (fun old i ↦ some (change old i)) none := by
  induction written using List.reverseRecOn with
  | nil => rfl
  | append_singleton written w ih =>
    rw [writeAll_snoc, get?_adjust, writtenUnder_snoc, List.foldl_append]
    by_cases own : w.1.Perm labels
    · have same := Labels.ofList_eq_iff.mpr own
      rw [if_pos same.symm, same, ih, if_pos own]
      rfl
    · have other : Labels.ofList labels ≠ .ofList w.1 :=
        fun same ↦ own (Labels.ofList_eq_iff.mp same.symm)
      rw [if_neg other, if_neg own, ih]
      rfl

/-- There is a series for labels just if something was written under them. -/
theorem isSome_get?_writeAll (written : List (LabelList × ι)) (l : Labels) :
    ((empty.writeAll change written).get? l).isSome = true ↔ ∃ w ∈ written, .ofList w.1 = l := by
  induction written using List.reverseRecOn with
  | nil => simp [writeAll, empty, get?, lookup]
  | append_singleton written w ih =>
    rw [writeAll_snoc, get?_adjust]
    split
    · next same => simp [same]
    · next other => simp [ih, Ne.symm other, or_and_right, exists_or]

end Family

end

end Gatehouse

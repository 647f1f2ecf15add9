/-!
# Labels of a series

A series of a metric is identified by its labels, pairs of name and value. The order in which
labels are given does not matter; how often a pair is given does.
-/

namespace Gatehouse

/-- Labels in the order in which a call gives them. -/
abbrev LabelList := List (String × String)

/-- The order of label pairs: by name, then by value. -/
def labelLe (a b : String × String) : Bool :=
  decide (a.1 < b.1) || (a.1 == b.1 && decide (a.2 ≤ b.2))

theorem labelLe_iff {a b : String × String} :
    labelLe a b = true ↔ a.1 < b.1 ∨ a.1 = b.1 ∧ a.2 ≤ b.2 := by
  simp [labelLe]

theorem labelLe_trans {a b c : String × String} (ab : labelLe a b = true)
    (bc : labelLe b c = true) : labelLe a c = true := by
  rw [labelLe_iff] at ab bc ⊢
  rcases ab with ab | ⟨ab, le⟩
  · rcases bc with bc | ⟨bc, -⟩
    · exact .inl (String.lt_trans ab bc)
    · exact .inl (bc ▸ ab)
  · rcases bc with bc | ⟨bc, le'⟩
    · exact .inl (ab ▸ bc)
    · exact .inr ⟨ab.trans bc, String.le_trans le le'⟩

theorem labelLe_total (a b : String × String) : (labelLe a b || labelLe b a) = true := by
  rw [Bool.or_eq_true, labelLe_iff, labelLe_iff]
  rcases Std.lt_trichotomy a.1 b.1 with lt | same | lt
  · exact .inl (.inl lt)
  · rcases String.le_total a.2 b.2 with le | le
    · exact .inl (.inr ⟨same, le⟩)
    · exact .inr (.inr ⟨same.symm, le⟩)
  · exact .inr (.inl lt)

/-- Label pairs in ascending order. -/
@[ext]
structure Labels where
  pairs : LabelList
  ascending : pairs.Pairwise fun a b => labelLe a b = true
  deriving DecidableEq

namespace Labels

/-- The labels with these pairs. -/
def ofList (pairs : LabelList) : Labels where
  pairs := pairs.mergeSort labelLe
  ascending := @List.pairwise_mergeSort _ labelLe (fun _ _ _ => labelLe_trans) labelLe_total pairs

/-- The labels of a series that has none. -/
def none : Labels := ⟨[], .nil⟩

end Labels

end Gatehouse

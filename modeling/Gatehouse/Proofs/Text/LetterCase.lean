import Mathlib.Data.List.Forall2
import Gatehouse.Metadata

/-!
# Texts up to the case of their ASCII letters

Two texts have the same lower-case form just if they are equal character by character, where the
capital and the small form of a letter from A to Z count as equal. No other characters do.
-/

namespace Gatehouse

/-- A letter from A to Z. -/
def IsCapital (c : Char) : Prop := 'A' ≤ c ∧ c ≤ 'Z'

/-- The characters are equal, or the two forms of one letter from A to Z. -/
inductive SameLetter : Char → Char → Prop
  | same (c : Char) : SameLetter c c
  | lower {c d : Char} (letter : IsCapital c) (apart : d.toNat = c.toNat + 32) : SameLetter c d
  | upper {c d : Char} (letter : IsCapital d) (apart : c.toNat = d.toNat + 32) : SameLetter c d

/-- The texts are equal up to the case of their ASCII letters. -/
def SameText (s t : String) : Prop := List.Forall₂ SameLetter s.toList t.toList

theorem isCapital_iff {c : Char} : IsCapital c ↔ 65 ≤ c.toNat ∧ c.toNat ≤ 90 := Iff.rfl

theorem toNat_toLower_of_isCapital {c : Char} (h : IsCapital c) :
    c.toLower.toNat = c.toNat + 32 := by
  have code : c.toLower.val = c.val + 32 := congrArg Char.val (dif_pos ⟨h.1, h.2⟩)
  have small : c.toNat ≤ 90 := (isCapital_iff.mp h).2
  rw [← Char.toNat_val] at small
  rw [← Char.toNat_val, ← Char.toNat_val, code, UInt32.toNat_add]
  change (c.val.toNat + 32) % 2 ^ 32 = c.val.toNat + 32
  omega

theorem toLower_of_not_isCapital {c : Char} (h : ¬IsCapital c) : c.toLower = c :=
  dif_neg fun upper ↦ h ⟨upper.1, upper.2⟩

/-- Characters have one small form just if they are the same letter. -/
theorem toLower_eq_toLower_iff {c d : Char} : c.toLower = d.toLower ↔ SameLetter c d := by
  constructor
  · intro h
    have code := congrArg Char.toNat h
    by_cases hc : IsCapital c <;> by_cases hd : IsCapital d
    · rw [toNat_toLower_of_isCapital hc, toNat_toLower_of_isCapital hd] at code
      rw [Char.toNat_inj.mp (Nat.add_right_cancel code)]
      exact .same d
    · rw [toNat_toLower_of_isCapital hc, toLower_of_not_isCapital hd] at code
      exact .lower hc code.symm
    · rw [toLower_of_not_isCapital hc, toNat_toLower_of_isCapital hd] at code
      exact .upper hd code
    · rw [toLower_of_not_isCapital hc, toLower_of_not_isCapital hd] at h
      rw [h]
      exact .same d
  · -- what is 32 behind a capital letter is no capital letter
    have small {c d : Char} (hc : IsCapital c) (apart : d.toNat = c.toNat + 32) :
        c.toLower = d.toLower := by
      have hd : ¬IsCapital d := by
        rw [isCapital_iff] at hc ⊢
        omega
      rw [toLower_of_not_isCapital hd, ← Char.toNat_inj, toNat_toLower_of_isCapital hc, apart]
    rintro (_ | ⟨letter, apart⟩ | ⟨letter, apart⟩)
    · rfl
    · exact small letter apart
    · exact (small letter apart).symm

/-- Texts have one lower-case form just if they are equal up to the case of ASCII letters. -/
theorem asciiLower_eq_iff {s t : String} : asciiLower s = asciiLower t ↔ SameText s t := by
  rw [asciiLower, asciiLower, String.ofList_inj, ← List.forall₂_eq_eq_eq,
    List.forall₂_map_left_iff, List.forall₂_map_right_iff]
  simp only [toLower_eq_toLower_iff, SameText]

instance : DecidableRel SameText := fun _ _ ↦ decidable_of_iff _ asciiLower_eq_iff

end Gatehouse

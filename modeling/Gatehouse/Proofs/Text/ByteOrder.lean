import Gatehouse.TextMap

/-!
# The order of texts is the order of their bytes

Texts are compared by code point. UTF-8 writes a larger code point with more bytes or with a larger
number in as many, and its first byte tells how many there are, so the bytes compare alike.
-/

namespace Gatehouse

/-- The UTF-8 bytes of a text. -/
def bytes (s : String) : List UInt8 := s.toUTF8.data.toList

theorem bytes_eq (s : String) : bytes s = s.toList.flatMap String.utf8EncodeChar := by
  rw [bytes, String.toUTF8_eq_toByteArray, ← String.utf8Encode_toList, List.utf8Encode,
    List.toList_data_toByteArray]

/-- Numbers compare by their digits in base 64, from the first that differs. -/
private theorem two_digits_lt {v w : Nat} (h : v < w) (p : Prop) :
    v / 64 < w / 64 ∨ v / 64 = w / 64 ∧ (v % 64 < w % 64 ∨ v % 64 = w % 64 ∧ p) := by
  have hd : v / 64 < w / 64 ∨ v / 64 = w / 64 ∧ v % 64 < w % 64 := by omega
  exact hd.imp_right (And.imp_right .inl)

private theorem three_digits_lt {v w : Nat} (h : v < w) (p : Prop) :
    v / 4096 < w / 4096 ∨ v / 4096 = w / 4096 ∧
      (v / 64 % 64 < w / 64 % 64 ∨ v / 64 % 64 = w / 64 % 64 ∧
        (v % 64 < w % 64 ∨ v % 64 = w % 64 ∧ p)) := by
  have high (n : Nat) : n / 4096 = n / 64 / 64 := (Nat.div_div_eq_div_mul n 64 64).symm
  rw [high, high]
  rcases two_digits_lt h p with h | ⟨h, hrest⟩
  · exact two_digits_lt h _
  · exact .inr ⟨congrArg (· / 64) h, .inr ⟨congrArg (· % 64) h, hrest⟩⟩

private theorem four_digits_lt {v w : Nat} (h : v < w) (p : Prop) :
    v / 262144 < w / 262144 ∨ v / 262144 = w / 262144 ∧
      (v / 4096 % 64 < w / 4096 % 64 ∨ v / 4096 % 64 = w / 4096 % 64 ∧
        (v / 64 % 64 < w / 64 % 64 ∨ v / 64 % 64 = w / 64 % 64 ∧
          (v % 64 < w % 64 ∨ v % 64 = w % 64 ∧ p))) := by
  have high (n : Nat) : n / 262144 = n / 4096 / 64 := (Nat.div_div_eq_div_mul n 4096 64).symm
  rw [high, high]
  rcases three_digits_lt h p with h | ⟨h, hrest⟩
  · exact two_digits_lt h _
  · exact .inr ⟨congrArg (· / 64) h, .inr ⟨congrArg (· % 64) h, hrest⟩⟩

private theorem ofNat_lt_ofNat {a b : Nat} (ha : a < 256) (hb : b < 256) :
    UInt8.ofNat a < UInt8.ofNat b ↔ a < b := by
  rw [UInt8.lt_iff_toNat_lt, UInt8.toNat_ofNat', UInt8.toNat_ofNat', Nat.mod_eq_of_lt ha,
    Nat.mod_eq_of_lt hb]

private theorem ofNat_eq_ofNat {a b : Nat} (ha : a < 256) (hb : b < 256) :
    UInt8.ofNat a = UInt8.ofNat b ↔ a = b := by
  rw [← UInt8.toNat_inj, UInt8.toNat_ofNat', UInt8.toNat_ofNat', Nat.mod_eq_of_lt ha,
    Nat.mod_eq_of_lt hb]

private theorem val_lt (c : Char) : c.val.toNat < 0x110000 := by
  rcases c.valid with h | ⟨-, h⟩
  · exact Nat.lt_trans h (by decide)
  · exact h

/-- The bytes of a smaller character are smaller, whatever follows. -/
theorem utf8EncodeChar_lt {c d : Char} (h : c < d) (xs ys : List UInt8) :
    String.utf8EncodeChar c ++ xs < String.utf8EncodeChar d ++ ys := by
  have hd := val_lt d
  have hlt : c.val.toNat < d.val.toNat := h
  have two := two_digits_lt hlt (xs < ys)
  have three := three_digits_lt hlt (xs < ys)
  have four := four_digits_lt hlt (xs < ys)
  unfold String.utf8EncodeChar
  simp only
  -- one case for each pair of lengths, the impossible ones included
  split
  all_goals (repeat' split)
  all_goals simp (disch := omega) only [List.cons_append, List.nil_append, List.cons_lt_cons_iff,
    ofNat_lt_ofNat, ofNat_eq_ofNat, Nat.add_lt_add_iff_right, Nat.add_right_cancel_iff,
    Nat.mod_eq_of_lt]
  -- with as many bytes the digits decide, and else the first byte does
  all_goals first
    | assumption
    | exact .inl (by clear two three four; omega)

private theorem flatMap_lt {cs ds : List Char} (h : cs < ds) :
    cs.flatMap String.utf8EncodeChar < ds.flatMap String.utf8EncodeChar := by
  induction cs generalizing ds with
  | nil =>
    cases ds with
    | nil => exact absurd h (List.lt_irrefl _)
    | cons d ds =>
      have hpos := d.utf8Size_pos
      rw [← String.length_utf8EncodeChar] at hpos
      rw [List.flatMap_nil, List.flatMap_cons]
      cases hd : String.utf8EncodeChar d with
      | nil => simp [hd] at hpos
      | cons b bs => exact List.nil_lt_cons b _
  | cons c cs ih =>
    cases ds with
    | nil => exact absurd h (List.not_lt_nil _)
    | cons d ds =>
      rw [List.flatMap_cons, List.flatMap_cons]
      rcases List.cons_lt_cons_iff.mp h with hcd | ⟨rfl, hrest⟩
      · exact utf8EncodeChar_lt hcd _ _
      · exact List.append_left_lt (ih hrest)

/-- Texts compare as their bytes. -/
theorem lt_iff_bytes_lt {s t : String} : s < t ↔ bytes s < bytes t := by
  have mono {s t : String} (h : s < t) : bytes s < bytes t := by
    rw [bytes_eq, bytes_eq]
    exact flatMap_lt h
  constructor
  · exact mono
  · intro h
    refine Decidable.byContradiction fun hn ↦ ?_
    rcases Decidable.em (t < s) with hts | hts
    · exact List.lt_asymm h (mono hts)
    · have heq : s = t := String.le_antisymm (String.not_lt.mp hts) (String.not_lt.mp hn)
      rw [heq] at h
      exact List.lt_irrefl _ h

end Gatehouse

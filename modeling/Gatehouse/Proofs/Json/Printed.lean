import Gatehouse.Json.Printer
import Gatehouse.Proofs.Json.Numeral

/-!
# Written texts have no control characters

JSON counts the characters U+0000 to U+001F as control characters, the line breaks among them. They
are written as escapes, so nothing that is put together from written strings, counts and objects
holds one, whatever the strings hold. The delete character and U+0080 to U+009F, among them the next
line U+0085, are no control characters in this sense and are written as they are.
-/

namespace Gatehouse.Json

/-- No control character of JSON stands in the text: none of U+0000 to U+001F, which are the
characters below the blank. -/
def Printed (cs : List Char) : Prop := ∀ c ∈ cs, ¬c < ' '

theorem printed_escapedChar (c : Char) : Printed (escapedChar c) := by
  unfold escapedChar
  split
  case h_8 =>
    split
    · next control =>
      have digits : ∀ n < 32, (Text.hexByte n).all fun c ↦ ¬c < ' ' := by decide
      have mark : Printed ['\\', 'u', '0', '0'] := by simp [Printed]
      refine List.forall_mem_append.mpr ⟨mark, fun a ha ↦ ?_⟩
      exact of_decide_eq_true (List.all_eq_true.mp (digits c.toNat control) a ha)
    · next visible => simpa [Printed] using visible
  all_goals simp [Printed]

theorem printed_stringText (s : String) : Printed (stringText s).toList := by
  rw [stringText, String.toList_ofList]
  refine List.forall_mem_cons.mpr ⟨by decide, List.forall_mem_append.mpr ⟨?_, by simp⟩⟩
  intro c hc
  obtain ⟨a, -, ha⟩ := List.mem_flatMap.mp hc
  exact printed_escapedChar a c ha

theorem printed_decimal (n : Nat) : Printed (Text.decimal n).toList := by
  rw [Text.decimal, String.toList_ofList]
  intro c hc control
  have digit := isDigit_toDigits n c hc
  simp only [isDigit, Bool.and_eq_true, decide_eq_true_eq] at digit
  have zero : ' ' ≤ '0' := by decide
  exact Nat.not_lt.mpr (Nat.le_trans zero digit.1) control

theorem printed_intercalate {items : List (List Char)} (h : ∀ cs ∈ items, Printed cs) :
    Printed ([','].intercalate items) := by
  induction items with
  | nil => exact nofun
  | cons cs items ih =>
    obtain ⟨first, rest⟩ := List.forall_mem_cons.mp h
    cases items with
    | nil => simpa using first
    | cons next items =>
      rw [List.intercalate_cons_cons]
      exact List.forall_mem_append.mpr
        ⟨List.forall_mem_append.mpr ⟨first, by simp⟩, ih rest⟩

/-- An object is free of control characters if its values are. -/
theorem printed_objectText {entries : List (String × String)}
    (h : ∀ e ∈ entries, Printed e.2.toList) : Printed (objectText entries).toList := by
  simp only [objectText, String.toList_append, String.toList_intercalate]
  refine List.forall_mem_append.mpr ⟨List.forall_mem_append.mpr ⟨by simp, ?_⟩, by simp⟩
  refine printed_intercalate ?_
  rw [List.map_map]
  refine List.forall_mem_map.mpr fun e he ↦ ?_
  simp only [Function.comp_apply, String.toList_append]
  exact List.forall_mem_append.mpr
    ⟨List.forall_mem_append.mpr ⟨printed_stringText e.1, by simp⟩, h e he⟩

theorem printed_countsText (m : TextMap UInt64) : Printed (countsText m).toList :=
  printed_objectText (List.forall_mem_map.mpr fun e _ ↦ printed_decimal e.2.toNat)

/-- A text without control characters is on one line. -/
theorem Printed.oneLine {cs : List Char} (h : Printed cs) : '\n' ∉ cs ∧ '\r' ∉ cs :=
  ⟨fun line ↦ h _ line (by decide), fun line ↦ h _ line (by decide)⟩

end Gatehouse.Json

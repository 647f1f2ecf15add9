import Mathlib.Data.List.Perm.Basic
import Mathlib.Data.Set.List
import Gatehouse.Proofs.Json.Members

/-!
# Objects of counts

An object is read as a map of counts if each of its values is a whole number of at most 64 bits; a
key that stands more than once has its last count. So the order of different keys does not matter,
neither inside of such an object nor among the fields of a record.
-/

namespace Gatehouse.Json

open TextMap (SameByKey lastOf)

/-! ### Reading counts -/

/-- The entries of an object of counts. -/
def countEntries (counts : List (String × UInt64)) : List (String × Value) :=
  counts.map fun e ↦ (e.1, .natural e.2.toNat)

/-- The value is an object of counts, of which the map has the last of each key. -/
def Counts (v : Value) (m : TextMap UInt64) : Prop :=
  ∃ counts, v = .object (countEntries counts) .closed ∧ ∀ k, m.get? k = lastOf k counts

theorem lastOf_countEntries (k : String) (counts : List (String × UInt64)) :
    lastOf k (countEntries counts) = (lastOf k counts).map fun n ↦ .natural n.toNat :=
  TextMap.lastOf_map (fun n : UInt64 ↦ Value.natural n.toNat) k counts

theorem asCount_eq_ok_iff {v : Value} {n : UInt64} : v.asCount = .ok n ↔ v = .natural n.toNat := by
  cases v with
  | natural k =>
    rw [Value.asCount, Value.natural.injEq]
    constructor
    · intro h
      split at h
      · next fits =>
        cases h
        exact (Nat.mod_eq_of_lt fits).symm
      · cases h
    · rintro rfl
      rw [if_pos n.toNat_lt]
      exact congrArg _ (UInt64.ofNat_toNat)
  | _ => simp [Value.asCount]

theorem inverts_asCount : Inverts Value.asCount fun n : UInt64 ↦ .natural n.toNat :=
  fun _ _ ↦ asCount_eq_ok_iff

/-- An object is read as a map of counts if it is one of counts. -/
theorem asMap_eq_ok_iff {v : Value} {m : TextMap UInt64} :
    v.asMap Value.asCount = .ok m ↔ Counts v m := by
  refine inverts_asCount.asMap_eq_ok_iff.trans
    (exists_congr fun counts ↦ and_congr_right fun _ ↦ ?_)
  constructor
  · rintro rfl
    exact TextMap.get?_ofList counts
  · intro found
    exact TextMap.ext fun k ↦ (found k).trans (TextMap.get?_ofList counts k).symm

/-! ### The order of keys -/

/-- Values that differ at most in the order of the different keys of an object. -/
inductive Alike : Value → Value → Prop where
  | refl (v : Value) : Alike v v
  | object {entries entries' : List (String × Value)} (h : SameByKey entries entries') :
    Alike (.object entries .closed) (.object entries' .closed)

/-- Entries in another order, with values that differ at most in the order of their keys. -/
def Rearranged (entries entries' : List (String × Value)) : Prop :=
  ∃ sorted, entries.Perm sorted ∧
    List.Forall₂ (fun e e' ↦ e.1 = e'.1 ∧ Alike e.2 e'.2) sorted entries'

theorem Alike.symm {v v' : Value} (h : Alike v v') : Alike v' v := by
  cases h with
  | refl => exact .refl v
  | object h => exact .object fun k ↦ (h k).symm

theorem Rearranged.symm {entries entries' : List (String × Value)}
    (h : Rearranged entries entries') : Rearranged entries' entries := by
  obtain ⟨sorted, perm, alike⟩ := h
  obtain ⟨sorted', alike', perm'⟩ := List.perm_comp_forall₂ perm alike
  exact ⟨sorted', perm'.symm, alike'.flip.imp fun _ _ h ↦ ⟨h.1.symm, h.2.symm⟩⟩

/-- Only a text is like a text. -/
theorem Alike.eq_text {s : String} {v : Value} (h : Alike (.text s) v) : v = .text s := by
  cases h
  rfl

/-- The counts of an object do not depend on the order of its different keys. -/
theorem Counts.alike {v v' : Value} {m : TextMap UInt64} (h : Alike v v') (counts : Counts v m) :
    Counts v' m := by
  cases h with
  | refl => exact counts
  | @object entries entries' same =>
    obtain ⟨counts, split, found⟩ := counts
    cases split
    -- Every entry of the second object is one of the first.
    have counted : entries' ∈ Set.range countEntries := by
      change entries' ∈ Set.range (List.map _)
      rw [Set.range_list_map]
      intro e he
      obtain ⟨c, -, rfl⟩ := List.mem_map.mp (same.mem he)
      exact ⟨c, rfl⟩
    obtain ⟨counts', rfl⟩ := counted
    refine ⟨counts', rfl, fun k ↦ (found k).trans ?_⟩
    have last := same.lastOf k
    rw [lastOf_countEntries, lastOf_countEntries] at last
    refine Option.map_injective ?_ last
    intro n n' h
    exact UInt64.toNat_inj.mp (Value.natural.inj h)

/-! ### Writing counts -/

/-- A text of the grammar is read as its value wherever what stands behind it ends it. -/
theorem readAs_of_spells {c : List Char} {v : Value} (h : Spells c v) : ReadAs c v := by
  intro fuel rest enough ends
  exact readValue_of_spells blanks_nil h enough fun a ha ↦ .inr (ends a ha)

/-- A written count. -/
def Written.count (n : UInt64) : Written where
  text := Text.decimal n.toNat
  value := .natural n.toNat
  readAs := by
    have spelled := Spells.number (.ofCount n)
    rw [Numeral.chars_ofCount, Numeral.value_ofCount] at spelled
    rw [Text.decimal, String.toList_ofList]
    exact readAs_of_spells spelled

/-- A written map of counts. -/
def Written.counts (m : TextMap UInt64) : Written :=
  .object (m.entries.map fun e ↦ (e.1, .count e.2))

theorem Written.text_counts (m : TextMap UInt64) : (counts m).text = countsText m := by
  change writtenObject _ = _
  rw [writtenObject, List.map_map]
  rfl

/-- What is written of a map is read as the map. -/
theorem Written.counts_value (m : TextMap UInt64) : Counts (counts m).value m := by
  refine ⟨m.entries, ?_, fun k ↦ (TextMap.lastOf_entries m k).symm⟩
  change Value.object _ _ = _
  rw [List.map_map]
  rfl

/-- A written text is a text of its value. -/
theorem Written.denotes (w : Written) : Denotes w.text w.value :=
  denotes_of_read (Document.read_written w)

end Gatehouse.Json

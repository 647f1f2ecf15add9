import Gatehouse.Proofs.Json.Reading
import Gatehouse.Proofs.TextMap

/-!
# Lists and objects of members of one kind

Where each member has one value that is read as it, a list of such values is read as the list of the
members. An object of them is read as a map, and the last member of a key is the one that counts.
-/

namespace Gatehouse.Json

variable {α : Type}

/-- The reading takes the value of each member as the member, and takes no other value. -/
def Inverts (item : Value → Reading α) (value : α → Value) : Prop :=
  ∀ v a, item v = .ok a ↔ v = value a

/-- The value of a list of members. -/
def listOf (value : α → Value) (as : List α) : Value := .list (as.map value) .closed

/-- The value of an object with the members in this order. -/
def objectOf (value : α → Value) (es : List (String × α)) : Value :=
  .object (es.map fun e ↦ (e.1, value e.2)) .closed

theorem inverts_asText : Inverts Value.asText .text := by
  intro v s
  cases v <;> simp [Value.asText]

section

variable {item : Value → Reading α} {value : α → Value}

theorem Inverts.readAll_eq_ok_iff (h : Inverts item value) {vs : List Value} {as : List α} :
    Value.readAll item vs = .ok as ↔ vs = as.map value := by
  induction vs generalizing as with
  | nil => simp [Value.readAll, eq_comm, List.map_eq_nil_iff]
  | cons v vs ih =>
    rw [Value.readAll]
    constructor
    · intro read
      split at read
      · cases read
      · next a first =>
        split at read
        · cases read
        · next as rest =>
          cases read
          rw [List.map_cons, ← (h v a).mp first, ← ih.mp rest]
    · intro split
      obtain ⟨a, as, rfl, rfl, rfl⟩ := List.map_eq_cons_iff.mp split.symm
      rw [(h _ a).mpr rfl, ih.mpr rfl]

theorem Inverts.asList (h : Inverts item value) :
    Inverts (Value.asList item) (listOf value) := by
  intro v as
  cases v with
  | list items tail =>
    rw [Value.asList]
    constructor
    · intro read
      split at read
      · cases read
      · next members =>
        cases tail <;> cases read
        rw [listOf, ← h.readAll_eq_ok_iff.mp members]
    · intro same
      cases same
      rw [h.readAll_eq_ok_iff.mpr rfl]
      rfl
  | _ => simp [Value.asList, listOf]

theorem Inverts.insertAll_eq_ok_iff (h : Inverts item value) {m m' : TextMap α}
    {entries : List (String × Value)} :
    Value.insertAll item m entries = .ok m' ↔
      ∃ es : List (String × α), entries = es.map (fun e ↦ (e.1, value e.2)) ∧
        m' = es.foldl (fun m e ↦ m.insert e.1 e.2) m := by
  induction entries generalizing m with
  | nil =>
    rw [Value.insertAll, Except.ok.injEq]
    constructor
    · rintro rfl
      exact ⟨[], rfl, rfl⟩
    · rintro ⟨es, none, rfl⟩
      obtain rfl := List.map_eq_nil_iff.mp none.symm
      rfl
  | cons e entries ih =>
    obtain ⟨key, v⟩ := e
    rw [Value.insertAll]
    constructor
    · intro read
      split at read
      · cases read
      · next a first =>
        obtain ⟨es, rfl, rfl⟩ := ih.mp read
        exact ⟨(key, a) :: es, by rw [List.map_cons, (h v a).mp first], rfl⟩
    · rintro ⟨es, split, rfl⟩
      obtain ⟨⟨_, a⟩, es, rfl, first, rfl⟩ := List.map_eq_cons_iff.mp split.symm
      cases first
      rw [(h _ a).mpr rfl]
      exact ih.mpr ⟨es, rfl, rfl⟩

/-- An object is read as a map if it is one of members, and then as the map of these. -/
theorem Inverts.asMap_eq_ok_iff (h : Inverts item value) {v : Value} {m : TextMap α} :
    v.asMap item = .ok m ↔ ∃ es, v = objectOf value es ∧ m = .ofList es := by
  cases v with
  | object entries tail =>
    rw [Value.asMap]
    constructor
    · intro read
      split at read
      · cases read
      · next inserted =>
        cases tail <;> cases read
        obtain ⟨es, rfl, rfl⟩ := h.insertAll_eq_ok_iff.mp inserted
        exact ⟨es, rfl, rfl⟩
    · rintro ⟨es, same, rfl⟩
      cases same
      rw [h.insertAll_eq_ok_iff.mpr ⟨es, rfl, rfl⟩]
      rfl
  | _ => simp [Value.asMap, objectOf]

end

/-! ### Members have texts -/

/-- Members that have texts can stand in a series. -/
theorem exists_series {β : Type} {Spells : List Char → β → Prop} {xs : List β}
    (h : ∀ x ∈ xs, ∃ c, Spells c x) (opening : Bool) : ∃ cs, Series Spells opening cs xs := by
  induction xs generalizing opening with
  | nil => exact ⟨[], .done blanks_nil⟩
  | cons x xs ih =>
    obtain ⟨⟨c, hc⟩, others⟩ := List.forall_mem_cons.mp h
    obtain ⟨cs, more⟩ := ih others false
    cases opening with
    | true => exact ⟨_, .first blanks_nil hc more⟩
    | false => exact ⟨_, .next blanks_nil blanks_nil hc more⟩

/-- Every text stands between quotes in some way. -/
theorem exists_quoted_of (s : List Char) : ∃ cs, Quoted cs s := by
  obtain ⟨cs, -, quoted⟩ := exists_quoted (scanString_flatMap s [])
  exact ⟨cs, quoted⟩

theorem exists_spells_text (s : String) : ∃ c, Spells c (.text s) := by
  obtain ⟨cs, quoted⟩ := exists_quoted_of s.toList
  have spelled := Spells.text quoted
  rw [String.ofList_toList] at spelled
  exact ⟨_, spelled⟩

theorem exists_spells_listOf {value : α → Value} (h : ∀ a, ∃ c, Spells c (value a))
    (as : List α) : ∃ c, Spells c (listOf value as) := by
  obtain ⟨cs, items⟩ := exists_series (List.forall_mem_map.mpr fun a (_ : a ∈ as) ↦ h a) true
  exact ⟨_, .list items⟩

theorem exists_denotes_objectOf {value : α → Value} (h : ∀ a, ∃ c, Spells c (value a))
    (es : List (String × α)) : ∃ s, Denotes s (objectOf value es) := by
  have entry (e : String × α) (_ : e ∈ es) : ∃ c, Entry Spells c (e.1, value e.2) := by
    obtain ⟨k, key⟩ := exists_quoted_of e.1.toList
    obtain ⟨c, hc⟩ := h e.2
    have entry := Entry.mk key blanks_nil blanks_nil hc
    rw [String.ofList_toList] at entry
    exact ⟨_, entry⟩
  obtain ⟨cs, entries⟩ := exists_series (List.forall_mem_map.mpr entry) true
  exact ⟨String.ofList ('{' :: (cs ++ ['}'])), [], _, [], by simp, blanks_nil, .object entries,
    blanks_nil⟩

end Gatehouse.Json

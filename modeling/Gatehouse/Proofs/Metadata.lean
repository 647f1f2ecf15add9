import Gatehouse.Proofs.Text.LetterCase

/-!
# What metadata hold

Looking up a key finds the values that were appended under it, in whatever letter case, in the
order of their arrival; what was appended under other keys changes nothing. Headers are appended
under their names, except those whose value is no text.
-/

namespace Gatehouse.Metadata

/-- The values of the entries whose key is this one up to the case of ASCII letters. -/
def valuesUnder (key : String) (entries : List (String × String)) : List String :=
  (entries.filter fun e ↦ SameText e.1 key).map (·.2)

theorem valuesUnder_cons (key : String) (e : String × String) (entries : List (String × String)) :
    valuesUnder key (e :: entries) =
      if SameText e.1 key then e.2 :: valuesUnder key entries else valuesUnder key entries := by
  rw [valuesUnder, List.filter_cons]
  by_cases same : SameText e.1 key <;> simp [same, valuesUnder]

section

variable (m : Metadata) (key value : String)

/-- An appended value stands behind the others of its key, and no other key has it. -/
theorem getAll_append (k : String) :
    (m.append k value).getAll key =
      if SameText k key then m.getAll key ++ [value] else m.getAll key := by
  rw [getAll, append, TextMap.get?_adjust]
  by_cases same : SameText k key
  · have lower := asciiLower_eq_iff.mpr same
    rw [if_pos same, if_pos lower.symm, lower]
    rfl
  · have lower := mt asciiLower_eq_iff.mp same
    rw [if_neg same, if_neg (Ne.symm lower)]
    rfl

/-- Appending entries appends the values of each key. -/
theorem getAll_appendAll (entries : List (String × String)) :
    (m.appendAll entries).getAll key = m.getAll key ++ valuesUnder key entries := by
  induction entries generalizing m with
  | nil => exact (List.append_nil _).symm
  | cons e entries ih =>
    rw [appendAll, List.foldl_cons, ← appendAll, ih, getAll_append, valuesUnder_cons]
    split
    · exact List.append_assoc _ _ _
    · rfl

/-- A look-up finds the first value of the key. -/
theorem get?_eq_head? : m.get? key = (m.getAll key).head? := by
  rw [get?, getAll]
  cases m.values.get? (asciiLower key) <;> rfl

end

/-! ### Headers -/

/-- The entries that headers become when this is how their values are read. -/
def entriesOf (read : Header → Option String) (headers : List Header) : List (String × String) :=
  headers.filterMap fun h ↦ (read h).map fun value ↦ (h.name, value)

/-- Each header that is text is appended, in order. -/
theorem ofHeaders_eq (headers : List Header) :
    ofHeaders headers = empty.appendAll (entriesOf Header.text? headers) := by
  rw [ofHeaders, appendAll, entriesOf, List.foldl_filterMap]
  congr 1
  funext m h
  cases h.text? <;> rfl

/-- The values of a key are read from the headers of its name. -/
theorem valuesUnder_entriesOf (read : Header → Option String) (key : String)
    (headers : List Header) :
    valuesUnder key (entriesOf read headers) =
      (headers.filter fun h ↦ SameText h.name key).filterMap read := by
  induction headers with
  | nil => rfl
  | cons h headers ih =>
    rw [List.filter_cons]
    cases value : read h with
    | none =>
      rw [entriesOf, List.filterMap_cons_none (by rw [value]; rfl), ← entriesOf, ih]
      split
      · rw [List.filterMap_cons_none value]
      · rfl
    | some text =>
      rw [entriesOf, List.filterMap_cons_some (by rw [value]; rfl), ← entriesOf,
        valuesUnder_cons, ih]
      by_cases same : SameText h.name key
      · rw [if_pos same, if_pos (decide_eq_true same), List.filterMap_cons_some value]
      · rw [if_neg same, if_neg (by rwa [decide_eq_true_iff])]

theorem getAll_ofHeaders (headers : List Header) (key : String) :
    (ofHeaders headers).getAll key =
      (headers.filter fun h ↦ SameText h.name key).filterMap Header.text? := by
  rw [ofHeaders_eq, getAll_appendAll, valuesUnder_entriesOf]
  rfl

/-- The value of a key is that of the first header of its name that is text. -/
theorem get?_ofHeaders (headers : List Header) (key : String) :
    (ofHeaders headers).get? key =
      headers.findSome? fun h ↦ if asciiLower h.name = asciiLower key then h.text? else none := by
  rw [get?_eq_head?, getAll_ofHeaders, List.filterMap_filter, List.head?_filterMap]
  simp only [asciiLower_eq_iff, decide_eq_true_eq]

end Gatehouse.Metadata

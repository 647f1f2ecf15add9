/-!
# Finite maps keyed by text

A map is the list of its entries in strictly ascending order of their keys, so equal maps are
equal values, and whatever walks a map walks it in the order of its keys. The order of texts is
by code point, which is also the order of their UTF-8 bytes.
-/

namespace Gatehouse

/-- A finite map from texts, held as its entries in ascending order of the keys. -/
structure TextMap (α : Type) where
  /-- The entries, one for each key. -/
  entries : List (String × α)
  /-- Each key is smaller than all keys after it. -/
  ascending : entries.Pairwise fun a b => a.1 < b.1

namespace TextMap

variable {α β : Type}

instance [DecidableEq α] : DecidableEq (TextMap α) := fun a b =>
  decidable_of_iff (a.entries = b.entries)
    ⟨fun h => by cases a; cases b; cases h; rfl, fun h => h ▸ rfl⟩

/-- The map without entries. -/
def empty : TextMap α := ⟨[], .nil⟩

instance : Inhabited (TextMap α) := ⟨empty⟩

/-- Puts an entry at its place, over an entry with the same key. -/
def insertEntry (k : String) (v : α) : List (String × α) → List (String × α)
  | [] => [(k, v)]
  | e :: rest =>
    if k < e.1 then (k, v) :: e :: rest
    else if k = e.1 then (k, v) :: rest
    else e :: insertEntry k v rest

/-- The first value stored under the key. -/
def lookup (k : String) : List (String × α) → Option α
  | [] => none
  | e :: rest => if k = e.1 then some e.2 else lookup k rest

private theorem lt_of_not_lt {a b : String} (h : ¬a < b) (hne : a ≠ b) : b < a := by
  have hle : b ≤ a := String.not_lt.mp h
  refine Decidable.byContradiction fun hn => hne ?_
  exact String.le_antisymm (String.not_lt.mp hn) hle

/-- A member after an insertion is the new entry or an old one. -/
theorem mem_insertEntry {k : String} {v : α} {es : List (String × α)} {e : String × α}
    (h : e ∈ insertEntry k v es) : e = (k, v) ∨ e ∈ es := by
  induction es with
  | nil => simpa [insertEntry] using h
  | cons hd tl ih =>
    rw [insertEntry] at h
    split at h
    · simpa using h
    · split at h
      · rcases List.mem_cons.mp h with h | h
        · exact .inl h
        · exact .inr (List.mem_cons_of_mem _ h)
      · rcases List.mem_cons.mp h with h | h
        · exact .inr (h ▸ List.mem_cons_self)
        · exact (ih h).imp_right (List.mem_cons_of_mem _)

/-- Insertion keeps the keys ascending. -/
theorem pairwise_insertEntry {k : String} {v : α} {es : List (String × α)}
    (h : es.Pairwise fun a b => a.1 < b.1) :
    (insertEntry k v es).Pairwise fun a b => a.1 < b.1 := by
  induction es with
  | nil => simp [insertEntry]
  | cons hd tl ih =>
    rw [insertEntry]
    obtain ⟨hhd, htl⟩ := List.pairwise_cons.mp h
    split
    next hlt =>
      refine List.pairwise_cons.mpr ⟨fun e he => ?_, h⟩
      rcases List.mem_cons.mp he with rfl | he
      · exact hlt
      · exact String.lt_trans hlt (hhd e he)
    next hlt =>
      split
      next heq => exact List.pairwise_cons.mpr ⟨fun e he => heq ▸ hhd e he, htl⟩
      next hne =>
        refine List.pairwise_cons.mpr ⟨fun e he => ?_, ih htl⟩
        rcases mem_insertEntry he with rfl | he
        · exact lt_of_not_lt hlt hne
        · exact hhd e he

/-- The map with the value stored under the key, instead of any value it had. -/
def insert (m : TextMap α) (k : String) (v : α) : TextMap α :=
  ⟨insertEntry k v m.entries, pairwise_insertEntry m.ascending⟩

/-- The value stored under the key. -/
def get? (m : TextMap α) (k : String) : Option α := lookup k m.entries

/-- Whether a value is stored under the key. -/
def contains (m : TextMap α) (k : String) : Bool := (m.get? k).isSome

/-- The number of keys. -/
def size (m : TextMap α) : Nat := m.entries.length

/-- Whether there is no key. -/
def isEmpty (m : TextMap α) : Bool := m.entries.isEmpty

/-- The keys in ascending order. -/
def keys (m : TextMap α) : List String := m.entries.map (·.1)

/-- The values in ascending order of their keys. -/
def values (m : TextMap α) : List α := m.entries.map (·.2)

/-- The map after inserting the entries from left to right: the last of a key wins. -/
def ofList (es : List (String × α)) : TextMap α :=
  es.foldl (fun m e => m.insert e.1 e.2) empty

/-- Stores under the key what the function makes of the value there so far. -/
def adjust (m : TextMap α) (k : String) (f : Option α → α) : TextMap α :=
  m.insert k (f (m.get? k))

theorem lookup_insertEntry {k k' : String} {v : α} {es : List (String × α)} :
    lookup k' (insertEntry k v es) = if k' = k then some v else lookup k' es := by
  induction es with
  | nil => simp [insertEntry, lookup]
  | cons hd tl ih =>
    rw [insertEntry]
    split
    next => simp [lookup]
    next =>
      split
      next heq => by_cases h : k' = hd.1 <;> simp [lookup, heq, h]
      next hne =>
        by_cases h : k' = hd.1
        · subst h; simp [lookup, Ne.symm hne]
        · simp [lookup, h, ih]

@[simp] theorem get?_empty (k : String) : (empty : TextMap α).get? k = none := rfl

/-- After an insertion the key has the new value and every other key its old one. -/
theorem get?_insert (m : TextMap α) (k k' : String) (v : α) :
    (m.insert k v).get? k' = if k' = k then some v else m.get? k' :=
  lookup_insertEntry

theorem get?_adjust (m : TextMap α) (k k' : String) (f : Option α → α) :
    (m.adjust k f).get? k' = if k' = k then some (f (m.get? k)) else m.get? k' :=
  get?_insert m k k' _

end TextMap

end Gatehouse

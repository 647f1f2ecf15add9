import Gatehouse.TextMap

/-!
# Maps by their look-ups

A map is determined by what its keys look up: its entries are the pairs of a key and the value
under it, each once, and two maps that look everything up alike are equal. In a list of entries
that are not yet in a map a key may stand more than once; the last of its values is the one that
counts.
-/

namespace Gatehouse.TextMap

variable {α β : Type}

theorem lookup_eq_none {k : String} {es : List (String × α)} (h : ∀ e ∈ es, e.1 ≠ k) :
    lookup k es = none := by
  induction es with
  | nil => rfl
  | cons e rest ih =>
    obtain ⟨he, hrest⟩ := List.forall_mem_cons.mp h
    rw [lookup, if_neg (Ne.symm he), ih hrest]

/-- In ascending entries each value is found under its key. -/
theorem lookup_eq_some_iff {k : String} {v : α} {es : List (String × α)}
    (h : es.Pairwise fun a b ↦ a.1 < b.1) : lookup k es = some v ↔ (k, v) ∈ es := by
  induction es with
  | nil => simp [lookup]
  | cons e rest ih =>
    obtain ⟨he, hrest⟩ := List.pairwise_cons.mp h
    rw [lookup, List.mem_cons]
    split
    · next hk =>
      have hmem : (k, v) ∉ rest := by
        intro hm
        have hlt := he _ hm
        rw [hk] at hlt
        exact String.lt_irrefl _ hlt
      rw [or_iff_left hmem, Option.some.injEq, Prod.ext_iff]
      simp [hk, eq_comm]
    · next hk =>
      have hne : (k, v) ≠ e := by
        rintro rfl
        exact hk rfl
      rw [or_iff_right hne]
      exact ih hrest

/-- The entries of a map are its look-ups. -/
theorem mem_entries_iff {m : TextMap α} {k : String} {v : α} :
    (k, v) ∈ m.entries ↔ m.get? k = some v :=
  (lookup_eq_some_iff m.ascending).symm

theorem nodup_keys (m : TextMap α) : m.keys.Nodup := by
  refine List.pairwise_map.mpr (m.ascending.imp ?_)
  intro a b h he
  rw [he] at h
  exact String.lt_irrefl _ h

/-- The keys of a map are those under which it has a value. -/
theorem mem_keys_iff {m : TextMap α} {k : String} : k ∈ m.keys ↔ (m.get? k).isSome = true := by
  rw [Option.isSome_iff_exists]
  constructor
  · intro h
    obtain ⟨⟨k, v⟩, hm, rfl⟩ := List.mem_map.mp h
    exact ⟨v, mem_entries_iff.mp hm⟩
  · rintro ⟨v, hv⟩
    exact List.mem_map.mpr ⟨(k, v), mem_entries_iff.mpr hv, rfl⟩

theorem isEmpty_iff {m : TextMap α} : m.isEmpty = true ↔ ∀ k, m.get? k = none := by
  rw [isEmpty, List.isEmpty_iff]
  constructor
  · intro h k
    rw [get?, h, lookup]
  · intro h
    apply List.eq_nil_iff_forall_not_mem.mpr
    rintro ⟨k, v⟩ hm
    have hv := mem_entries_iff.mp hm
    rw [h k] at hv
    cases hv

/-- Maps that look every key up alike are equal. -/
theorem ext {m n : TextMap α} (h : ∀ k, m.get? k = n.get? k) : m = n := by
  have hmem : ∀ e, e ∈ m.entries ↔ e ∈ n.entries := by
    rintro ⟨k, v⟩
    rw [mem_entries_iff, mem_entries_iff, h k]
  have hnodup (m : TextMap α) : m.entries.Nodup := by
    refine m.ascending.imp ?_
    intro a b hab he
    rw [he] at hab
    exact String.lt_irrefl _ hab
  have hperm := (List.perm_ext_iff_of_nodup (hnodup m) (hnodup n)).mpr hmem
  have heq : m.entries = n.entries := List.Perm.eq_of_pairwise
    (fun _ _ _ _ hab hba ↦ absurd hba (String.lt_asymm hab)) m.ascending n.ascending hperm
  cases m
  cases n
  cases heq
  rfl

/-! ### Lists of entries -/

/-- The last value stored under the key. -/
def lastOf (k : String) (es : List (String × α)) : Option α := lookup k es.reverse

/-- Entries with the same values for each key, in the same order; between keys any order. -/
def SameByKey (es es' : List (String × α)) : Prop :=
  ∀ k, es.filter (·.1 = k) = es'.filter (·.1 = k)

theorem lookup_append (k : String) (es es' : List (String × α)) :
    lookup k (es ++ es') = (lookup k es).or (lookup k es') := by
  induction es with
  | nil => rfl
  | cons e es ih =>
    rw [List.cons_append, lookup, lookup]
    split
    · rfl
    · exact ih

/-- The first value of a key is found among its own entries. -/
theorem lookup_filter (k : String) (es : List (String × α)) :
    lookup k (es.filter (·.1 = k)) = lookup k es := by
  induction es with
  | nil => rfl
  | cons e es ih =>
    rw [lookup, List.filter_cons]
    by_cases h : k = e.1
    · simp [h, lookup]
    · simp [h, Ne.symm h, ih]

theorem lookup_map (f : α → β) (k : String) (es : List (String × α)) :
    lookup k (es.map fun e ↦ (e.1, f e.2)) = (lookup k es).map f := by
  induction es with
  | nil => rfl
  | cons e es ih =>
    rw [List.map_cons, lookup, lookup]
    split
    · rfl
    · exact ih

theorem lastOf_cons (k : String) (e : String × α) (es : List (String × α)) :
    lastOf k (e :: es) = (lastOf k es).or (if k = e.1 then some e.2 else none) := by
  rw [lastOf, List.reverse_cons, lookup_append]
  rfl

theorem lastOf_map (f : α → β) (k : String) (es : List (String × α)) :
    lastOf k (es.map fun e ↦ (e.1, f e.2)) = (lastOf k es).map f := by
  rw [lastOf, ← List.map_reverse, lookup_map, lastOf]

theorem SameByKey.lastOf {es es' : List (String × α)} (h : SameByKey es es') (k : String) :
    lastOf k es = lastOf k es' := by
  rw [TextMap.lastOf, TextMap.lastOf, ← lookup_filter k es.reverse,
    ← lookup_filter k es'.reverse, List.filter_reverse, List.filter_reverse, h k]

theorem SameByKey.mem {es es' : List (String × α)} (h : SameByKey es es') {e : String × α}
    (he : e ∈ es') : e ∈ es := by
  have own : e ∈ es'.filter (·.1 = e.1) := List.mem_filter.mpr ⟨he, decide_eq_true rfl⟩
  rw [← h e.1] at own
  exact (List.mem_filter.mp own).1

/-- The entries of a map hold one value for each key, so the last is the only one. -/
theorem lastOf_entries (m : TextMap α) (k : String) : lastOf k m.entries = m.get? k := by
  obtain ⟨es, ascending⟩ := m
  change lastOf k es = lookup k es
  induction es with
  | nil => rfl
  | cons e es ih =>
    obtain ⟨first, rest⟩ := List.pairwise_cons.mp ascending
    rw [lastOf_cons, ih rest, lookup]
    split
    · next same =>
      have none : lookup k es = none := by
        refine lookup_eq_none fun e' he' same' ↦ ?_
        have lt := first e' he'
        rw [← same, same'] at lt
        exact String.lt_irrefl k lt
      rw [none, Option.none_or]
    · exact Option.or_none

/-- The value found under a key is the first one that stands there. -/
theorem lookup_eq_some_iff_first {k : String} {v : α} {es : List (String × α)} :
    lookup k es = some v ↔
      ∃ before after, es = before ++ (k, v) :: after ∧ ∀ e ∈ before, e.1 ≠ k := by
  constructor
  · intro found
    induction es with
    | nil => cases found
    | cons e es ih =>
      rw [lookup] at found
      split at found
      · next same =>
        cases found
        exact ⟨[], es, by rw [same]; rfl, List.forall_mem_nil _⟩
      · next other =>
        obtain ⟨before, after, rfl, earlier⟩ := ih found
        exact ⟨e :: before, after, rfl, List.forall_mem_cons.mpr ⟨Ne.symm other, earlier⟩⟩
  · rintro ⟨before, after, rfl, earlier⟩
    rw [lookup_append, lookup_eq_none earlier, Option.none_or, lookup, if_pos rfl]

/-- The last value of a key stands behind all others of the key. -/
theorem lastOf_eq_some_iff {k : String} {v : α} {es : List (String × α)} :
    lastOf k es = some v ↔
      ∃ before after, es = before ++ (k, v) :: after ∧ ∀ e ∈ after, e.1 ≠ k := by
  rw [lastOf, lookup_eq_some_iff_first]
  constructor
  · rintro ⟨before, after, split, later⟩
    refine ⟨after.reverse, before.reverse, ?_, fun e he ↦ later e (List.mem_reverse.mp he)⟩
    rw [← List.reverse_reverse es, split]
    simp
  · rintro ⟨before, after, rfl, later⟩
    exact ⟨after.reverse, before.reverse, by simp, fun e he ↦ later e (List.mem_reverse.mp he)⟩

/-- A map of a list of entries has the last value of each key. -/
theorem get?_ofList (es : List (String × α)) (k : String) :
    (ofList es).get? k = lastOf k es := by
  have onto (m : TextMap α) : (es.foldl (fun m e ↦ m.insert e.1 e.2) m).get? k =
      (lastOf k es).or (m.get? k) := by
    induction es generalizing m with
    | nil => rfl
    | cons e es ih =>
      rw [List.foldl_cons, ih, lastOf_cons, get?_insert, Option.or_assoc]
      split <;> rfl
  rw [ofList, onto, get?_empty, Option.or_none]

theorem ofList_entries (m : TextMap α) : ofList m.entries = m :=
  ext fun k ↦ (get?_ofList m.entries k).trans (lastOf_entries m k)

theorem SameByKey.ofList_eq {es es' : List (String × α)} (h : SameByKey es es') :
    ofList es = ofList es' :=
  ext fun k ↦ by rw [get?_ofList, get?_ofList, h.lastOf k]

/-- Entries of different keys may stand in any order. -/
theorem SameByKey.of_perm {es es' : List (String × α)} (perm : es.Perm es')
    (once : (es.map (·.1)).Nodup) : SameByKey es es' := by
  intro k
  -- There is at most one entry of a key, so what is left has no two members to exchange.
  have alone {xs : List (String × α)} (nodup : (xs.map (·.1)).Nodup) :
      (xs.filter (·.1 = k)).Pairwise fun _ _ ↦ False := by
    refine ((List.pairwise_map.mp nodup).filter _).imp_of_mem fun ha hb apart ↦ apart ?_
    rw [of_decide_eq_true (List.mem_filter.mp ha).2, of_decide_eq_true (List.mem_filter.mp hb).2]
  exact (perm.filter _).eq_of_pairwise (fun _ _ _ _ never _ ↦ never.elim) (alone once)
    (alone ((perm.map _).nodup_iff.mp once))

/-- The entries of a map make the map again, in whatever order they stand. -/
theorem ofList_of_perm {m : TextMap α} {es : List (String × α)} (perm : es.Perm m.entries) :
    ofList es = m := by
  have once : (m.entries.map (·.1)).Nodup := by
    refine List.pairwise_map.mpr (m.ascending.imp fun lt same ↦ ?_)
    rw [same] at lt
    exact String.lt_irrefl _ lt
  rw [← (SameByKey.of_perm perm.symm once).ofList_eq, ofList_entries]

theorem lastOf_append (k : String) (es es' : List (String × α)) :
    lastOf k (es ++ es') = (lastOf k es').or (lastOf k es) := by
  rw [lastOf, List.reverse_append, lookup_append]
  rfl

theorem exists_lastOf_of_mem {e : String × α} {es : List (String × α)} (h : e ∈ es) :
    ∃ v, lastOf e.1 es = some v := by
  obtain ⟨before, after, rfl⟩ := List.append_of_mem h
  rw [lastOf_append, lastOf_cons, if_pos rfl]
  cases lastOf e.1 after with
  | none => exact ⟨e.2, rfl⟩
  | some v => exact ⟨v, rfl⟩

/-- An entry does not count where one of its key stands behind it. -/
theorem ofList_of_replaced {before after : List (String × α)} {k : String} (v : α)
    (later : ∃ e ∈ after, e.1 = k) :
    ofList (before ++ (k, v) :: after) = ofList (before ++ after) := by
  obtain ⟨e, he, rfl⟩ := later
  refine ext fun k ↦ ?_
  rw [get?_ofList, get?_ofList, lastOf_append, lastOf_append, lastOf_cons]
  by_cases own : k = e.1
  · obtain ⟨w, last⟩ := exists_lastOf_of_mem he
    rw [own, last]
    rfl
  · rw [if_neg own, Option.or_none]

end Gatehouse.TextMap

import Mathlib.Data.List.Forall2
import Gatehouse.Schema

/-!
# What a record is read from

A state that records are read into has a place for each field. Whatever the kind of the record,
entries are read into it if each of them names a field, no field is named twice, and each value can
be read; in the end a field holds what was read for it, or what it held before. None of this looks
at the order of the entries.
-/

namespace Gatehouse.Schema

variable {ε σ ν β : Type}

/-- A state has a place for each field: what is put there is found there, other places keep what
they hold, and there is no more to a state than its places. -/
structure Places (fields : List String) (get : σ → String → β) (put : σ → String → β → σ) :
    Prop where
  get_put : ∀ {s name b other}, name ∈ fields → other ∈ fields →
    get (put s name b) other = if other = name then b else get s other
  ext : ∀ {s s'}, (∀ name ∈ fields, get s name = get s' name) → s = s'

/-- What entries of a record leave in the places of its fields. -/
structure Filled (fields : List String) (get : σ → String → β) (Reads : ν → β → Prop) (before : σ)
    (entries : List (String × ν)) (s : σ) : Prop where
  known : ∀ e ∈ entries, e.1 ∈ fields
  once : (entries.map (·.1)).Nodup
  given : ∀ e ∈ entries, Reads e.2 (get s e.1)
  missing : ∀ name ∈ fields, name ∉ entries.map (·.1) → get s name = get before name

variable {fields : List String} {complain : Complaint → ε} {set : σ → String → ν → Except ε σ}
  {get : σ → String → β} {put : σ → String → β → σ} {Reads : ν → β → Prop}

/-- Filling looks at the fields and at what their values are read as, and not at their order. -/
theorem Filled.rearranged {entries sorted entries' : List (String × ν)} {before s : σ}
    (perm : entries.Perm sorted)
    (alike : List.Forall₂ (fun e e' ↦ e.1 = e'.1 ∧ ∀ b, Reads e.2 b → Reads e'.2 b) sorted entries')
    (h : Filled fields get Reads before entries s) : Filled fields get Reads before entries' s := by
  have keys : (entries.map (·.1)).Perm (entries'.map (·.1)) := by
    have same : sorted.map (·.1) = entries'.map (·.1) :=
      List.forall₂_eq_eq_eq ▸ List.forall₂_map_left_iff.mpr
        (List.forall₂_map_right_iff.mpr (alike.imp fun _ _ h ↦ h.1))
    exact same ▸ perm.map _
  have source : ∀ e' ∈ entries', ∃ e ∈ entries, e.1 = e'.1 ∧ ∀ b, Reads e.2 b → Reads e'.2 b := by
    intro e' he'
    obtain ⟨i, hi, rfl⟩ := List.getElem_of_mem he'
    have hs : i < sorted.length := alike.length_eq ▸ hi
    exact ⟨sorted[i], perm.mem_iff.mpr (List.getElem_mem hs), alike.get hs hi⟩
  refine ⟨?_, (keys.nodup_iff).mp h.once, ?_, ?_⟩
  · intro e' he'
    obtain ⟨e, he, same, -⟩ := source e' he'
    exact same ▸ h.known e he
  · intro e' he'
    obtain ⟨e, he, same, reads⟩ := source e' he'
    exact same ▸ reads _ (h.given e he)
  · intro name hn absent
    exact h.missing name hn fun hm ↦ absent (keys.mem_iff.mp hm)

/-- An entry is read if it names a field for the first time and its value can be stored there. -/
theorem readFields_cons_iff {seen : List String} {before s : σ} {k : String} {v : ν}
    {entries : List (String × ν)} :
    readFields fields complain .ok set seen before ((k, v) :: entries) = .ok s ↔
      k ∈ fields ∧ k ∉ seen ∧ ∃ next, set before k v = .ok next ∧
        readFields fields complain .ok set (k :: seen) next entries = .ok s := by
  simp only [readFields]
  split
  · next unknown => simp [unknown]
  · next known =>
    split
    · next again => simp [again]
    · next first =>
      rw [Decidable.not_not] at known
      cases set before k v with
      | error e => simp
      | ok next => simp [known, first]

/-- Entries are read into a state behind fields that have been seen if they fill it and name none
of those fields. -/
theorem readFields_iff (w : Places fields get put)
    (reads : ∀ s name v s', name ∈ fields →
      (set s name v = .ok s' ↔ ∃ b, Reads v b ∧ put s name b = s'))
    {seen : List String} {before s : σ} {entries : List (String × ν)} :
    readFields fields complain .ok set seen before entries = .ok s ↔
      Filled fields get Reads before entries s ∧ ∀ e ∈ entries, e.1 ∉ seen := by
  induction entries generalizing seen before with
  | nil =>
    rw [readFields]
    constructor
    · intro h
      cases h
      exact ⟨⟨nofun, .nil, nofun, fun _ _ _ ↦ rfl⟩, nofun⟩
    · rintro ⟨filled, -⟩
      exact congrArg _ (w.ext fun name hn ↦ (filled.missing name hn List.not_mem_nil).symm)
  | cons e entries ih =>
    obtain ⟨k, v⟩ := e
    rw [readFields_cons_iff]
    constructor
    · rintro ⟨known, first, next, stored, h⟩
      obtain ⟨b, hb, rfl⟩ := (reads _ _ _ _ known).mp stored
      obtain ⟨filled, apart⟩ := ih.mp h
      have only : k ∉ entries.map (·.1) := by
        intro hm
        obtain ⟨e, he, rfl⟩ := List.mem_map.mp hm
        exact apart e he List.mem_cons_self
      have own : get s k = b := by
        rw [filled.missing k known only, w.get_put known known, if_pos rfl]
      refine ⟨⟨?_, ?_, ?_, ?_⟩, ?_⟩
      · exact List.forall_mem_cons.mpr ⟨known, filled.known⟩
      · exact List.nodup_cons.mpr ⟨only, filled.once⟩
      · exact List.forall_mem_cons.mpr ⟨own ▸ hb, filled.given⟩
      · intro name hn absent
        rw [filled.missing name hn (List.not_mem_of_not_mem_cons absent), w.get_put known hn,
          if_neg (List.ne_of_not_mem_cons absent)]
      · exact List.forall_mem_cons.mpr
          ⟨first, fun e he hs ↦ apart e he (List.mem_cons_of_mem k hs)⟩
    · rintro ⟨filled, unseen⟩
      obtain ⟨known, others⟩ := List.forall_mem_cons.mp filled.known
      obtain ⟨only, once⟩ := List.nodup_cons.mp filled.once
      obtain ⟨given, rest⟩ := List.forall_mem_cons.mp filled.given
      obtain ⟨first, apart⟩ := List.forall_mem_cons.mp unseen
      have stored := (reads before k v _ known).mpr ⟨_, given, rfl⟩
      refine ⟨known, first, _, stored, ih.mpr ⟨⟨others, once, rest, ?_⟩, ?_⟩⟩
      · intro name hn absent
        rw [w.get_put known hn]
        split
        · next same => rw [same]
        · next other =>
          exact filled.missing name hn (List.not_mem_cons_of_ne_of_not_mem other absent)
      · intro e he
        refine List.not_mem_cons_of_ne_of_not_mem ?_ (apart e he)
        intro same
        exact only (List.mem_map.mpr ⟨e, he, same⟩)

/-- Entries are read into a state just if they fill it. -/
theorem readFields_eq_ok_iff (w : Places fields get put)
    (reads : ∀ s name v s', name ∈ fields →
      (set s name v = .ok s' ↔ ∃ b, Reads v b ∧ put s name b = s'))
    {before s : σ} {entries : List (String × ν)} :
    readFields fields complain .ok set [] before entries = .ok s ↔
      Filled fields get Reads before entries s :=
  (readFields_iff w reads).trans (and_iff_left fun _ _ ↦ List.not_mem_nil)

end Gatehouse.Schema

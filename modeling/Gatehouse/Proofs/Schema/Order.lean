import Mathlib.Data.List.Forall2
import Mathlib.Data.List.Perm.Basic
import Gatehouse.Schema

/-!
# What the order of entries decides

Entries of a record are read one after another into a state, and the first one that does not fit
decides the complaint. Whether there is one, and what is read when there is none, does not depend on
the order, as long as what is set for two fields is the same in both orders. An entry that sets what
the state holds at the start may be left out.
-/

namespace Gatehouse.Schema

variable {ε ε' σ κ ν κ' ν' α β : Type}

/-- Two readings give the same when they succeed, and they succeed together. -/
def Agree (x : Except ε α) (y : Except ε' α) : Prop := ∀ a, x = .ok a ↔ y = .ok a

theorem map_eq_ok_iff {f : α → β} {x : Except ε α} {b : β} :
    x.map f = .ok b ↔ ∃ a, x = .ok a ∧ f a = b := by
  cases x <;> simp [Except.map]

namespace Agree

variable {x : Except ε α} {y : Except ε' α}

theorem refl (x : Except ε α) : Agree x x := fun _ ↦ .rfl

theorem symm (h : Agree x y) : Agree y x := fun a ↦ (h a).symm

theorem trans {z : Except ε α} (h : Agree x y) (h' : Agree y z) : Agree x z :=
  fun a ↦ (h a).trans (h' a)

theorem toOption_eq (h : Agree x y) : x.toOption = y.toOption := by
  cases x with
  | error e =>
    cases y with
    | error e' => rfl
    | ok a => cases (h a).mpr rfl
  | ok a =>
    rw [(h a).mp rfl]
    rfl

theorem map (h : Agree x y) (f : α → β) : Agree (x.map f) (y.map f) := by
  intro b
  rw [map_eq_ok_iff, map_eq_ok_iff]
  exact exists_congr fun a ↦ and_congr_left fun _ ↦ h a

end Agree

variable {fields : List String} {complain : Complaint → ε} {key : κ → Except ε String}
  {set : σ → String → ν → Except ε σ} {seen : List String} {s s' : σ}

/-- An entry is read if its key names a field for the first time and its value can be stored. -/
theorem readFields_cons_eq_ok_iff {k : κ} {v : ν} {rest : List (κ × ν)} :
    readFields fields complain key set seen s ((k, v) :: rest) = .ok s' ↔
      ∃ name, key k = .ok name ∧ name ∈ fields ∧ name ∉ seen ∧ ∃ next, set s name v = .ok next ∧
        readFields fields complain key set (name :: seen) next rest = .ok s' := by
  rw [readFields]
  cases key k with
  | error e => simp
  | ok name =>
    simp only [Except.ok.injEq, exists_eq_left']
    split
    · next unknown => simp [unknown]
    · next known =>
      split
      · next again => simp [again]
      · next first =>
        cases set s name v with
        | error e => simp
        | ok next => simp [Decidable.not_not.mp known, first]

/-- Of the fields that have been seen, only those matter that the entries name. -/
theorem readFields_seen_congr {seen' : List String} {entries : List (κ × ν)}
    (h : ∀ e ∈ entries, ∀ name, key e.1 = .ok name → (name ∈ seen ↔ name ∈ seen')) :
    Agree (readFields fields complain key set seen s entries)
      (readFields fields complain key set seen' s entries) := by
  intro s'
  induction entries generalizing seen seen' s with
  | nil => rfl
  | cons e rest ih =>
    obtain ⟨first, others⟩ := List.forall_mem_cons.mp h
    obtain ⟨k, v⟩ := e
    rw [readFields_cons_eq_ok_iff, readFields_cons_eq_ok_iff]
    refine exists_congr fun name ↦ and_congr_right fun named ↦ ?_
    refine and_congr_right fun _ ↦ and_congr (not_congr (first name named)) ?_
    refine exists_congr fun next ↦ and_congr_right fun _ ↦ ih fun e he name' named' ↦ ?_
    rw [List.mem_cons, List.mem_cons, others e he name' named']

/-- Entries that are alike one by one are read alike. -/
theorem readFields_congr {complain' : Complaint → ε'} {key' : κ' → Except ε' String}
    {set' : σ → String → ν' → Except ε' σ} {entries : List (κ × ν)} {entries' : List (κ' × ν')}
    (h : List.Forall₂ (fun e e' ↦ Agree (key e.1) (key' e'.1) ∧
      ∀ name, key e.1 = .ok name → ∀ s, Agree (set s name e.2) (set' s name e'.2))
      entries entries') :
    Agree (readFields fields complain key set seen s entries)
      (readFields fields complain' key' set' seen s entries') := by
  intro s'
  induction h generalizing seen s with
  | nil => simp [readFields]
  | cons first _ ih =>
    rw [readFields_cons_eq_ok_iff, readFields_cons_eq_ok_iff]
    refine exists_congr fun name ↦ ?_
    rw [← first.1 name]
    refine and_congr_right fun named ↦ ?_
    refine and_congr_right fun _ ↦ and_congr_right fun _ ↦ exists_congr fun next ↦ ?_
    exact and_congr (first.2 name named s next) ih

/-! ### Order -/

/-- What is set for one field and then for another may be set in the other order. -/
structure Commutes (fields : List String) (set : σ → String → ν → Except ε σ) : Prop where
  swap : ∀ {s s₁ s₂ : σ} {a b : String} {v w : ν}, a ∈ fields → b ∈ fields → a ≠ b →
    set s a v = .ok s₁ → set s₁ b w = .ok s₂ → ∃ m, set s b w = .ok m ∧ set m a v = .ok s₂

theorem commutes_singleton (f : String) (set : σ → String → ν → Except ε σ) :
    Commutes [f] set where
  swap ha hb other := by
    rw [List.mem_singleton] at ha hb
    exact absurd (ha.trans hb.symm) other

/-- A field may be set before or behind others that leave its place alone. -/
theorem Commutes.cons (h : Commutes fields set) (f : String) (reading : ν → Except ε α)
    (put : α → σ → σ) (free : ∀ a s name v, set (put a s) name v = (set s name v).map (put a)) :
    Commutes (f :: fields)
      fun s name v ↦ if name = f then (reading v).map (put · s) else set s name v where
  swap {s s₁ s₂ a b v w} ha hb other first second := by
    by_cases ha' : a = f
    · have hb' : b ≠ f := fun same ↦ other (ha'.trans same.symm)
      rw [if_pos ha', map_eq_ok_iff] at first
      obtain ⟨x, read, rfl⟩ := first
      rw [if_neg hb', free, map_eq_ok_iff] at second
      obtain ⟨m, stored, rfl⟩ := second
      exact ⟨m, by rw [if_neg hb', stored], by rw [if_pos ha', read, Except.map]⟩
    · rw [if_neg ha'] at first
      by_cases hb' : b = f
      · rw [if_pos hb', map_eq_ok_iff] at second
        obtain ⟨x, read, rfl⟩ := second
        refine ⟨put x s, by rw [if_pos hb', read, Except.map], ?_⟩
        rw [if_neg ha', free, first, Except.map]
      · rw [if_neg hb'] at second
        obtain ⟨m, storedB, storedA⟩ := h.swap (List.mem_of_ne_of_mem ha' ha)
          (List.mem_of_ne_of_mem hb' hb) other first second
        exact ⟨m, by rw [if_neg hb', storedB], by rw [if_neg ha', storedA]⟩

/-- Entries are read in any order. -/
theorem readFields_of_perm (commutes : Commutes fields set) {entries entries' : List (κ × ν)}
    (perm : entries.Perm entries')
    (h : readFields fields complain key set seen s entries = .ok s') :
    readFields fields complain key set seen s entries' = .ok s' := by
  induction perm generalizing seen s with
  | nil => exact h
  | cons e _ ih =>
    obtain ⟨name, named, known, first, next, stored, rest⟩ := readFields_cons_eq_ok_iff.mp h
    exact readFields_cons_eq_ok_iff.mpr ⟨name, named, known, first, next, stored, ih rest⟩
  | swap e e' rest =>
    obtain ⟨b, namedB, knownB, firstB, s₁, storedB, h⟩ := readFields_cons_eq_ok_iff.mp h
    obtain ⟨a, namedA, knownA, firstA, s₂, storedA, h⟩ := readFields_cons_eq_ok_iff.mp h
    have other : b ≠ a := fun same ↦ firstA (same ▸ List.mem_cons_self)
    have notSeenA : a ∉ seen := List.not_mem_of_not_mem_cons firstA
    have notSeenB : b ∉ a :: seen := List.not_mem_cons_of_ne_of_not_mem other firstB
    obtain ⟨m, storedA', storedB'⟩ := commutes.swap knownB knownA other storedB storedA
    refine readFields_cons_eq_ok_iff.mpr ⟨a, namedA, knownA, notSeenA, m, storedA', ?_⟩
    refine readFields_cons_eq_ok_iff.mpr ⟨b, namedB, knownB, notSeenB, s₂, storedB', ?_⟩
    -- The rest is read with both fields seen, in either order.
    refine (readFields_seen_congr (fun _ _ name _ ↦ ?_) s').mp h
    exact (List.Perm.swap b a seen).mem_iff
  | trans _ _ ih ih' => exact ih' (ih h)

theorem readFields_perm (commutes : Commutes fields set) {entries entries' : List (κ × ν)}
    (perm : entries.Perm entries') :
    Agree (readFields fields complain key set seen s entries)
      (readFields fields complain key set seen s entries') :=
  fun _ ↦ ⟨readFields_of_perm commutes perm, readFields_of_perm commutes perm.symm⟩

/-! ### Which entries are read -/

/-- Two entries do not name the same field. -/
def Apart (key : κ → Except ε String) (e e' : κ × ν) : Prop :=
  ∀ name, key e.1 = .ok name → key e'.1 ≠ .ok name

theorem Apart.symm {e e' : κ × ν} (h : Apart key e e') : Apart key e' e :=
  fun name named named' ↦ h name named' named

/-- Each entry that is read names a field, and its value can be stored. -/
theorem exists_set_of_readFields {entries : List (κ × ν)}
    (h : readFields fields complain key set seen s entries = .ok s') :
    ∀ e ∈ entries, ∃ name ∈ fields, key e.1 = .ok name ∧ name ∉ seen ∧
      ∃ s₁ s₂, set s₁ name e.2 = .ok s₂ := by
  induction entries generalizing seen s with
  | nil => exact nofun
  | cons e rest ih =>
    obtain ⟨name, named, known, first, next, stored, h⟩ := readFields_cons_eq_ok_iff.mp h
    refine List.forall_mem_cons.mpr ⟨⟨name, known, named, first, s, next, stored⟩, fun e he ↦ ?_⟩
    obtain ⟨name', known', named', first', values⟩ := ih h e he
    exact ⟨name', known', named', List.not_mem_of_not_mem_cons first', values⟩

/-- No two entries that are read name the same field. -/
theorem pairwise_apart_of_readFields {entries : List (κ × ν)}
    (h : readFields fields complain key set seen s entries = .ok s') :
    entries.Pairwise (Apart key) := by
  induction entries generalizing seen s with
  | nil => exact .nil
  | cons e rest ih =>
    obtain ⟨name, named, -, -, next, -, h⟩ := readFields_cons_eq_ok_iff.mp h
    refine List.pairwise_cons.mpr ⟨fun e' he' name' own other ↦ ?_, ih h⟩
    obtain ⟨name'', -, named', first, -⟩ := exists_set_of_readFields h e' he'
    cases named.symm.trans own
    cases other.symm.trans named'
    exact first List.mem_cons_self

/-- Entries that set what the state holds at the start, for fields that no other entry names, may be
left out. -/
theorem readFields_append_of_kept {kept entries : List (κ × ν)}
    (keeps : ∀ e ∈ kept, ∃ name ∈ fields, key e.1 = .ok name ∧ name ∉ seen ∧ set s name e.2 = .ok s)
    (once : kept.Pairwise (Apart key)) (fresh : ∀ e ∈ kept, ∀ e' ∈ entries, Apart key e e') :
    Agree (readFields fields complain key set seen s (kept ++ entries))
      (readFields fields complain key set seen s entries) := by
  induction kept generalizing seen with
  | nil => exact .refl _
  | cons e kept ih =>
    obtain ⟨⟨name, known, named, first, stored⟩, others⟩ := List.forall_mem_cons.mp keeps
    obtain ⟨apart, once⟩ := List.pairwise_cons.mp once
    obtain ⟨apart', fresh⟩ := List.forall_mem_cons.mp fresh
    have head : Agree (readFields fields complain key set seen s (e :: kept ++ entries))
        (readFields fields complain key set (name :: seen) s (kept ++ entries)) := by
      intro s'
      rw [List.cons_append, readFields_cons_eq_ok_iff]
      constructor
      · rintro ⟨name', named', -, -, next, stored', h⟩
        cases named.symm.trans named'
        cases stored.symm.trans stored'
        exact h
      · exact fun h ↦ ⟨name, named, known, first, s, stored, h⟩
    refine head.trans (.trans (ih (fun e he ↦ ?_) once fresh) (readFields_seen_congr ?_))
    · obtain ⟨name', known', named', first', stored'⟩ := others e he
      refine ⟨name', known', named', List.not_mem_cons_of_ne_of_not_mem ?_ first', stored'⟩
      rintro rfl
      exact apart e he name' named named'
    · intro e he name' named'
      rw [List.mem_cons, or_iff_right]
      rintro rfl
      exact apart' e he name' named named'

end Gatehouse.Schema

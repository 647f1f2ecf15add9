import Gatehouse.Proofs.Config.Sections

/-!
# The mappings of a configuration

A configuration is a mapping with two sections, and one of them holds the mapping of the rules. Each
is read in its own way. What is read of the whole tree depends on a mapping only by what is read of
the mapping, and a mapping that is not read leaves the whole tree unread. The keys of three of them
are fixed, and these are read as records; the keys of the rules are consumers.
-/

namespace Gatehouse.Config

open Schema (Agree Apart Commutes)
open Yaml (Node Replaced Scalar)

/-- A mapping of a configuration. -/
inductive Place where
  | top
  | gateway
  | acl
  | rules

namespace Place

/-- The keys that lead to a mapping. -/
def path : Place → List String
  | top => []
  | gateway => ["gateway"]
  | acl => ["acl"]
  | rules => ["acl", "rules"]

/-- The keys that a mapping may have. Rules may have any. -/
def fields? : Place → Option (List String)
  | top => some Sections.fields
  | gateway => some GatewaySection.fields
  | acl => some AclSection.fields
  | rules => none

/-- What is read from a mapping. -/
abbrev Result : Place → Type
  | top => Sections
  | gateway => GatewaySection
  | acl => AclSection
  | rules => Option RawRules

/-- Reads a mapping of a tree. -/
def reads : (p : Place) → Node → Reading p.Result
  | top => sectionOf Sections.fields Sections.set ⟨none, .default, none⟩
  | gateway => sectionOf GatewaySection.fields GatewaySection.set .default
  | acl => sectionOf AclSection.fields AclSection.set ⟨none, none⟩
  | rules => optional rulesOf

end Place

/-! ### What a place makes of a tree -/

variable {n n' t t' : Node}

/-- A value that is read as another one may stand in its place. -/
theorem sectionOf_of_replaced {σ : Type} {fields : List String}
    {set : σ → String → Node → Reading σ} {v v' : Node} {name : String}
    {key : Scalar} (named : key.text = name) (h : ∀ s, Agree (set s name v) (set s name v'))
    (before after : List (Node × Node)) (s : σ) :
    Agree (sectionOf fields set s (.mapping (before ++ (.scalar key, v) :: after) true))
      (sectionOf fields set s (.mapping (before ++ (.scalar key, v') :: after) true)) := by
  rw [sectionOf_of_has (.mapping _), sectionOf_of_has (.mapping _)]
  have same (es : List (Node × Node)) : List.Forall₂ (fun e e' ↦
      Agree (textOf e.1) (textOf e'.1) ∧ ∀ name', textOf e.1 = .ok name' →
        ∀ s, Agree (set s name' e.2) (set s name' e'.2)) es es :=
    List.forall₂_same.mpr fun e _ ↦ ⟨.refl _, fun _ _ _ ↦ .refl _⟩
  refine Schema.readFields_congr (List.rel_append (same before) (.cons ⟨.refl _, ?_⟩ (same after)))
  rintro _ ⟨⟩
  rw [named]
  exact h

/-- In a mapping that is read each value is. -/
theorem exists_set_of_sectionOf {σ : Type} {fields : List String}
    {set : σ → String → Node → Reading σ} {key : Scalar} {v : Node}
    {before after : List (Node × Node)} {s s' : σ}
    (h : sectionOf fields set s (.mapping (before ++ (.scalar key, v) :: after) true) = .ok s') :
    ∃ s₁ s₂, set s₁ key.text v = .ok s₂ := by
  rw [sectionOf_of_has (.mapping _)] at h
  obtain ⟨_, -, ⟨⟩, -, stored⟩ := Schema.exists_set_of_readFields h (.scalar key, v) (by simp)
  exact stored

/-- Entries that set what a section starts with may be left out. -/
theorem sectionOf_of_kept {σ : Type} {fields : List String} {set : σ → String → Node → Reading σ}
    (commutes : Commutes fields set) {start : σ} {entries entries' kept : List (Node × Node)}
    (has : n.Has entries) (has' : n'.Has entries') (perm : entries'.Perm (kept ++ entries))
    (keeps : ∀ e ∈ kept, ∃ name ∈ fields, textOf e.1 = .ok name ∧
      set start name e.2 = .ok start)
    (once : kept.Pairwise (Apart textOf))
    (fresh : ∀ e ∈ kept, ∀ e' ∈ entries, Apart textOf e e') :
    Agree (sectionOf fields set start n') (sectionOf fields set start n) := by
  rw [sectionOf_of_has has, sectionOf_of_has has']
  refine (Schema.readFields_perm commutes perm).trans ?_
  refine Schema.readFields_append_of_kept (fun e he ↦ ?_) once fresh
  obtain ⟨name, known, named, stored⟩ := keeps e he
  exact ⟨name, known, named, List.not_mem_nil, stored⟩

namespace Place

theorem set_gateway (s : Sections) (n : Node) :
    Sections.set s "gateway" n =
      (gateway.reads n).map fun g : GatewaySection ↦ { s with gateway := g } := rfl

theorem set_acl (s : Sections) (n : Node) :
    Sections.set s "acl" n =
      (acl.reads n).map fun a : AclSection ↦ { s with acl := some a } := rfl

theorem set_rules (s : AclSection) (n : Node) :
    AclSection.set s "rules" n =
      (rules.reads n).map fun r : Option RawRules ↦ { s with rules := r } := rfl

/-- Trees that are read alike at a place are read alike in a configuration. -/
theorem agree_top_of_replaced {p : Place} (h : Agree (p.reads n) (p.reads n'))
    (r : Replaced n n' p.path t t') : Agree (top.reads t) (top.reads t') := by
  cases p with
  | top =>
    obtain ⟨rfl, rfl⟩ := r.of_nil
    exact h
  | gateway =>
    obtain ⟨key, before, after, v, v', named, inner, rfl, rfl⟩ := r.of_cons
    obtain ⟨rfl, rfl⟩ := inner.of_nil
    refine sectionOf_of_replaced named (fun s ↦ ?_) before after _
    rw [set_gateway, set_gateway]
    exact h.map _
  | acl =>
    obtain ⟨key, before, after, v, v', named, inner, rfl, rfl⟩ := r.of_cons
    obtain ⟨rfl, rfl⟩ := inner.of_nil
    refine sectionOf_of_replaced named (fun s ↦ ?_) before after _
    rw [set_acl, set_acl]
    exact h.map _
  | rules =>
    obtain ⟨key, before, after, v, v', named, inner, rfl, rfl⟩ := r.of_cons
    obtain ⟨key', before', after', w, w', named', last, rfl, rfl⟩ := inner.of_cons
    obtain ⟨rfl, rfl⟩ := last.of_nil
    refine sectionOf_of_replaced named (fun s ↦ ?_) before after _
    rw [set_acl, set_acl]
    refine Agree.map (sectionOf_of_replaced named' (fun s ↦ ?_) before' after' _) _
    rw [set_rules, set_rules]
    exact h.map _

/-- In a configuration that is read each mapping is. -/
theorem exists_reads_of_replaced {p : Place} (r : Replaced n n' p.path t t') {s : Sections}
    (h : top.reads t' = .ok s) : ∃ a, p.reads n' = .ok a := by
  cases p with
  | top =>
    obtain ⟨-, rfl⟩ := r.of_nil
    exact ⟨s, h⟩
  | gateway =>
    obtain ⟨key, before, after, v, v', named, inner, -, rfl⟩ := r.of_cons
    obtain ⟨-, rfl⟩ := inner.of_nil
    obtain ⟨s₁, s₂, stored⟩ := exists_set_of_sectionOf h
    rw [named, set_gateway, Schema.map_eq_ok_iff] at stored
    exact stored.imp fun _ read ↦ read.1
  | acl =>
    obtain ⟨key, before, after, v, v', named, inner, -, rfl⟩ := r.of_cons
    obtain ⟨-, rfl⟩ := inner.of_nil
    obtain ⟨s₁, s₂, stored⟩ := exists_set_of_sectionOf h
    rw [named, set_acl, Schema.map_eq_ok_iff] at stored
    exact stored.imp fun _ read ↦ read.1
  | rules =>
    obtain ⟨key, before, after, v, v', named, inner, -, rfl⟩ := r.of_cons
    obtain ⟨key', before', after', w, w', named', last, -, rfl⟩ := inner.of_cons
    obtain ⟨-, rfl⟩ := last.of_nil
    obtain ⟨s₁, s₂, stored⟩ := exists_set_of_sectionOf h
    rw [named, set_acl, Schema.map_eq_ok_iff] at stored
    obtain ⟨a, read, -⟩ := stored
    obtain ⟨s₃, s₄, stored'⟩ := exists_set_of_sectionOf read
    rw [named', set_rules, Schema.map_eq_ok_iff] at stored'
    exact stored'.imp fun _ read ↦ read.1

/-- A mapping whose keys are fixed is read as a record. -/
theorem exists_section {p : Place} {fields : List String} (h : p.fields? = some fields) :
    ∃ (set : p.Result → String → Node → Reading p.Result) (start : p.Result),
      Commutes fields set ∧ ∀ n, p.reads n = sectionOf fields set start n := by
  cases p with
  | top =>
    cases h
    exact ⟨_, _, commutes_sections, fun _ ↦ rfl⟩
  | gateway =>
    cases h
    exact ⟨_, _, commutes_gateway, fun _ ↦ rfl⟩
  | acl =>
    cases h
    exact ⟨_, _, commutes_acl, fun _ ↦ rfl⟩
  | rules => cases h

theorem reads_rules (entries : List (Node × Node)) :
    rules.reads (.mapping entries true) = (readRules .empty entries).map some := by
  have read : rulesOf (.mapping entries true) = readRules .empty entries := by
    rw [rulesOf, entriesOf_of_has (.mapping entries)]
    simp only
    cases readRules .empty entries <;> rfl
  exact congrArg (Except.map some) read

/-- A mapping is read in whatever order its entries stand; rules, if no consumer has two lists. -/
theorem reads_perm {p : Place} {entries entries' : List (Node × Node)}
    (perm : entries.Perm entries') (once : p = rules → entries.Pairwise (Apart textOf)) :
    Agree (p.reads (.mapping entries true)) (p.reads (.mapping entries' true)) := by
  cases strict : p.fields? with
  | some fields =>
    obtain ⟨set, start, commutes, read⟩ := exists_section strict
    rw [read, read, sectionOf_of_has (.mapping _), sectionOf_of_has (.mapping _)]
    exact Schema.readFields_perm commutes perm
  | none =>
    cases p with
    | rules =>
      rw [reads_rules, reads_rules]
      exact (readRules_perm perm (once rfl)).map some
    | _ => cases strict

end Place

end Gatehouse.Config

import Mathlib.Data.List.Forall2
import Gatehouse.Config.Document
import Gatehouse.Proofs.Schema.Order
import Gatehouse.Proofs.TextMap
import Gatehouse.Proofs.Yaml.Tree

/-!
# Sections of a configuration

A section is read entry by entry. Where its keys are fixed their order does not matter, and rules
are the map of what their entries give.
-/

namespace Gatehouse.Config

open Schema (Agree Apart Commutes commutes_singleton)
open Yaml (Node)

variable {n : Node}

/-! ### Entries -/

theorem entriesOf_of_has {entries : List (Node × Node)} (h : n.Has entries) :
    entriesOf n = .ok (entries, true) := by
  cases h with
  | mapping => rfl
  | nothing h => exact if_pos h

theorem sectionOf_of_has {σ : Type} {fields : List String} {set : σ → String → Node → Reading σ}
    {entries : List (Node × Node)} (h : n.Has entries) (s : σ) :
    sectionOf fields set s n = Schema.readFields fields Problem.fields textOf set [] s entries := by
  rw [sectionOf, entriesOf_of_has h]
  simp only
  cases Schema.readFields fields Problem.fields textOf set [] s entries <;> rfl

/-! ### Order -/

theorem commutes_gateway : Commutes GatewaySection.fields GatewaySection.set := by
  refine .cons (.cons (commutes_singleton _ _) _ _ _ fun queue s name n ↦ ?_) _ _ _
    fun listen s name n ↦ ?_
  · cases numberOf UInt64.size n <;> rfl
  · split <;> cases numberOf UInt64.size n <;> rfl

theorem commutes_acl : Commutes AclSection.fields AclSection.set := by
  refine .cons (commutes_singleton _ _) _ _ _ fun path s name n ↦ ?_
  cases optional rulesOf n <;> rfl

theorem commutes_sections : Commutes Sections.fields Sections.set := by
  refine .cons (.cons (commutes_singleton _ _) _ _ _ fun gateway s name n ↦ ?_) _ _ _
    fun version s name n ↦ ?_
  · cases sectionOf AclSection.fields AclSection.set ⟨none, none⟩ n <;> rfl
  · split
    · cases sectionOf GatewaySection.fields GatewaySection.set .default n <;> rfl
    · cases sectionOf AclSection.fields AclSection.set ⟨none, none⟩ n <;> rfl

/-! ### Rules -/

/-- An entry gives a consumer the list of patterns. -/
def Gives (e : Node × Node) (rule : String × List String) : Prop :=
  textOf e.1 = .ok rule.1 ∧ textsOf e.2 = .ok rule.2

theorem readRules_eq_ok_iff {entries : List (Node × Node)} {rules rules' : RawRules} :
    readRules rules entries = .ok rules' ↔
      ∃ given, List.Forall₂ Gives entries given ∧
        rules' = given.foldl (fun m r ↦ m.insert r.1 r.2) rules := by
  induction entries generalizing rules with
  | nil => simp [readRules, eq_comm]
  | cons e rest ih =>
    obtain ⟨k, v⟩ := e
    rw [readRules]
    simp only [List.forall₂_cons_left_iff]
    cases key : textOf k with
    | error e => simp [Gives, key]
    | ok consumer =>
      cases value : textsOf v with
      | error e => simp [Gives, value]
      | ok patterns =>
        simp only [ih]
        constructor
        · rintro ⟨given, all, rfl⟩
          exact ⟨(consumer, patterns) :: given, ⟨_, _, ⟨key, value⟩, all, rfl⟩, rfl⟩
        · rintro ⟨_, ⟨⟨consumer', patterns'⟩, given, ⟨key', value'⟩, all, rfl⟩, rfl⟩
          cases key.symm.trans key'
          cases value.symm.trans value'
          exact ⟨given, all, rfl⟩

/-- Rules are read as the map of what the entries give. -/
theorem readRules_empty_eq_ok_iff {entries : List (Node × Node)} {rules : RawRules} :
    readRules .empty entries = .ok rules ↔
      ∃ given, List.Forall₂ Gives entries given ∧ rules = .ofList given :=
  readRules_eq_ok_iff

theorem nodup_consumers {entries : List (Node × Node)} {given : List (String × List String)}
    (all : List.Forall₂ Gives entries given) (once : entries.Pairwise (Apart textOf)) :
    (given.map (·.1)).Nodup := by
  have keys : entries.map (fun e ↦ textOf e.1) = given.map fun r ↦ .ok r.1 :=
    List.forall₂_eq_eq_eq ▸ List.forall₂_map_left_iff.mpr
      (List.forall₂_map_right_iff.mpr (all.imp fun _ _ gives ↦ gives.1))
  have apart : (entries.map fun e ↦ textOf e.1).Pairwise
      fun x y ↦ ∀ name, x = .ok name → y ≠ .ok name := List.pairwise_map.mpr once
  rw [keys] at apart
  refine List.pairwise_map.mpr ((List.pairwise_map.mp apart).imp fun differ same ↦ ?_)
  exact differ _ rfl (congrArg _ same.symm)

/-- Lists for different consumers may be given in any order. -/
theorem readRules_perm {entries entries' : List (Node × Node)} (perm : entries.Perm entries')
    (once : entries.Pairwise (Apart textOf)) :
    Agree (readRules .empty entries) (readRules .empty entries') := by
  have oneWay {es es' : List (Node × Node)} (perm : es.Perm es')
      (once : es.Pairwise (Apart textOf)) {rules : RawRules}
      (h : readRules .empty es = .ok rules) : readRules .empty es' = .ok rules := by
    obtain ⟨given, all, rfl⟩ := readRules_empty_eq_ok_iff.mp h
    obtain ⟨given', all', perm'⟩ := List.perm_comp_forall₂ perm.symm all
    refine readRules_empty_eq_ok_iff.mpr ⟨given', all', ?_⟩
    exact (TextMap.SameByKey.of_perm perm'.symm (nodup_consumers all once)).ofList_eq
  have once' := (perm.pairwise_iff Apart.symm).mp once
  exact fun rules ↦ ⟨oneWay perm once, oneWay perm.symm once'⟩

theorem exists_append_of_forall₂ {α β : Type} {R : α → β → Prop} {xs ys : List α} {zs : List β}
    (h : List.Forall₂ R (xs ++ ys) zs) :
    ∃ us vs, zs = us ++ vs ∧ List.Forall₂ R xs us ∧ List.Forall₂ R ys vs :=
  ⟨_, _, (List.take_append_drop xs.length zs).symm,
    (List.forall₂_take_append zs xs ys h.flip).flip,
    (List.forall₂_drop_append zs xs ys h.flip).flip⟩

/-- A list that is given for a consumer before another one does not count. -/
theorem readRules_of_overridden {before after : List (Node × Node)} {k v : Node}
    {consumer : String} {patterns : List String} (gives : Gives (k, v) (consumer, patterns))
    (later : ∃ e ∈ after, textOf e.1 = .ok consumer) :
    Agree (readRules .empty (before ++ (k, v) :: after))
      (readRules .empty (before ++ after)) := by
  -- What the later entry gives is the list that counts.
  have later' {given : List (String × List String)} (all : List.Forall₂ Gives after given) :
      ∃ r ∈ given, r.1 = consumer := by
    obtain ⟨e, he, named⟩ := later
    obtain ⟨i, hi, rfl⟩ := List.getElem_of_mem he
    have hr : i < given.length := all.length_eq ▸ hi
    refine ⟨given[i], List.getElem_mem hr, ?_⟩
    exact Except.ok.inj ((all.get hi hr).1.symm.trans named)
  intro rules
  rw [readRules_empty_eq_ok_iff, readRules_empty_eq_ok_iff]
  constructor
  · rintro ⟨given, all, rfl⟩
    obtain ⟨first, rest, rfl, allFirst, allRest⟩ := exists_append_of_forall₂ all
    obtain ⟨⟨c, ps⟩, last, own, allLast, rfl⟩ := List.forall₂_cons_left_iff.mp allRest
    cases own.1.symm.trans gives.1
    exact ⟨first ++ last, List.rel_append allFirst allLast,
      TextMap.ofList_of_replaced _ (later' allLast)⟩
  · rintro ⟨given, all, rfl⟩
    obtain ⟨first, last, rfl, allFirst, allLast⟩ := exists_append_of_forall₂ all
    exact ⟨first ++ (consumer, patterns) :: last, List.rel_append allFirst (.cons gives allLast),
      (TextMap.ofList_of_replaced _ (later' allLast)).symm⟩

end Gatehouse.Config

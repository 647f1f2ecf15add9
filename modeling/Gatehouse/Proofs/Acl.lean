import Gatehouse.Acl.Document
import Gatehouse.Proofs.Pattern
import Gatehouse.Proofs.Text.ByteOrder
import Gatehouse.Proofs.TextMap

/-!
# What an access list decides

A compiled list decides as one reads the raw rules. Rules with a bad pattern do not compile, and
the fault is about the first consumer that has one.
-/

namespace Gatehouse.Acl

open Pattern (IsPattern Grants)

/-- The rules list the pattern for the consumer. -/
def Lists (raw : RawRules) (consumer source : String) : Prop :=
  ∃ sources, raw.get? consumer = some sources ∧ source ∈ sources

/-- What raw rules say about a call. -/
inductive Ruling (raw : RawRules) (consumer method : String) : Decision → Prop
  | unknown (h : raw.get? consumer = none) : Ruling raw consumer method (.deny .unknownConsumer)
  | allow (source : String) (listed : Lists raw consumer source) (grants : Grants source method) :
    Ruling raw consumer method .allow
  | refuse (known : raw.get? consumer ≠ none)
      (h : ∀ source, Lists raw consumer source → ¬Grants source method) :
    Ruling raw consumer method (.deny .methodNotPermitted)

/-- The consumer is the first, by the bytes of its name, whose list has a bad pattern, and the
cause is what is wrong with the first one of its list. -/
structure FirstBad (raw : RawRules) (consumer : String) (cause : Pattern.Invalid) : Prop where
  first_pattern : ∃ good bad rest, raw.get? consumer = some (good ++ bad :: rest) ∧
    (∀ s ∈ good, IsPattern s) ∧ Pattern.compile bad = .error cause
  first_consumer : ∀ c s, bytes c < bytes consumer → Lists raw c s → IsPattern s

/-- Good entries compile, each to what its own patterns compile to. -/
theorem compileEntries_of_good {es : List (String × List String)}
    (asc : es.Pairwise fun a b ↦ a.1 < b.1) (good : ∀ e ∈ es, ∀ s ∈ e.2, IsPattern s)
    (rules : TextMap (List Pattern)) :
    ∃ rules', compileEntries rules es = .ok rules' ∧ ∀ c, rules'.get? c =
      (TextMap.lookup c es).elim (rules.get? c) fun sources ↦
        (Pattern.compileAll sources).toOption := by
  induction es generalizing rules with
  | nil => exact ⟨rules, rfl, fun _ ↦ rfl⟩
  | cons e es ih =>
    obtain ⟨consumer, sources⟩ := e
    obtain ⟨hlt, asc⟩ := List.pairwise_cons.mp asc
    obtain ⟨hsources, good⟩ := List.forall_mem_cons.mp good
    obtain ⟨ps, hps, -⟩ := Pattern.compileAll_of_good hsources
    obtain ⟨rules', hrules, hget⟩ := ih asc good (rules.insert consumer ps)
    refine ⟨rules', ?_, fun c ↦ ?_⟩
    · rw [compileEntries, hps]
      exact hrules
    · rw [hget, TextMap.lookup, TextMap.get?_insert]
      by_cases hc : c = consumer
      · -- no later entry is for the same consumer
        have hnone : TextMap.lookup c es = none := by
          apply TextMap.lookup_eq_none
          intro e he heq
          have hlt := hlt e he
          rw [heq, hc] at hlt
          exact String.lt_irrefl _ hlt
        rw [hnone, if_pos hc, if_pos hc, Option.elim_none, Option.elim_some, hps]
        rfl
      · rw [if_neg hc, if_neg hc]

/-- The first bad entry fails the compilation. -/
theorem compileEntries_of_bad {before : List (String × List String)}
    (good : ∀ e ∈ before, ∀ s ∈ e.2, IsPattern s) {consumer : String} {sources : List String}
    {cause : Pattern.Invalid} (bad : Pattern.compileAll sources = .error cause)
    (after : List (String × List String)) (rules : TextMap (List Pattern)) :
    compileEntries rules (before ++ (consumer, sources) :: after) = .error ⟨consumer, cause⟩ := by
  induction before generalizing rules with
  | nil => rw [List.nil_append, compileEntries, bad]
  | cons e before ih =>
    obtain ⟨c, patterns⟩ := e
    obtain ⟨hpatterns, good⟩ := List.forall_mem_cons.mp good
    obtain ⟨ps, hps, -⟩ := Pattern.compileAll_of_good hpatterns
    rw [List.cons_append, compileEntries, hps]
    exact ih good _

variable {raw : RawRules}

/-- Rules without a bad pattern compile to a list that decides as they say. -/
theorem compile_of_good (good : ∀ c s, Lists raw c s → IsPattern s) :
    ∃ acl, compile raw = .ok acl ∧ ∀ c m, Ruling raw c m (acl.judge c m) := by
  have hentries : ∀ e ∈ raw.entries, ∀ s ∈ e.2, IsPattern s := by
    rintro ⟨c, sources⟩ he s hs
    exact good c s ⟨sources, TextMap.mem_entries_iff.mp he, hs⟩
  obtain ⟨rules, hrules, hget⟩ := compileEntries_of_good raw.ascending hentries .empty
  refine ⟨⟨rules⟩, ?_, fun c m ↦ ?_⟩
  · rw [compile, ofRules, hrules]
    rfl
  · rw [judge]
    have hfound := hget c
    change _ = (raw.get? c).elim _ _ at hfound
    cases hraw : raw.get? c with
    | none =>
      rw [hraw, Option.elim_none, TextMap.get?_empty] at hfound
      rw [hfound]
      exact .unknown hraw
    | some sources =>
      have hgood : ∀ s ∈ sources, IsPattern s := fun s hs ↦ good c s ⟨sources, hraw, hs⟩
      obtain ⟨ps, hps, hcovers⟩ := Pattern.compileAll_of_good hgood
      rw [hraw, Option.elim_some, hps, Except.toOption] at hfound
      rw [hfound]
      simp only
      split
      · next hany =>
        obtain ⟨s, hs, hgrants⟩ := (hcovers m).mp hany
        exact .allow s ⟨sources, hraw, hs⟩ hgrants
      · next hany =>
        refine .refuse (by simp [hraw]) ?_
        rintro s ⟨sources', hraw', hs⟩ hgrants
        rw [hraw] at hraw'
        cases hraw'
        exact hany ((hcovers m).mpr ⟨s, hs, hgrants⟩)

/-- The first bad consumer fails the rules. -/
theorem compile_of_firstBad {consumer : String} {cause : Pattern.Invalid}
    (h : FirstBad raw consumer cause) : compile raw = .error (Invalid.mk consumer cause).fault := by
  obtain ⟨good, bad, rest, hraw, hgood, hbad⟩ := h.first_pattern
  obtain ⟨before, after, hsplit⟩ := List.append_of_mem (TextMap.mem_entries_iff.mpr hraw)
  have hbefore : ∀ e ∈ before, ∀ s ∈ e.2, IsPattern s := by
    rintro ⟨c, sources⟩ he s hs
    have hasc := raw.ascending
    rw [hsplit] at hasc
    have hlt : c < consumer := (List.pairwise_append.mp hasc).2.2 _ he _ List.mem_cons_self
    have hget : raw.get? c = some sources := by
      apply TextMap.mem_entries_iff.mp
      rw [hsplit]
      exact List.mem_append_left _ he
    exact h.first_consumer c s (lt_iff_bytes_lt.mp hlt) ⟨sources, hget, hs⟩
  rw [compile, ofRules, hsplit,
    compileEntries_of_bad hbefore (Pattern.compileAll_of_bad hgood hbad rest)]
  rfl

/-- Rules with a bad pattern have a first bad consumer. -/
theorem good_or_firstBad (raw : RawRules) :
    (∀ c s, Lists raw c s → IsPattern s) ∨ ∃ consumer cause, FirstBad raw consumer cause := by
  rcases forall_or_first (fun e : String × List String ↦ ∀ s ∈ e.2, IsPattern s) raw.entries with
    hall | ⟨before, ⟨consumer, sources⟩, after, hsplit, hbefore, hbad⟩
  · left
    rintro c s ⟨sources, hraw, hs⟩
    exact hall (c, sources) (TextMap.mem_entries_iff.mpr hraw) s hs
  · right
    obtain hall | ⟨good, bad, rest, rfl, hgood, hbad'⟩ := forall_or_first IsPattern sources
    · exact absurd hall hbad
    refine ⟨consumer, Pattern.complaint bad, ⟨good, bad, rest, ?_, hgood,
      Pattern.compile_of_not_isPattern hbad'⟩, ?_⟩
    · apply TextMap.mem_entries_iff.mp
      rw [hsplit]
      exact List.mem_append_right _ List.mem_cons_self
    · rintro c s hlt ⟨sources, hraw, hs⟩
      have hmem := TextMap.mem_entries_iff.mpr hraw
      have hasc := raw.ascending
      rw [hsplit] at hmem hasc
      rcases List.mem_append.mp hmem with hm | hm
      · exact hbefore _ hm s hs
      · -- the bad consumer and those after it are not smaller than it
        rw [← lt_iff_bytes_lt] at hlt
        rcases List.mem_cons.mp hm with he | hm
        · rw [(Prod.mk.inj he).1] at hlt
          exact absurd hlt (String.lt_irrefl _)
        · have hgt := (List.pairwise_cons.mp (List.pairwise_append.mp hasc).2.1).1 _ hm
          exact absurd hlt (String.lt_asymm hgt)

/-- Rules say one thing about a call. -/
theorem Ruling.unique {c m : String} {d d' : Decision} (h : Ruling raw c m d)
    (h' : Ruling raw c m d') : d = d' := by
  have known {s : String} (hs : Lists raw c s) : raw.get? c ≠ none := by
    obtain ⟨sources, hraw, -⟩ := hs
    simp [hraw]
  cases h with
  | unknown h =>
    cases h' with
    | unknown => rfl
    | allow s listed => exact absurd h (known listed)
    | refuse hk => exact absurd h hk
  | allow s listed grants =>
    cases h' with
    | unknown h => exact absurd h (known listed)
    | allow => rfl
    | refuse _ h => exact absurd grants (h s listed)
  | refuse hk h =>
    cases h' with
    | unknown h => exact absurd h hk
    | allow s listed grants => exact absurd grants (h s listed)
    | refuse => rfl

/-- A compiled list decides as the rules say. -/
theorem judge_eq_iff {acl : Acl} (h : compile raw = .ok acl) {c m : String} {d : Decision} :
    acl.judge c m = d ↔ Ruling raw c m d := by
  rcases good_or_firstBad raw with hgood | ⟨consumer, cause, hbad⟩
  · obtain ⟨acl', hok, hruling⟩ := compile_of_good hgood
    rw [h] at hok
    cases hok
    constructor
    · rintro rfl
      exact hruling c m
    · exact (hruling c m).unique
  · rw [compile_of_firstBad hbad] at h
    cases h

theorem isPattern_of_compile {acl : Acl} (h : compile raw = .ok acl) {c s : String}
    (listed : Lists raw c s) : IsPattern s := by
  refine (good_or_firstBad raw).elim (fun good ↦ good c s listed) ?_
  rintro ⟨consumer, cause, hbad⟩
  rw [compile_of_firstBad hbad] at h
  cases h

/-- A compiled list has for each consumer what the list of the rules compiles to. -/
theorem get?_rules_iff {acl : Acl} (h : compile raw = .ok acl) {c : String} {ps : List Pattern} :
    acl.rules.get? c = some ps ↔
      ∃ sources, raw.get? c = some sources ∧ Pattern.compileAll sources = .ok ps := by
  have good : ∀ e ∈ raw.entries, ∀ s ∈ e.2, IsPattern s := fun e he s hs ↦
    isPattern_of_compile h ⟨e.2, TextMap.mem_entries_iff.mp he, hs⟩
  obtain ⟨rules, hrules, hget⟩ := compileEntries_of_good raw.ascending good .empty
  rw [compile, ofRules, hrules] at h
  cases h
  change rules.get? c = _ ↔ _
  rw [hget]
  change (raw.get? c).elim none _ = _ ↔ _
  cases raw.get? c with
  | none => simp
  | some sources =>
    simp only [Option.elim_some, Option.some.injEq, exists_eq_left']
    cases Pattern.compileAll sources <;> simp [Except.toOption]

/-- A compiled list holds the patterns that the rules list, and no others. -/
theorem mem_rules_iff {acl : Acl} (h : compile raw = .ok acl) {c : String} {p : Pattern} :
    (∃ ps, acl.rules.get? c = some ps ∧ p ∈ ps) ↔ p.WellFormed ∧ Lists raw c p.text := by
  constructor
  · rintro ⟨ps, found, hp⟩
    obtain ⟨sources, hraw, hps⟩ := (get?_rules_iff h).mp found
    obtain ⟨w, hs⟩ := ((Pattern.nodup_and_mem_iff_of_compileAll hps).2 p).mp hp
    exact ⟨w, sources, hraw, hs⟩
  · rintro ⟨w, sources, hraw, hs⟩
    have good : ∀ s ∈ sources, IsPattern s := fun s hs ↦
      isPattern_of_compile h ⟨sources, hraw, hs⟩
    obtain ⟨ps, hps, -⟩ := Pattern.compileAll_of_good good
    exact ⟨ps, (get?_rules_iff h).mpr ⟨sources, hraw, hps⟩,
      ((Pattern.nodup_and_mem_iff_of_compileAll hps).2 p).mpr ⟨w, hs⟩⟩

theorem compile_eq_error_iff {fault : Fault} : compile raw = .error fault ↔
    ∃ consumer cause, FirstBad raw consumer cause ∧ fault = (Invalid.mk consumer cause).fault := by
  constructor
  · intro h
    rcases good_or_firstBad raw with hgood | ⟨consumer, cause, hbad⟩
    · obtain ⟨acl, hok, -⟩ := compile_of_good hgood
      rw [h] at hok
      cases hok
    · rw [compile_of_firstBad hbad] at h
      cases h
      exact ⟨consumer, cause, hbad, rfl⟩
  · rintro ⟨consumer, cause, hbad, rfl⟩
    exact compile_of_firstBad hbad

/-- The fault of rules that do not compile begins with words of its own. -/
theorem exists_text_of_compile {fault : Fault} (h : compile raw = .error fault) :
    ∃ rest, fault = .config ("acl compile failed (consumer=" ++ rest) := by
  obtain ⟨consumer, cause, -, rfl⟩ := compile_eq_error_iff.mp h
  exact ⟨consumer ++ ("): " ++ cause.fault.message), by simp [Invalid.fault, String.append_assoc]⟩

/-- Rules that do not compile are not mistaken for a fault with other words. -/
theorem compile_ne {text : String} (h : ¬"acl compile".toList <+: text.toList) :
    compile raw ≠ .error (.config text) := by
  intro failed
  obtain ⟨rest, same⟩ := exists_text_of_compile failed
  obtain rfl := Fault.config.inj same
  exact h ⟨" failed (consumer=".toList ++ rest.toList, by simp⟩

/-- Rules compile when each pattern of each consumer is one, and else the fault is about the first
bad pattern of the first bad consumer. The compiled list decides as the rules say. So a decision
depends on nothing but whether the consumer is known and which patterns are listed for it, and more
patterns allow no less. -/
theorem compile_decides_as_written (raw : RawRules) :
    ((∃ acl, compile raw = .ok acl) ↔ ∀ c s, Lists raw c s → IsPattern s) ∧
    (∀ fault, compile raw = .error fault ↔ ∃ consumer cause, FirstBad raw consumer cause ∧
      fault = .config ("acl compile failed (consumer=" ++ consumer ++ "): " ++
        cause.fault.message)) ∧
    (∀ acl, compile raw = .ok acl → ∀ c m d, acl.judge c m = d ↔ Ruling raw c m d) ∧
    (∀ raw' acl acl' c, compile raw = .ok acl → compile raw' = .ok acl' →
      (∀ s, Lists raw c s → Lists raw' c s) →
        (∀ m, acl.judge c m = .allow → acl'.judge c m = .allow) ∧
        ((∀ s, Lists raw' c s → Lists raw c s) → (raw.get? c = none ↔ raw'.get? c = none) →
          ∀ m, acl.judge c m = acl'.judge c m)) := by
  refine ⟨?_, fun fault ↦ compile_eq_error_iff, fun acl h c m d ↦ judge_eq_iff h, ?_⟩
  · constructor
    · rintro ⟨acl, h⟩
      refine (good_or_firstBad raw).resolve_right ?_
      rintro ⟨consumer, cause, hbad⟩
      rw [compile_of_firstBad hbad] at h
      cases h
    · intro good
      obtain ⟨acl, h, -⟩ := compile_of_good good
      exact ⟨acl, h⟩
  · intro raw' acl acl' c h h' more
    constructor
    · intro m hallow
      cases (judge_eq_iff h).mp hallow with
      | allow s listed grants => exact (judge_eq_iff h').mpr (.allow s (more s listed) grants)
    · intro less known m
      apply (judge_eq_iff h).mpr
      cases hd : acl'.judge c m with
      | allow =>
        cases (judge_eq_iff h').mp hd with
        | allow s listed grants => exact .allow s (less s listed) grants
      | deny why =>
        cases (judge_eq_iff h').mp hd with
        | unknown hu => exact .unknown (known.mpr hu)
        | refuse hk hn =>
          exact .refuse (fun hu ↦ hk (known.mp hu)) fun s listed ↦ hn s (more s listed)

/-- A rule more, written around the old one, takes nothing away. -/
theorem compile_decides_as_written_of_more :
    let raw := TextMap.ofList [("c2", []), ("c1", ["/Biz/*"])]
    let raw' := TextMap.ofList [("c1", ["/Admin/Logging", "/Biz/*", "/Biz/*"])]
    let acl : Acl := ⟨.ofList [("c2", []), ("c1", [.beginning "/Biz/"])]⟩
    let acl' : Acl := ⟨.ofList [("c1", [.exact "/Admin/Logging", .beginning "/Biz/"])]⟩
    compile raw = .ok acl ∧ compile raw' = .ok acl' ∧
      (∀ s, Lists raw "c1" s → Lists raw' "c1" s) ∧
      acl.judge "c1" "/Biz/Add" = .allow ∧ acl'.judge "c1" "/Biz/Add" = .allow ∧
      Ruling raw "c2" "/Biz/Add" (.deny .methodNotPermitted) := by
  intro raw raw' acl acl'
  have h : compile raw = .ok acl := rfl
  have h' : compile raw' = .ok acl' := rfl
  have more : ∀ s, Lists raw "c1" s → Lists raw' "c1" s := by
    rintro s ⟨sources, hraw, hs⟩
    cases hraw
    rw [List.mem_singleton] at hs
    exact ⟨_, rfl, by simp [hs]⟩
  have hallow : acl.judge "c1" "/Biz/Add" = .allow := by decide
  have written := compile_decides_as_written raw
  exact ⟨h, h', more, hallow, (written.2.2.2 raw' acl acl' "c1" h h' more).1 "/Biz/Add" hallow,
    (written.2.2.1 acl h "c2" "/Biz/Add" _).mp (by decide)⟩

example : compile (.ofList [("c2", [""]), ("c1", ["/Biz/Add", "/*/Add", ""])]) =
    .error (.config ("acl compile failed (consumer=c1): config: invalid method pattern: " ++
      "/*/Add (wildcard must be the last character)")) := rfl

end Gatehouse.Acl

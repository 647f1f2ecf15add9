import Gatehouse.Pattern
import Gatehouse.Proofs.MethodPath

/-!
# What patterns mean

A text compiles when it is not empty and has no `*` before its last character. The compiled pattern
restores its source, and it covers the methods that one reads off the source.
-/

namespace Gatehouse

/-- Either all members of a list are as wanted, or there is a first one that is not. -/
theorem forall_or_first {α : Type} (p : α → Prop) (xs : List α) :
    (∀ x ∈ xs, p x) ∨
      ∃ before x after, xs = before ++ x :: after ∧ (∀ y ∈ before, p y) ∧ ¬p x := by
  induction xs with
  | nil => exact .inl fun _ h ↦ absurd h List.not_mem_nil
  | cons x xs ih =>
    rcases Classical.em (p x) with hx | hx
    · rcases ih with hall | ⟨before, y, after, rfl, hbefore, hy⟩
      · exact .inl (List.forall_mem_cons.mpr ⟨hx, hall⟩)
      · exact .inr ⟨x :: before, y, after, rfl, List.forall_mem_cons.mpr ⟨hx, hbefore⟩, hy⟩
    · exact .inr ⟨[], x, xs, rfl, fun _ h ↦ absurd h List.not_mem_nil, hx⟩

namespace Pattern

/-- The text is a pattern: it is not empty and has no `*` before its last character. -/
structure IsPattern (raw : String) : Prop where
  ne_empty : raw ≠ ""
  star_last : '*' ∉ raw.toList.dropLast

/-- The pattern has no `*` of its own, and the one method it may name is not empty. -/
def WellFormed : Pattern → Prop
  | .exact method => method ≠ "" ∧ '*' ∉ method.toList
  | .beginning start => '*' ∉ start.toList

/-- What a source grants, as one reads it: without a `*` the method that it spells, and with a `*`
at its end all methods that begin with the text before it. -/
inductive Grants (raw method : String) : Prop
  | exact (plain : '*' ∉ raw.toList) (same : raw = method)
  | beginning (start : String) (star : raw = start ++ "*")
      (begins : start.toList <+: method.toList)

/-- The complaint about a text that is no pattern. -/
def complaint (raw : String) : Invalid := if raw = "" then .empty else .wildcard raw

theorem starOffset_of_not_mem {cs : List Char} (h : '*' ∉ cs) : starOffset cs = none := by
  induction cs with
  | nil => rfl
  | cons c cs ih =>
    rw [List.mem_cons, not_or] at h
    rw [starOffset, if_neg (Ne.symm h.1), ih h.2, Option.map_none]

/-- The first `*` is found at the end of the bytes of the characters before. -/
theorem starOffset_append {start : List Char} (h : '*' ∉ start) (rest : List Char) :
    starOffset (start ++ '*' :: rest) = some (String.ofList start).utf8ByteSize := by
  induction start with
  | nil => rfl
  | cons c start ih =>
    rw [List.mem_cons, not_or] at h
    rw [List.cons_append, starOffset, if_neg (Ne.symm h.1), ih h.2, Option.map_some,
      String.ofList_cons, String.utf8ByteSize_append, String.utf8ByteSize_singleton]

/-- A text with a `*` has a first one. -/
theorem exists_first_star {raw : String} (h : '*' ∈ raw.toList) :
    ∃ start rest, raw = start ++ "*" ++ rest ∧ '*' ∉ start.toList := by
  obtain ⟨start, rest, hraw, hstart⟩ := List.eq_append_cons_of_mem h
  refine ⟨String.ofList start, String.ofList rest, ?_, by rwa [String.toList_ofList]⟩
  rw [← String.toList_inj, hraw]
  simp

theorem starOffset_star {start : String} (h : '*' ∉ start.toList) (rest : String) :
    starOffset (start ++ "*" ++ rest).toList = some start.utf8ByteSize := by
  have chars : (start ++ "*" ++ rest).toList = start.toList ++ '*' :: rest.toList := by simp
  rw [chars, starOffset_append h, String.ofList_toList]

/-- The bytes of the beginning of a text are whole characters. -/
theorem cuts_start (start rest : String) :
    MethodPath.Cuts (start ++ rest) 0 start.utf8ByteSize := by
  have part := MethodPath.cuts_part "" start rest
  rwa [String.empty_append, String.utf8ByteSize_empty, Nat.zero_add] at part

/-- The bytes of the beginning of a text are that beginning. -/
theorem extract_start (start rest : String) :
    String.Pos.Raw.extract (start ++ rest) ⟨0⟩ ⟨start.utf8ByteSize⟩ = start := by
  have part := MethodPath.extract_part "" start rest
  rwa [String.empty_append, String.utf8ByteSize_empty, Nat.zero_add] at part

/-- A text compiles to what is before its first `*` if nothing is behind it. -/
theorem compile_star {start : String} (h : '*' ∉ start.toList) (rest : String) :
    compile (start ++ "*" ++ rest) =
      if rest = "" then .ok (.beginning start) else .error (.wildcard (start ++ "*" ++ rest)) := by
  have hne : start ++ "*" ++ rest ≠ "" := by
    intro empty
    have star := (String.append_eq_empty_iff.mp (String.append_eq_empty_iff.mp empty).1).2
    exact absurd star (by decide)
  have size : (start ++ "*" ++ rest).utf8ByteSize =
      start.utf8ByteSize + '*'.utf8Size + rest.utf8ByteSize := by
    rw [String.utf8ByteSize_append, String.utf8ByteSize_append]
    rfl
  have last : start.utf8ByteSize + '*'.utf8Size = (start ++ "*" ++ rest).utf8ByteSize ↔
      rest = "" := by
    rw [size, ← String.utf8ByteSize_eq_zero_iff]
    omega
  have cut : String.Pos.Raw.extract (start ++ "*" ++ rest) ⟨0⟩ ⟨start.utf8ByteSize⟩ = start := by
    rw [String.append_assoc]
    exact extract_start start _
  rw [compile, if_neg hne, starOffset_star h]
  simp only [last, cut]

theorem toList_text_beginning (start : String) :
    (beginning start).text.toList = start.toList ++ ['*'] := by
  rw [text, String.toList_append]
  rfl

/-- A pattern's text compiles to the pattern. -/
theorem compile_text {p : Pattern} (w : p.WellFormed) : compile p.text = .ok p := by
  cases p with
  | exact method => rw [text, compile, if_neg w.1, starOffset_of_not_mem w.2]
  | beginning start =>
    have compiled := compile_star w ""
    rwa [String.append_empty, if_pos rfl] at compiled

/-- A pattern's text is a pattern. -/
theorem isPattern_text {p : Pattern} (w : p.WellFormed) : IsPattern p.text := by
  cases p with
  | exact method => exact ⟨w.1, fun h ↦ w.2 (List.dropLast_subset _ h)⟩
  | beginning start =>
    constructor
    · rw [Ne, ← String.toList_eq_nil_iff, toList_text_beginning]
      simp
    · rw [toList_text_beginning, List.dropLast_concat]
      exact w

/-- Every pattern is the text of a compiled one. -/
theorem IsPattern.exists_text {raw : String} (h : IsPattern raw) :
    ∃ p : Pattern, p.WellFormed ∧ p.text = raw := by
  by_cases hstar : '*' ∈ raw.toList
  · have hne : raw.toList ≠ [] := List.ne_nil_of_mem hstar
    have hsplit := List.dropLast_concat_getLast hne
    have hlast : raw.toList.getLast hne = '*' := by
      rw [← hsplit, List.mem_append, List.mem_singleton] at hstar
      exact (hstar.resolve_left h.star_last).symm
    refine ⟨.beginning (String.ofList raw.toList.dropLast), ?_, ?_⟩
    · rw [WellFormed, String.toList_ofList]
      exact h.star_last
    · rw [← String.toList_inj, toList_text_beginning, String.toList_ofList, ← hlast, hsplit]
  · exact ⟨.exact raw, ⟨h.ne_empty, hstar⟩, rfl⟩

/-- The patterns are the texts of compiled ones. -/
theorem isPattern_iff {raw : String} :
    IsPattern raw ↔ ∃ p : Pattern, p.WellFormed ∧ p.text = raw := by
  constructor
  · exact IsPattern.exists_text
  · rintro ⟨p, w, rfl⟩
    exact isPattern_text w

/-- A text that is no pattern is complained about. -/
theorem compile_of_not_isPattern {raw : String} (h : ¬IsPattern raw) :
    compile raw = .error (complaint raw) := by
  rw [complaint]
  split
  · next hempty => rw [compile, if_pos hempty]
  · next hne =>
    by_cases hstar : '*' ∈ raw.toList
    · obtain ⟨start, rest, rfl, hstart⟩ := exists_first_star hstar
      rw [compile_star hstart, if_neg]
      rintro rfl
      exact h ⟨hne, by simpa using hstart⟩
    · exact absurd ⟨hne, fun hm ↦ hstar (List.dropLast_subset _ hm)⟩ h

/-- A text compiles to the well-formed pattern that it is the text of. -/
theorem compile_eq_ok_iff {raw : String} {p : Pattern} :
    compile raw = .ok p ↔ p.WellFormed ∧ p.text = raw := by
  constructor
  · intro h
    by_cases hraw : IsPattern raw
    · obtain ⟨q, w, rfl⟩ := hraw.exists_text
      rw [compile_text w] at h
      cases h
      exact ⟨w, rfl⟩
    · rw [compile_of_not_isPattern hraw] at h
      cases h
  · rintro ⟨w, rfl⟩
    exact compile_text w

theorem compile_eq_error_iff {raw : String} {cause : Invalid} :
    compile raw = .error cause ↔ ¬IsPattern raw ∧ cause = complaint raw := by
  constructor
  · intro h
    by_cases hraw : IsPattern raw
    · obtain ⟨q, w, rfl⟩ := hraw.exists_text
      rw [compile_text w] at h
      cases h
    · rw [compile_of_not_isPattern hraw] at h
      cases h
      exact ⟨hraw, rfl⟩
  · rintro ⟨h, rfl⟩
    exact compile_of_not_isPattern h

theorem exists_compile_iff {raw : String} : (∃ p, compile raw = .ok p) ↔ IsPattern raw := by
  simp only [compile_eq_ok_iff, isPattern_iff]

/-- A compiled pattern covers what its source grants. -/
theorem covers_iff {p : Pattern} (w : p.WellFormed) {method : String} :
    p.covers method = true ↔ Grants p.text method := by
  cases p with
  | exact m =>
    rw [covers, beq_iff_eq]
    constructor
    · exact .exact w.2
    · rintro (⟨_, same⟩ | ⟨start, star, _⟩)
      · exact same
      · have hm : m = start ++ "*" := star
        have hstar : '*' ∈ m.toList := by simp [hm]
        exact absurd hstar w.2
  | beginning start =>
    rw [covers, List.isPrefixOf_iff_prefix]
    constructor
    · exact .beginning start rfl
    · rintro (⟨plain, _⟩ | ⟨start', star, begins⟩)
      · rw [toList_text_beginning] at plain
        simp at plain
      · have heq : start = start' := (String.append_left_inj "*").mp star
        rw [heq]
        exact begins

/-! ### Lists of patterns -/

/-- The patterns are those of the sources, each once, in the order in which their sources stand
first. -/
structure Collects (sources : List String) (ps : List Pattern) : Prop where
  mem_iff : ∀ p, p ∈ ps ↔ p.WellFormed ∧ p.text ∈ sources
  ordered : ps.Pairwise fun p q ↦ sources.idxOf p.text < sources.idxOf q.text

namespace Collects

variable {sources : List String} {ps : List Pattern}

theorem nil : Collects [] [] := ⟨by simp, .nil⟩

theorem nodup (h : Collects sources ps) : ps.Nodup := by
  refine h.ordered.imp fun lt same ↦ ?_
  rw [same] at lt
  exact Nat.lt_irrefl _ lt

/-- One more source adds its pattern at the end, unless an equal source stood before. -/
theorem step (h : Collects sources ps) {q : Pattern} (w : q.WellFormed) :
    Collects (sources ++ [q.text]) (if q ∈ ps then ps else ps ++ [q]) := by
  have old {p : Pattern} (hp : p ∈ ps) :
      (sources ++ [q.text]).idxOf p.text = sources.idxOf p.text :=
    List.idxOf_append_of_mem ((h.mem_iff p).mp hp).2
  have ordered : ps.Pairwise fun p p' ↦
      (sources ++ [q.text]).idxOf p.text < (sources ++ [q.text]).idxOf p'.text :=
    h.ordered.imp_of_mem fun hp hp' lt ↦ by rwa [old hp, old hp']
  -- A pattern is determined by its source.
  have same {p : Pattern} (hp : p.WellFormed) : p.text = q.text ↔ p = q := by
    refine ⟨fun text ↦ ?_, congrArg Pattern.text⟩
    have compiled := compile_text hp
    rw [text, compile_text w] at compiled
    exact (Except.ok.inj compiled).symm
  have mem_iff (p : Pattern) :
      p.WellFormed ∧ p.text ∈ sources ++ [q.text] ↔ p ∈ ps ∨ p = q := by
    have own : p.WellFormed ∧ p = q ↔ p = q := and_iff_right_of_imp fun he ↦ he ▸ w
    rw [List.mem_append, List.mem_singleton, h.mem_iff, and_or_left, and_congr_right same, own]
  split
  · next known =>
    refine ⟨fun p ↦ ?_, ordered⟩
    rw [mem_iff, or_iff_left_of_imp]
    rintro rfl
    exact known
  · next fresh =>
    have absent : q.text ∉ sources := fun hq ↦ fresh ((h.mem_iff q).mpr ⟨w, hq⟩)
    refine ⟨fun p ↦ ?_, List.pairwise_append.mpr ⟨ordered, List.pairwise_singleton _ q, ?_⟩⟩
    · rw [mem_iff, List.mem_append, List.mem_singleton]
    · intro p hp q' hq'
      rw [List.mem_singleton.mp hq', old hp, List.idxOf_append_of_notMem absent]
      exact Nat.lt_add_right _ (List.idxOf_lt_length_iff.mpr ((h.mem_iff p).mp hp).2)

/-- Compiling the sources of a list behind others collects the patterns of both. -/
theorem go (h : Collects sources ps) {more : List String} (good : ∀ s ∈ more, IsPattern s) :
    ∃ ps', compileAll.go ps more = .ok ps' ∧ Collects (sources ++ more) ps' := by
  induction more generalizing sources ps with
  | nil => exact ⟨ps, rfl, by rwa [List.append_nil]⟩
  | cons s more ih =>
    obtain ⟨first, rest⟩ := List.forall_mem_cons.mp good
    obtain ⟨q, w, rfl⟩ := first.exists_text
    obtain ⟨ps', compiled, collects⟩ := ih (h.step w) rest
    refine ⟨ps', ?_, by rwa [List.append_assoc] at collects⟩
    rw [compileAll.go, compile_text w]
    exact compiled

end Collects

private theorem go_of_bad {good : List String} (h : ∀ s ∈ good, IsPattern s) {bad : String}
    {cause : Invalid} (hb : compile bad = .error cause) (rest : List String)
    (kept : List Pattern) : compileAll.go kept (good ++ bad :: rest) = .error cause := by
  induction good generalizing kept with
  | nil => rw [List.nil_append, compileAll.go, hb]
  | cons s good ih =>
    obtain ⟨hs, hgood⟩ := List.forall_mem_cons.mp h
    obtain ⟨q, w, rfl⟩ := hs.exists_text
    rw [List.cons_append, compileAll.go, compile_text w]
    exact ih hgood _

/-- Good sources compile to the patterns that they collect. -/
theorem exists_compileAll {sources : List String} (h : ∀ s ∈ sources, IsPattern s) :
    ∃ ps, compileAll sources = .ok ps ∧ Collects sources ps :=
  Collects.nil.go h

/-- Patterns compile to a list that covers what any of them grants. -/
theorem compileAll_of_good {sources : List String} (h : ∀ s ∈ sources, IsPattern s) :
    ∃ ps, compileAll sources = .ok ps ∧
      ∀ method, anyCovers ps method = true ↔ ∃ s ∈ sources, Grants s method := by
  obtain ⟨ps, compiled, collects⟩ := exists_compileAll h
  refine ⟨ps, compiled, fun method ↦ ?_⟩
  rw [anyCovers, List.any_eq_true]
  constructor
  · rintro ⟨p, hp, hcovers⟩
    obtain ⟨w, hs⟩ := (collects.mem_iff p).mp hp
    exact ⟨p.text, hs, (covers_iff w).mp hcovers⟩
  · rintro ⟨s, hs, hgrants⟩
    obtain ⟨p, w, rfl⟩ := (h s hs).exists_text
    exact ⟨p, (collects.mem_iff p).mpr ⟨w, hs⟩, (covers_iff w).mpr hgrants⟩

/-- The first bad pattern fails a list. -/
theorem compileAll_of_bad {good : List String} (h : ∀ s ∈ good, IsPattern s) {bad : String}
    {cause : Invalid} (hb : compile bad = .error cause) (rest : List String) :
    compileAll (good ++ bad :: rest) = .error cause :=
  go_of_bad h hb rest []

/-- A list compiles if each source does, and then to what the sources collect. -/
theorem collects_of_compileAll {sources : List String} {ps : List Pattern}
    (h : compileAll sources = .ok ps) : (∀ s ∈ sources, IsPattern s) ∧ Collects sources ps := by
  rcases forall_or_first IsPattern sources with good | ⟨before, bad, after, rfl, hbefore, hbad⟩
  · obtain ⟨ps', compiled, collects⟩ := exists_compileAll good
    cases h.symm.trans compiled
    exact ⟨good, collects⟩
  · rw [compileAll_of_bad hbefore (compile_of_not_isPattern hbad) after] at h
    cases h

theorem exists_compileAll_iff {sources : List String} :
    (∃ ps, compileAll sources = .ok ps) ↔ ∀ s ∈ sources, IsPattern s := by
  constructor
  · rintro ⟨ps, h⟩
    exact (collects_of_compileAll h).1
  · intro good
    exact (exists_compileAll good).imp fun _ ↦ And.left

/-- A list fails as its first source that is no pattern. -/
theorem compileAll_eq_error_iff {sources : List String} {cause : Invalid} :
    compileAll sources = .error cause ↔ ∃ good bad rest, sources = good ++ bad :: rest ∧
      (∀ s ∈ good, IsPattern s) ∧ compile bad = .error cause := by
  constructor
  · intro h
    rcases forall_or_first IsPattern sources with good | ⟨good, bad, rest, rfl, hgood, hbad⟩
    · obtain ⟨ps, compiled, -⟩ := exists_compileAll good
      rw [h] at compiled
      cases compiled
    · have failed := compile_of_not_isPattern hbad
      rw [compileAll_of_bad hgood failed] at h
      cases h
      exact ⟨good, bad, rest, rfl, hgood, failed⟩
  · rintro ⟨good, bad, rest, rfl, hgood, failed⟩
    exact compileAll_of_bad hgood failed rest

/-- A compiled list holds each pattern that a source spells, and holds it once. -/
theorem nodup_and_mem_iff_of_compileAll {sources : List String} {ps : List Pattern}
    (h : compileAll sources = .ok ps) :
    ps.Nodup ∧ ∀ p, p ∈ ps ↔ p.WellFormed ∧ p.text ∈ sources :=
  have collects := (collects_of_compileAll h).2
  ⟨collects.nodup, collects.mem_iff⟩

private theorem go_texts {kept ps : List Pattern} (w : ∀ p ∈ ps, p.WellFormed)
    (distinct : (kept ++ ps).Nodup) :
    compileAll.go kept (ps.map text) = .ok (kept ++ ps) := by
  induction ps generalizing kept with
  | nil => rw [List.append_nil]; rfl
  | cons p ps ih =>
    obtain ⟨first, rest⟩ := List.forall_mem_cons.mp w
    have fresh : p ∉ kept := fun hp ↦
      (List.nodup_append.mp distinct).2.2 p hp p List.mem_cons_self rfl
    have split : kept ++ p :: ps = kept ++ [p] ++ ps := by simp
    rw [List.map_cons, compileAll.go, compile_text first]
    simp only [if_neg fresh]
    rw [split] at distinct ⊢
    exact ih rest distinct

/-- The texts of different patterns compile to these patterns. -/
theorem compileAll_texts {ps : List Pattern} (w : ∀ p ∈ ps, p.WellFormed) (distinct : ps.Nodup) :
    compileAll (ps.map text) = .ok ps :=
  go_texts w distinct

/-! ### Nothing is lost -/

/-- The text that a compiled pattern keeps. -/
def kept : Pattern → String
  | .exact method => method
  | .beginning start => start

theorem star_not_mem_kept {p : Pattern} (w : p.WellFormed) : '*' ∉ p.kept.toList := by
  cases p with
  | exact method => exact w.2
  | beginning start => exact w

/-- The bytes before the first `*` are whole characters, and they are all that is before it. -/
theorem cuts_of_starOffset {raw : String} {offset : Nat}
    (h : starOffset raw.toList = some offset) :
    MethodPath.Cuts raw 0 offset ∧ ∃ start rest, String.Pos.Raw.extract raw ⟨0⟩ ⟨offset⟩ = start ∧
      '*' ∉ start.toList ∧ start ++ "*" ++ rest = raw := by
  have star : '*' ∈ raw.toList := by
    by_contra absent
    rw [starOffset_of_not_mem absent] at h
    cases h
  obtain ⟨start, rest, rfl, before⟩ := exists_first_star star
  rw [starOffset_star before] at h
  cases h
  refine ⟨?_, start, rest, ?_, before, rfl⟩
  · rw [String.append_assoc]
    exact cuts_start _ _
  · rw [String.append_assoc]
    exact extract_start _ _

/-- A text compiles just if it is not empty and has no `*` before its last character. The pattern
that it compiles to restores it, so no two texts compile to one pattern, and keeps a text without
`*`, which is cut off between characters. A list compiles just if all of its texts do, fails as the
first of them that does not, and gives the different patterns in the order in which they stand
first; from their own texts these are compiled again. -/
theorem patterns_lose_nothing :
    (∀ raw, (∃ p, compile raw = .ok p) ↔ raw ≠ "" ∧ '*' ∉ raw.toList.dropLast) ∧
    (∀ raw p, compile raw = .ok p → p.text = raw ∧ '*' ∉ p.kept.toList) ∧
    (∀ raw raw' p, compile raw = .ok p → compile raw' = .ok p → raw = raw') ∧
    (∀ raw offset, starOffset raw.toList = some offset →
      MethodPath.Cuts raw 0 offset ∧
        ∃ start rest, String.Pos.Raw.extract raw ⟨0⟩ ⟨offset⟩ = start ∧ '*' ∉ start.toList ∧
          start ++ "*" ++ rest = raw) ∧
    (∀ raws, (∃ ps, compileAll raws = .ok ps) ↔ ∀ raw ∈ raws, ∃ p, compile raw = .ok p) ∧
    (∀ raws cause, compileAll raws = .error cause ↔
      ∃ good bad rest, raws = good ++ bad :: rest ∧ (∀ raw ∈ good, ∃ p, compile raw = .ok p) ∧
        compile bad = .error cause) ∧
    (∀ raws ps, compileAll raws = .ok ps →
      ps.Nodup ∧ (∀ p, p ∈ ps ↔ ∃ raw ∈ raws, compile raw = .ok p) ∧
        ps.Pairwise (fun p q ↦ raws.idxOf p.text < raws.idxOf q.text) ∧
        compileAll (ps.map text) = .ok ps) := by
  refine ⟨fun raw ↦ ?_, fun raw p h ↦ ?_, fun raw raw' p h h' ↦ ?_,
    fun raw offset ↦ cuts_of_starOffset, fun raws ↦ ?_, fun raws cause ↦ ?_, fun raws ps h ↦ ?_⟩
  · rw [exists_compile_iff]
    exact ⟨fun h ↦ ⟨h.ne_empty, h.star_last⟩, fun h ↦ ⟨h.1, h.2⟩⟩
  · obtain ⟨w, text⟩ := compile_eq_ok_iff.mp h
    exact ⟨text, star_not_mem_kept w⟩
  · exact (compile_eq_ok_iff.mp h).2.symm.trans (compile_eq_ok_iff.mp h').2
  · simp only [exists_compile_iff]
    exact exists_compileAll_iff
  · simp only [exists_compile_iff]
    exact compileAll_eq_error_iff
  · have collects := (collects_of_compileAll h).2
    refine ⟨collects.nodup, fun p ↦ ?_, collects.ordered, compileAll_texts
      (fun p hp ↦ ((collects.mem_iff p).mp hp).1) collects.nodup⟩
    simp only [collects.mem_iff, compile_eq_ok_iff]
    constructor
    · rintro ⟨w, hs⟩
      exact ⟨p.text, hs, w, rfl⟩
    · rintro ⟨_, hs, w, rfl⟩
      exact ⟨w, hs⟩

/-- A `*` behind characters of two bytes, a source that stands twice, and a list whose first bad
source is not its last. -/
theorem patterns_lose_nothing_of_umlauts :
    let ps := [beginning "/Größe/", exact "/ä", beginning ""]
    compileAll ["/Größe/*", "/ä", "/Größe/*", "*"] = .ok ps ∧
      compileAll ["/Größe/*", "/ä", "*"] = .ok ps ∧
      starOffset "/Größe/*".toList = some 9 ∧ MethodPath.Cuts "/Größe/*" 0 9 ∧
      compileAll ["/ä", "/ä*ö", ""] = .error (.wildcard "/ä*ö") := by
  intro ps
  obtain ⟨-, -, -, cut, -, fails, again⟩ := patterns_lose_nothing
  have compiled : compileAll ["/Größe/*", "/ä", "/Größe/*", "*"] = .ok ps := rfl
  have offset : starOffset "/Größe/*".toList = some 9 := rfl
  have good : ∀ raw ∈ ["/ä"], ∃ p, compile raw = .ok p :=
    List.forall_mem_singleton.mpr ⟨.exact "/ä", rfl⟩
  exact ⟨compiled, (again _ ps compiled).2.2.2, offset, (cut _ 9 offset).1,
    (fails _ _).mpr ⟨["/ä"], "/ä*ö", [""], rfl, good, rfl⟩⟩

end Pattern

end Gatehouse

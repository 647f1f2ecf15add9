import Mathlib.Data.String.Basic
import Gatehouse.MethodPath

/-!
# The grammar of method paths

Reading a text as a method path succeeds exactly on the texts of well-formed paths, and the path
that is read has the text it was read from. Everything else is one of four complaints.
-/

namespace Gatehouse.MethodPath

/-- Both segments are there, and each of their characters may stand in a segment. -/
structure WellFormed (p : MethodPath) : Prop where
  service_ne : p.service ≠ ""
  method_ne : p.method ≠ ""
  service_char : ∀ c ∈ p.service.toList, isSegmentChar c = true
  method_char : ∀ c ∈ p.method.toList, isSegmentChar c = true

/-- The text is that of a well-formed method path. -/
def IsPath (raw : String) : Prop := ∃ p : MethodPath, p.WellFormed ∧ p.text = raw

/-- A character stands in segments when it is no slash, no blank and no control character. -/
theorem isSegmentChar_iff {c : Char} :
    isSegmentChar c = true ↔ c ≠ '/' ∧ (Text.isBlank c || Text.isControl c) = false := by
  simp [isSegmentChar, and_assoc]

/-- The characters of a path's text. -/
theorem toList_text (p : MethodPath) :
    p.text.toList = '/' :: (p.service.toList ++ '/' :: p.method.toList) := by
  simp [text]

/-- Splitting cuts at the first slash and loses nothing else. -/
theorem splitSlash_eq_some_iff {cs service method : List Char} :
    splitSlash cs = some (service, method) ↔ cs = service ++ '/' :: method ∧ '/' ∉ service := by
  induction cs generalizing service with
  | nil => simp [splitSlash]
  | cons c rest ih =>
    rw [splitSlash]
    by_cases hc : c = '/'
    · subst hc
      cases service with
      | nil => simp [eq_comm]
      | cons d service =>
        constructor
        · intro h
          simp at h
        · rintro ⟨h, hs⟩
          have hd : '/' = d := (List.cons.inj h).1
          exact absurd (hd ▸ List.mem_cons_self) hs
    · rw [if_neg hc]
      cases service with
      | nil =>
        constructor
        · intro h
          simp at h
        · rintro ⟨h, _⟩
          exact absurd (List.cons.inj h).1 hc
      | cons d service =>
        have hsplit := @ih service
        constructor
        · intro h
          obtain ⟨⟨s, m⟩, hr, he⟩ := Option.map_eq_some_iff.mp h
          obtain ⟨hd, rfl⟩ := Prod.mk.inj he
          obtain ⟨rfl, rfl⟩ := List.cons.inj hd
          obtain ⟨rfl, hs⟩ := hsplit.mp hr
          refine ⟨rfl, ?_⟩
          rw [List.mem_cons]
          rintro (h | h)
          · exact hc h.symm
          · exact hs h
        · rintro ⟨h, hs⟩
          obtain ⟨rfl, hr⟩ := List.cons.inj h
          rw [hsplit.mpr ⟨hr, fun hm ↦ hs (List.mem_cons_of_mem _ hm)⟩]
          rfl

private theorem any_blank_eq_false_iff {service method : List Char} :
    (('/' :: (service ++ '/' :: method)).any fun c ↦ Text.isBlank c || Text.isControl c) =
        false ↔
      (∀ c ∈ service, (Text.isBlank c || Text.isControl c) = false) ∧
        ∀ c ∈ method, (Text.isBlank c || Text.isControl c) = false := by
  have hs : (Text.isBlank '/' || Text.isControl '/') = false := by decide
  rw [List.any_cons, List.any_append, List.any_cons, hs, Bool.false_or, Bool.false_or,
    Bool.or_eq_false_iff, List.any_eq_false, List.any_eq_false]
  simp

private theorem ofList_ne_empty_iff {cs : List Char} : String.ofList cs ≠ "" ↔ cs ≠ [] := by
  rw [Ne, ← String.toList_inj, String.toList_ofList, String.toList_empty]

/-! ### Offsets in bytes -/

/-- The bytes from one offset to another are whole characters of the text. -/
structure Cuts (s : String) (start stop : Nat) : Prop where
  ordered : start ≤ stop
  start_valid : (String.Pos.Raw.mk start).IsValid s
  stop_valid : (String.Pos.Raw.mk stop).IsValid s

/-- The bytes of a part of a text are whole characters. -/
theorem cuts_part (left part right : String) :
    Cuts (left ++ part ++ right) left.utf8ByteSize
      (left.utf8ByteSize + part.utf8ByteSize) where
  ordered := Nat.le_add_right _ _
  start_valid := String.Pos.Raw.isValid_iff_exists_append.mpr
    ⟨left, part ++ right, String.append_assoc, rfl⟩
  stop_valid := String.Pos.Raw.isValid_iff_exists_append.mpr
    ⟨left ++ part, right, rfl, String.Pos.Raw.ext String.utf8ByteSize_append.symm⟩

/-- The bytes of a part of a text are that part. -/
theorem extract_part (left part right : String) :
    String.Pos.Raw.extract (left ++ part ++ right) ⟨left.utf8ByteSize⟩
      ⟨left.utf8ByteSize + part.utf8ByteSize⟩ = part := by
  have h := String.extract_of_valid left.toList part.toList right.toList
  simpa only [← String.utf8ByteSize_ofList, String.ofList_append, String.ofList_toList] using h

/-- How a path is kept: its text, and the offset of the slash behind its service. -/
def divided (p : MethodPath) : Divided := ⟨p.text, 1 + p.service.utf8ByteSize⟩

section

variable (p : MethodPath)

private theorem text_service : p.text = "/" ++ p.service ++ ("/" ++ p.method) :=
  String.append_assoc

private theorem text_method : p.text = "/" ++ p.service ++ "/" ++ p.method ++ "" :=
  String.append_empty.symm

private theorem size_text :
    p.text.utf8ByteSize = ("/" ++ p.service ++ "/").utf8ByteSize + p.method.utf8ByteSize := by
  rw [text, String.utf8ByteSize_append]

private theorem split_succ :
    p.divided.split + 1 = ("/" ++ p.service ++ "/").utf8ByteSize := by
  rw [String.utf8ByteSize_append, String.utf8ByteSize_append]
  rfl

theorem cuts_service : Cuts p.text 1 p.divided.split := by
  rw [text_service]
  exact cuts_part "/" p.service ("/" ++ p.method)

theorem cuts_method : Cuts p.text (p.divided.split + 1) p.text.utf8ByteSize := by
  rw [split_succ, size_text]
  conv in Cuts p.text => rw [text_method]
  exact cuts_part ("/" ++ p.service ++ "/") p.method ""

/-- A path that is kept as text gives its segments back. -/
theorem path_divided : p.divided.path = p := by
  have service : p.divided.service = p.service := by
    change String.Pos.Raw.extract p.text _ _ = _
    rw [text_service]
    exact extract_part "/" p.service ("/" ++ p.method)
  have method : p.divided.method = p.method := by
    change String.Pos.Raw.extract p.text ⟨p.divided.split + 1⟩ ⟨p.text.utf8ByteSize⟩ = _
    rw [split_succ, size_text]
    conv_lhs => arg 1; rw [text_method]
    exact extract_part ("/" ++ p.service ++ "/") p.method ""
  rw [Divided.path, service, method]

end

/-! ### What is read -/

/-- A text is divided exactly if it is that of a well-formed path, and then as this is kept. -/
theorem divide_eq_ok_iff {raw : String} {d : Divided} :
    divide raw = .ok d ↔ ∃ p : MethodPath, p.WellFormed ∧ p.text = raw ∧ d = p.divided := by
  constructor
  · intro h
    unfold divide at h
    split at h
    · next rest hraw =>
      split at h
      · cases h
      · next service method hsplit =>
        obtain ⟨rfl, hs⟩ := splitSlash_eq_some_iff.mp hsplit
        split at h
        · cases h
        · next hne =>
          split at h
          · cases h
          · next hany =>
            rw [not_or, not_or] at hne
            rw [hraw] at hany
            obtain ⟨hcs, hcm⟩ := any_blank_eq_false_iff.mp (Bool.eq_false_iff.mpr hany)
            cases h
            let p : MethodPath := ⟨String.ofList service, String.ofList method⟩
            have text : p.text = raw := by
              rw [← String.toList_inj, toList_text, hraw, String.toList_ofList,
                String.toList_ofList]
            refine ⟨p, ⟨ofList_ne_empty_iff.mpr hne.1, ofList_ne_empty_iff.mpr hne.2.1, ?_, ?_⟩,
              text, by rw [divided, text]⟩
            · intro c hc
              rw [String.toList_ofList] at hc
              exact isSegmentChar_iff.mpr ⟨fun he ↦ hs (he ▸ hc), hcs c hc⟩
            · intro c hc
              rw [String.toList_ofList] at hc
              exact isSegmentChar_iff.mpr ⟨fun he ↦ hne.2.2 (he ▸ hc), hcm c hc⟩
    · cases h
  · rintro ⟨p, ⟨hsne, hmne, hs, hm⟩, rfl, rfl⟩
    have hsplit : splitSlash (p.service.toList ++ '/' :: p.method.toList) =
        some (p.service.toList, p.method.toList) :=
      splitSlash_eq_some_iff.mpr ⟨rfl, fun h ↦ (isSegmentChar_iff.mp (hs _ h)).1 rfl⟩
    have hmslash : '/' ∉ p.method.toList := fun h ↦ (isSegmentChar_iff.mp (hm _ h)).1 rfl
    have hany := any_blank_eq_false_iff.mpr
      ⟨fun c hc ↦ (isSegmentChar_iff.mp (hs c hc)).2, fun c hc ↦ (isSegmentChar_iff.mp (hm c hc)).2⟩
    have hne : ¬(p.service.toList = [] ∨ p.method.toList = [] ∨ '/' ∈ p.method.toList) := by
      rw [String.toList_eq_nil_iff, String.toList_eq_nil_iff, not_or, not_or]
      exact ⟨hsne, hmne, hmslash⟩
    simp only [divide, toList_text, hsplit, if_neg hne, hany, Bool.false_eq_true, if_false,
      String.ofList_toList]
    rfl

/-- Reading succeeds exactly on the text of a well-formed path, and gives that path. -/
theorem read_eq_ok_iff {raw : String} {p : MethodPath} :
    read raw = .ok p ↔ p.WellFormed ∧ p.text = raw := by
  constructor
  · intro h
    rw [read] at h
    cases hd : divide raw with
    | error cause =>
      rw [hd] at h
      cases h
    | ok d =>
      obtain ⟨q, w, text, rfl⟩ := divide_eq_ok_iff.mp hd
      rw [hd] at h
      cases h
      rw [path_divided]
      exact ⟨w, text⟩
  · rintro ⟨w, text⟩
    rw [read, divide_eq_ok_iff.mpr ⟨p, w, text, rfl⟩]
    exact congrArg Except.ok (path_divided p)

/-- No other pair of segments has the text of a well-formed path, be its segments as they may. -/
theorem WellFormed.eq_of_text {p q : MethodPath} (w : p.WellFormed) (h : q.text = p.text) :
    q = p := by
  have service : '/' ∉ p.service.toList :=
    fun h ↦ (isSegmentChar_iff.mp (w.service_char _ h)).1 rfl
  have method : '/' ∉ p.method.toList :=
    fun h ↦ (isSegmentChar_iff.mp (w.method_char _ h)).1 rfl
  have chars := congrArg String.toList h
  rw [toList_text, toList_text] at chars
  have same : q.service.toList = p.service.toList ∧ q.method.toList = p.method.toList := by
    -- If the segments of one text end at different places, a slash is left over in the other.
    rcases List.append_eq_append_iff.mp (List.cons.inj chars).2 with
      ⟨rest, hp, hq⟩ | ⟨rest, hq, hp⟩ <;> cases rest <;> simp_all
  obtain ⟨service, method⟩ := q
  obtain ⟨hs, hm⟩ := same
  cases String.toList_inj.mp hs
  cases String.toList_inj.mp hm
  rfl

/-- A text that is no path is read as a complaint. -/
theorem read_of_not_isPath {raw : String} (h : ¬IsPath raw) : ∃ cause, read raw = .error cause := by
  cases hr : read raw with
  | error cause => exact ⟨cause, rfl⟩
  | ok p => exact absurd ⟨p, read_eq_ok_iff.mp hr⟩ h

instance : DecidablePred IsPath := fun raw ↦
  match h : read raw with
  | .ok p => .isTrue ⟨p, read_eq_ok_iff.mp h⟩
  | .error _ => .isFalse fun ⟨p, hp⟩ ↦ by
    rw [read_eq_ok_iff.mpr hp] at h
    cases h

/-- The grammar of method paths. A text is read as a path exactly if it is a slash, a service, a
slash and a method, where both are well formed. No other two segments have that text. The path is
kept as the text that was read, and each segment is cut out of it at offsets that are in range and
at the edges of characters. Any other text is an internal fault. -/
theorem paths_are_kept_as_written (raw : String) :
    (∀ p, parse raw = .ok p ↔ p.WellFormed ∧ "/" ++ p.service ++ "/" ++ p.method = raw) ∧
    (∀ p, parse raw = .ok p →
      (∀ service method, "/" ++ service ++ "/" ++ method = raw →
        service = p.service ∧ method = p.method) ∧
      ∃ d, divide raw = .ok d ∧ d.text = raw ∧ d.service = p.service ∧ d.method = p.method ∧
        Cuts raw 1 d.split ∧ Cuts raw (d.split + 1) raw.utf8ByteSize) ∧
    ((∃ message, parse raw = .error (.internal message)) ↔ ¬IsPath raw) := by
  have parse_eq_ok_iff (p : MethodPath) : parse raw = .ok p ↔ p.WellFormed ∧ p.text = raw := by
    rw [← read_eq_ok_iff, parse]
    cases read raw <;> simp
  refine ⟨parse_eq_ok_iff, fun p hp ↦ ?_, ?_⟩
  · obtain ⟨w, rfl⟩ := (parse_eq_ok_iff p).mp hp
    refine ⟨fun service method h ↦ ?_, p.divided, divide_eq_ok_iff.mpr ⟨p, w, rfl, rfl⟩, rfl,
      congrArg MethodPath.service p.path_divided, congrArg MethodPath.method p.path_divided,
      p.cuts_service, p.cuts_method⟩
    have same : (⟨service, method⟩ : MethodPath) = p := w.eq_of_text h
    exact ⟨congrArg MethodPath.service same, congrArg MethodPath.method same⟩
  · constructor
    · rintro ⟨message, h⟩ ⟨p, hp⟩
      rw [(parse_eq_ok_iff p).mpr hp] at h
      cases h
    · intro h
      obtain ⟨cause, hr⟩ := read_of_not_isPath h
      exact ⟨cause.message raw, by rw [parse, hr]⟩

/-- Segments with characters of two bytes are cut at bytes, and come back whole. With a blank before
the method the text is no path. -/
theorem paths_are_kept_as_written_of_umlauts :
    parse "/Bücher/Größe" = .ok ⟨"Bücher", "Größe"⟩ ∧
      divide "/Bücher/Größe" = .ok ⟨"/Bücher/Größe", 8⟩ ∧
      Cuts "/Bücher/Größe" 1 8 ∧ Cuts "/Bücher/Größe" 9 16 ∧
      ∃ message, parse "/Bücher/ Größe" = .error (.internal message) := by
  have read : parse "/Bücher/Größe" = .ok ⟨"Bücher", "Größe"⟩ := rfl
  obtain ⟨-, kept, -⟩ := paths_are_kept_as_written "/Bücher/Größe"
  obtain ⟨-, d, divided, -, -, -, service, method⟩ := kept _ read
  have offsets : divide "/Bücher/Größe" = .ok ⟨"/Bücher/Größe", 8⟩ := rfl
  rw [offsets] at divided
  cases divided
  exact ⟨read, rfl, service, method,
    (paths_are_kept_as_written "/Bücher/ Größe").2.2.mpr (by decide +kernel)⟩

end Gatehouse.MethodPath

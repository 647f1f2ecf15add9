import Gatehouse.Proofs.Caller
import Gatehouse.Proofs.Text.ByteOrder

/-!
# Which headers metadata keep

A header value may hold any bytes but control bytes. It is kept when it is ASCII text; UTF-8 text
with other characters is left out like bytes that are no text at all. Metadata of headers are thus
those of all UTF-8 values just as long as each of these is ASCII.
-/

namespace Gatehouse

/-- Each character of the text is an ASCII character. -/
def IsAscii (s : String) : Prop := ∀ c ∈ s.toList, c.toNat < 128

instance : DecidablePred IsAscii := fun s ↦
  List.decidableBAll (fun c : Char ↦ c.toNat < 128) s.toList

theorem bytes_injective {s t : String} (h : bytes s = bytes t) : s = t :=
  String.toByteArray_inj.mp (ByteArray.ext (Array.toList_inj.mp h))

/-- An ASCII character is one byte, its code. -/
theorem utf8EncodeChar_of_lt {c : Char} (h : c.toNat < 128) :
    String.utf8EncodeChar c = [UInt8.ofNat c.toNat] := by
  rw [← Char.toNat_val] at h
  rw [String.utf8EncodeChar, if_pos (by omega), Char.toNat_val]

/-- The bytes of a character are below 128 just if it is an ASCII character. -/
theorem forall_utf8EncodeChar_lt_iff {c : Char} :
    (∀ b ∈ String.utf8EncodeChar c, b.toNat < 128) ↔ c.toNat < 128 := by
  constructor
  · intro h
    by_contra large
    rw [← Char.toNat_val] at large
    -- every character of more than one byte ends in a byte from 128 on
    have last : 128 ≤ (UInt8.ofNat (c.val.toNat % 64 + 128)).toNat := by
      rw [UInt8.toNat_ofNat']
      omega
    refine absurd (h (UInt8.ofNat (c.val.toNat % 64 + 128)) ?_) (Nat.not_lt.mpr last)
    rw [String.utf8EncodeChar, if_neg (by omega)]
    split
    · simp
    · split <;> simp
  · intro h b hb
    rw [utf8EncodeChar_of_lt h, List.mem_singleton] at hb
    rw [hb, UInt8.toNat_ofNat']
    omega

theorem forall_bytes_lt_iff {s : String} : (∀ b ∈ bytes s, b.toNat < 128) ↔ IsAscii s := by
  simp only [bytes_eq, List.mem_flatMap, forall_exists_index, and_imp, IsAscii,
    ← forall_utf8EncodeChar_lt_iff]
  exact ⟨fun h c hc b hb ↦ h b c hc hb, fun h b c hc hb ↦ h c hc b hb⟩

/-- Bytes below 128 are the bytes of the text of these codes. -/
theorem bytes_ofList_map {bs : List UInt8} (h : ∀ b ∈ bs, b.toNat < 128) :
    bytes (String.ofList (bs.map fun b ↦ Char.ofNat b.toNat)) = bs := by
  rw [bytes_eq, String.toList_ofList, List.flatMap_map]
  induction bs with
  | nil => rfl
  | cons b bs ih =>
    obtain ⟨small, rest⟩ := List.forall_mem_cons.mp h
    have code : (Char.ofNat b.toNat).toNat = b.toNat := by
      rw [Char.ofNat, dif_pos (.inl (by omega))]
      rfl
    rw [List.flatMap_cons, ih rest, utf8EncodeChar_of_lt (by rwa [code]), code, UInt8.ofNat_toNat]
    rfl

/-- Where one function finds only what another does, and both find the same in a list, they agree
on its members. -/
theorem eq_of_filterMap_eq {α β : Type} {f g : α → Option β} {xs : List α}
    (part : ∀ x ∈ xs, ∀ v, f x = some v → g x = some v)
    (same : xs.filterMap f = xs.filterMap g) : ∀ x ∈ xs, f x = g x := by
  have fewer {ys : List α} (part : ∀ y ∈ ys, ∀ v, f y = some v → g y = some v) :
      (ys.filterMap f).length ≤ (ys.filterMap g).length := by
    rw [List.length_filterMap_eq_countP, List.length_filterMap_eq_countP]
    refine List.countP_mono_left fun y hy found ↦ ?_
    obtain ⟨v, hv⟩ := Option.isSome_iff_exists.mp found
    exact Option.isSome_iff_exists.mpr ⟨v, part y hy v hv⟩
  induction xs with
  | nil => exact List.forall_mem_nil _
  | cons x xs ih =>
    obtain ⟨head, tail⟩ := List.forall_mem_cons.mp part
    refine List.forall_mem_cons.mpr ?_
    cases hf : f x with
    | some v =>
      have hg := head v hf
      rw [List.filterMap_cons_some hf, List.filterMap_cons_some hg] at same
      exact ⟨hg.symm, ih tail (List.cons.inj same).2⟩
    | none =>
      cases hg : g x with
      | none =>
        rw [List.filterMap_cons_none hf, List.filterMap_cons_none hg] at same
        exact ⟨rfl, ih tail same⟩
      | some v =>
        rw [List.filterMap_cons_none hf, List.filterMap_cons_some hg] at same
        have longer := congrArg List.length same
        rw [List.length_cons] at longer
        exact absurd (fewer tail) (by omega)

namespace Header

/-- A header value may hold the byte, which is a tab or no control byte. -/
def LegalByte (b : UInt8) : Prop := b = 0x09 ∨ 0x20 ≤ b ∧ b ≠ 0x7f

instance : DecidablePred LegalByte := fun b ↦
  inferInstanceAs (Decidable (b = 0x09 ∨ 0x20 ≤ b ∧ b ≠ 0x7f))

/-- The value holds no other bytes than header values may. -/
def IsLegal (h : Header) : Prop := ∀ b ∈ h.value, LegalByte b

instance : DecidablePred IsLegal := fun h ↦ List.decidableBAll LegalByte h.value

/-- The text whose UTF-8 bytes the value is. -/
def utf8? (h : Header) : Option String := String.fromUTF8? ⟨h.value.toArray⟩

variable {h : Header} {s : String}

theorem utf8?_eq_some_iff : h.utf8? = some s ↔ bytes s = h.value := by
  constructor
  · intro read
    rw [utf8?, String.fromUTF8?] at read
    split at read
    · cases read
      rfl
    · cases read
  · intro same
    have whole : (⟨h.value.toArray⟩ : ByteArray) = s.toUTF8 := by
      rw [← same]
      rfl
    rw [utf8?, whole]
    exact dif_pos s.isValidUTF8

/-- A legal byte is visible just if it is below 128. -/
theorem isVisible_iff {b : UInt8} (legal : LegalByte b) : isVisible b = true ↔ b.toNat < 128 := by
  simp only [LegalByte, isVisible, Bool.or_eq_true, Bool.and_eq_true, decide_eq_true_eq, beq_iff_eq,
    UInt8.le_iff_toNat_le, ← UInt8.toNat_inj, ne_eq, UInt8.reduceToNat] at legal ⊢
  omega

/-- A value of legal bytes is taken as a text just if it is that text in UTF-8 and the text is
ASCII. -/
theorem text?_eq_some_iff (legal : h.IsLegal) :
    h.text? = some s ↔ h.utf8? = some s ∧ IsAscii s := by
  have visible_iff : h.value.all isVisible = true ↔ ∀ b ∈ h.value, b.toNat < 128 := by
    rw [List.all_eq_true]
    exact forall₂_congr fun b hb ↦ isVisible_iff (legal b hb)
  rw [text?, utf8?_eq_some_iff]
  constructor
  · intro read
    split at read
    · next visible =>
      cases read
      have same := bytes_ofList_map (visible_iff.mp visible)
      refine ⟨same, forall_bytes_lt_iff.mp ?_⟩
      rw [same]
      exact visible_iff.mp visible
    · cases read
  · rintro ⟨same, ascii⟩
    have small : ∀ b ∈ h.value, b.toNat < 128 := by
      rw [← same]
      exact forall_bytes_lt_iff.mpr ascii
    rw [if_pos (visible_iff.mpr small), Option.some.injEq]
    exact bytes_injective ((bytes_ofList_map small).trans same.symm)

end Header

namespace Metadata

/-- The metadata of all headers whose value is UTF-8, appended in order. -/
def ofUtf8 (headers : List Header) : Metadata := empty.appendAll (entriesOf Header.utf8? headers)

/-- The headers of each name stand in the same order; between names any order. A map of headers
gives the headers that arrived in such an order. -/
def SameByName (seen arrived : List Header) : Prop :=
  ∀ name, (seen.filter fun h ↦ SameText h.name name) = arrived.filter fun h ↦ SameText h.name name

variable {arrived seen : List Header}

theorem getAll_ofUtf8 (headers : List Header) (key : String) :
    (ofUtf8 headers).getAll key =
      (headers.filter fun h ↦ SameText h.name key).filterMap Header.utf8? := by
  rw [ofUtf8, getAll_appendAll, valuesUnder_entriesOf]
  rfl

/-- A key's values are the ASCII ones among the UTF-8 headers of its name. -/
theorem getAll_eq_ascii (legal : ∀ h ∈ arrived, h.IsLegal)
    (order : SameByName seen arrived) (key : String) :
    (ofHeaders seen).getAll key =
      (empty.appendAll (entriesOf (fun h ↦ h.utf8?.filter (IsAscii ·)) arrived)).getAll key := by
  rw [getAll_ofHeaders, order key, getAll_appendAll, valuesUnder_entriesOf]
  refine List.filterMap_congr fun h hh ↦ Option.ext fun s ↦ ?_
  rw [Header.text?_eq_some_iff (legal h (List.mem_filter.mp hh).1), Option.filter_eq_some_iff,
    decide_eq_true_eq]

/-- A key's values are those of all UTF-8 headers of its name just if these are ASCII. -/
theorem getAll_eq_iff (legal : ∀ h ∈ arrived, h.IsLegal)
    (order : SameByName seen arrived) (key : String) :
    (ofHeaders seen).getAll key = (ofUtf8 arrived).getAll key ↔
      ∀ h ∈ arrived, SameText h.name key → ∀ s, h.utf8? = some s → IsAscii s := by
  have own {h : Header} (hh : h ∈ arrived.filter fun h ↦ SameText h.name key) :
      h ∈ arrived ∧ SameText h.name key :=
    (List.mem_filter.mp hh).imp_right of_decide_eq_true
  rw [getAll_ofHeaders, order key, getAll_ofUtf8]
  constructor
  · intro same h hh name s hs
    have agree := eq_of_filterMap_eq
      (fun g hg v hv ↦ ((Header.text?_eq_some_iff (legal g (own hg).1)).mp hv).1) same h
      (List.mem_filter.mpr ⟨hh, decide_eq_true name⟩)
    exact ((Header.text?_eq_some_iff (legal h hh)).mp (agree.trans hs)).2
  · intro ascii
    refine List.filterMap_congr fun h hh ↦ Option.ext fun s ↦ ?_
    rw [Header.text?_eq_some_iff (legal h (own hh).1)]
    exact and_iff_left_of_imp (ascii h (own hh).1 (own hh).2 s)

/-- The first header of a name is the first value of the key if it is ASCII, and else it is not. -/
theorem get?_of_first (legal : ∀ h ∈ arrived, h.IsLegal)
    (order : SameByName seen arrived) {before after : List Header} {h : Header} {key c : String}
    (split : arrived = before ++ h :: after) (first : ∀ g ∈ before, ¬SameText g.name key)
    (name : SameText h.name key) (value : bytes c = h.value) :
    (ofUtf8 arrived).get? key = some c ∧ ((ofHeaders seen).get? key = some c ↔ IsAscii c) := by
  have text := Header.utf8?_eq_some_iff.mpr value
  have own : (arrived.filter fun h ↦ SameText h.name key) =
      h :: after.filter fun h ↦ SameText h.name key := by
    have none : (before.filter fun h ↦ SameText h.name key) = [] :=
      List.filter_eq_nil_iff.mpr fun g hg ↦ by rw [decide_eq_true_iff]; exact first g hg
    rw [split, List.filter_append, none, List.nil_append, List.filter_cons_of_pos]
    exact decide_eq_true name
  rw [get?_eq_head?, get?_eq_head?, getAll_ofUtf8, getAll_ofHeaders, order key]
  refine ⟨?_, ?_, ?_⟩
  · rw [own, List.filterMap_cons_some text, List.head?_cons]
  · intro found
    obtain ⟨g, hg, hc⟩ := List.mem_filterMap.mp (List.mem_of_head? found)
    exact ((Header.text?_eq_some_iff (legal g (List.mem_filter.mp hg).1)).mp hc).2
  · intro ascii
    have hh : h ∈ arrived := by simp [split]
    have kept := (Header.text?_eq_some_iff (legal h hh)).mpr ⟨text, ascii⟩
    rw [own, List.filterMap_cons_some kept, List.head?_cons]

/-- Metadata of headers hold, key by key, the ASCII texts among the values that are UTF-8, in the
order of their arrival. They are those of all UTF-8 values just if each of these is ASCII. A call
whose first `consumer` header is a UTF-8 text is made by the consumer of that name, as if all texts
had been appended, just if the name is ASCII. -/
theorem ascii_headers_are_kept (legal : ∀ h ∈ arrived, h.IsLegal)
    (order : SameByName seen arrived) :
    (∀ key, (ofHeaders seen).getAll key =
      (empty.appendAll (entriesOf (fun h ↦ h.utf8?.filter (IsAscii ·)) arrived)).getAll key) ∧
    ((∀ key, (ofHeaders seen).getAll key = (ofUtf8 arrived).getAll key) ↔
      ∀ h ∈ arrived, ∀ s, h.utf8? = some s → IsAscii s) ∧
    (∀ before h after c, arrived = before ++ h :: after →
      (∀ g ∈ before, ¬SameText g.name consumerKey) → SameText h.name consumerKey →
      bytes c = h.value → ∀ (path : MethodPath) peer, path.WellFormed →
        ((∃ i, Identity.extract path.text (ofHeaders seen) (some peer) = .ok i ∧
          i.consumer = some c) ↔ IsAscii c) ∧
        (Identity.extract path.text (ofHeaders seen) (some peer) =
          Identity.extract path.text (ofUtf8 arrived) (some peer) ↔ IsAscii c)) := by
  refine ⟨getAll_eq_ascii legal order, ?_, ?_⟩
  · simp only [getAll_eq_iff legal order]
    constructor
    · intro ascii h hh s hs
      exact ascii h.name h hh (asciiLower_eq_iff.mp rfl) s hs
    · intro ascii key h hh _ s hs
      exact ascii h hh s hs
  · intro before h after c split first name value path peer w
    obtain ⟨all, kept⟩ := get?_of_first legal order split first name value
    rw [Identity.extract_some _ peer w, Identity.extract_some _ peer w, all]
    refine ⟨?_, ?_⟩
    · rw [← kept]
      constructor
      · rintro ⟨i, hi, hc⟩
        cases hi
        exact hc
      · intro found
        exact ⟨_, rfl, found⟩
    · rw [← kept, Except.ok.injEq, Identity.mk.injEq]
      exact and_iff_left ⟨rfl, rfl⟩

/-- A name with an umlaut is UTF-8 and is left out all the same, like a value that is no text, so
that the second header names the consumer. -/
theorem ascii_headers_are_kept_of_umlaut :
    let umlaut : Header := ⟨"consumer", bytes "jörg"⟩
    let noText : Header := ⟨"x-trace", [0xff]⟩
    let plain : Header := ⟨"Consumer", bytes "c1"⟩
    let seen := [noText, umlaut, plain]
    let peer : Address := .v4 ⟨127, 0, 0, 1⟩ 40000
    (ofHeaders seen).getAll "CONSUMER" = ["c1"] ∧ (ofHeaders seen).getAll "x-trace" = [] ∧
      ¬(∃ i, Identity.extract "/Biz/Add" (ofHeaders seen) (some peer) = .ok i ∧
        i.consumer = some "jörg") ∧
      Identity.extract "/Biz/Add" (ofHeaders [plain]) (some peer) =
        Identity.extract "/Biz/Add" (ofUtf8 [plain]) (some peer) := by
  intro umlaut noText plain seen peer
  have order : SameByName seen [umlaut, noText, plain] := by
    intro name
    by_cases trace : SameText "x-trace" name
    · have other : ¬SameText "consumer" name := fun own ↦ absurd
        ((asciiLower_eq_iff.mpr trace).trans (asciiLower_eq_iff.mpr own).symm) (by decide)
      simp [seen, umlaut, noText, List.filter_cons, trace, other]
    · simp [seen, umlaut, noText, List.filter_cons, trace]
  have same : SameByName [plain] [plain] := fun _ ↦ rfl
  have read : MethodPath.read "/Biz/Add" = .ok ⟨"Biz", "Add"⟩ := rfl
  have w := MethodPath.read_eq_ok_iff.mp read
  obtain ⟨values, -, callers⟩ := ascii_headers_are_kept (by decide) order
  obtain ⟨-, -, alone⟩ := ascii_headers_are_kept (by decide) same
  have umlautCaller := callers [] umlaut [noText, plain] "jörg" rfl (List.forall_mem_nil _)
    (by decide) rfl ⟨"Biz", "Add"⟩ peer w.1
  have plainCaller := alone [] plain [] "c1" rfl (List.forall_mem_nil _)
    (by decide) rfl ⟨"Biz", "Add"⟩ peer w.1
  exact ⟨(values "CONSUMER").trans (by decide),
    (values "x-trace").trans (by decide),
    fun found ↦ absurd (umlautCaller.1.mp found) (by decide), plainCaller.2.mpr (by decide)⟩

/-- UTF-8 text that is no ASCII text is missing from the metadata of its header. -/
theorem umlaut_header_is_left_out :
    let umlaut : Header := ⟨"consumer", bytes "jörg"⟩
    umlaut.IsLegal ∧ umlaut.utf8? = some "jörg" ∧
      (ofUtf8 [umlaut]).getAll "consumer" = ["jörg"] ∧
      (ofHeaders [umlaut]).getAll "consumer" = [] := by
  decide

end Metadata

end Gatehouse

import Gatehouse.Json.Printer
import Gatehouse.Json.Reader

/-!
# Reading back what was written

A written string is read back character by character: each escape stands for the character it was
written for. An object of values that are read back is read back itself, so a text that is put
together from written strings and objects is a document with just those values.
-/

namespace Gatehouse.Json

/-- Four digits of a control character are read as its number. -/
theorem hex4?_hexByte :
    ∀ n < 32, hex4? '0' '0' (Nat.digitChar (n / 16)) (Nat.digitChar (n % 16)) = some n := by
  decide

/-- No control character is half of a surrogate pair. -/
theorem surrogate_of_control : ∀ n < 32, isLowSurrogate n = false ∧ isHighSurrogate n = false := by
  decide

/-- The escape of a control character stands for it. -/
theorem scanString_control {c : Char} (h : c < ' ') (tail : List Char) :
    scanString ('\\' :: 'u' :: '0' :: '0' :: (Text.hexByte c.toNat ++ tail)) =
      consChar c (scanString tail) := by
  have control : c.toNat < 32 := h
  obtain ⟨low, high⟩ := surrogate_of_control c.toNat control
  rw [Text.hexByte, List.cons_append, List.cons_append, List.nil_append, scanString]
  simp only [hex4?_hexByte c.toNat control, low, high, Bool.false_eq_true, if_false,
    Char.ofNat_toNat]

/-- A character that needs no escape stands for itself. -/
theorem scanString_plain {c : Char} (quote : c ≠ '"') (backslash : c ≠ '\\') (h : ¬c < ' ')
    (tail : List Char) : scanString (c :: tail) = consChar c (scanString tail) := by
  rw [scanString]
  · exact if_neg h
  all_goals simp_all

/-- An escaped character is read back. -/
theorem scanString_escapedChar (c : Char) (tail : List Char) :
    scanString (escapedChar c ++ tail) = consChar c (scanString tail) := by
  unfold escapedChar
  split
  case h_8 c quote backslash _ _ _ _ _ =>
    split
    · next control => exact scanString_control control tail
    · next plain => exact scanString_plain quote backslash plain tail
  -- Each letter of an escape is looked up.
  all_goals rfl

/-- The characters of a string are read back up to its closing quote. -/
theorem scanString_flatMap (cs rest : List Char) :
    scanString (cs.flatMap escapedChar ++ '"' :: rest) = .ok (cs, rest) := by
  induction cs with
  | nil => rfl
  | cons c cs ih =>
    rw [List.flatMap_cons, List.append_assoc, scanString_escapedChar, ih]
    rfl

/-- What may stand behind a value: nothing, or a character that ends it. -/
def Ends (rest : List Char) : Prop := ∀ c ∈ rest.head?, c = ',' ∨ c = '}' ∨ c = ']'

/-- The characters are read as the value wherever what stands behind them ends it. -/
def ReadAs (cs : List Char) (v : Value) : Prop :=
  ∀ fuel rest, 3 * cs.length < fuel → Ends rest → readValue fuel (cs ++ rest) = (v, some rest)

/-- A text with the value that it is read as. -/
structure Written where
  text : String
  value : Value
  readAs : ReadAs text.toList value

theorem readAs_stringChars (s : String) : ReadAs (stringChars s) (.text s) := by
  intro fuel rest enough _
  obtain ⟨fuel, rfl⟩ : ∃ n, fuel = n + 1 := ⟨fuel - 1, by omega⟩
  have scanned := scanString_flatMap s.toList rest
  change ofScan ((scanString (_ ++ ['"'] ++ rest)).map _) = _
  rw [List.append_assoc, List.singleton_append, scanned]
  simp [Except.map, ofScan]

/-- A written string. -/
def Written.string (s : String) : Written where
  text := stringText s
  value := .text s
  readAs := by
    rw [stringText, String.toList_ofList]
    exact readAs_stringChars s

/-- The characters of a key and its value. -/
def entryChars (e : String × Written) : List Char :=
  stringChars e.1 ++ ':' :: e.2.text.toList

/-- An entry is read as its key and its value, in front of the entries behind it. -/
theorem readEntry_entryChars (e : String × Written) (fuel : Nat) {rest : List Char}
    (enough : 3 * (entryChars e).length < fuel) (ends : Ends rest) :
    readEntry (fuel + 1) (entryChars e ++ rest) =
      let (entries, tail, rest) := readEntries fuel false rest
      ((e.1, e.2.value) :: entries, tail, rest) := by
  have small : 3 * e.2.text.toList.length < fuel := by
    simp only [entryChars, List.length_append, List.length_cons] at enough
    omega
  have chars : entryChars e ++ rest =
      '"' :: (e.1.toList.flatMap escapedChar ++ '"' :: ':' :: (e.2.text.toList ++ rest)) := by
    simp [entryChars, stringChars]
  have colon (cs : List Char) : skipSpace (':' :: cs) = ':' :: cs := rfl
  rw [chars, readEntry]
  simp only [scanString_flatMap, colon, e.2.readAs fuel rest small ends, String.ofList_toList]

/-- The characters of the entries behind another. -/
def moreChars (entries : List (String × Written)) : List Char :=
  entries.flatMap fun e ↦ ',' :: entryChars e

theorem ends_moreChars (entries : List (String × Written)) (rest : List Char) :
    Ends (moreChars entries ++ '}' :: rest) := by
  cases entries <;> simp [Ends, moreChars]

/-- Entries are read up to the closing bracket. -/
theorem readEntries_moreChars (entries : List (String × Written)) {fuel : Nat}
    (rest : List Char) (enough : 3 * (moreChars entries).length < fuel) :
    readEntries fuel false (moreChars entries ++ '}' :: rest) =
      (entries.map fun e ↦ (e.1, e.2.value), .closed, some rest) := by
  induction entries generalizing fuel with
  | nil =>
    obtain ⟨fuel, rfl⟩ : ∃ n, fuel = n + 1 := ⟨fuel - 1, by omega⟩
    rfl
  | cons e entries ih =>
    have chars : moreChars (e :: entries) = ',' :: (entryChars e ++ moreChars entries) := rfl
    simp only [chars, List.length_cons, List.length_append] at enough
    obtain ⟨fuel, rfl⟩ : ∃ n, fuel = n + 2 := ⟨fuel - 2, by omega⟩
    have entry := readEntry_entryChars e fuel (by omega) (ends_moreChars entries rest)
    rw [ih (by omega)] at entry
    rw [chars, List.cons_append, List.append_assoc]
    exact entry

theorem intercalate_entryChars (e : String × Written) (entries : List (String × Written)) :
    [','].intercalate ((e :: entries).map entryChars) = entryChars e ++ moreChars entries := by
  induction entries generalizing e with
  | nil => simp [moreChars]
  | cons f entries ih =>
    rw [List.map_cons, List.map_cons, List.intercalate_cons_cons, ← List.map_cons, ih]
    simp [moreChars]

/-- The text of an object of written values. -/
def writtenObject (entries : List (String × Written)) : String :=
  objectText (entries.map fun e ↦ (e.1, e.2.text))

theorem toList_writtenObject (entries : List (String × Written)) :
    (writtenObject entries).toList =
      '{' :: ([','].intercalate (entries.map entryChars) ++ ['}']) := by
  simp only [writtenObject, objectText, String.toList_append, String.toList_intercalate,
    List.map_map]
  have chars : String.toList ∘ (fun e ↦ stringText e.1 ++ ":" ++ e.2) ∘
      (fun e : String × Written ↦ (e.1, e.2.text)) = entryChars := by
    funext e
    simp [stringText, entryChars]
  rw [chars]
  rfl

theorem readAs_writtenObject (entries : List (String × Written)) :
    ReadAs (writtenObject entries).toList
      (.object (entries.map fun e ↦ (e.1, e.2.value)) .closed) := by
  intro fuel rest enough _
  rw [toList_writtenObject] at enough ⊢
  cases entries with
  | nil =>
    obtain ⟨fuel, rfl⟩ : ∃ n, fuel = n + 2 := ⟨fuel - 2, by simp at enough; omega⟩
    rfl
  | cons e entries =>
    rw [intercalate_entryChars] at enough ⊢
    simp only [List.length_cons, List.length_append] at enough
    obtain ⟨fuel, rfl⟩ : ∃ n, fuel = n + 3 := ⟨fuel - 3, by omega⟩
    have entry := readEntry_entryChars e fuel (by omega) (ends_moreChars entries rest)
    rw [readEntries_moreChars entries rest (by omega)] at entry
    have chars : '{' :: (entryChars e ++ moreChars entries ++ ['}']) ++ rest =
        '{' :: (entryChars e ++ (moreChars entries ++ '}' :: rest)) := by
      simp
    have first : readEntries (fuel + 2) true (entryChars e ++ (moreChars entries ++ '}' :: rest)) =
        readEntry (fuel + 1) (entryChars e ++ (moreChars entries ++ '}' :: rest)) := rfl
    have brace (cs : List Char) : skipSpace ('{' :: cs) = '{' :: cs := rfl
    rw [chars, readValue, brace]
    simp only [first, entry, List.map_cons]

/-- A written object. -/
def Written.object (entries : List (String × Written)) : Written where
  text := writtenObject entries
  value := .object (entries.map fun e ↦ (e.1, e.2.value)) .closed
  readAs := readAs_writtenObject entries

/-- A written text is a document with its value. -/
theorem Document.read_written (w : Written) : Document.read w.text = ⟨w.value, true⟩ := by
  have read := w.readAs (3 * w.text.toList.length + 3) [] (by omega) (by simp [Ends])
  rw [List.append_nil] at read
  simp only [Document.read, read]
  rfl

end Gatehouse.Json

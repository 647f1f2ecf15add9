import Mathlib.Data.List.Forall2
import Gatehouse.Metrics.Exposition
import Gatehouse.Proofs.Metrics.Grammar

/-!
# Reading metrics back

What is written is what is read: a name up to the first character that no name holds, a label value
up to its closing quote, the labels of a series up to their brace, a number up to the end of its
line. None of them holds a line feed, so a line stays one. `Shows` puts the two together, for the
lines of each kind.
-/

namespace Gatehouse.Exposition

/-! ### Names -/

theorem isName_all {allowed : Char → Bool} {cs : List Char} (h : isName allowed cs = true) :
    ∀ c ∈ cs, allowed c = true := by
  cases cs with
  | nil => exact nofun
  | cons c cs =>
    rw [isName, Bool.and_eq_true] at h
    exact List.all_eq_true.mp h.2

/-- A name is read up to a character that may not stand in it. -/
theorem readName?_append {allowed : Char → Bool} {name : String}
    (h : isName allowed name.toList = true) {c : Char} (stop : allowed c = false)
    (rest : List Char) :
    readName? allowed (name.toList ++ c :: rest) = some (name, c :: rest) := by
  have all := isName_all h
  have taken : (name.toList ++ c :: rest).takeWhile allowed = name.toList := by
    rw [List.takeWhile_append_of_pos all, List.takeWhile_cons_of_neg (by simp [stop]),
      List.append_nil]
  have left : (name.toList ++ c :: rest).dropWhile allowed = c :: rest := by
    rw [List.dropWhile_append_of_pos all, List.dropWhile_cons_of_neg (by simp [stop])]
  rw [readName?, taken, left, if_pos h, String.ofList_toList]

/-! ### Label values -/

/-- Puts some characters for each occurrence of one. -/
def replaced (old : Char) (new cs : List Char) : List Char :=
  cs.flatMap fun c ↦ if c = old then new else [c]

/-- A label value may be written in three rounds, if backslashes come first. -/
theorem toList_labelValue (v : String) :
    (labelValue v).toList = replaced '\n' ['\\', 'n']
      (replaced '"' ['\\', '"'] (replaced '\\' ['\\', '\\'] v.toList)) := by
  rw [labelValue, String.toList_ofList, replaced, replaced, replaced, List.flatMap_assoc,
    List.flatMap_assoc]
  refine List.flatMap_congr fun c _ ↦ ?_
  unfold labelChar
  split
  · rfl
  · rfl
  · rfl
  · next backslash quote feed =>
    rw [if_neg backslash, List.flatMap_singleton, if_neg quote, List.flatMap_singleton, if_neg feed]

/-- What is written for a character is read as the character. -/
theorem readQuoted?_labelChar (c : Char) (rest : List Char) :
    readQuoted? (labelChar c ++ rest) = (readQuoted? rest).map fun r ↦ (c :: r.1, r.2) := by
  unfold labelChar
  split
  · rfl
  · rfl
  · rfl
  · next backslash quote feed =>
    rw [List.singleton_append, readQuoted?]
    · exact quote
    · exact feed
    · exact fun same _ ↦ backslash same
    · exact fun _ _ same _ ↦ backslash same

/-- A label value is read up to the quote that ends it, whatever it holds. -/
theorem readQuoted?_labelValue (v : String) (rest : List Char) :
    readQuoted? ((labelValue v).toList ++ '"' :: rest) = some (v.toList, rest) := by
  rw [labelValue, String.toList_ofList]
  induction v.toList with
  | nil => rfl
  | cons c cs ih =>
    rw [List.flatMap_cons, List.append_assoc, readQuoted?_labelChar, ih]
    rfl

theorem toList_labelText (p : String × String) :
    (labelText p).toList = p.1.toList ++ '=' :: '"' :: ((labelValue p.2).toList ++ ['"']) := by
  simp [labelText]

theorem readLabel?_labelText {p : String × String} (h : IsLabelName p.1) (rest : List Char) :
    readLabel? ((labelText p).toList ++ rest) = some (p, rest) := by
  have chars : (labelText p).toList ++ rest =
      p.1.toList ++ '=' :: '"' :: ((labelValue p.2).toList ++ '"' :: rest) := by
    simp [toList_labelText]
  rw [chars, readLabel?, readName?_append h (by decide)]
  simp only [readQuoted?_labelValue, Option.map_some, String.ofList_toList]

/-! ### Series -/

theorem readLabels?_of_comma {cs rest : List Char} {p : String × String}
    (h : readLabel? cs = some (p, ',' :: rest)) :
    readLabels? cs = (readLabels? rest).map fun r ↦ (p :: r.1, r.2) := by
  rw [readLabels?]
  split
  · next read =>
    cases h.symm.trans read
    rfl
  · next read => cases h.symm.trans read
  · next comma _ read => exact absurd (Option.some.inj (read.symm.trans h)) (comma _ _)
  · next read => cases h.symm.trans read

theorem readLabels?_of_brace {cs rest : List Char} {p : String × String}
    (h : readLabel? cs = some (p, '}' :: rest)) : readLabels? cs = some ([p], rest) := by
  rw [readLabels?]
  split
  · next read => cases h.symm.trans read
  · next read =>
    cases h.symm.trans read
    rfl
  · next _ brace read => exact absurd (Option.some.inj (read.symm.trans h)) (brace _ _)
  · next read => cases h.symm.trans read

/-- The labels behind another, each with its comma. -/
def moreLabels (pairs : List (String × String)) : List Char :=
  pairs.flatMap fun p ↦ ',' :: (labelText p).toList

theorem intercalate_labelText (p : String × String) (pairs : List (String × String)) :
    [','].intercalate ((p :: pairs).map fun p ↦ (labelText p).toList) =
      (labelText p).toList ++ moreLabels pairs := by
  induction pairs generalizing p with
  | nil => simp [moreLabels]
  | cons q pairs ih =>
    simp only [List.map_cons] at ih ⊢
    rw [List.intercalate_cons_cons, ih]
    simp [moreLabels]

/-- Labels are read up to the closing brace. -/
theorem readLabels?_moreLabels {p : String × String} {pairs : List (String × String)}
    (h : ∀ q ∈ p :: pairs, IsLabelName q.1) (rest : List Char) :
    readLabels? ((labelText p).toList ++ (moreLabels pairs ++ '}' :: rest)) =
      some (p :: pairs, rest) := by
  induction pairs generalizing p with
  | nil => exact readLabels?_of_brace (readLabel?_labelText (h p List.mem_cons_self) _)
  | cons q pairs ih =>
    obtain ⟨first, others⟩ := List.forall_mem_cons.mp h
    have chars : moreLabels (q :: pairs) ++ '}' :: rest =
        ',' :: ((labelText q).toList ++ (moreLabels pairs ++ '}' :: rest)) := by
      simp [moreLabels]
    rw [chars, readLabels?_of_comma (readLabel?_labelText first _), ih others]
    rfl

/-- The labels of a series with their braces, if there are any. -/
def braced (l : LabelList) : List Char :=
  if l = [] then [] else '{' :: ((labelsText l).toList ++ ['}'])

theorem toList_seriesText (name : String) (l : LabelList) :
    (seriesText name l).toList = name.toList ++ braced l := by
  unfold seriesText braced
  split
  · exact (List.append_nil _).symm
  · simp

theorem toList_labelsText (p : String × String) (pairs : LabelList) :
    (labelsText (p :: pairs)).toList = (labelText p).toList ++ moreLabels pairs := by
  rw [labelsText, String.toList_intercalate, List.map_map]
  exact intercalate_labelText p pairs

/-- A series is read as its name and its labels, in front of a blank. -/
theorem readSeries?_seriesText {name : String} {l : LabelList} (named : IsMetricName name)
    (h : ∀ p ∈ l, IsLabelName p.1) (rest : List Char) :
    readSeries? ((seriesText name l).toList ++ ' ' :: rest) = some (name, l, ' ' :: rest) := by
  rw [toList_seriesText, braced, readSeries?]
  cases l with
  | nil =>
    rw [if_pos rfl, List.append_nil, readName?_append named (by decide)]
    rfl
  | cons p more =>
    have chars : name.toList ++ '{' :: ((labelsText (p :: more)).toList ++ ['}']) ++ ' ' :: rest =
        name.toList ++
          '{' :: ((labelText p).toList ++ (moreLabels more ++ '}' :: ' ' :: rest)) := by
      rw [toList_labelsText]
      simp
    rw [if_neg (List.cons_ne_nil p more), chars, readName?_append named (by decide)]
    simp only [readLabels?_moreLabels h, Option.map_some]

/-- A series tells its name and its labels. -/
theorem seriesText_inj {name name' : String} {l l' : LabelList} (named : IsMetricName name)
    (named' : IsMetricName name') (h : ∀ p ∈ l, IsLabelName p.1) (h' : ∀ p ∈ l', IsLabelName p.1)
    (same : seriesText name l = seriesText name' l') : name = name' ∧ l = l' := by
  have read := readSeries?_seriesText named h []
  rw [same, readSeries?_seriesText named' h'] at read
  obtain ⟨rfl, pairs⟩ := Prod.mk.inj (Option.some.inj read)
  exact ⟨rfl, (Prod.mk.inj pairs).1.symm⟩

/-! ### Values -/

theorem readNatural?_decimal (n : Nat) : readNatural? (Text.decimal n).toList = some n := by
  have digits : (Nat.toDigits 10 n).all Char.isDigit = true := by
    refine List.all_eq_true.mpr fun c hc ↦ ?_
    exact Nat.isDigit_of_mem_toDigits (by decide) (by decide) hc
  rw [Text.decimal, String.toList_ofList, readNatural?, if_pos ⟨Nat.toDigits_ne_nil, digits⟩,
    Nat.ofDigitChars_ten_toDigits]

theorem readValue?_decimal (n : Nat) : readValue? (Text.decimal n).toList = some (n : Int) := by
  have read := readNatural?_decimal n
  rw [readValue?, read]
  · rfl
  · -- A minus sign is not a digit, so the number is not read as one below zero.
    intro cs same
    rw [same, readNatural?] at read
    simp at read

theorem readValue?_signed (i : Int) : readValue? (Text.signed i).toList = some i := by
  cases i with
  | ofNat n => exact readValue?_decimal n
  | negSucc n =>
    have chars : (Text.signed (.negSucc n)).toList = '-' :: (Text.decimal (n + 1)).toList := by
      simp [Text.signed]
    rw [chars, readValue?, readNatural?_decimal]
    rfl

/-! ### Lines -/

theorem feed_not_mem_of_isName {allowed : Char → Bool} {cs : List Char}
    (h : isName allowed cs = true) (feed : allowed '\n' = false) : '\n' ∉ cs := by
  intro stands
  rw [isName_all h _ stands] at feed
  cases feed

/-- No line feed is left in a label value. -/
theorem feed_not_mem_labelValue (v : String) : '\n' ∉ (labelValue v).toList := by
  rw [labelValue, String.toList_ofList]
  intro stands
  obtain ⟨c, -, hc⟩ := List.mem_flatMap.mp stands
  unfold labelChar at hc
  split at hc
  · simp at hc
  · simp at hc
  · simp at hc
  · next feed => exact feed (List.mem_singleton.mp hc).symm

theorem feed_not_mem_seriesText {name : String} {l : LabelList} (named : IsMetricName name)
    (h : ∀ p ∈ l, IsLabelName p.1) : '\n' ∉ (seriesText name l).toList := by
  have label : ∀ p ∈ l, '\n' ∉ (labelText p).toList := by
    intro p hp
    have name := feed_not_mem_of_isName (h p hp) (by decide)
    have value := feed_not_mem_labelValue p.2
    simp [toList_labelText, name, value]
  have labels : '\n' ∉ braced l := by
    cases l with
    | nil => exact List.not_mem_nil
    | cons p more =>
      obtain ⟨first, others⟩ := List.forall_mem_cons.mp label
      rw [braced, if_neg (List.cons_ne_nil p more), toList_labelsText]
      simpa [first, moreLabels] using fun a b hb ↦ others (a, b) hb
  rw [toList_seriesText, List.mem_append, not_or]
  exact ⟨feed_not_mem_of_isName named (by decide), labels⟩

theorem feed_not_mem_decimal (n : Nat) : '\n' ∉ (Text.decimal n).toList := by
  rw [Text.decimal, String.toList_ofList]
  intro stands
  cases Nat.isDigit_of_mem_toDigits (by decide) (by decide) stands

theorem feed_not_mem_signed (i : Int) : '\n' ∉ (Text.signed i).toList := by
  cases i with
  | ofNat n => exact feed_not_mem_decimal n
  | negSucc n => simpa [Text.signed] using feed_not_mem_decimal (n + 1)

/-- The text is one line, and it is read as what the line says. -/
structure Shows (text : String) (line : Line) : Prop where
  feed : '\n' ∉ text.toList
  read : readLine? text.toList = some line

theorem shows_typeLine {name kind : String} (named : IsMetricName name) (h : kind ∈ kinds) :
    Shows (typeLine name kind) (.type name kind) := by
  have chars : (typeLine name kind).toList =
      '#' :: ' ' :: 'T' :: 'Y' :: 'P' :: 'E' :: ' ' :: (name.toList ++ ' ' :: kind.toList) := by
    simp [typeLine]
  have words : ∀ kind ∈ kinds, '\n' ∉ kind.toList := by decide
  constructor
  · simp [chars, feed_not_mem_of_isName named, isMetricChar, isLabelChar, words kind h]
  · rw [chars, readLine?, readType?, readName?_append named (by decide)]
    simp only [String.ofList_toList, if_pos h]

theorem readLine?_of_name {name : String} (named : IsMetricName name) (rest : List Char) :
    readLine? (name.toList ++ rest) = readSample? (name.toList ++ rest) := by
  cases chars : name.toList with
  | nil =>
    rw [IsMetricName, chars] at named
    cases named
  | cons c cs =>
    have allowed := isName_all named c (chars ▸ List.mem_cons_self)
    rw [List.cons_append, readLine?]
    intro rest same
    rw [(List.cons.inj same).1] at allowed
    cases allowed

theorem shows_sample {name value : String} {l : LabelList} {i : Int} (named : IsMetricName name)
    (h : ∀ p ∈ l, IsLabelName p.1) (feed : '\n' ∉ value.toList)
    (read : readValue? value.toList = some i) :
    Shows (seriesText name l ++ " " ++ value) (.sample name l i) := by
  have chars : (seriesText name l ++ " " ++ value).toList =
      (seriesText name l).toList ++ ' ' :: value.toList := by
    simp
  constructor
  · simp [chars, feed_not_mem_seriesText named h, feed]
  · have first : readLine? ((seriesText name l).toList ++ ' ' :: value.toList) =
        readSample? ((seriesText name l).toList ++ ' ' :: value.toList) := by
      rw [toList_seriesText, List.append_assoc]
      exact readLine?_of_name named _
    rw [chars, first, readSample?, readSeries?_seriesText named h]
    simp only [read, Option.map_some]

/-! ### Buckets -/

theorem labelValue_of_plain {s : String} (h : ∀ c ∈ s.toList, c ≠ '\\' ∧ c ≠ '"' ∧ c ≠ '\n') :
    labelValue s = s := by
  have chars : s.toList.flatMap labelChar = s.toList.flatMap fun c ↦ [c] := by
    refine List.flatMap_congr fun c hc ↦ ?_
    obtain ⟨backslash, quote, feed⟩ := h c hc
    unfold labelChar
    split
    · exact absurd rfl backslash
    · exact absurd rfl quote
    · exact absurd rfl feed
    · rfl
  rw [labelValue, chars, List.flatMap_singleton', String.ofList_toList]

theorem labelValue_decimal (n : Nat) : labelValue (Text.decimal n) = Text.decimal n := by
  refine labelValue_of_plain fun c hc ↦ ?_
  rw [Text.decimal, String.toList_ofList] at hc
  have digit := Nat.isDigit_of_mem_toDigits (by decide) (by decide) hc
  refine ⟨?_, ?_, ?_⟩ <;> rintro rfl <;> cases digit

/-- A bucket is a series with its bound as a further label. -/
theorem bucketLine_eq {bound : String} (plain : labelValue bound = bound) (name : String)
    (l : LabelList) (n : UInt64) :
    bucketLine name l bound n =
      seriesText (name ++ "_bucket") (l ++ [("le", bound)]) ++ " " ++ Text.decimal n.toNat := by
  have label : (labelText ("le", bound)).toList =
      'l' :: 'e' :: '=' :: '"' :: (bound.toList ++ ['"']) := by
    simp [toList_labelText, plain]
  apply String.toList_injective
  rw [String.toList_append, String.toList_append, toList_seriesText, braced, if_neg (by simp),
    bucketLine]
  cases l with
  | nil => simp [toList_labelsText, moreLabels, label]
  | cons p more =>
    rw [List.cons_append, if_neg (List.cons_ne_nil p more), toList_labelsText]
    simp [toList_labelsText, moreLabels, label]

theorem isMetricName_append {name suffix : String} (h : IsMetricName name)
    (more : suffix.toList.all isMetricChar = true) : IsMetricName (name ++ suffix) := by
  rw [IsMetricName, String.toList_append]
  cases chars : name.toList with
  | nil =>
    rw [IsMetricName, chars] at h
    cases h
  | cons c cs =>
    rw [IsMetricName, chars, isName] at h
    simp only [List.cons_append, isName, List.all_cons, List.all_append, Bool.and_eq_true] at h ⊢
    exact ⟨h.1, h.2.1, h.2.2, more⟩

/-! ### Series and families -/

/-- What is said by the line of a counter. -/
def counterLines (name : String) (l : LabelList) (n : UInt64) : List Line :=
  [.sample name l n.toNat]

/-- What is said by the line of a gauge. -/
def gaugeLines (name : String) (l : LabelList) (n : Int64) : List Line := [.sample name l n.toInt]

/-- What is said by the line of a bucket. -/
def bucketSample (name : String) (l : LabelList) (bound : String) (n : UInt64) : Line :=
  .sample (name ++ "_bucket") (l ++ [("le", bound)]) n.toNat

/-- What is said by the lines of a histogram: its buckets, the bucket of all, the sum and the
count. -/
def histogramLines (name : String) (l : LabelList) (h : Histogram) : List Line :=
  Histogram.bounds.zipWith (fun bound n ↦ bucketSample name l (Text.decimal bound) n) h.buckets ++
    [bucketSample name l "+Inf" h.count,
      .sample (name ++ "_sum") l h.sum.toNat, .sample (name ++ "_count") l h.count.toNat]

section

variable {name : String} {l : LabelList} (named : IsMetricName name)
  (h : ∀ p ∈ l, IsLabelName p.1)

include named h

theorem shows_counter (n : UInt64) :
    List.Forall₂ Shows [seriesText name l ++ " " ++ Text.decimal n.toNat]
      (counterLines name l n) :=
  .cons (shows_sample named h (feed_not_mem_decimal _) (readValue?_decimal _)) .nil

theorem shows_gauge (n : Int64) :
    List.Forall₂ Shows [seriesText name l ++ " " ++ Text.signed n.toInt] (gaugeLines name l n) :=
  .cons (shows_sample named h (feed_not_mem_signed _) (readValue?_signed _)) .nil

theorem shows_bucketLine {bound : String} (plain : labelValue bound = bound) (n : UInt64) :
    Shows (bucketLine name l bound n) (bucketSample name l bound n) := by
  rw [bucketLine_eq plain]
  refine shows_sample (isMetricName_append named (by decide)) ?_ (feed_not_mem_decimal _)
    (readValue?_decimal _)
  have le : IsLabelName "le" := by decide
  exact List.forall_mem_append.mpr ⟨h, List.forall_mem_singleton.mpr le⟩

theorem shows_histogram (histogram : Histogram) :
    List.Forall₂ Shows (histogram.lines name l) (histogramLines name l histogram) := by
  have buckets (bounds : List Nat) (counts : List UInt64) :
      List.Forall₂ Shows
        (bounds.zipWith (fun bound n ↦ bucketLine name l (Text.decimal bound) n) counts)
        (bounds.zipWith (fun bound n ↦ bucketSample name l (Text.decimal bound) n) counts) := by
    induction bounds generalizing counts with
    | nil => exact .nil
    | cons bound bounds ih =>
      cases counts with
      | nil => exact .nil
      | cons n counts =>
        exact .cons (shows_bucketLine named h (labelValue_decimal bound) n) (ih counts)
  have value {suffix : String} (more : suffix.toList.all isMetricChar = true) (n : UInt64) :
      Shows (seriesText (name ++ suffix) l ++ " " ++ Text.decimal n.toNat)
        (.sample (name ++ suffix) l n.toNat) :=
    shows_sample (isMetricName_append named more) h (feed_not_mem_decimal _)
      (readValue?_decimal _)
  refine List.rel_append (buckets _ _) ?_
  exact .cons (shows_bucketLine named h (by decide) _)
    (.cons (value (by decide) _) (.cons (value (by decide) _) .nil))

end

end Gatehouse.Exposition

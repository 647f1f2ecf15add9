import Gatehouse.Json.Reader

/-!
# Numbers in JSON texts

A number is a sign, a whole part without leading zeros, a fraction and an exponent, each of them
but the whole part only if it is written. The scanner reads just these, as far as they keep to the
range of double precision, and takes one of them in whole where what stands behind it could not go
on with it.
-/

namespace Gatehouse.Json

/-- One or more decimal digits. -/
structure Digits where
  chars : List Char
  ne_nil : chars ≠ []
  digits : ∀ c ∈ chars, isDigit c = true

/-- The number that digits behind a sign denote. -/
def Digits.signed (negative : Bool) (d : Digits) : Int :=
  if negative then -digitsValue d.chars else digitsValue d.chars

/-- A text that begins with digits begins with a digit. -/
theorem Digits.append_ne (d : Digits) {c : Char} (hc : isDigit c = false) (rest r : List Char) :
    d.chars ++ rest ≠ c :: r := by
  obtain ⟨cs, ne, digits⟩ := d
  cases cs with
  | nil => exact absurd rfl ne
  | cons a cs =>
    intro h
    obtain ⟨rfl, -⟩ := List.cons.inj h
    exact Bool.false_ne_true (hc.symm.trans (digits a List.mem_cons_self))

/-- An exponent as it is written. -/
structure Exponent where
  letter : Char
  sign : List Char
  digits : Digits
  letter_eq : letter = 'e' ∨ letter = 'E'
  sign_eq : sign = [] ∨ sign = ['+'] ∨ sign = ['-']

namespace Exponent

def chars (e : Exponent) : List Char := e.letter :: (e.sign ++ e.digits.chars)

/-- The power of ten. -/
def value (e : Exponent) : Int := e.digits.signed (e.sign = ['-'])

end Exponent

/-- The characters of a fraction with its point. -/
def fractionChars : Option Digits → List Char
  | none => []
  | some d => '.' :: d.chars

def exponentChars (e : Option Exponent) : List Char := e.elim [] Exponent.chars

/-- A number in the range of double precision, as it is written. -/
structure Numeral where
  negative : Bool
  whole : Digits
  fraction : Option Digits
  exponent : Option Exponent
  plain : ¬(whole.chars.head? = some '0' ∧ 1 < whole.chars.length)
  inRange : (Magnitude.ofDigits whole.chars ((fraction.map Digits.chars).getD [])
    ((exponent.map Exponent.value).getD 0)).overflows = false

namespace Numeral

/-- The characters behind the sign. -/
def unsigned (n : Numeral) : List Char :=
  n.whole.chars ++ (fractionChars n.fraction ++ exponentChars n.exponent)

def chars (n : Numeral) : List Char := if n.negative then '-' :: n.unsigned else n.unsigned

/-- The value that the number is in a document. -/
def value (n : Numeral) : Value :=
  if n.negative || n.fraction.isSome || n.exponent.isSome then .otherNumber
  else .natural (digitsValue n.whole.chars)

end Numeral

/-- No digit comes next. -/
def NoDigit (cs : List Char) : Prop := ∀ c ∈ cs.head?, isDigit c = false

/-- What may stand behind a value: nothing, a blank, or a character that ends it. -/
def Stops (cs : List Char) : Prop :=
  ∀ c ∈ cs.head?, isSpace c = true ∨ c = ',' ∨ c = '}' ∨ c = ']'

theorem isDigit_of_isSpace {c : Char} (h : isSpace c = true) : isDigit c = false := by
  simp only [isSpace, Bool.or_eq_true, beq_iff_eq] at h
  rcases h with ((rfl | rfl) | rfl) | rfl <;> decide

theorem isSpace_of_isDigit {c : Char} (h : isDigit c = true) : isSpace c = false := by
  rw [← Bool.not_eq_true]
  intro space
  exact Bool.false_ne_true ((isDigit_of_isSpace space).symm.trans h)

theorem Stops.noDigit {cs : List Char} (h : Stops cs) : NoDigit cs := by
  intro c hc
  rcases h c hc with space | rfl | rfl | rfl
  · exact isDigit_of_isSpace space
  all_goals decide

/-- A number does not go on behind a value. -/
theorem Stops.ne {cs : List Char} (h : Stops cs) {c : Char} (hc : c = '.' ∨ c = 'e' ∨ c = 'E')
    (rest : List Char) : cs ≠ c :: rest := by
  rintro rfl
  have stop := h c rfl
  rcases hc with rfl | rfl | rfl <;> simp [isSpace] at stop

theorem takeWhile_digits (d : Digits) {rest : List Char} (h : NoDigit rest) :
    (d.chars ++ rest).takeWhile isDigit = d.chars := by
  have stop : rest.takeWhile isDigit = [] := by
    cases rest with
    | nil => rfl
    | cons c rest => exact List.takeWhile_cons_of_neg (by simp [h c rfl])
  rw [List.takeWhile_append_of_pos d.digits, stop, List.append_nil]

theorem dropWhile_digits (d : Digits) {rest : List Char} (h : NoDigit rest) :
    (d.chars ++ rest).dropWhile isDigit = rest := by
  rw [List.dropWhile_append_of_pos d.digits]
  cases rest with
  | nil => rfl
  | cons c rest => exact List.dropWhile_cons_of_neg (by simp [h c rfl])

/-- The digits at the front of a text, if there are any. -/
theorem exists_digits {cs : List Char} (h : cs.takeWhile isDigit ≠ []) :
    ∃ d : Digits, cs.takeWhile isDigit = d.chars ∧ cs = d.chars ++ cs.dropWhile isDigit := by
  have digits : ∀ c ∈ cs.takeWhile isDigit, isDigit c = true :=
    List.all_eq_true.mp List.all_takeWhile
  exact ⟨⟨_, h, digits⟩, rfl, List.takeWhile_append_dropWhile.symm⟩

/-! ### Fractions and exponents -/

theorem scanFraction_chars (f : Option Digits) {rest : List Char} (stop : NoDigit rest)
    (point : ∀ r, rest ≠ '.' :: r) :
    scanFraction (fractionChars f ++ rest) = .ok (f.map Digits.chars, rest) := by
  cases f with
  | none =>
    change scanFraction rest = _
    unfold scanFraction
    split
    · exact absurd rfl (point _)
    · rfl
  | some d =>
    change scanFraction ('.' :: (d.chars ++ rest)) = _
    unfold scanFraction
    simp only [takeWhile_digits d stop, dropWhile_digits d stop]
    split
    · next none => exact absurd none d.ne_nil
    · rfl

theorem exists_fraction {cs rest : List Char} {written : Option (List Char)}
    (h : scanFraction cs = .ok (written, rest)) :
    ∃ f : Option Digits, written = f.map Digits.chars ∧ cs = fractionChars f ++ rest := by
  unfold scanFraction at h
  split at h
  · split at h
    · cases h
    · next digits some =>
      cases h
      obtain ⟨d, taken, split⟩ := exists_digits some
      exact ⟨d, congrArg _ taken, congrArg _ split⟩
  · cases h
    exact ⟨none, rfl, rfl⟩

theorem scanExponentDigits_chars (negative : Bool) (d : Digits) {rest : List Char}
    (stop : NoDigit rest) :
    scanExponentDigits negative (d.chars ++ rest) = .ok (some (d.signed negative), rest) := by
  unfold scanExponentDigits
  rw [takeWhile_digits d stop, dropWhile_digits d stop]
  split
  · next none => exact absurd none d.ne_nil
  · rfl

theorem exists_exponentDigits {negative : Bool} {cs rest : List Char} {written : Option Int}
    (h : scanExponentDigits negative cs = .ok (written, rest)) :
    ∃ d : Digits, cs = d.chars ++ rest ∧ written = some (d.signed negative) := by
  unfold scanExponentDigits at h
  split at h
  · cases h
  · next some =>
    cases h
    obtain ⟨d, taken, split⟩ := exists_digits some
    exact ⟨d, split, by rw [taken, Digits.signed]⟩

theorem scanExponent_chars (e : Option Exponent) {rest : List Char} (stop : NoDigit rest)
    (letter : ∀ c r, c = 'e' ∨ c = 'E' → rest ≠ c :: r) :
    scanExponent (exponentChars e ++ rest) = .ok (e.map Exponent.value, rest) := by
  cases e with
  | none =>
    change scanExponent rest = _
    unfold scanExponent
    split
    · next c r =>
      rw [if_neg fun h ↦ letter c r h rfl]
      rfl
    · rfl
  | some e =>
    obtain ⟨c, sign, d, hc, hs⟩ := e
    have digits (negative : Bool) := scanExponentDigits_chars negative d stop
    simp only [exponentChars, Option.elim_some, Exponent.chars, List.cons_append, List.append_assoc,
      Option.map_some, Exponent.value, scanExponent, if_pos hc]
    rcases hs with rfl | rfl | rfl
    · simp only [List.nil_append]
      split
      · next minus => exact absurd minus (d.append_ne (by decide) rest _)
      · next plus => exact absurd plus (d.append_ne (by decide) rest _)
      · simp [digits]
    · simp [digits]
    · simp [digits]

theorem exists_exponent {cs rest : List Char} {written : Option Int}
    (h : scanExponent cs = .ok (written, rest)) :
    ∃ e : Option Exponent, written = e.map Exponent.value ∧ cs = exponentChars e ++ rest := by
  unfold scanExponent at h
  split at h
  · next c r =>
    split at h
    · next hc =>
      split at h
      · obtain ⟨d, rfl, rfl⟩ := exists_exponentDigits h
        exact ⟨some ⟨c, ['-'], d, hc, .inr (.inr rfl)⟩, rfl, rfl⟩
      · obtain ⟨d, rfl, rfl⟩ := exists_exponentDigits h
        exact ⟨some ⟨c, ['+'], d, hc, .inr (.inl rfl)⟩, rfl, rfl⟩
      · obtain ⟨d, rfl, rfl⟩ := exists_exponentDigits h
        exact ⟨some ⟨c, [], d, hc, .inl rfl⟩, rfl, rfl⟩
    · cases h
      exact ⟨none, rfl, rfl⟩
  · cases h
    exact ⟨none, rfl, rfl⟩

/-! ### Numbers -/

/-- Neither a digit nor a point comes next where an exponent may stand. -/
theorem exponentChars_append (e : Option Exponent) {rest : List Char} (stops : Stops rest) :
    NoDigit (exponentChars e ++ rest) ∧ ∀ r, exponentChars e ++ rest ≠ '.' :: r := by
  cases e with
  | none => exact ⟨stops.noDigit, stops.ne (.inl rfl)⟩
  | some e =>
    obtain ⟨c, sign, d, hc, -⟩ := e
    simp only [exponentChars, Option.elim_some, Exponent.chars, List.cons_append]
    rcases hc with rfl | rfl <;> exact ⟨by simp [NoDigit, isDigit], by simp⟩

/-- No digit comes next where a fraction may stand. -/
theorem noDigit_fractionChars (f : Option Digits) {rest : List Char} (stop : NoDigit rest) :
    NoDigit (fractionChars f ++ rest) := by
  cases f with
  | none => exact stop
  | some d => simp [fractionChars, NoDigit, isDigit]

/-- A number is scanned in whole, wherever what stands behind it could not go on with it. -/
theorem scanUnsigned_unsigned (n : Numeral) {rest : List Char} (stops : Stops rest) :
    scanUnsigned n.negative (n.unsigned ++ rest) = .ok (n.value, rest) := by
  obtain ⟨behind, point⟩ := exponentChars_append n.exponent stops
  have behindWhole := noDigit_fractionChars n.fraction behind
  have chars : n.unsigned ++ rest =
      n.whole.chars ++ (fractionChars n.fraction ++ (exponentChars n.exponent ++ rest)) := by
    simp [Numeral.unsigned]
  have exponent := scanExponent_chars n.exponent stops.noDigit fun c r hc ↦ stops.ne (.inr hc) r
  rw [chars, scanUnsigned, takeWhile_digits _ behindWhole, dropWhile_digits _ behindWhole,
    if_neg n.whole.ne_nil, if_neg n.plain, scanFraction_chars _ behind point]
  simp only [bind, Except.bind, pure, Except.pure, exponent, n.inRange, Option.isSome_map,
    Bool.false_eq_true, if_false, Numeral.value]
  split <;> rfl

/-- What is scanned behind a sign are the parts of a number. -/
theorem exists_unsigned {negative : Bool} {cs rest : List Char} {v : Value}
    (h : scanUnsigned negative cs = .ok (v, rest)) :
    ∃ n : Numeral, n.negative = negative ∧ cs = n.unsigned ++ rest ∧ v = n.value := by
  unfold scanUnsigned at h
  simp only [bind, Except.bind, pure, Except.pure, throw, throwThe, MonadExceptOf.throw] at h
  split at h
  · cases h
  · next some =>
    split at h
    · cases h
    · next plain =>
      obtain ⟨whole, taken, parts⟩ := exists_digits some
      rw [taken] at h plain
      split at h
      · cases h
      · next f hf =>
        obtain ⟨fraction, writtenFraction, partsFraction⟩ := exists_fraction hf
        split at h
        · cases h
        · next e he =>
          obtain ⟨exponent, writtenExponent, partsExponent⟩ := exists_exponent he
          rw [writtenFraction, writtenExponent] at h
          split at h
          · cases h
          · next inRange =>
            let n : Numeral :=
              ⟨negative, whole, fraction, exponent, plain, eq_false_of_ne_true inRange⟩
            have scanned : Except.ok (n.value, e.2) = Except.ok (ε := Break) (v, rest) := by
              rw [← h, Option.isSome_map, Option.isSome_map]
              change Except.ok (if _ then _ else _, _) = _
              split <;> rfl
            cases scanned
            refine ⟨n, rfl, ?_, rfl⟩
            simp only [n, Numeral.unsigned, List.append_assoc, ← partsExponent, ← partsFraction]
            exact parts

theorem scanNumber_chars (n : Numeral) {rest : List Char} (stops : Stops rest) :
    scanNumber (n.chars ++ rest) = .ok (n.value, rest) := by
  have scanned := scanUnsigned_unsigned n stops
  unfold Numeral.chars
  cases sign : n.negative with
  | true =>
    rw [sign] at scanned
    exact scanned
  | false =>
    rw [sign] at scanned
    change scanNumber (n.unsigned ++ rest) = _
    unfold scanNumber
    split
    · next minus =>
      rw [Numeral.unsigned, List.append_assoc] at minus
      exact absurd minus (n.whole.append_ne (by decide) _ _)
    · exact scanned

theorem exists_numeral {cs rest : List Char} {v : Value} (h : scanNumber cs = .ok (v, rest)) :
    ∃ n : Numeral, cs = n.chars ++ rest ∧ v = n.value := by
  unfold scanNumber at h
  split at h
  · obtain ⟨n, sign, split, value⟩ := exists_unsigned h
    exact ⟨n, by simp [Numeral.chars, sign, split], value⟩
  · obtain ⟨n, sign, split, value⟩ := exists_unsigned h
    exact ⟨n, by simp [Numeral.chars, sign, split], value⟩

/-! ### Counts -/

/-- The number that digits denote behind a number. -/
def digitsFrom (n : Nat) (cs : List Char) : Nat := cs.foldl (fun n c ↦ n * 10 + digitValue c) n

theorem le_digitsFrom (n : Nat) (cs : List Char) : n ≤ digitsFrom n cs := by
  induction cs generalizing n with
  | nil => exact Nat.le_refl n
  | cons c cs ih =>
    refine Nat.le_trans ?_ (ih (n * 10 + digitValue c))
    omega

/-- Digits of a number that fits are all taken. -/
theorem extend_eq {n : Nat} {cs : List Char} (fits : digitsFrom n cs < UInt64.size) :
    extend n cs = (digitsFrom n cs, []) := by
  induction cs generalizing n with
  | nil => rfl
  | cons c cs ih =>
    have le := le_digitsFrom (n * 10 + digitValue c) cs
    rw [extend]
    simp only [if_pos (Nat.lt_of_le_of_lt le fits)]
    exact ih fits

/-- The nearest double is less than twice as large. -/
theorem nearestDouble_le {n : Nat} (pos : n ≠ 0) : nearestDouble n ≤ 2 * n := by
  have small : Nat.pow 2 (n.log2 - 52) ≤ n :=
    Nat.le_trans (Nat.pow_le_pow_right (by decide) (Nat.sub_le _ _)) (Nat.log2_self_le pos)
  have below := Nat.div_mul_le_self n (Nat.pow 2 (n.log2 - 52))
  simp only [nearestDouble]
  split
  · omega
  · rw [Nat.add_mul]
    omega

/-- A count is not out of range. -/
theorem overflows_of_lt {n : Nat} (fits : n < UInt64.size) :
    (Magnitude.mk n 0).overflows = false := by
  by_cases zero : n = 0
  · simp [Magnitude.overflows, zero]
  · have le := nearestDouble_le zero
    have one : nearestDouble 1 = 1 := nearestDouble_of_log2_le (by decide)
    have limit : 2 * UInt64.size ≤ doubleLimit := by decide +kernel
    have small : ¬doubleLimit ≤ nearestDouble n := by omega
    simp [Magnitude.overflows, zero, one, small, maxPower]

theorem isDigit_toDigits (n : Nat) : ∀ c ∈ Nat.toDigits 10 n, isDigit c = true := by
  intro c hc
  have digit := Nat.isDigit_of_mem_toDigits (by decide) (by decide) hc
  simpa [isDigit, Char.isDigit, Char.le_def] using digit

theorem digitsValue_toDigits (n : Nat) : digitsValue (Nat.toDigits 10 n) = n := by
  conv => rhs; rw [← Nat.ofDigitChars_ten_toDigits (n := n)]
  rw [Nat.ofDigitChars_eq_foldl, digitsValue]
  simp only [digitValue, Nat.mul_comm]

/-- Only the number zero is written with a zero in front. -/
theorem head?_toDigits {n : Nat} (pos : 0 < n) : (Nat.toDigits 10 n).head? ≠ some '0' := by
  induction n using Nat.strongRecOn with
  | ind n ih =>
    rw [Nat.toDigits_eq_if (by decide)]
    split
    · next small =>
      have digits : ∀ n < 10, 0 < n → [Nat.digitChar n].head? ≠ some '0' := by decide
      exact digits n small pos
    · have higher := ih (n / 10) (by omega) (by omega)
      have some : Nat.toDigits 10 (n / 10) ≠ [] := Nat.toDigits_ne_nil
      obtain ⟨c, cs, split⟩ := List.exists_cons_of_ne_nil some
      rw [split] at higher ⊢
      exact higher

/-- A count as it is written. -/
def Numeral.ofCount (n : UInt64) : Numeral where
  negative := false
  whole := ⟨Nat.toDigits 10 n.toNat, Nat.toDigits_ne_nil, isDigit_toDigits n.toNat⟩
  fraction := none
  exponent := none
  plain := by
    rintro ⟨zero, long⟩
    by_cases pos : 0 < n.toNat
    · exact head?_toDigits pos zero
    · rw [Nat.eq_zero_of_not_pos pos] at long
      exact absurd long (by decide)
  inRange := by
    have fits : digitsFrom 0 (Nat.toDigits 10 n.toNat) < UInt64.size := by
      change digitsValue _ < _
      rw [digitsValue_toDigits]
      exact n.toNat_lt
    simpa [Magnitude.ofDigits, extend_eq fits, extend] using overflows_of_lt fits

theorem Numeral.value_ofCount (n : UInt64) : (ofCount n).value = .natural n.toNat :=
  congrArg Value.natural (digitsValue_toDigits n.toNat)

theorem Numeral.chars_ofCount (n : UInt64) : (ofCount n).chars = Nat.toDigits 10 n.toNat :=
  List.append_nil _

end Gatehouse.Json

import Gatehouse.Proofs.Json.Reading

/-!
# Blanks between tokens

Blanks inside of strings belong to the strings; the others only stand between tokens. A text without
those still is a text of its value, so two texts that differ in nothing else have the same value.
-/

namespace Gatehouse.Json

/-- The text without the blanks outside of strings. The flag tells whether it begins inside of one,
where a backslash keeps the next character from ending it. -/
def squeezed : Bool → List Char → List Char
  | _, [] => []
  | false, c :: cs => if isSpace c then squeezed false cs else c :: squeezed (c = '"') cs
  | true, '"' :: cs => '"' :: squeezed false cs
  | true, '\\' :: c :: cs => '\\' :: c :: squeezed true cs
  | true, c :: cs => c :: squeezed true cs

/-- The text without the blanks between its tokens. -/
def unspaced (s : String) : String := String.ofList (squeezed false s.toList)

/-! ### Tokens -/

/-- A character that is neither a blank nor begins a string. -/
def Solid (c : Char) : Prop := isSpace c = false ∧ c ≠ '"'

instance : DecidablePred Solid := fun _ ↦ inferInstanceAs (Decidable (_ ∧ _))

theorem squeezed_blanks {b : List Char} (hb : Blanks b) (rest : List Char) :
    squeezed false (b ++ rest) = squeezed false rest := by
  induction b with
  | nil => rfl
  | cons c b ih =>
    obtain ⟨hc, hb⟩ := List.forall_mem_cons.mp hb
    rw [List.cons_append, squeezed, if_pos hc, ih hb]

theorem squeezed_cons {c : Char} (h : Solid c) (rest : List Char) :
    squeezed false (c :: rest) = c :: squeezed false rest := by
  rw [squeezed, if_neg (Bool.eq_false_iff.mp h.1), decide_eq_false h.2]

theorem squeezed_solid {cs : List Char} (h : ∀ c ∈ cs, Solid c) (rest : List Char) :
    squeezed false (cs ++ rest) = cs ++ squeezed false rest := by
  induction cs with
  | nil => rfl
  | cons c cs ih =>
    obtain ⟨hc, h⟩ := List.forall_mem_cons.mp h
    rw [List.cons_append, squeezed_cons hc, ih h, List.cons_append]

theorem squeezed_plain {c : Char} (quote : c ≠ '"') (backslash : c ≠ '\\') (rest : List Char) :
    squeezed true (c :: rest) = c :: squeezed true rest := by
  rw [squeezed]
  · exact quote
  · exact fun _ _ h _ ↦ backslash h

theorem digits_of_readDigits {base acc n : Nat} {cs : List Char}
    (h : Text.readDigits base acc cs = some n) : ∀ c ∈ cs, Text.digit? base c ≠ none := by
  induction cs generalizing acc with
  | nil => exact nofun
  | cons c cs ih =>
    rw [Text.readDigits] at h
    split at h
    · next d digit =>
      refine List.forall_mem_cons.mpr ⟨?_, ih h⟩
      rw [digit]
      exact Option.some_ne_none d
    · cases h

/-- The digits of an escape neither end the string nor begin another escape. -/
theorem squeezed_hex4 {a b c d : Char} {n : Nat} (h : hex4? a b c d = some n) (rest : List Char) :
    squeezed true (a :: b :: c :: d :: rest) = a :: b :: c :: d :: squeezed true rest := by
  have digits := digits_of_readDigits h
  have plain : ∀ x ∈ [a, b, c, d], x ≠ '"' ∧ x ≠ '\\' := by
    intro x hx
    constructor
    · rintro rfl
      exact digits _ hx rfl
    · rintro rfl
      exact digits _ hx rfl
  simp only [List.forall_mem_cons] at plain
  obtain ⟨ha, hb, hc, hd, -⟩ := plain
  rw [squeezed_plain ha.1 ha.2, squeezed_plain hb.1 hb.2, squeezed_plain hc.1 hc.2,
    squeezed_plain hd.1 hd.2]

theorem squeezed_escape (c : Char) (rest : List Char) :
    squeezed true ('\\' :: c :: rest) = '\\' :: c :: squeezed true rest := rfl

/-- A string is left as it is. -/
theorem squeezed_quoted {k s : List Char} (h : Quoted k s) (rest : List Char) :
    squeezed false ('"' :: (k ++ '"' :: rest)) = '"' :: (k ++ '"' :: squeezed false rest) := by
  refine congrArg (List.cons '"') ?_
  change squeezed true (k ++ '"' :: rest) = _
  induction h with
  | nil => rfl
  | plain quote backslash _ _ ih =>
    rw [List.cons_append, squeezed_plain quote backslash, ih, List.cons_append]
  | letter _ _ ih => simp only [List.cons_append, squeezed_escape, ih]
  | unit h _ _ _ ih => simp only [List.cons_append, squeezed_escape, squeezed_hex4 h, ih]
  | pair first second _ _ _ ih =>
    simp only [List.cons_append, squeezed_escape, squeezed_hex4 first, squeezed_hex4 second, ih]

theorem Digits.solid (d : Digits) : ∀ c ∈ d.chars, Solid c := by
  intro c hc
  have digit := d.digits c hc
  refine ⟨isSpace_of_isDigit digit, ?_⟩
  rintro rfl
  exact absurd digit (by decide)

theorem solid_fractionChars (f : Option Digits) : ∀ c ∈ fractionChars f, Solid c := by
  cases f with
  | none => exact nofun
  | some d => exact List.forall_mem_cons.mpr ⟨by decide, d.solid⟩

theorem solid_exponentChars (e : Option Exponent) : ∀ c ∈ exponentChars e, Solid c := by
  cases e with
  | none => exact nofun
  | some e =>
    obtain ⟨letter, sign, digits, hl, hs⟩ := e
    have hl : Solid letter := by rcases hl with rfl | rfl <;> decide
    have hs : ∀ c ∈ sign, Solid c := by
      rcases hs with rfl | rfl | rfl <;> simp [Solid, isSpace]
    exact List.forall_mem_cons.mpr ⟨hl, List.forall_mem_append.mpr ⟨hs, digits.solid⟩⟩

theorem Numeral.solid (n : Numeral) : ∀ c ∈ n.chars, Solid c := by
  have unsigned : ∀ c ∈ n.unsigned, Solid c :=
    List.forall_mem_append.mpr ⟨n.whole.solid, List.forall_mem_append.mpr
      ⟨solid_fractionChars n.fraction, solid_exponentChars n.exponent⟩⟩
  unfold Numeral.chars
  split
  · exact List.forall_mem_cons.mpr ⟨by decide, unsigned⟩
  · exact unsigned

theorem solid_words {w : List Char} {v : Value} (h : (w, v) ∈ words) : ∀ c ∈ w, Solid c := by
  simp only [words, List.mem_cons, Prod.mk.injEq, List.not_mem_nil, or_false] at h
  rcases h with ⟨rfl, -⟩ | ⟨rfl, -⟩ | ⟨rfl, -⟩ <;> simp [Solid, isSpace]

/-! ### Values -/

/-- In front of whatever stands behind it, the text without its blanks is one of the same things. -/
def Keeps (Is : List Char → Prop) (cs : List Char) : Prop :=
  ∃ cs', Is cs' ∧ ∀ rest, squeezed false (cs ++ rest) = cs' ++ squeezed false rest

theorem Keeps.of_solid {Is : List Char → Prop} {cs : List Char} (h : Is cs)
    (solid : ∀ c ∈ cs, Solid c) : Keeps Is cs :=
  ⟨cs, h, squeezed_solid solid⟩

/-- A series of members keeps its members where each of them keeps. -/
theorem Series.keeps {α : Type} {Spells : List Char → α → Prop} {size : Nat}
    (member : ∀ c x, Spells c x → c.length ≤ size → Keeps (Spells · x) c)
    {first : Bool} {cs : List Char} {xs : List α} (h : Series Spells first cs xs)
    (small : cs.length ≤ size) : Keeps (Series Spells first · xs) cs := by
  induction h with
  | done hb => exact ⟨[], .done blanks_nil, squeezed_blanks hb⟩
  | @first b c cs x xs hb hx more ih =>
    simp only [List.length_append] at small
    obtain ⟨c', hx', member⟩ := member c x hx (by omega)
    obtain ⟨cs', more', series⟩ := ih (by omega)
    refine ⟨c' ++ cs', .first blanks_nil hx' more', fun rest ↦ ?_⟩
    simp only [List.append_assoc, squeezed_blanks hb, member, series]
  | @next a b c cs x xs ha hb hx more ih =>
    simp only [List.length_append, List.length_cons] at small
    obtain ⟨c', hx', member⟩ := member c x hx (by omega)
    obtain ⟨cs', more', series⟩ := ih (by omega)
    have comma : Solid ',' := by decide
    refine ⟨',' :: (c' ++ cs'), .next blanks_nil blanks_nil hx' more', fun rest ↦ ?_⟩
    simp only [List.append_assoc, List.cons_append, squeezed_blanks ha, squeezed_cons comma,
      squeezed_blanks hb, member, series]

/-- A bracketed text keeps where its inside does. -/
theorem Keeps.bracket {Is Is' : List Char → Prop} {cs : List Char} {left right : Char}
    (hl : Solid left) (hr : Solid right) (bracket : ∀ cs, Is cs → Is' (left :: (cs ++ [right])))
    (h : Keeps Is cs) : Keeps Is' (left :: (cs ++ [right])) := by
  obtain ⟨cs', inside, squeezes⟩ := h
  refine ⟨left :: (cs' ++ [right]), bracket cs' inside, fun rest ↦ ?_⟩
  simp only [List.cons_append, List.append_assoc, List.nil_append, squeezed_cons hl, squeezes,
    squeezed_cons hr]

theorem Entry.keeps {c : List Char} {e : String × Value} (h : Entry Spells c e)
    (value : ∀ k v, Spells k v → k.length < c.length → Keeps (Spells · v) k) :
    Keeps (Entry Spells · e) c := by
  obtain @⟨k, s, a, b, c, v, hk, ha, hb, hv⟩ := h
  have shorter : c.length < ('"' :: (k ++ '"' :: (a ++ ':' :: (b ++ c)))).length := by
    simp only [List.length_cons, List.length_append]
    omega
  obtain ⟨c', hv', squeezes⟩ := value c v hv shorter
  have colon : Solid ':' := by decide
  refine ⟨_, .mk hk blanks_nil blanks_nil hv', fun rest ↦ ?_⟩
  simp only [List.cons_append, List.append_assoc, List.nil_append, squeezed_quoted hk,
    squeezed_blanks ha, squeezed_cons colon, squeezed_blanks hb, squeezes]

/-- The text of a value without its blanks is a text of the value. -/
theorem Spells.keeps {c : List Char} {v : Value} (h : Spells c v) : Keeps (Spells · v) c := by
  induction size : c.length using Nat.strongRecOn generalizing c v with
  | ind size ih =>
    cases h with
    | word h => exact .of_solid (.word h) (solid_words h)
    | number n => exact .of_solid (.number n) n.solid
    | text h =>
      refine ⟨_, .text h, fun rest ↦ ?_⟩
      simp only [List.cons_append, List.append_assoc, List.nil_append, squeezed_quoted h]
    | @list cs vs h =>
      simp only [List.length_cons, List.length_append, List.length_nil] at size
      have items := h.keeps (fun c v hv short ↦ ih c.length (by omega) hv rfl) (Nat.le_refl _)
      exact items.bracket (by decide) (by decide) fun _ ↦ .list
    | @object cs es h =>
      simp only [List.length_cons, List.length_append, List.length_nil] at size
      have entries := h.keeps
        (fun c e he short ↦ he.keeps fun k v hv shorter ↦ ih k.length (by omega) hv rfl)
        (Nat.le_refl _)
      exact entries.bracket (by decide) (by decide) fun _ ↦ .object

/-! ### Whole texts -/

/-- A text without the blanks between its tokens has the same value. -/
theorem Denotes.unspaced {s : String} {v : Value} (h : Denotes s v) : Denotes (unspaced s) v := by
  obtain ⟨a, c, b, split, ha, hc, hb⟩ := h
  obtain ⟨c', hc', squeezes⟩ := hc.keeps
  have blank := squeezed_blanks hb []
  rw [List.append_nil] at blank
  refine ⟨[], c', [], ?_, blanks_nil, hc', blanks_nil⟩
  rw [Json.unspaced, String.toList_ofList, split, squeezed_blanks ha, squeezes, blank]
  rfl

/-- Texts that differ only in the blanks between their tokens have the same value. -/
theorem Denotes.eq_of_unspaced {s s' : String} {v v' : Value} (h : Denotes s v)
    (h' : Denotes s' v') (same : Json.unspaced s = Json.unspaced s') : v = v' :=
  (same ▸ h.unspaced).unique h'.unspaced

end Gatehouse.Json

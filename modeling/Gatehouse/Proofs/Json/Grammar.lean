import Gatehouse.Proofs.Json.Numeral
import Gatehouse.Proofs.Json.RoundTrip

/-!
# The grammar of JSON texts

Which texts are texts of a value, said without the reader: what may stand between the quotes of a
string, how numbers are written, and where blanks, commas, colons and brackets stand. A text is one
of a value whole, so only values that end with their closing brackets have texts.
-/

namespace Gatehouse.Json

/-- Blanks between tokens. -/
def Blanks (cs : List Char) : Prop := ∀ c ∈ cs, isSpace c = true

/-- What stands between the quotes of a string, and the characters that it stands for. -/
inductive Quoted : List Char → List Char → Prop where
  | nil : Quoted [] []
  | plain {c : Char} {cs s : List Char} (quote : c ≠ '"') (backslash : c ≠ '\\')
    (visible : ¬c < ' ') (rest : Quoted cs s) : Quoted (c :: cs) (c :: s)
  | letter {c e : Char} {cs s : List Char} (h : escaped? c = some e) (rest : Quoted cs s) :
    Quoted ('\\' :: c :: cs) (e :: s)
  | unit {a b c d : Char} {n : Nat} {cs s : List Char} (h : hex4? a b c d = some n)
    (low : isLowSurrogate n = false) (high : isHighSurrogate n = false) (rest : Quoted cs s) :
    Quoted ('\\' :: 'u' :: a :: b :: c :: d :: cs) (Char.ofNat n :: s)
  | pair {a b c d e f g h : Char} {m n : Nat} {cs s : List Char} (first : hex4? a b c d = some m)
    (second : hex4? e f g h = some n) (high : isHighSurrogate m = true)
    (low : isLowSurrogate n = true) (rest : Quoted cs s) :
    Quoted ('\\' :: 'u' :: a :: b :: c :: d :: '\\' :: 'u' :: e :: f :: g :: h :: cs)
      (Char.ofNat (surrogatePair m n) :: s)

/-- Members with commas between them and blanks around, up to the closing bracket. The flag tells
whether they stand behind the opening bracket or behind another member. -/
inductive Series {α : Type} (Spells : List Char → α → Prop) :
    Bool → List Char → List α → Prop where
  | done {opening : Bool} {b : List Char} (hb : Blanks b) : Series Spells opening b []
  | first {b c cs : List Char} {x : α} {xs : List α} (hb : Blanks b) (hx : Spells c x)
    (more : Series Spells false cs xs) : Series Spells true (b ++ (c ++ cs)) (x :: xs)
  | next {a b c cs : List Char} {x : α} {xs : List α} (ha : Blanks a) (hb : Blanks b)
    (hx : Spells c x) (more : Series Spells false cs xs) :
    Series Spells false (a ++ ',' :: (b ++ (c ++ cs))) (x :: xs)

/-- A key, a colon and a value. -/
inductive Entry (Spells : List Char → Value → Prop) : List Char → String × Value → Prop where
  | mk {k s a b c : List Char} {v : Value} (hk : Quoted k s) (ha : Blanks a) (hb : Blanks b)
    (hv : Spells c v) :
    Entry Spells ('"' :: (k ++ '"' :: (a ++ ':' :: (b ++ c)))) (String.ofList s, v)

/-- The words that stand for values. -/
def words : List (List Char × Value) :=
  [(['n', 'u', 'l', 'l'], .null), (['t', 'r', 'u', 'e'], .bool true),
    (['f', 'a', 'l', 's', 'e'], .bool false)]

/-- A value and the text of one that has no blanks around it. -/
inductive Spells : List Char → Value → Prop where
  | word {cs : List Char} {v : Value} (h : (cs, v) ∈ words) : Spells cs v
  | number (n : Numeral) : Spells n.chars n.value
  | text {cs s : List Char} (h : Quoted cs s) :
    Spells ('"' :: (cs ++ ['"'])) (.text (String.ofList s))
  | list {cs : List Char} {vs : List Value} (h : Series Spells true cs vs) :
    Spells ('[' :: (cs ++ [']'])) (.list vs .closed)
  | object {cs : List Char} {es : List (String × Value)} (h : Series (Entry Spells) true cs es) :
    Spells ('{' :: (cs ++ ['}'])) (.object es .closed)

/-- The text is one of the value, with blanks around it. -/
def Denotes (s : String) (v : Value) : Prop :=
  ∃ a c b, s.toList = a ++ (c ++ b) ∧ Blanks a ∧ Spells c v ∧ Blanks b

theorem of_consChar {c : Char} {r : Except Break (List Char × List Char)} {s rest : List Char}
    (h : consChar c r = .ok (s, rest)) : ∃ t, r = .ok (t, rest) ∧ s = c :: t := by
  cases r with
  | error b => cases h
  | ok r =>
    cases h
    exact ⟨r.1, rfl, rfl⟩

theorem scanString_of_quoted {cs s : List Char} (h : Quoted cs s) (rest : List Char) :
    scanString (cs ++ '"' :: rest) = .ok (s, rest) := by
  induction h with
  | nil => rfl
  | plain quote backslash visible _ ih =>
    rw [List.cons_append, scanString_plain quote backslash visible, ih]
    rfl
  | @letter c e cs s h _ ih =>
    have letter : scanString ('\\' :: c :: (cs ++ '"' :: rest)) =
        consChar e (scanString (cs ++ '"' :: rest)) := by
      unfold escaped? at h
      split at h <;> cases h <;> rfl
    change scanString ('\\' :: c :: (cs ++ '"' :: rest)) = _
    rw [letter, ih]
    rfl
  | unit h low high _ ih =>
    simp only [List.cons_append, scanString, h, low, high, Bool.false_eq_true, if_false, ih]
    rfl
  | @pair a b c d e f g h m n cs s first second high low _ ih =>
    have apart : isLowSurrogate m = false := by
      simp [isHighSurrogate, isLowSurrogate] at high ⊢
      omega
    simp only [List.cons_append, scanString, first, second, high, low, apart, Bool.false_eq_true,
      if_false, if_true, ih]
    rfl

/-- What is scanned up to a closing quote is what stands between the quotes. -/
theorem exists_quoted {cs s rest : List Char} (h : scanString cs = .ok (s, rest)) :
    ∃ body, cs = body ++ '"' :: rest ∧ Quoted body s := by
  fun_induction scanString cs generalizing s with
  | case2 behind =>
    cases h
    exact ⟨[], rfl, .nil⟩
  | case9 a b c d m first _ high e f g k _ n second low ih =>
    obtain ⟨s, inner, rfl⟩ := of_consChar h
    obtain ⟨body, rfl, quoted⟩ := ih inner
    exact ⟨_, rfl, .pair first second high low quoted⟩
  | case13 a b c d _ n unit low high ih =>
    obtain ⟨s, inner, rfl⟩ := of_consChar h
    obtain ⟨body, rfl, quoted⟩ := ih inner
    exact ⟨_, rfl, .unit unit (eq_false_of_ne_true low) (eq_false_of_ne_true high) quoted⟩
  | case15 c _ _ _ e letter ih =>
    obtain ⟨s, inner, rfl⟩ := of_consChar h
    obtain ⟨body, rfl, quoted⟩ := ih inner
    exact ⟨_, rfl, .letter letter quoted⟩
  | case18 c _ quote lone _ _ escape visible ih =>
    obtain ⟨s, inner, rfl⟩ := of_consChar h
    obtain ⟨body, rfl, quoted⟩ := ih inner
    have backslash : c ≠ '\\' := by
      intro hc
      cases body with
      | nil => exact escape _ _ hc rfl
      | cons _ _ => exact escape _ _ hc rfl
    exact ⟨c :: body, rfl, .plain quote backslash visible quoted⟩
  | _ => cases h

end Gatehouse.Json

import Gatehouse.Json.Reader
import Gatehouse.Proofs.Json.Grammar

/-!
# One step of each reader

The readers of values, of lists and of objects call each other. What a single call of each of them
needs to succeed is stated here without the others being opened: how a value can begin, and how a
turn of the loop over the members of a list or of an object goes. Both loops are of one kind, so
that what holds of a loop is proved once.
-/

namespace Gatehouse.Json

/-! ### Blanks -/

theorem skipSpace_eq_iff {cs t : List Char} :
    skipSpace cs = t ↔ (∃ b, cs = b ++ t ∧ Blanks b) ∧ ∀ c ∈ t.head?, isSpace c = false := by
  constructor
  · rintro rfl
    refine ⟨⟨cs.takeWhile isSpace, List.takeWhile_append_dropWhile.symm, ?_⟩, ?_⟩
    · exact List.all_eq_true.mp List.all_takeWhile
    · intro c hc
      have stop := List.head?_dropWhile_not isSpace cs
      simp only [skipSpace] at hc
      rw [hc] at stop
      exact Bool.not_eq_true' _ |>.mp (by simpa using stop)
  · rintro ⟨⟨b, rfl, blanks⟩, stop⟩
    rw [skipSpace, List.dropWhile_append_of_pos blanks]
    cases t with
    | nil => rfl
    | cons c t => exact List.dropWhile_cons_of_neg (by simp [stop c rfl])

theorem skipSpace_skipSpace (cs : List Char) : skipSpace (skipSpace cs) = skipSpace cs := by
  rw [skipSpace_eq_iff]
  exact ⟨⟨[], rfl, nofun⟩, (skipSpace_eq_iff.mp rfl).2⟩

/-! ### One step of each reader -/

theorem scanWord_eq_ok_iff {v v' : Value} {word cs rest : List Char} :
    scanWord v word cs = .ok (v', rest) ↔ cs = word ++ rest ∧ v' = v := by
  induction word generalizing cs with
  | nil => simp [scanWord, and_comm, eq_comm]
  | cons w word ih =>
    cases cs with
    | nil => simp [scanWord]
    | cons c cs =>
      rw [scanWord]
      split
      · next same => simp [ih, same]
      · next other => simp [Ne.symm other]

/-- How a value can begin, and where it ends. -/
inductive Step (n : Nat) : List Char → Value → List Char → Prop where
  | word {w rest : List Char} {v : Value} (h : (w, v) ∈ words) : Step n (w ++ rest) v rest
  | number {cs rest : List Char} {v : Value} (h : scanNumber cs = .ok (v, rest)) : Step n cs v rest
  | text {cs s rest : List Char} (h : scanString cs = .ok (s, rest)) :
    Step n ('"' :: cs) (.text (String.ofList s)) rest
  | list {cs rest : List Char} {items : List Value} {tail : Tail}
    (h : readItems n true cs = (items, tail, some rest)) :
    Step n ('[' :: cs) (.list items tail) rest
  | object {cs rest : List Char} {entries : List (String × Value)} {tail : Tail}
    (h : readEntries n true cs = (entries, tail, some rest)) :
    Step n ('{' :: cs) (.object entries tail) rest

theorem ofScan_eq_some_iff {r : Except Break (Value × List Char)} {v : Value} {rest : List Char} :
    ofScan r = (v, some rest) ↔ r = .ok (v, rest) := by
  cases r with
  | error b => simp [ofScan]
  | ok r =>
    obtain ⟨v', rest'⟩ := r
    simp [ofScan]

/-- A number begins with its sign or with a digit. -/
theorem head_numeral (n : Numeral) : ∃ c r, n.chars = c :: r ∧ (c = '-' ∨ isDigit c = true) := by
  unfold Numeral.chars
  split
  · exact ⟨'-', _, rfl, .inl rfl⟩
  · obtain ⟨c, r, first⟩ := List.exists_cons_of_ne_nil n.whole.ne_nil
    refine ⟨c, _, congrArg (· ++ _) first, .inr (n.whole.digits c ?_)⟩
    rw [first]
    exact List.mem_cons_self

theorem readValue_iff {n : Nat} {cs rest : List Char} {v : Value} :
    readValue (n + 1) cs = (v, some rest) ↔ Step n (skipSpace cs) v rest := by
  rw [readValue]
  generalize skipSpace cs = t
  constructor
  · intro h
    split at h
    · cases h
    · next cs =>
      rw [ofScan_eq_some_iff] at h
      cases hs : scanString cs with
      | error b => simp [hs, Except.map] at h
      | ok r =>
        simp only [hs, Except.map, Except.ok.injEq, Prod.mk.injEq] at h
        obtain ⟨rfl, rfl⟩ := h
        exact .text hs
    · next cs =>
      generalize inner : readItems n true cs = r at h
      obtain ⟨items, tail, rest⟩ := r
      cases h
      exact .list inner
    · next cs =>
      generalize inner : readEntries n true cs = r at h
      obtain ⟨entries, tail, rest⟩ := r
      cases h
      exact .object inner
    · rw [ofScan_eq_some_iff, scanWord_eq_ok_iff] at h
      obtain ⟨rfl, rfl⟩ := h
      exact .word (w := ['n', 'u', 'l', 'l']) (by simp [words])
    · rw [ofScan_eq_some_iff, scanWord_eq_ok_iff] at h
      obtain ⟨rfl, rfl⟩ := h
      exact .word (w := ['t', 'r', 'u', 'e']) (by simp [words])
    · rw [ofScan_eq_some_iff, scanWord_eq_ok_iff] at h
      obtain ⟨rfl, rfl⟩ := h
      exact .word (w := ['f', 'a', 'l', 's', 'e']) (by simp [words])
    · split at h
      · rw [ofScan_eq_some_iff] at h
        exact .number h
      · cases h
  · intro h
    cases h with
    | word h =>
      simp only [words, List.mem_cons, Prod.mk.injEq, List.not_mem_nil, or_false] at h
      rcases h with ⟨rfl, rfl⟩ | ⟨rfl, rfl⟩ | ⟨rfl, rfl⟩ <;> rfl
    | number h =>
      obtain ⟨numeral, rfl, -⟩ := exists_numeral h
      obtain ⟨c, r, first, number⟩ := head_numeral numeral
      rw [first, List.cons_append] at h ⊢
      split
      case h_1 none => cases none
      case h_8 same =>
        cases same
        rw [if_pos number, ofScan_eq_some_iff]
        exact h
      -- No other value begins with a sign or a digit.
      all_goals
        next same =>
          cases same
          exact absurd number (by decide)
    | text h => simp [h, Except.map, ofScan]
    | list h => simp [h]
    | object h => simp [h]

/-- Where a member begins: behind blanks, and behind a comma unless it is the first. -/
inductive Opens : Bool → List Char → List Char → Prop where
  | first {cs : List Char} : Opens true cs (skipSpace cs)
  | next {cs behind : List Char} (h : skipSpace cs = ',' :: behind) :
    Opens false cs (skipSpace behind)

section

variable {α : Type} (close : Char)
  (series : Nat → Bool → List Char → List α × Tail × Option (List Char))
  (member : Nat → List Char → α → List Char → Prop)

/-- One turn of a loop over members: it ends at the closing bracket, or reads a member and goes on
behind it. -/
inductive Turn (n : Nat) (first : Bool) (cs : List Char) : List α → Tail → List Char → Prop where
  | close {rest : List Char} (h : skipSpace cs = close :: rest) : Turn n first cs [] .closed rest
  | member {start behind rest : List Char} {x : α} {more : List α} {tail : Tail}
    (opens : Opens first cs start) (hx : member n start x behind)
    (hm : series n false behind = (more, tail, some rest)) : Turn n first cs (x :: more) tail rest

/-- The loops over the members of lists and of objects. A turn that reads a member uses up two
steps, one for the loop and one for the member; without them it does not succeed. -/
structure Loop : Prop where
  zero : ∀ {first cs xs tail rest}, series 0 first cs ≠ (xs, tail, some rest)
  succ : ∀ {n first cs xs tail rest}, series (n + 1) first cs = (xs, tail, some rest) ↔
    Turn close series member (n - 1) first cs xs tail rest

end

/-- A value does not begin with a closing bracket, and not at the end of the text. -/
theorem Step.head {n : Nat} {cs rest : List Char} {v : Value} (h : Step n cs v rest) :
    ∃ c r, cs = c :: r ∧ c ≠ ']' := by
  cases h with
  | word h =>
    simp only [words, List.mem_cons, Prod.mk.injEq, List.not_mem_nil, or_false] at h
    rcases h with ⟨rfl, -⟩ | ⟨rfl, -⟩ | ⟨rfl, -⟩ <;> exact ⟨_, _, rfl, by decide⟩
  | number h =>
    obtain ⟨numeral, rfl, -⟩ := exists_numeral h
    obtain ⟨c, r, first, number⟩ := head_numeral numeral
    rw [first]
    refine ⟨c, _, rfl, ?_⟩
    rintro rfl
    exact absurd number (by decide)
  | _ => exact ⟨_, _, rfl, by decide⟩

theorem exists_head_of_readValue {n : Nat} {cs rest : List Char} {v : Value}
    (h : readValue n (skipSpace cs) = (v, some rest)) : ∃ c r, skipSpace cs = c :: r ∧ c ≠ ']' := by
  cases n with
  | zero => simp [readValue] at h
  | succ n =>
    rw [readValue_iff, skipSpace_skipSpace] at h
    exact h.head

theorem readItem_eq_some_iff {n : Nat} {cs rest : List Char} {vs : List Value} {tail : Tail} :
    readItem n cs = (vs, tail, some rest) ↔ ∃ v behind more,
      readValue (n - 1) cs = (v, some behind) ∧
        readItems (n - 1) false behind = (more, tail, some rest) ∧ vs = v :: more := by
  cases n with
  | zero => simp [readItem, readValue]
  | succ n =>
    rw [readItem, Nat.add_sub_cancel]
    constructor
    · intro h
      split at h
      · cases h
      · next v behind hv =>
        generalize hm : readItems n false behind = r at h
        obtain ⟨more, tail, rest⟩ := r
        cases h
        exact ⟨v, behind, more, hv, hm, rfl⟩
    · rintro ⟨v, behind, more, hv, hm, rfl⟩
      simp only [hv, hm]

theorem loop_readItems : Loop ']' readItems fun n start v behind ↦
    readValue n start = (v, some behind) where
  zero := by simp [readItems]
  succ := by
    intro n first cs vs tail rest
    rw [readItems]
    constructor
    · intro h
      split at h
      · cases h
      · next closed =>
        cases h
        exact .close closed
      · next c r _ begins =>
        split at h
        · next opening =>
          obtain ⟨v, behind, more, hv, hm, rfl⟩ := readItem_eq_some_iff.mp h
          subst opening
          exact .member .first (begins ▸ hv) hm
        · next opening =>
          obtain rfl := eq_false_of_ne_true opening
          split at h
          · next comma =>
            subst comma
            split at h
            · cases h
            · cases h
            · obtain ⟨v, behind, more, hv, hm, rfl⟩ := readItem_eq_some_iff.mp h
              exact .member (.next begins) hv hm
          · cases h
    · intro h
      cases h with
      | close h => simp [h]
      | @member start behind rest x more tail opens hx hm =>
        have item : readItem n start = (x :: more, tail, some rest) :=
          readItem_eq_some_iff.mpr ⟨x, behind, more, hx, hm, rfl⟩
        cases opens with
        | first =>
          obtain ⟨c, r, begins, bracket⟩ := exists_head_of_readValue hx
          rw [begins] at item ⊢
          simp [item]
        | next comma =>
          obtain ⟨c, r, begins, bracket⟩ := exists_head_of_readValue hx
          rw [begins] at item
          simp [comma, begins, bracket, item]

/-- A key, a colon and a value in front of a text. -/
inductive EntryStep (n : Nat) : List Char → String × Value → List Char → Prop where
  | mk {cs s mid colon behind : List Char} {v : Value} (hk : scanString cs = .ok (s, mid))
    (hc : skipSpace mid = ':' :: colon) (hv : readValue n colon = (v, some behind)) :
    EntryStep n ('"' :: cs) (String.ofList s, v) behind

theorem readEntry_eq_some_iff {n : Nat} {cs rest : List Char} {es : List (String × Value)}
    {tail : Tail} :
    readEntry n cs = (es, tail, some rest) ↔ ∃ e behind more, EntryStep (n - 1) cs e behind ∧
      readEntries (n - 1) false behind = (more, tail, some rest) ∧ es = e :: more := by
  cases n with
  | zero => simp [readEntry, readEntries]
  | succ n =>
    unfold readEntry
    rw [Nat.add_sub_cancel]
    constructor
    · intro h
      split at h
      · split at h
        · cases h
        · next hk =>
          split at h
          · cases h
          · next hc =>
            split at h
            · cases h
            · next v behind hv =>
              generalize hm : readEntries n false behind = r at h
              obtain ⟨more, tail, rest⟩ := r
              cases h
              exact ⟨_, behind, more, .mk hk hc hv, hm, rfl⟩
          · cases h
      · cases h
    · rintro ⟨e, behind, more, ⟨hk, hc, hv⟩, hm, rfl⟩
      simp only [hk, hc, hv, hm]

theorem loop_readEntries : Loop '}' readEntries EntryStep where
  zero := by simp [readEntries]
  succ := by
    intro n first cs es tail rest
    rw [readEntries]
    constructor
    · intro h
      split at h
      · cases h
      · next closed =>
        cases h
        exact .close closed
      · next c r _ begins =>
        split at h
        · next opening =>
          obtain ⟨e, behind, more, he, hm, rfl⟩ := readEntry_eq_some_iff.mp h
          subst opening
          exact .member .first (begins ▸ he) hm
        · next opening =>
          obtain rfl := eq_false_of_ne_true opening
          split at h
          · next comma =>
            subst comma
            split at h
            · cases h
            · obtain ⟨e, behind, more, he, hm, rfl⟩ := readEntry_eq_some_iff.mp h
              exact .member (.next begins) he hm
          · cases h
    · intro h
      cases h with
      | close h => simp [h]
      | @member start behind rest e more tail opens he hm =>
        have entry : readEntry n start = (e :: more, tail, some rest) :=
          readEntry_eq_some_iff.mpr ⟨e, behind, more, he, hm, rfl⟩
        cases opens with
        | first =>
          generalize skipSpace cs = start at he entry ⊢
          cases he
          simp [entry]
        | @next _ behind comma =>
          rw [comma]
          generalize begins : skipSpace behind = start at he entry
          cases he
          simp [begins, entry]

end Gatehouse.Json

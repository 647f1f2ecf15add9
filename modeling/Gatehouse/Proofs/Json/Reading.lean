import Gatehouse.Json.Decode
import Gatehouse.Proofs.Json.Steps

/-!
# The reader reads the grammar

A text is read without a fault just if the grammar gives it a value, and then as that value. One
way goes by induction on the steps that the reader has left, the other on the length of the text,
for which these steps are always enough.
-/

namespace Gatehouse.Json

/-! ### What is read is written in the grammar -/

theorem blanks_nil : Blanks [] := nofun

theorem Blanks.append {a b : List Char} (ha : Blanks a) (hb : Blanks b) : Blanks (a ++ b) := by
  intro c hc
  exact (List.mem_append.mp hc).elim (ha c) (hb c)

/-- The text that was read of a member, behind blanks. -/
def Taken {α : Type} (Spells : List Char → α → Prop) (start : List Char) (x : α)
    (behind : List Char) : Prop :=
  ∃ b c, start = b ++ (c ++ behind) ∧ Blanks b ∧ Spells c x

section

variable {α : Type} {close : Char}
  {series : Nat → Bool → List Char → List α × Tail × Option (List Char)}
  {member : Nat → List Char → α → List Char → Prop} {Spells : List Char → α → Prop}

/-- A loop reads a series of what its turns read. -/
theorem Loop.sound (w : Loop close series member) {n : Nat}
    (taken : ∀ m < n, ∀ start x behind, member m start x behind → Taken Spells start x behind)
    {first : Bool} {cs rest : List Char} {xs : List α} {tail : Tail}
    (h : series n first cs = (xs, tail, some rest)) :
    tail = .closed ∧ ∃ body, cs = body ++ close :: rest ∧ Series Spells first body xs := by
  induction n using Nat.strongRecOn generalizing first cs xs tail rest with
  | ind n ih =>
    cases n with
    | zero => exact absurd h w.zero
    | succ n =>
      cases w.succ.mp h with
      | close closed =>
        obtain ⟨b, rfl, hb⟩ := (skipSpace_eq_iff.mp closed).1
        exact ⟨rfl, b, rfl, .done hb⟩
      | member opens hx hm =>
        -- The turn has used up two steps, and the loop goes on with those that are left.
        have fewer : n - 1 < n + 1 := by omega
        obtain ⟨rfl, body, rfl, more⟩ :=
          ih (n - 1) fewer (fun m hm ↦ taken m (by omega)) hm
        obtain ⟨a, c, start, ha, hc⟩ := taken (n - 1) fewer _ _ _ hx
        refine ⟨rfl, ?_⟩
        cases opens with
        | first =>
          obtain ⟨⟨b, rfl, hb⟩, -⟩ := skipSpace_eq_iff.mp start
          refine ⟨b ++ a ++ (c ++ body), by simp, ?_⟩
          exact .first (hb.append ha) hc more
        | next comma =>
          obtain ⟨⟨d, rfl, hd⟩, -⟩ := skipSpace_eq_iff.mp comma
          obtain ⟨⟨b, rfl, hb⟩, -⟩ := skipSpace_eq_iff.mp start
          refine ⟨d ++ ',' :: (b ++ a ++ (c ++ body)), by simp, ?_⟩
          exact .next hd (hb.append ha) hc more

end

/-- An entry that is read is one of the grammar, if its value is. -/
theorem taken_of_entryStep {n : Nat} {start behind : List Char} {e : String × Value}
    (taken : ∀ {cs v rest}, readValue n cs = (v, some rest) → Taken Spells cs v rest)
    (h : EntryStep n start e behind) : Taken (Entry Spells) start e behind := by
  obtain ⟨hk, hc, hv⟩ := h
  obtain ⟨k, rfl, quoted⟩ := exists_quoted hk
  obtain ⟨⟨a, rfl, ha⟩, -⟩ := skipSpace_eq_iff.mp hc
  obtain ⟨b, c, rfl, hb, spelled⟩ := taken hv
  exact ⟨[], _, by simp, nofun, .mk quoted ha hb spelled⟩

/-- A value that is read is one of the grammar, behind blanks. -/
theorem taken_of_readValue {n : Nat} {cs rest : List Char} {v : Value}
    (h : readValue n cs = (v, some rest)) : Taken Spells cs v rest := by
  induction n using Nat.strongRecOn generalizing cs v rest with
  | ind n ih =>
    cases n with
    | zero => simp [readValue] at h
    | succ n =>
      have step := readValue_iff.mp h
      obtain ⟨⟨b, blanks, hb⟩, -⟩ := skipSpace_eq_iff.mp (rfl : skipSpace cs = skipSpace cs)
      rw [blanks]
      generalize skipSpace cs = t at step
      suffices spelled : ∃ c, t = c ++ rest ∧ Spells c v by
        obtain ⟨c, rfl, hc⟩ := spelled
        exact ⟨b, c, rfl, hb, hc⟩
      cases step with
      | word h => exact ⟨_, rfl, .word h⟩
      | number h =>
        obtain ⟨numeral, rfl, rfl⟩ := exists_numeral h
        exact ⟨_, rfl, .number numeral⟩
      | text h =>
        obtain ⟨body, rfl, quoted⟩ := exists_quoted h
        exact ⟨_, by simp, .text quoted⟩
      | list h =>
        obtain ⟨rfl, body, rfl, items⟩ := loop_readItems.sound
          (fun m hm _ _ _ read ↦ ih m (by omega) read) h
        exact ⟨_, by simp, .list items⟩
      | object h =>
        obtain ⟨rfl, body, rfl, entries⟩ := loop_readEntries.sound
          (fun m hm _ _ _ read ↦ taken_of_entryStep (ih m (by omega)) read) h
        exact ⟨_, by simp, .object entries⟩

/-! ### What is written in the grammar is read -/

/-- Whatever comes in front of a closing bracket or a comma, a value may stand before it. -/
theorem Blanks.stops {b : List Char} (hb : Blanks b) {c : Char} (hc : c = ',' ∨ c = '}' ∨ c = ']')
    (rest : List Char) : Stops (b ++ c :: rest) := by
  cases b with
  | nil =>
    rintro a ⟨⟩
    exact .inr hc
  | cons a b =>
    rintro a ⟨⟩
    exact .inl (hb a List.mem_cons_self)

theorem skipSpace_append {b c : List Char} (hb : Blanks b) (hc : ∀ a ∈ c.head?, isSpace a = false) :
    skipSpace (b ++ c) = c := skipSpace_eq_iff.mpr ⟨⟨b, rfl, hb⟩, hc⟩

section

variable {α : Type} {close : Char}
  {series : Nat → Bool → List Char → List α × Tail × Option (List Char)}
  {member : Nat → List Char → α → List Char → Prop} {Spells : List Char → α → Prop}

theorem Series.stops {cs : List Char} {xs : List α} (h : Series Spells false cs xs)
    (hc : close = '}' ∨ close = ']') (rest : List Char) : Stops (cs ++ close :: rest) := by
  cases h with
  | done hb => exact hb.stops (.inr hc) rest
  | next ha _ _ _ =>
    rw [List.append_assoc, List.cons_append]
    exact ha.stops (.inl rfl) _

/-- A loop reads what a series holds, if its turns read the members. Each character allows for three
steps, and a member is behind a bracket or a comma. -/
theorem Loop.complete (w : Loop close series member) (hc : close = '}' ∨ close = ']')
    (visible : ∀ c x, Spells c x → ∃ a t, c = a :: t ∧ isSpace a = false) {size : Nat}
    (reads : ∀ c x, Spells c x → c.length ≤ size → ∀ n rest, 3 * c.length < n → Stops rest →
      member n (c ++ rest) x rest)
    {first : Bool} {cs : List Char} {xs : List α} (h : Series Spells first cs xs)
    (small : cs.length ≤ size) {n : Nat} (enough : 3 * cs.length + 2 * first.toNat < n)
    (rest : List Char) : series n first (cs ++ close :: rest) = (xs, .closed, some rest) := by
  have bracket : isSpace close = false := by rcases hc with rfl | rfl <;> rfl
  have begins {b c : List Char} {x : α} (hb : Blanks b) (hx : Spells c x) (r : List Char) :
      skipSpace (b ++ (c ++ r)) = c ++ r := by
    obtain ⟨a, t, rfl, visible⟩ := visible c x hx
    exact skipSpace_append hb (by simpa using visible)
  induction h generalizing n with
  | done hb =>
    obtain ⟨n, rfl⟩ : ∃ m, n = m + 1 := ⟨n - 1, by omega⟩
    exact w.succ.mpr (.close (skipSpace_append hb (by simpa using bracket)))
  | @first b c cs x xs hb hx more ih =>
    simp only [List.length_append, Bool.toNat_true, Bool.toNat_false] at small enough ih
    obtain ⟨n, rfl⟩ : ∃ m, n = m + 2 := ⟨n - 2, by omega⟩
    have behind := ih (by omega) (n := n) (by omega)
    have read := reads c x hx (by omega) n (cs ++ close :: rest) (by omega) (more.stops hc rest)
    have opens : Opens true (b ++ (c ++ (cs ++ close :: rest))) _ := .first
    rw [begins hb hx] at opens
    simp only [List.append_assoc]
    exact w.succ.mpr (.member opens read behind)
  | @next d b c cs x xs hd hb hx more ih =>
    simp only [List.length_append, List.length_cons, Bool.toNat_false] at small enough ih
    obtain ⟨n, rfl⟩ : ∃ m, n = m + 2 := ⟨n - 2, by omega⟩
    have behind := ih (by omega) (n := n) (by omega)
    have read := reads c x hx (by omega) n (cs ++ close :: rest) (by omega) (more.stops hc rest)
    have comma : skipSpace (d ++ ',' :: (b ++ (c ++ (cs ++ close :: rest)))) =
        ',' :: (b ++ (c ++ (cs ++ close :: rest))) := skipSpace_append hd (by simp [isSpace])
    have opens := Opens.next comma
    rw [begins hb hx] at opens
    simp only [List.append_assoc, List.cons_append]
    exact w.succ.mpr (.member opens read behind)

end

/-- A text of a value begins with a character of its own. -/
theorem Spells.visible {c : List Char} {v : Value} (h : Spells c v) :
    ∃ a t, c = a :: t ∧ isSpace a = false := by
  cases h with
  | word h =>
    simp only [words, List.mem_cons, Prod.mk.injEq, List.not_mem_nil, or_false] at h
    rcases h with ⟨rfl, -⟩ | ⟨rfl, -⟩ | ⟨rfl, -⟩ <;> exact ⟨_, _, rfl, rfl⟩
  | number n =>
    obtain ⟨a, t, first, number⟩ := head_numeral n
    refine ⟨a, t, first, ?_⟩
    rcases number with rfl | digit
    · rfl
    · exact isSpace_of_isDigit digit
  | _ => exact ⟨_, _, rfl, rfl⟩

theorem Entry.visible {Spells : List Char → Value → Prop} {c : List Char} {e : String × Value}
    (h : Entry Spells c e) : ∃ a t, c = a :: t ∧ isSpace a = false := by
  cases h
  exact ⟨_, _, rfl, rfl⟩

/-- An entry is read, if its value is read behind blanks. -/
theorem entryStep_of_entry {c : List Char} {e : String × Value} (h : Entry Spells c e) {n : Nat}
    {rest : List Char}
    (reads : ∀ {b k v}, Blanks b → Spells k v → k.length < c.length →
      readValue n (b ++ (k ++ rest)) = (v, some rest)) : EntryStep n (c ++ rest) e rest := by
  obtain ⟨hk, ha, hb, hv⟩ := h
  have value := reads hb hv (by simp only [List.length_cons, List.length_append]; omega)
  simp only [List.cons_append, List.append_assoc]
  exact .mk (scanString_of_quoted hk _) (skipSpace_append ha (by simp [isSpace])) value

/-- A text of a value is read as the value behind blanks, wherever it may stop there. -/
theorem readValue_of_spells {b c : List Char} {v : Value} (hb : Blanks b) (h : Spells c v) {n : Nat}
    (enough : 3 * c.length < n) {rest : List Char} (stops : Stops rest) :
    readValue n (b ++ (c ++ rest)) = (v, some rest) := by
  induction size : c.length using Nat.strongRecOn generalizing b c v n rest with
  | ind size ih =>
    obtain ⟨n, rfl⟩ : ∃ m, n = m + 1 := ⟨n - 1, by omega⟩
    obtain ⟨a, t, first, visible⟩ := h.visible
    have start : skipSpace (b ++ (c ++ rest)) = c ++ rest := by
      rw [first]
      exact skipSpace_append hb (by simpa using visible)
    rw [readValue_iff, start]
    cases h with
    | word h => exact .word h
    | number n => exact .number (scanNumber_chars n stops)
    | text h =>
      have scanned := scanString_of_quoted h rest
      simp only [List.cons_append, List.append_assoc, List.nil_append]
      exact .text scanned
    -- The members of a list or of an object are shorter than it is.
    | @list cs vs h =>
      simp only [List.length_cons, List.length_append, List.length_nil] at size enough
      have reads : ∀ c v, Spells c v → c.length ≤ cs.length → ∀ n rest, 3 * c.length < n →
          Stops rest → readValue n (c ++ rest) = (v, some rest) :=
        fun c v hv short n rest enough stops ↦ ih c.length (by omega) blanks_nil hv enough stops rfl
      have items := loop_readItems.complete (.inr rfl) (fun _ _ ↦ Spells.visible) reads h
        (Nat.le_refl _) (n := n) (by simp; omega) rest
      simp only [List.cons_append, List.append_assoc, List.nil_append]
      exact .list items
    | @object cs es h =>
      simp only [List.length_cons, List.length_append, List.length_nil] at size enough
      have reads : ∀ c e, Entry Spells c e → c.length ≤ cs.length → ∀ n rest, 3 * c.length < n →
          Stops rest → EntryStep n (c ++ rest) e rest :=
        fun c e he short n rest enough stops ↦ entryStep_of_entry he fun hb hv shorter ↦
          ih _ (by omega) hb hv (by omega) stops rfl
      have entries := loop_readEntries.complete (.inl rfl) (fun _ _ ↦ Entry.visible) reads h
        (Nat.le_refl _) (n := n) (by simp; omega) rest
      simp only [List.cons_append, List.append_assoc, List.nil_append]
      exact .object entries

/-! ### Whole texts -/

theorem denotes_of_read {s : String} {v : Value} (h : Document.read s = ⟨v, true⟩) :
    Denotes s v := by
  rw [Document.read] at h
  generalize read : readValue (3 * s.toList.length + 3) s.toList = r at h
  obtain ⟨root, behind⟩ := r
  cases behind with
  | none => cases h
  | some rest =>
    obtain ⟨rfl, clean⟩ := Document.mk.inj h
    obtain ⟨b, c, split, hb, hc⟩ := taken_of_readValue read
    have blank : skipSpace rest = [] := List.isEmpty_iff.mp clean
    obtain ⟨⟨a, rfl, ha⟩, -⟩ := skipSpace_eq_iff.mp blank
    rw [List.append_nil] at split
    exact ⟨b, c, a, split, hb, hc, ha⟩

theorem read_of_denotes {s : String} {v : Value} (h : Denotes s v) :
    Document.read s = ⟨v, true⟩ := by
  obtain ⟨b, c, a, split, hb, hc, ha⟩ := h
  have stops : Stops a := fun x hx ↦ .inl (ha x (List.mem_of_mem_head? hx))
  have blank : skipSpace a = [] :=
    skipSpace_eq_iff.mpr ⟨⟨a, (List.append_nil a).symm, ha⟩, nofun⟩
  have enough : 3 * c.length < 3 * s.toList.length + 3 := by
    rw [split, List.length_append, List.length_append]
    omega
  have read := readValue_of_spells hb hc enough stops
  rw [← split] at read
  simp [Document.read, read, blank]

/-- A document is read without a fault from the texts of its value, and from no others. -/
theorem read_eq_iff {s : String} {v : Value} : Document.read s = ⟨v, true⟩ ↔ Denotes s v :=
  ⟨denotes_of_read, read_of_denotes⟩

theorem decode_of_denotes {α : Type} {reading : Value → Reading α} {s : String} {v : Value}
    (h : Denotes s v) : decode reading s = reading v := by
  simp only [decode, read_of_denotes h, if_true]
  split
  · next e read => exact read.symm
  · next a read => exact read.symm

/-- A reading takes the texts of the values that it takes. -/
theorem decode_eq_ok_iff {α : Type} {reading : Value → Reading α} {s : String} {a : α} :
    decode reading s = .ok a ↔ ∃ v, Denotes s v ∧ reading v = .ok a := by
  constructor
  · intro h
    unfold decode at h
    simp only at h
    split at h
    · cases h
    · next read =>
      split at h
      · next clean =>
        cases h
        exact ⟨_, denotes_of_read (congrArg (Document.mk _) clean), read⟩
      · cases h
  · rintro ⟨v, denotes, read⟩
    rw [decode_of_denotes denotes, read]

/-- A text has at most one value. -/
theorem Denotes.unique {s : String} {v w : Value} (hv : Denotes s v) (hw : Denotes s w) :
    v = w := by
  have same := (read_of_denotes hv).symm.trans (read_of_denotes hw)
  exact (Document.mk.inj same).1

end Gatehouse.Json

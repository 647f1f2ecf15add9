import Mathlib.Data.List.Nodup
import Gatehouse.Frame
import Gatehouse.Proofs.Json.Counts
import Gatehouse.Proofs.Json.Printed
import Gatehouse.Proofs.Json.Spacing
import Gatehouse.Proofs.Schema

/-!
# Frames are canonical

A frame is read back as what it was written from. Of the texts of objects the reader takes those
whose fields are just the fields of an event or of a snapshot, in any order and with any blanks, and
what it takes is written as one frame, which is read as the same again.
-/

namespace Gatehouse

open Json (Counts Denotes Printed Reading Rearranged Value Written)
open Schema (Filled Places)

/-! ### Records -/

/-- A kind of record with the texts that are written of it and the texts that it is read from.
`Fits` tells which entries of an object are those of which record. -/
structure Canonical {α : Type} (frame : α → String) (ofFrame : String → Reading α)
    (Fits : List (String × Value) → α → Prop) : Prop where
  /-- Every frame is read as what it was written from. -/
  decodes : ∀ a, ofFrame (frame a) = .ok a
  injective : ∀ a b, frame a = frame b → a = b
  /-- None of the characters U+0000 to U+001F stands in a frame. -/
  printed : ∀ a, Printed (frame a).toList
  oneLine : ∀ a, '\n' ∉ (frame a).toList ∧ '\r' ∉ (frame a).toList
  /-- Nothing but JSON is read. -/
  strict : ∀ s a, ofFrame s = .ok a → ∃ v, Denotes s v
  /-- The text of an object is read as a record just if the entries of the object fit it. -/
  accepts : ∀ s entries a, Denotes s (.object entries .closed) →
    (ofFrame s = .ok a ↔ Fits entries a)
  /-- Blanks between tokens do not matter. -/
  spacing : ∀ s s' v v', Denotes s v → Denotes s' v' → Json.unspaced s = Json.unspaced s' →
    ofFrame s = ofFrame s'
  /-- The order of the fields and of the different keys inside of them does not matter. -/
  order : ∀ s s' entries entries', Denotes s (.object entries .closed) →
    Denotes s' (.object entries' .closed) → Rearranged entries entries' →
    ∀ a, ofFrame s = .ok a ↔ ofFrame s' = .ok a
  /-- What an accepted text is read as is read again from its frame, and has the same frame. -/
  stable : ∀ s a, ofFrame s = .ok a → ∃ b, ofFrame (frame a) = .ok b ∧ b = a ∧ frame b = frame a

section

variable {α : Type} {frame : α → String} {reading : Value → Reading α}
  {Fits : List (String × Value) → α → Prop}

/-- A record is canonical if its frames are texts of objects that fit it and objects are read by
what fits. -/
theorem Canonical.of_written (written : ∀ a, ∃ w : Written, w.text = frame a ∧
      ∃ entries, w.value = .object entries .closed ∧ Fits entries a)
    (printed : ∀ a, Printed (frame a).toList)
    (reads : ∀ entries a, reading (.object entries .closed) = .ok a ↔ Fits entries a)
    (rearranged : ∀ entries entries' a, Rearranged entries entries' → Fits entries a →
      Fits entries' a) : Canonical frame (Json.decode reading) Fits := by
  have accepts (s : String) (entries : List (String × Value)) (a : α)
      (h : Denotes s (.object entries .closed)) :
      Json.decode reading s = .ok a ↔ Fits entries a := by
    rw [Json.decode_of_denotes h]
    exact reads entries a
  have decodes (a : α) : Json.decode reading (frame a) = .ok a := by
    obtain ⟨w, text, entries, value, fits⟩ := written a
    have denotes := w.denotes
    rw [text, value] at denotes
    exact (accepts _ _ _ denotes).mpr fits
  refine ⟨decodes, ?_, printed, fun a ↦ (printed a).oneLine, ?_, accepts, ?_, ?_, ?_⟩
  · intro a b same
    have read := decodes a
    rw [same, decodes b] at read
    exact (Except.ok.inj read).symm
  · intro s a read
    obtain ⟨v, denotes, -⟩ := Json.decode_eq_ok_iff.mp read
    exact ⟨v, denotes⟩
  · intro s s' v v' h h' same
    obtain rfl := h.eq_of_unspaced h' same
    rw [Json.decode_of_denotes h, Json.decode_of_denotes h']
  · intro s s' entries entries' h h' order a
    rw [accepts s entries a h, accepts s' entries' a h']
    exact ⟨rearranged _ _ a order, rearranged _ _ a order.symm⟩
  · intro s a _
    exact ⟨a, decodes a, rfl, rfl⟩

end

/-! ### Events -/

namespace Event

/-- The entries of an object that holds an event. -/
def entries (e : Event) : List (String × Value) :=
  [("consumer", .text e.consumer), ("method", .text e.method), ("host_address", .text e.host)]

/-- The entries are the three fields of the event, each once and a text. -/
def Fits (es : List (String × Value)) (e : Event) : Prop := es.Perm e.entries

variable {e : Event} {es : List (String × Value)}

/-- What is known of a field. -/
def Partial.get (p : Partial) (name : String) : Option String :=
  if name = "consumer" then p.consumer else if name = "method" then p.method else p.host

/-- Replaces what is known of a field. -/
def Partial.put (p : Partial) (name : String) (s : Option String) : Partial :=
  if name = "consumer" then { p with consumer := s }
  else if name = "method" then { p with method := s }
  else { p with host := s }

theorem Partial.places : Places fields get put where
  get_put := by
    intro p name s other hn ho
    simp only [fields, List.mem_cons, List.not_mem_nil, or_false] at hn ho
    rcases hn with rfl | rfl | rfl <;> rcases ho with rfl | rfl | rfl <;> rfl
  ext := by
    intro p p' h
    simp only [fields, List.forall_mem_cons] at h
    obtain ⟨hc, hm, hh, -⟩ := h
    cases p
    cases p'
    cases hc
    cases hm
    cases hh
    rfl

/-- Nothing is known. -/
def Partial.unknown : Partial := ⟨none, none, none⟩

/-- Everything is known. -/
def known (e : Event) : Partial := ⟨some e.consumer, some e.method, some e.host⟩

/-- What the value of a field tells of it. -/
def Tells (v : Value) (s : Option String) : Prop := ∃ t, v = .text t ∧ s = some t

theorem set_eq_ok_iff {p p' : Partial} {name : String} {v : Value} :
    p.set name v = .ok p' ↔ ∃ s, Tells v s ∧ p.put name s = p' := by
  cases v with
  | text t =>
    have text (s : Option String) : Tells (.text t) s ↔ s = some t := by
      simp [Tells]
    simp only [text, exists_eq_left]
    change Except.ok (p.put name (some t)) = _ ↔ _
    rw [Except.ok.injEq]
  | _ => simp [Partial.set, Value.asText, Except.map, Tells]

theorem ofEntries_eq_ok_iff :
    ofEntries es .closed = .ok e ↔
      Filled fields Partial.get Tells .unknown es e.known := by
  have filled (p : Partial) :
      Schema.readFields fields Json.Problem.ofComplaint .ok Partial.set [] .unknown es = .ok p ↔
        Filled fields Partial.get Tells .unknown es p :=
    Schema.readFields_eq_ok_iff Partial.places (by intros; exact set_eq_ok_iff)
  rw [← filled, ofEntries, ← Partial.unknown]
  cases Schema.readFields fields Json.Problem.ofComplaint .ok Partial.set [] .unknown es with
  | error problem => simp [bind, Except.bind]
  | ok p =>
    obtain ⟨consumer, method, host⟩ := p
    cases e
    cases consumer <;> cases method <;> cases host <;>
      simp [bind, Except.bind, Json.Tail.check, Schema.require, pure, Except.pure, known]

theorem mem_entries_iff {x : String × Value} :
    x ∈ e.entries ↔ x.1 ∈ fields ∧ Tells x.2 (e.known.get x.1) := by
  obtain ⟨k, v⟩ := x
  simp only [entries, fields, List.mem_cons, Prod.mk.injEq, List.not_mem_nil, or_false]
  constructor
  · rintro (⟨rfl, rfl⟩ | ⟨rfl, rfl⟩ | ⟨rfl, rfl⟩)
    · exact ⟨.inl rfl, _, rfl, rfl⟩
    · exact ⟨.inr (.inl rfl), _, rfl, rfl⟩
    · exact ⟨.inr (.inr rfl), _, rfl, rfl⟩
  · rintro ⟨rfl | rfl | rfl, t, rfl, known⟩ <;> cases known <;> simp

theorem nodup_entries (e : Event) : (e.entries.map (·.1)).Nodup := by
  change fields.Nodup
  decide

/-- Entries fill an event if they are its entries in some order. -/
theorem filled_iff_fits :
    Filled fields Partial.get Tells .unknown es e.known ↔ Fits es e := by
  constructor
  · intro filled
    have nodup : e.entries.Nodup := List.Nodup.of_map _ e.nodup_entries
    refine (List.perm_ext_iff_of_nodup (List.Nodup.of_map _ filled.once) nodup).mpr fun x ↦ ?_
    rw [mem_entries_iff]
    constructor
    · intro hx
      exact ⟨filled.known x hx, filled.given x hx⟩
    · rintro ⟨field, t, hv, known⟩
      by_cases given : x.1 ∈ es.map (·.1)
      · obtain ⟨y, hy, same⟩ := List.mem_map.mp given
        obtain ⟨t', hv', known'⟩ := filled.given y hy
        rw [same, known] at known'
        cases known'
        rwa [Prod.ext same (hv'.trans hv.symm)] at hy
      · have missing := filled.missing x.1 field given
        rw [known] at missing
        simp [Partial.get, Partial.unknown] at missing
  · intro fits
    have keys : (es.map (·.1)).Perm fields := fits.map _
    refine ⟨?_, keys.nodup_iff.mpr e.nodup_entries, ?_, ?_⟩
    · intro x hx
      exact (mem_entries_iff.mp (fits.mem_iff.mp hx)).1
    · intro x hx
      exact (mem_entries_iff.mp (fits.mem_iff.mp hx)).2
    · intro name hn absent
      exact absurd (keys.mem_iff.mpr hn) absent

/-- An object is read as an event if its entries fit the event. -/
theorem reading_eq_ok_iff : reading (.object es .closed) = .ok e ↔ Fits es e :=
  ofEntries_eq_ok_iff.trans filled_iff_fits

theorem Fits.rearranged {es' : List (String × Value)} (order : Rearranged es es')
    (h : Fits es e) : Fits es' e := by
  obtain ⟨sorted, perm, alike⟩ := order
  refine filled_iff_fits.mp ((filled_iff_fits.mpr h).rearranged perm (alike.imp ?_))
  rintro x x' ⟨same, values⟩
  refine ⟨same, ?_⟩
  rintro s ⟨t, hv, hs⟩
  rw [hv] at values
  exact ⟨t, values.eq_text, hs⟩

/-- The frame of an event as it is written. -/
def written (e : Event) : Written :=
  .object [("consumer", .string e.consumer), ("method", .string e.method),
    ("host_address", .string e.host)]

theorem printed_frame (e : Event) : Printed e.frame.toList := by
  refine Json.printed_objectText ?_
  simp [Json.printed_stringText]

end Event

/-! ### Snapshots -/

namespace Snapshot

variable {s : Snapshot} {es : List (String × Value)}

/-- The counts of a field: none if the field is missing, else those of its value. -/
def FieldCounts (es : List (String × Value)) (name : String) (m : TextMap UInt64) : Prop :=
  (name ∉ es.map (·.1) → m = .empty) ∧ ∀ v, (name, v) ∈ es → Counts v m

/-- The entries are at most the two fields of the snapshot, each at most once and an object of
counts. -/
structure Fits (es : List (String × Value)) (s : Snapshot) : Prop where
  known : ∀ e ∈ es, e.1 = "by_method" ∨ e.1 = "by_consumer"
  once : (es.map (·.1)).Nodup
  byMethod : FieldCounts es "by_method" s.byMethod
  byConsumer : FieldCounts es "by_consumer" s.byConsumer

/-- The counts that a field holds. -/
def get (s : Snapshot) (name : String) : TextMap UInt64 :=
  if name = "by_method" then s.byMethod else s.byConsumer

/-- Replaces the counts that a field holds. -/
def put (s : Snapshot) (name : String) (m : TextMap UInt64) : Snapshot :=
  if name = "by_method" then { s with byMethod := m } else { s with byConsumer := m }

theorem places : Places fields get put where
  get_put := by
    intro s name m other hn ho
    simp only [fields, List.mem_cons, List.not_mem_nil, or_false] at hn ho
    rcases hn with rfl | rfl <;> rcases ho with rfl | rfl <;> rfl
  ext := by
    intro s s' h
    simp only [fields, List.forall_mem_cons] at h
    obtain ⟨hm, hc, -⟩ := h
    cases s
    cases s'
    cases hm
    cases hc
    rfl

theorem set_eq_ok_iff {s s' : Snapshot} {name : String} {v : Value} :
    s.set name v = .ok s' ↔ ∃ m, Counts v m ∧ s.put name m = s' := by
  simp only [← Json.asMap_eq_ok_iff, set]
  cases v.asMap Value.asCount with
  | error problem => simp [Except.map]
  | ok m =>
    simp only [Except.ok.injEq, exists_eq_left']
    change Except.ok (s.put name m) = _ ↔ _
    rw [Except.ok.injEq]

theorem ofEntries_eq_ok_iff :
    ofEntries es .closed = .ok s ↔ Filled fields get Counts empty es s := by
  have filled : Schema.readFields fields Json.Problem.ofComplaint .ok set [] empty es = .ok s ↔
      Filled fields get Counts empty es s :=
    Schema.readFields_eq_ok_iff places (by intros; exact set_eq_ok_iff)
  rw [← filled, ofEntries]
  cases Schema.readFields fields Json.Problem.ofComplaint .ok set [] empty es with
  | error problem => simp [bind, Except.bind]
  | ok s => rfl

theorem filled_iff_fits : Filled fields get Counts empty es s ↔ Fits es s := by
  have mem {name : String} : name ∈ fields ↔ name = "by_method" ∨ name = "by_consumer" := by
    simp [fields]
  constructor
  · intro filled
    refine ⟨fun e he ↦ mem.mp (filled.known e he), filled.once, ⟨?_, ?_⟩, ⟨?_, ?_⟩⟩
    · exact filled.missing "by_method" (mem.mpr (.inl rfl))
    · exact fun v hv ↦ filled.given _ hv
    · exact filled.missing "by_consumer" (mem.mpr (.inr rfl))
    · exact fun v hv ↦ filled.given _ hv
  · intro fits
    refine ⟨fun e he ↦ mem.mpr (fits.known e he), fits.once, ?_, ?_⟩
    · rintro ⟨name, v⟩ he
      rcases fits.known _ he with same | same
      · cases same
        exact fits.byMethod.2 v he
      · cases same
        exact fits.byConsumer.2 v he
    · intro name hn absent
      rcases mem.mp hn with rfl | rfl
      · exact fits.byMethod.1 absent
      · exact fits.byConsumer.1 absent

/-- An object is read as a snapshot if its entries fit the snapshot. -/
theorem reading_eq_ok_iff : reading (.object es .closed) = .ok s ↔ Fits es s :=
  ofEntries_eq_ok_iff.trans filled_iff_fits

theorem Fits.rearranged {es' : List (String × Value)} (order : Rearranged es es')
    (h : Fits es s) : Fits es' s := by
  obtain ⟨sorted, perm, alike⟩ := order
  refine filled_iff_fits.mp ((filled_iff_fits.mpr h).rearranged perm (alike.imp ?_))
  rintro e e' ⟨same, values⟩
  exact ⟨same, fun m counts ↦ counts.alike values⟩

/-- The frame of a snapshot as it is written. -/
def written (s : Snapshot) : Written :=
  .object [("by_method", .counts s.byMethod), ("by_consumer", .counts s.byConsumer)]

theorem text_written (s : Snapshot) : s.written.text = s.frame := by
  change Json.writtenObject _ = _
  simp only [Json.writtenObject, List.map_cons, List.map_nil, Written.text_counts]
  rfl

theorem fits_written (s : Snapshot) :
    Fits [("by_method", (Written.counts s.byMethod).value),
      ("by_consumer", (Written.counts s.byConsumer).value)] s where
  known := by simp
  once := by simp
  byMethod := by simp [FieldCounts, Written.counts_value]
  byConsumer := by simp [FieldCounts, Written.counts_value]

theorem printed_frame (s : Snapshot) : Printed s.frame.toList := by
  refine Json.printed_objectText ?_
  simp [Json.printed_countsText]

end Snapshot

/-! ### Both kinds of frames -/

/-- The frames of events and of snapshots are canonical. -/
theorem frames_are_canonical :
    Canonical Event.frame Event.ofFrame Event.Fits ∧
      Canonical Snapshot.frame Snapshot.ofFrame Snapshot.Fits := by
  constructor
  · refine .of_written (fun e ↦ ⟨e.written, rfl, e.entries, rfl, .refl _⟩) Event.printed_frame
      (fun _ _ ↦ Event.reading_eq_ok_iff) fun _ _ _ ↦ Event.Fits.rearranged
  · refine .of_written (fun s ↦ ⟨s.written, s.text_written, _, rfl, s.fits_written⟩)
      Snapshot.printed_frame (fun _ _ ↦ Snapshot.reading_eq_ok_iff)
      fun _ _ _ ↦ Snapshot.Fits.rearranged

/-- Blanks between tokens, a missing field and a key that stands twice. -/
example : Snapshot.ofFrame
    " \x7b\"by_consumer\" : \x7b\"a\": 1, \"b\": 2, \"a\": 3\x7d \x7d" =
      .ok ⟨.empty, .ofList [("a", 3), ("b", 2)]⟩ := by
  decide +kernel

end Gatehouse

import Gatehouse.Proofs.Gate.Series
import Gatehouse.Proofs.Metrics.Reading

/-!
# The text of metrics tells the metrics

The text of metrics is a line with a type for each family, and behind it the samples of the family's
series, in whatever order they stand. Read back, it says the labels and the value of each series
once, and nothing else: two gateways with the same text have the same series.
-/

namespace Gatehouse

namespace Exposition

/-! ### Texts -/

theorem feed_not_mem_of_shows {texts : List String} {said : List Line}
    (h : List.Forall₂ Shows texts said) : ∀ text ∈ texts, '\n' ∉ text.toList := by
  induction h with
  | nil => exact nofun
  | cons first _ ih => exact List.forall_mem_cons.mpr ⟨first.feed, ih⟩

theorem mapM_readLine?_of_shows {texts : List String} {said : List Line}
    (h : List.Forall₂ Shows texts said) :
    (texts.map String.toList).mapM readLine? = some said := by
  induction h with
  | nil => rfl
  | cons first _ ih => simp [first.read, ih]

/-- Lines that each end with a line feed are pieces between line feeds, and an empty last one. -/
theorem toList_join_lines (texts : List String) :
    (String.join (texts.map (· ++ "\n"))).toList =
      ['\n'].intercalate (texts.map String.toList ++ [[]]) := by
  rw [String.toList_join, List.flatMap_map]
  induction texts with
  | nil => rfl
  | cons text texts ih =>
    rw [List.flatMap_cons, ih, List.map_cons, List.cons_append,
      List.intercalate_cons_of_ne_nil (List.append_ne_nil_of_right_ne_nil _ (List.cons_ne_nil _ _))]
    simp

/-- A text whose lines say something is read as what they say. -/
theorem readText?_of_shows {texts : List String} {said : List Line}
    (h : List.Forall₂ Shows texts said) :
    readText? (String.join (texts.map (· ++ "\n"))) = some said := by
  have feed : ∀ piece ∈ texts.map String.toList ++ [[]], '\n' ∉ piece :=
    List.forall_mem_append.mpr ⟨List.forall_mem_map.mpr (feed_not_mem_of_shows h),
      List.forall_mem_singleton.mpr List.not_mem_nil⟩
  rw [readText?, toList_join_lines, List.splitOn_intercalate _ feed (by simp)]
  simp [mapM_readLine?_of_shows h]

/-! ### Types and samples -/

/-- Whether a line is a sample of a family: it is under the family's name or, when the family is one
of histograms, under the name with one of three endings. -/
def Line.IsOf (name kind : String) : Line → Prop
  | .type _ _ => False
  | .sample s _ _ =>
    if kind = "histogram" then s ∈ [name ++ "_bucket", name ++ "_sum", name ++ "_count"]
    else s = name

/-- Each sample stands behind its family's type, with none but the family's samples between. -/
def Typed (lines : List Line) : Prop :=
  ∀ before s labels value after, lines = before ++ .sample s labels value :: after →
    ∃ name kind first between, before = first ++ .type name kind :: between ∧
      (Line.sample s labels value).IsOf name kind ∧ ∀ line ∈ between, line.IsOf name kind

theorem typed_nil : Typed [] := by
  intro before s labels value after split
  cases before <;> cases split

theorem typed_append {xs ys : List Line} (hx : Typed xs) (hy : Typed ys) : Typed (xs ++ ys) := by
  intro before s labels value after split
  rcases List.append_eq_append_iff.mp split with ⟨mid, rfl, right⟩ | ⟨mid, rfl, right⟩
  · obtain ⟨name, kind, first, between, rfl, own, all⟩ := hy _ _ _ _ _ right
    exact ⟨name, kind, xs ++ first, between, by simp, own, all⟩
  · cases mid with
    | nil =>
      -- A sample at the front of the second part would have no type before it there.
      obtain ⟨name, kind, first, between, none, -⟩ := hy [] s labels value after right.symm
      exact absurd none (by simp)
    | cons line mid =>
      obtain ⟨rfl, -⟩ := List.cons.inj right
      exact hx _ _ _ _ _ rfl

/-- A family is typed when the lines behind its type are its samples. -/
theorem typed_family {name kind : String} {samples : List Line}
    (h : ∀ line ∈ samples, line.IsOf name kind) : Typed (.type name kind :: samples) := by
  intro before s labels value after split
  cases before with
  | nil => cases split
  | cons line between =>
    obtain ⟨rfl, rfl⟩ := List.cons.inj split
    refine ⟨name, kind, [], between, rfl, h _ (by simp), fun line hl ↦ h line ?_⟩
    exact List.mem_append_left _ hl

end Exposition

open Exposition

/-! ### Families -/

/-- What the lines of a family say: its type, and the series with their values. -/
def Family.said {α : Type} (m : Family α) (name kind : String)
    (said : String → LabelList → α → List Line) : List Line :=
  .type name kind :: m.series.flatMap fun s ↦ said name s.1.pairs s.2

/-- What the lines of a gauge without labels say. -/
def gaugeSaid (name : String) (n : Nat) : List Line := [.type name "gauge", .sample name [] n]

theorem shows_plainGauge {name : String} (named : IsMetricName name) (n : Nat) :
    List.Forall₂ Shows (plainGauge name n) (gaugeSaid name n) := by
  refine .cons (shows_typeLine named (by decide)) (.cons ?_ .nil)
  exact shows_sample (l := []) named nofun (feed_not_mem_decimal n) (readValue?_decimal n)

theorem typed_gaugeSaid (name : String) (n : Nat) : Typed (gaugeSaid name n) :=
  typed_family (List.forall_mem_singleton.mpr rfl)

namespace Family

variable {α : Type} {m : Family α} {name kind : String} {said : String → LabelList → α → List Line}

/-- The names of all labels are names. -/
def Named (m : Family α) : Prop := ∀ l ∈ m.labels, ∀ p ∈ l.pairs, IsLabelName p.1

/-- The lines of a family say its series if the lines of each series do. -/
theorem Named.shows_lines {block : LabelList → α → List String} (h : m.Named)
    (named : IsMetricName name) (known : kind ∈ kinds)
    (each : ∀ l a, (∀ p ∈ l, IsLabelName p.1) → List.Forall₂ Shows (block l a) (said name l a)) :
    List.Forall₂ Shows (m.lines name kind block) (m.said name kind said) := by
  refine .cons (shows_typeLine named known) ?_
  refine List.rel_flatten (List.forall₂_map_left_iff.mpr (List.forall₂_map_right_iff.mpr ?_))
  exact List.forall₂_same.mpr fun s hs ↦ each _ _ (h s.1 (List.mem_map_of_mem hs))

end Family

/-! ### What a list of families says of each -/

/-- The blocks of a flattened list are told apart by their length. -/
theorem eq_of_flatMap_eq {α β : Type} {f : α → List β} {k : Nat} (pos : 0 < k) {xs ys : List α}
    (hx : ∀ x ∈ xs, (f x).length = k) (hy : ∀ y ∈ ys, (f y).length = k)
    (inj : ∀ x ∈ xs, ∀ y ∈ ys, f x = f y → x = y) (h : xs.flatMap f = ys.flatMap f) : xs = ys := by
  induction xs generalizing ys with
  | nil =>
    cases ys with
    | nil => rfl
    | cons y ys =>
      have len := congrArg List.length h
      rw [List.flatMap_nil, List.flatMap_cons, List.length_append, hy y List.mem_cons_self] at len
      exact absurd len (by simp; omega)
  | cons x xs ih =>
    cases ys with
    | nil =>
      have len := congrArg List.length h
      rw [List.flatMap_nil, List.flatMap_cons, List.length_append, hx x List.mem_cons_self] at len
      exact absurd len (by simp; omega)
    | cons y ys =>
      obtain ⟨first, others⟩ := List.forall_mem_cons.mp hx
      obtain ⟨first', others'⟩ := List.forall_mem_cons.mp hy
      rw [List.flatMap_cons, List.flatMap_cons] at h
      obtain ⟨same, rest⟩ := List.append_inj h (first.trans first'.symm)
      rw [inj x List.mem_cons_self y List.mem_cons_self same, ih others others' _ rest]
      exact fun a ha b hb ↦ inj a (List.mem_cons_of_mem _ ha) b (List.mem_cons_of_mem _ hb)

namespace Exposition

/-- Whether a line gives a value. -/
def Line.isSample : Line → Bool
  | .type _ _ => false
  | .sample _ _ _ => true

theorem Line.IsOf.isSample {name kind : String} {line : Line} (h : line.IsOf name kind) :
    line.isSample = true := by
  cases line with
  | type => exact h.elim
  | sample => rfl

/-- Whether no sample comes first. -/
def Fresh (lines : List Line) : Prop := ∀ line ∈ lines.head?, line.isSample = false

/-- The samples in front of a list of families are told apart from it. -/
theorem eq_of_samples_append_eq {xs ys rest rest' : List Line}
    (hx : ∀ line ∈ xs, line.isSample = true) (hy : ∀ line ∈ ys, line.isSample = true)
    (fresh : Fresh rest) (fresh' : Fresh rest') (h : xs ++ rest = ys ++ rest') :
    xs = ys ∧ rest = rest' := by
  have taken {xs rest : List Line} (hx : ∀ line ∈ xs, line.isSample = true) (fresh : Fresh rest) :
      (xs ++ rest).takeWhile Line.isSample = xs := by
    rw [List.takeWhile_append_of_pos hx]
    cases rest with
    | nil => simp
    | cons line rest => simp [fresh line rfl]
  have same := taken hx fresh
  rw [h, taken hy fresh'] at same
  subst same
  exact ⟨rfl, List.append_cancel_left h⟩

end Exposition

theorem fresh_said {α : Type} (m : Family α) (name kind : String)
    (said : String → LabelList → α → List Line) (rest : List Line) :
    Fresh (m.said name kind said ++ rest) := by
  rintro line ⟨⟩
  rfl

theorem fresh_gaugeSaid (name : String) (n : Nat) (rest : List Line) :
    Fresh (gaugeSaid name n ++ rest) := by
  rintro line ⟨⟩
  rfl

/-- What tells the series of a family: samples of the family, as many for each series, from which
the series can be told. -/
structure Telling {α : Type} (name kind : String) (said : LabelList → α → List Line) : Prop where
  own : ∀ l a, ∀ line ∈ said l a, line.IsOf name kind
  length : ∃ k, 0 < k ∧ ∀ l a, (said l a).length = k
  inj : ∀ l a l' a', said l a = said l' a' → l = l' ∧ a = a'

namespace Telling

variable {α : Type} {said : String → LabelList → α → List Line} {name kind : String}

theorem own_series (t : Telling name kind (said name)) (m : Family α) :
    ∀ line ∈ m.series.flatMap fun s ↦ said name s.1.pairs s.2, line.IsOf name kind := by
  intro line hl
  obtain ⟨s, -, hl⟩ := List.mem_flatMap.mp hl
  exact t.own _ _ line hl

theorem typed (t : Telling name kind (said name)) (m : Family α) :
    Typed (m.said name kind said) := typed_family (t.own_series m)

/-- What is said of a family, with others behind it, tells the family. -/
theorem family (t : Telling name kind (said name)) {m m' : Family α} {rest rest' : List Line}
    (fresh : Fresh rest) (fresh' : Fresh rest')
    (h : m.said name kind said ++ rest = m'.said name kind said ++ rest') :
    m = m' ∧ rest = rest' := by
  obtain ⟨k, pos, length⟩ := t.length
  obtain ⟨series, others⟩ :=
    eq_of_samples_append_eq (fun line hl ↦ (t.own_series m line hl).isSample)
      (fun line hl ↦ (t.own_series m' line hl).isSample) fresh fresh' (List.cons.inj h).2
  have same := eq_of_flatMap_eq pos (fun _ _ ↦ length _ _) (fun _ _ ↦ length _ _)
    (fun s _ s' _ both ↦ by
      obtain ⟨pairs, value⟩ := t.inj _ _ _ _ both
      exact Prod.ext (Labels.ext pairs) value) series
  exact ⟨congrArg Family.mk same, others⟩

end Telling

theorem telling_counterLines (name : String) : Telling name "counter" (counterLines name) where
  length := ⟨1, Nat.one_pos, fun _ _ ↦ rfl⟩
  own _ _ := List.forall_mem_singleton.mpr rfl
  inj l n l' n' h := by
    simp only [counterLines, List.cons.injEq, Line.sample.injEq, and_true, true_and] at h
    exact ⟨h.1, UInt64.toNat_inj.mp (Int.ofNat_inj.mp h.2)⟩

theorem telling_gaugeLines (name : String) : Telling name "gauge" (gaugeLines name) where
  length := ⟨1, Nat.one_pos, fun _ _ ↦ rfl⟩
  own _ _ := List.forall_mem_singleton.mpr rfl
  inj l n l' n' h := by
    simp only [gaugeLines, List.cons.injEq, Line.sample.injEq, and_true, true_and] at h
    exact ⟨h.1, Int64.toInt_inj.mp h.2⟩

theorem eq_of_zipWith_eq {α β γ : Type} {f : α → β → γ} (inj : ∀ a, Function.Injective (f a))
    {as : List α} {bs bs' : List β} (hb : bs.length = as.length) (hb' : bs'.length = as.length)
    (h : as.zipWith f bs = as.zipWith f bs') : bs = bs' := by
  refine List.ext_getElem (hb.trans hb'.symm) fun i hi hi' ↦ inj (as.get ⟨i, hb ▸ hi⟩) ?_
  have same := List.getElem_of_eq h (i := i) (by simp [List.length_zipWith, hb]; omega)
  rwa [List.getElem_zipWith, List.getElem_zipWith] at same

theorem length_histogramLines (name : String) (l : LabelList) (h : Histogram) :
    (histogramLines name l h).length = 10 := by
  rw [histogramLines, List.length_append, List.length_zipWith, h.full]
  rfl

theorem telling_histogramLines (name : String) :
    Telling name "histogram" (histogramLines name) where
  length := ⟨10, by decide, length_histogramLines name⟩
  own l h line hl := by
    rcases List.mem_append.mp hl with hl | hl
    · obtain ⟨i, hi, rfl⟩ := List.mem_iff_getElem.mp hl
      rw [List.getElem_zipWith]
      simp [bucketSample, Line.IsOf]
    · simp only [List.mem_cons, List.not_mem_nil, or_false] at hl
      rcases hl with rfl | rfl | rfl <;> simp [bucketSample, Line.IsOf]
  inj := by
    rintro l ⟨count, sum, buckets, full⟩ l' ⟨count', sum', buckets', full'⟩ h
    obtain ⟨counts, values⟩ := List.append_inj' h rfl
    simp only [bucketSample, List.cons.injEq, Line.sample.injEq, and_true, true_and] at values
    obtain ⟨⟨-, all⟩, ⟨rfl, total⟩, -⟩ := values
    have bucket (bound : Nat) : Function.Injective (bucketSample name l (Text.decimal bound)) := by
      intro n n' same
      exact UInt64.toNat_inj.mp (Int.ofNat_inj.mp (Line.sample.inj same).2.2)
    cases eq_of_zipWith_eq bucket full full' counts
    cases UInt64.toNat_inj.mp (Int.ofNat_inj.mp all)
    cases UInt64.toNat_inj.mp (Int.ofNat_inj.mp total)
    exact ⟨rfl, rfl⟩

/-! ### All of the metrics -/

namespace Metrics

/-- What the text of metrics says of the families, and of further gauges. -/
def said (m : Metrics) (extra : List (String × Nat)) : List Line :=
  m.calls.said "aclgate_calls_total" "counter" counterLines ++
    m.denials.said "aclgate_denials_total" "counter" counterLines ++
    m.adminStreams.said "aclgate_admin_streams_active" "gauge" gaugeLines ++
    m.evictions.said "aclgate_subscriber_evictions_total" "counter" counterLines ++
    m.dispatchDuration.said "aclgate_dispatch_duration_micros" "histogram" histogramLines ++
    gaugeSaid "aclgate_draining" (if m.draining then 1 else 0) ++
    extra.flatMap fun g ↦ gaugeSaid g.1 g.2

/-- Two states of the metrics have the same series in each family, in any order. -/
structure SameSeries (m m' : Metrics) : Prop where
  calls : m.calls.series.Perm m'.calls.series
  denials : m.denials.series.Perm m'.denials.series
  adminStreams : m.adminStreams.series.Perm m'.adminStreams.series
  evictions : m.evictions.series.Perm m'.evictions.series
  dispatchDuration : m.dispatchDuration.series.Perm m'.dispatchDuration.series
  draining : m.draining = m'.draining

/-- The names of labels and of further gauges are names. -/
structure Regular (m : Metrics) (extra : List (String × Nat)) : Prop where
  labels : ∀ l ∈ m.labels, ∀ p ∈ l.pairs, IsLabelName p.1
  gauges : ∀ g ∈ extra, IsMetricName g.1

variable {m : Metrics} {extra : List (String × Nat)}

/-- The lines of the metrics say the series of each family. -/
theorem shows_lines (r : m.Regular extra) : List.Forall₂ Shows (m.lines extra) (m.said extra) := by
  have named := r.labels
  simp only [labels, List.forall_mem_append] at named
  obtain ⟨⟨⟨⟨calls, denials⟩, streams⟩, evictions⟩, durations⟩ := named
  have counters {m : Counters} {name : String} (h : Family.Named m) (named : IsMetricName name) :
      List.Forall₂ Shows (m.lines name) (Family.said m name "counter" counterLines) :=
    h.shows_lines named (by decide) fun _ n pairs ↦ shows_counter named pairs n
  have gauges {m : Gauges} {name : String} (h : Family.Named m) (named : IsMetricName name) :
      List.Forall₂ Shows (m.lines name) (Family.said m name "gauge" gaugeLines) :=
    h.shows_lines named (by decide) fun _ n pairs ↦ shows_gauge named pairs n
  have histograms {m : Histograms} {name : String} (h : Family.Named m)
      (named : IsMetricName name) :
      List.Forall₂ Shows (m.lines name) (Family.said m name "histogram" histogramLines) :=
    h.shows_lines named (by decide) fun _ n pairs ↦ shows_histogram named pairs n
  have further : List.Forall₂ Shows (extra.flatMap fun g ↦ plainGauge g.1 g.2)
      (extra.flatMap fun g ↦ gaugeSaid g.1 g.2) := by
    refine List.rel_flatten (List.forall₂_map_left_iff.mpr (List.forall₂_map_right_iff.mpr ?_))
    exact List.forall₂_same.mpr fun g hg ↦ shows_plainGauge (r.gauges g hg) g.2
  exact List.rel_append (List.rel_append (List.rel_append (List.rel_append (List.rel_append
    (List.rel_append (counters calls (by decide)) (counters denials (by decide)))
    (gauges streams (by decide))) (counters evictions (by decide)))
    (histograms durations (by decide))) (shows_plainGauge (by decide) _)) further

/-- The text of metrics is read as what is said of them. -/
theorem readText?_text (r : m.Regular extra) : readText? (m.text extra) = some (m.said extra) :=
  readText?_of_shows (shows_lines r)

/-- What is said of the metrics is typed. -/
theorem typed_said (m : Metrics) (extra : List (String × Nat)) : Typed (m.said extra) := by
  have further : Typed (extra.flatMap fun g ↦ gaugeSaid g.1 g.2) := by
    induction extra with
    | nil => exact typed_nil
    | cons g extra ih => exact typed_append (typed_gaugeSaid g.1 g.2) ih
  exact typed_append (typed_append (typed_append (typed_append (typed_append (typed_append
    ((telling_counterLines _).typed m.calls) ((telling_counterLines _).typed m.denials))
    ((telling_gaugeLines _).typed m.adminStreams)) ((telling_counterLines _).typed m.evictions))
    ((telling_histogramLines _).typed m.dispatchDuration)) (typed_gaugeSaid _ _)) further

/-- What is said of the metrics tells them. -/
theorem eq_of_said_eq {m m' : Metrics} {extra extra' : List (String × Nat)}
    (h : m.said extra = m'.said extra') : m = m' ∧ extra = extra' := by
  unfold said at h
  simp only [List.append_assoc] at h
  obtain ⟨calls, h⟩ := (telling_counterLines _).family (fresh_said _ _ _ _ _)
    (fresh_said _ _ _ _ _) h
  obtain ⟨denials, h⟩ := (telling_counterLines _).family (fresh_said _ _ _ _ _)
    (fresh_said _ _ _ _ _) h
  obtain ⟨streams, h⟩ := (telling_gaugeLines _).family (fresh_said _ _ _ _ _)
    (fresh_said _ _ _ _ _) h
  obtain ⟨evictions, h⟩ := (telling_counterLines _).family (fresh_said _ _ _ _ _)
    (fresh_said _ _ _ _ _) h
  obtain ⟨durations, h⟩ := (telling_histogramLines _).family (fresh_gaugeSaid _ _ _)
    (fresh_gaugeSaid _ _ _) h
  obtain ⟨draining, h⟩ := List.append_inj h rfl
  have flag : m.draining = m'.draining := by
    cases hm : m.draining <;> cases hm' : m'.draining <;> simp [gaugeSaid, hm, hm'] at draining ⊢
  have further : extra = extra' := by
    refine eq_of_flatMap_eq (k := 2) Nat.two_pos (fun _ _ ↦ rfl) (fun _ _ ↦ rfl) ?_ h
    rintro ⟨name, n⟩ - ⟨name', n'⟩ - same
    simp only [gaugeSaid, List.cons.injEq, Line.type.injEq, Line.sample.injEq] at same
    exact Prod.ext same.1.1 (Int.ofNat_inj.mp same.2.1.2.2)
  cases m
  cases m'
  cases calls
  cases denials
  cases streams
  cases evictions
  cases durations
  cases flag
  exact ⟨rfl, further⟩

theorem SameSeries.symm {m m' : Metrics} (h : m.SameSeries m') : m'.SameSeries m :=
  ⟨h.calls.symm, h.denials.symm, h.adminStreams.symm, h.evictions.symm, h.dispatchDuration.symm,
    h.draining.symm⟩

theorem SameSeries.trans {m₁ m₂ m₃ : Metrics} (h : m₁.SameSeries m₂) (h' : m₂.SameSeries m₃) :
    m₁.SameSeries m₃ :=
  ⟨h.calls.trans h'.calls, h.denials.trans h'.denials, h.adminStreams.trans h'.adminStreams,
    h.evictions.trans h'.evictions, h.dispatchDuration.trans h'.dispatchDuration,
    h.draining.trans h'.draining⟩

theorem SameSeries.regular {m m' : Metrics} (h : m'.SameSeries m) (r : m.Regular extra) :
    m'.Regular extra := by
  refine ⟨?_, r.gauges⟩
  have named := r.labels
  simp only [labels, List.forall_mem_append] at named ⊢
  have moved {α : Type} {f f' : Family α} (perm : f'.series.Perm f.series) (h : f.Named) :
      f'.Named := fun l hl ↦ h l ((perm.map _).mem_iff.mp hl)
  exact named.imp (.imp (.imp (.imp (moved h.calls) (moved h.denials)) (moved h.adminStreams))
    (moved h.evictions)) (moved h.dispatchDuration)

end Metrics

/-- In whatever order the series of each family stand, the text of metrics is read as their series:
those of each family once, in this order, then whether the gateway is draining and the further
gauges; and each sample stands behind its family's type. Nothing is lost on the way: metrics with
the same text have the same series and gauges, and each histogram has ten lines. In a label value
backslashes, quotes and line feeds are replaced, so it breaks no line and ends no quotes, and no two
sets of labels make the same series. -/
theorem metrics_text_reads_back {m : Metrics} {extra : List (String × Nat)}
    (r : m.Regular extra) :
    (∀ own : Metrics, own.SameSeries m →
      readText? (own.text extra) = some (own.said extra) ∧ Typed (own.said extra)) ∧
    (∀ (m' : Metrics) (extra' : List (String × Nat)), m'.Regular extra' →
      ∀ own own' : Metrics, own.SameSeries m → own'.SameSeries m' →
        own'.text extra' = own.text extra → m'.SameSeries m ∧ extra' = extra) ∧
    (∀ name l h, (histogramLines name l h).length = 10) ∧
    (∀ (v : String) (rest : List Char),
      (labelValue v).toList = replaced '\n' ['\\', 'n']
        (replaced '"' ['\\', '"'] (replaced '\\' ['\\', '\\'] v.toList)) ∧
      '\n' ∉ (labelValue v).toList ∧
      readQuoted? ((labelValue v).toList ++ '"' :: rest) = some (v.toList, rest)) ∧
    ∀ (name : String) (l l' : Labels), IsMetricName name → (∀ p ∈ l.pairs, IsLabelName p.1) →
      (∀ p ∈ l'.pairs, IsLabelName p.1) →
      seriesText name l.pairs = seriesText name l'.pairs → l = l' := by
  refine ⟨fun own same ↦ ⟨Metrics.readText?_text (same.regular r), own.typed_said extra⟩, ?_,
    length_histogramLines,
    fun v rest ↦ ⟨toList_labelValue v, feed_not_mem_labelValue v, readQuoted?_labelValue v rest⟩,
    fun name l l' named h h' same ↦ Labels.ext (seriesText_inj named named h h' same).2⟩
  intro m' extra' r' own own' same same' text
  have read := Metrics.readText?_text (same.regular r)
  rw [← text, Metrics.readText?_text (same'.regular r')] at read
  obtain ⟨rfl, further⟩ := Metrics.eq_of_said_eq (Option.some.inj read)
  exact ⟨same'.symm.trans same, further⟩

/-- A label value may hold what ends its quotes, its labels or its line. The counters stand in
another order than they were first used in. -/
theorem metrics_text_reads_back_of_escaped :
    let strange : Labels := ⟨[("kind", "a\"\x7d 1\nb\\"), ("outcome", ",x=\"\x7b")], by decide⟩
    let add : Labels := ⟨[("method", "/Biz/Add")], by decide⟩
    let durations : Histogram := ⟨2, 18446744073709551615, [0, 0, 1, 1, 1, 1, 1], rfl⟩
    let ofCalls (calls : Counters) : Metrics :=
      ⟨calls, .empty, ⟨[(.none, -2)]⟩, .empty, ⟨[(add, durations)]⟩, true⟩
    let m := ofCalls ⟨[(.none, 5), (strange, 7)]⟩
    let own := ofCalls ⟨[(strange, 7), (.none, 5)]⟩
    let bucket (bound : String) (n : Int) : Line :=
      .sample "aclgate_dispatch_duration_micros_bucket" [("method", "/Biz/Add"), ("le", bound)] n
    own.SameSeries m ∧ readText? (own.text [("up", 1)]) = some
      [.type "aclgate_calls_total" "counter",
        .sample "aclgate_calls_total" [("kind", "a\"\x7d 1\nb\\"), ("outcome", ",x=\"\x7b")] 7,
        .sample "aclgate_calls_total" [] 5,
        .type "aclgate_denials_total" "counter",
        .type "aclgate_admin_streams_active" "gauge",
        .sample "aclgate_admin_streams_active" [] (-2),
        .type "aclgate_subscriber_evictions_total" "counter",
        .type "aclgate_dispatch_duration_micros" "histogram",
        bucket "50" 0, bucket "250" 0, bucket "1000" 1, bucket "5000" 1, bucket "25000" 1,
        bucket "100000" 1, bucket "500000" 1, bucket "+Inf" 2,
        .sample "aclgate_dispatch_duration_micros_sum" [("method", "/Biz/Add")]
          18446744073709551615,
        .sample "aclgate_dispatch_duration_micros_count" [("method", "/Biz/Add")] 2,
        .type "aclgate_draining" "gauge", .sample "aclgate_draining" [] 1,
        .type "up" "gauge", .sample "up" [] 1] := by
  intro strange add durations ofCalls m own bucket
  have r : m.Regular [("up", 1)] := ⟨by decide, by decide⟩
  have same : own.SameSeries m := ⟨List.Perm.swap _ _ _, .rfl, .rfl, .rfl, .rfl, rfl⟩
  refine ⟨same, ((metrics_text_reads_back r).1 own same).1.trans ?_⟩
  decide +kernel

end Gatehouse

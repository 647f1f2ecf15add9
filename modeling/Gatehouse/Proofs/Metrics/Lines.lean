import Gatehouse.Metrics.Exposition

/-!
# The lines of the metrics

Every line of a family is its type's or begins with its name, and no family's name begins another's.
So the gauge of draining has one line, and that line is what the metrics say about draining.
-/

namespace Gatehouse

/-- Whether a line begins with a name. -/
def beginsWith (name line : String) : Bool := name.toList.isPrefixOf line.toList

theorem beginsWith_self (name : String) : beginsWith name name = true :=
  List.isPrefixOf_iff_prefix.mpr List.prefix_rfl

theorem beginsWith_append (name rest : String) : beginsWith name (name ++ rest) = true := by
  rw [beginsWith, List.isPrefixOf_iff_prefix, String.toList_append]
  exact List.prefix_append _ _

theorem beginsWith_append_of_beginsWith {name line : String} (h : beginsWith name line = true)
    (rest : String) : beginsWith name (line ++ rest) = true := by
  rw [beginsWith, List.isPrefixOf_iff_prefix] at h ⊢
  rw [String.toList_append]
  exact h.trans (List.prefix_append _ _)

/-- A line that begins with one name begins with another only if one name begins the other. -/
theorem not_beginsWith {name other line : String} (h : beginsWith other line = true)
    (apart : beginsWith name other = false ∧ beginsWith other name = false) :
    beginsWith name line = false := by
  rw [Bool.eq_false_iff]
  intro both
  rw [beginsWith, List.isPrefixOf_iff_prefix] at h both
  rcases List.prefix_or_prefix_of_prefix both h with inner | inner
  · exact Bool.eq_false_iff.mp apart.1 (List.isPrefixOf_iff_prefix.mpr inner)
  · exact Bool.eq_false_iff.mp apart.2 (List.isPrefixOf_iff_prefix.mpr inner)

/-- Whether the lines are those of a family: its type, or samples under its name. -/
def Headed (name : String) (lines : List String) : Prop :=
  ∀ line ∈ lines, beginsWith "# TYPE " line = true ∨ beginsWith name line = true

namespace Headed

variable {name : String}

/-- None of the lines of a family begins with a name that is apart from its own. -/
theorem filter_eq_nil {lines : List String} (h : Headed name lines) {other : String}
    (type : beginsWith other "# TYPE " = false ∧ beginsWith "# TYPE " other = false)
    (apart : beginsWith other name = false ∧ beginsWith name other = false) :
    lines.filter (beginsWith other) = [] := by
  rw [List.filter_eq_nil_iff]
  intro line hl
  rw [Bool.not_eq_true]
  rcases h line hl with t | n
  · exact not_beginsWith t type
  · exact not_beginsWith n apart

end Headed

theorem beginsWith_typeLine (name kind : String) :
    beginsWith "# TYPE " (typeLine name kind) = true :=
  beginsWith_append_of_beginsWith (beginsWith_append_of_beginsWith (beginsWith_append _ _) _) _

theorem beginsWith_seriesText (name : String) (l : LabelList) :
    beginsWith name (seriesText name l) = true := by
  unfold seriesText
  split
  · exact beginsWith_self name
  · exact beginsWith_append_of_beginsWith
      (beginsWith_append_of_beginsWith (beginsWith_append _ _) _) _

/-- The lines of a family are headed by its name if those of each of its series are. -/
theorem headed_family {α : Type} {m : Family α} {name kind : String}
    {block : LabelList → α → List String}
    (h : ∀ l a, ∀ line ∈ block l a, beginsWith name line = true) :
    Headed name (m.lines name kind block) := by
  intro line hl
  rcases List.mem_cons.mp hl with rfl | hl
  · exact .inl (beginsWith_typeLine name kind)
  · obtain ⟨s, -, hl⟩ := List.mem_flatMap.mp hl
    exact .inr (h s.1.pairs s.2 line hl)

theorem headed_counters (m : Counters) (name : String) : Headed name (m.lines name) := by
  refine headed_family fun l a line hl ↦ ?_
  rw [List.mem_singleton.mp hl]
  exact beginsWith_append_of_beginsWith
    (beginsWith_append_of_beginsWith (beginsWith_seriesText _ _) _) _

theorem headed_gauges (m : Gauges) (name : String) : Headed name (m.lines name) := by
  refine headed_family fun l a line hl ↦ ?_
  rw [List.mem_singleton.mp hl]
  exact beginsWith_append_of_beginsWith
    (beginsWith_append_of_beginsWith (beginsWith_seriesText _ _) _) _

theorem beginsWith_bucketLine (name : String) (l : LabelList) (bound : String) (n : UInt64) :
    beginsWith name (bucketLine name l bound n) = true := by
  unfold bucketLine
  simp only
  iterate 6 apply beginsWith_append_of_beginsWith
  exact beginsWith_self name

theorem headed_histograms (m : Histograms) (name : String) : Headed name (m.lines name) := by
  have named {suffix : String} (l : LabelList) :
      beginsWith name (seriesText (name ++ suffix) l) = true := by
    have whole := beginsWith_seriesText (name ++ suffix) l
    have part := beginsWith_append name suffix
    rw [beginsWith, List.isPrefixOf_iff_prefix] at whole part ⊢
    exact part.trans whole
  refine headed_family fun l a line hl ↦ ?_
  rcases List.mem_append.mp hl with hl | hl
  · obtain ⟨i, hi, rfl⟩ := List.mem_iff_getElem.mp hl
    rw [List.getElem_zipWith]
    exact beginsWith_bucketLine _ _ _ _
  · simp only [List.mem_cons, List.not_mem_nil, or_false] at hl
    rcases hl with rfl | rfl | rfl
    · exact beginsWith_bucketLine _ _ _ _
    · exact beginsWith_append_of_beginsWith (beginsWith_append_of_beginsWith (named _) _) _
    · exact beginsWith_append_of_beginsWith (beginsWith_append_of_beginsWith (named _) _) _

theorem headed_plainGauge (name : String) (n : Nat) : Headed name (plainGauge name n) := by
  intro line hl
  simp only [plainGauge, List.mem_cons, List.not_mem_nil, or_false] at hl
  rcases hl with rfl | rfl
  · exact .inl (beginsWith_typeLine name _)
  · exact .inr (beginsWith_append_of_beginsWith (beginsWith_append _ _) _)

/-- The name of the gauge that tells whether the gateway is draining. -/
def drainingGauge : String := "aclgate_draining"

/-- The one line under the gauge's name says whether the gateway is draining, unless a further gauge
goes by a name like it. -/
theorem Metrics.filter_lines_draining (m : Metrics) {extra : List (String × Nat)}
    (apart : ∀ g ∈ extra,
      beginsWith drainingGauge g.1 = false ∧ beginsWith g.1 drainingGauge = false) :
    (m.lines extra).filter (beginsWith drainingGauge) =
      ["aclgate_draining " ++ if m.draining then "1" else "0"] := by
  have type : beginsWith drainingGauge "# TYPE " = false ∧
      beginsWith "# TYPE " drainingGauge = false := by decide
  have own : (plainGauge "aclgate_draining" (if m.draining then 1 else 0)).filter
      (beginsWith drainingGauge) = ["aclgate_draining " ++ if m.draining then "1" else "0"] := by
    cases m.draining <;> decide
  have others : (extra.flatMap fun g ↦ plainGauge g.1 g.2).filter (beginsWith drainingGauge) =
      [] := by
    rw [List.filter_flatMap, List.flatMap_eq_nil_iff]
    exact fun g hg ↦ (headed_plainGauge g.1 g.2).filter_eq_nil type (apart g hg)
  rw [lines]
  simp only [List.filter_append]
  rw [(headed_counters _ _).filter_eq_nil type (by decide),
    (headed_counters _ _).filter_eq_nil type (by decide),
    (headed_gauges _ _).filter_eq_nil type (by decide),
    (headed_counters _ _).filter_eq_nil type (by decide),
    (headed_histograms _ _).filter_eq_nil type (by decide), own, others]
  rfl

end Gatehouse

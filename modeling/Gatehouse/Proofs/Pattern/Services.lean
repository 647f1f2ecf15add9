import Gatehouse.Proofs.Acl
import Gatehouse.Proofs.Gateway.Requests

/-!
# Which services a wildcard reaches

A pattern that ends in `*` is a beginning of texts and knows nothing about segments. On method paths
it reaches everything, the services that begin with a text, or the methods of one service, and which
of these it is depends on the slashes before the `*` alone. A rule that means one service has to
write the slash behind it.
-/

namespace Gatehouse

/-- A beginning of two texts in a row ends in the first, or goes on behind it. -/
theorem isPrefix_append_iff {α : Type} {cs xs ys : List α} :
    cs <+: xs ++ ys ↔ cs <+: xs ∨ ∃ t, cs = xs ++ t ∧ t <+: ys := by
  constructor
  · rintro ⟨rest, h⟩
    rcases List.append_eq_append_iff.mp h with ⟨ys', rfl, -⟩ | ⟨t, rfl, rfl⟩
    · exact .inl (List.prefix_append cs ys')
    · exact .inr ⟨t, rfl, List.prefix_append t rest⟩
  · rintro (h | ⟨t, rfl, h⟩)
    · exact h.trans (List.prefix_append xs ys)
    · exact (List.prefix_append_right_inj xs).mpr h

namespace MethodPath

theorem WellFormed.slash_not_mem_service {path : MethodPath} (w : path.WellFormed) :
    '/' ∉ path.service.toList := fun h ↦ (isSegmentChar_iff.mp (w.service_char _ h)).1 rfl

theorem WellFormed.slash_not_mem_method {path : MethodPath} (w : path.WellFormed) :
    '/' ∉ path.method.toList := fun h ↦ (isSegmentChar_iff.mp (w.method_char _ h)).1 rfl

/-- The slashes of a path are the two before its segments. -/
theorem WellFormed.count_slash {path : MethodPath} (w : path.WellFormed) :
    path.text.toList.count '/' = 2 := by
  rw [toList_text, List.count_cons_self, List.count_append, List.count_cons_self,
    List.count_eq_zero_of_not_mem w.slash_not_mem_service,
    List.count_eq_zero_of_not_mem w.slash_not_mem_method]

end MethodPath

namespace Pattern

/-- What a text before a `*` reaches, by the place of its slashes: everything, the services that
begin with a text, or the methods of one service that begin with a text. -/
inductive Reaches (path : MethodPath) : String → Prop
  | everything : Reaches path ""
  | slash : Reaches path "/"
  | services {begins : String} (ne : begins ≠ "") (plain : '/' ∉ begins.toList)
      (h : begins.toList <+: path.service.toList) : Reaches path ("/" ++ begins)
  | methods {service begins : String} (ne : service ≠ "") (plain : '/' ∉ service.toList)
      (plain' : '/' ∉ begins.toList) (same : path.service = service)
      (h : begins.toList <+: path.method.toList) :
      Reaches path ("/" ++ service ++ "/" ++ begins)

/-- No method path begins so: the text does not begin with one slash, or it has too many. -/
def Stray (start : String) : Prop :=
  start ≠ "" ∧ start.toList.head? ≠ some '/' ∨ ['/', '/'] <+: start.toList ∨
    3 ≤ start.toList.count '/'

variable {path : MethodPath} {start : String}

theorem reaches_of_isPrefix (w : path.WellFormed) (h : start.toList <+: path.text.toList) :
    Reaches path start := by
  rw [MethodPath.toList_text] at h
  rcases List.prefix_cons_iff.mp h with nil | ⟨cs, chars, h⟩
  · rw [String.toList_eq_nil_iff.mp nil]
    exact .everything
  · have text : start = "/" ++ String.ofList cs := by
      rw [← String.toList_inj, chars]
      simp
    rcases isPrefix_append_iff.mp h with within | ⟨t, rfl, behind⟩
    · rcases eq_or_ne cs [] with rfl | ne
      · rw [text]
        exact .slash
      · have plain : '/' ∉ cs := fun hm ↦ w.slash_not_mem_service (within.subset hm)
        rw [text]
        exact .services (by simpa using ne) (by simpa using plain) (by simpa using within)
    · have service_ne : path.service.toList ≠ [] :=
        fun he ↦ w.service_ne (String.toList_eq_nil_iff.mp he)
      rcases List.prefix_cons_iff.mp behind with rfl | ⟨u, rfl, begins⟩
      · rw [text, List.append_nil, String.ofList_toList]
        exact .services w.service_ne w.slash_not_mem_service (List.prefix_refl _)
      · have plain : '/' ∉ u := fun hm ↦ w.slash_not_mem_method (begins.subset hm)
        have segments : start = "/" ++ path.service ++ "/" ++ String.ofList u := by
          rw [← String.toList_inj, chars]
          simp
        rw [segments]
        exact .methods w.service_ne w.slash_not_mem_service (by simpa using plain) rfl
          (by simpa using begins)

theorem isPrefix_of_reaches (h : Reaches path start) : start.toList <+: path.text.toList := by
  rw [MethodPath.toList_text]
  cases h with
  | everything => exact List.nil_prefix
  | slash => exact ⟨_, rfl⟩
  | services _ _ h =>
    rw [String.toList_append]
    exact (List.prefix_cons_inj '/').mpr (h.trans (List.prefix_append _ _))
  | methods _ _ _ same h =>
    rw [← same]
    simpa [List.prefix_append_right_inj] using h

/-- On the text of a method path, a wildcard covers what the text before it reaches. -/
theorem covers_beginning_iff (w : path.WellFormed) :
    (beginning start).covers path.text = true ↔ Reaches path start := by
  rw [covers, List.isPrefixOf_iff_prefix]
  exact ⟨reaches_of_isPrefix w, isPrefix_of_reaches⟩

/-- A stray text reaches nothing. -/
theorem Stray.covers_eq_false (stray : Stray start) (w : path.WellFormed) :
    (beginning start).covers path.text = false := by
  rw [Bool.eq_false_iff, covers, Ne, List.isPrefixOf_iff_prefix]
  intro h
  rcases stray with ⟨ne, head⟩ | doubled | many
  · rw [MethodPath.toList_text] at h
    rcases List.prefix_cons_iff.mp h with nil | ⟨cs, chars, -⟩
    · exact ne (String.toList_eq_nil_iff.mp nil)
    · rw [chars] at head
      exact head rfl
  · have two := doubled.trans h
    rw [MethodPath.toList_text, List.prefix_cons_inj] at two
    rcases isPrefix_append_iff.mp two with within | ⟨t, chars, -⟩
    · exact w.slash_not_mem_service (within.subset List.mem_cons_self)
    · cases hs : path.service.toList with
      | nil => exact w.service_ne (String.toList_eq_nil_iff.mp hs)
      | cons c cs =>
        rw [hs] at chars
        have slash := w.slash_not_mem_service
        rw [hs, (List.cons.inj chars).1] at slash
        exact slash List.mem_cons_self
  · have few := h.sublist.count_le '/'
    rw [w.count_slash] at few
    omega

/-- A path that begins with a text between slashes has that text as its service. -/
theorem service_eq_of_isPrefix (w : path.WellFormed) {service : String}
    (h : ("/" ++ service ++ "/").toList <+: path.text.toList) : path.service = service := by
  have chars : ("/" ++ service ++ "/").toList = '/' :: (service.toList ++ ['/']) := by simp
  rw [chars, MethodPath.toList_text, List.prefix_cons_inj] at h
  have ends : '/' ∈ service.toList ++ ['/'] := by simp
  rcases isPrefix_append_iff.mp h with within | ⟨t, segments, behind⟩
  · exact absurd (within.subset ends) w.slash_not_mem_service
  · rcases List.prefix_cons_iff.mp behind with rfl | ⟨u, rfl, begins⟩
    · rw [List.append_nil] at segments
      exact absurd (segments ▸ ends) w.slash_not_mem_service
    · -- The slash at the end of the text is the one behind the service, so nothing follows it.
      rcases List.eq_nil_or_concat u with rfl | ⟨front, c, rfl⟩
      · exact (String.toList_inj.mp (List.append_cancel_right segments)).symm
      · have last : path.service.toList ++ '/' :: front.concat c =
            (path.service.toList ++ '/' :: front) ++ [c] := by simp
        rw [last] at segments
        obtain ⟨-, hc⟩ := List.append_inj' segments rfl
        have slash : '/' ∈ path.method.toList :=
          begins.subset (by simp [← List.singleton_inj.mp hc])
        exact absurd slash w.slash_not_mem_method

/-- The methods of one service are what the service between slashes reaches. -/
theorem reaches_service_iff (w : path.WellFormed) {service : String} (ne : service ≠ "")
    (plain : '/' ∉ service.toList) :
    Reaches path ("/" ++ service ++ "/") ↔ path.service = service := by
  constructor
  · intro h
    exact service_eq_of_isPrefix w (isPrefix_of_reaches h)
  · intro same
    rw [← String.append_empty (s := "/" ++ service ++ "/")]
    exact .methods ne plain (by simp) same List.nil_prefix

/-- A text that is not stray has at most two slashes, the first at its front and alone. -/
theorem stray_or_shaped (start : String) :
    Stray start ∨ start = "" ∨ start = "/" ∨
      (∃ begins, start = "/" ++ begins ∧ begins ≠ "" ∧ '/' ∉ begins.toList) ∨
      ∃ service begins, start = "/" ++ service ++ "/" ++ begins ∧ service ≠ "" ∧
        '/' ∉ service.toList ∧ '/' ∉ begins.toList := by
  obtain ⟨chars, rfl⟩ : ∃ chars, start = String.ofList chars := ⟨_, String.ofList_toList.symm⟩
  cases chars with
  | nil => exact .inr (.inl rfl)
  | cons c cs =>
    by_cases slash : c = '/'
    · subst slash
      by_cases more : '/' ∈ cs
      · obtain ⟨service, begins, rfl, plain⟩ := List.eq_append_cons_of_mem more
        rcases eq_or_ne service [] with rfl | ne
        · exact .inl (.inr (.inl ⟨begins, by simp⟩))
        · by_cases third : '/' ∈ begins
          · have many := List.count_pos_iff.mpr third
            refine .inl (.inr (.inr ?_))
            rw [String.toList_ofList, List.count_cons_self, List.count_append,
              List.count_cons_self]
            omega
          · refine .inr (.inr (.inr (.inr ⟨.ofList service, .ofList begins, ?_, ?_, ?_, ?_⟩)))
            · rw [← String.toList_inj]
              simp
            · simpa using ne
            · simpa using plain
            · simpa using third
      · rcases eq_or_ne cs [] with rfl | ne
        · exact .inr (.inr (.inl rfl))
        · refine .inr (.inr (.inr (.inl ⟨.ofList cs, ?_, ?_, ?_⟩)))
          · rw [← String.toList_inj]
            simp
          · simpa using ne
          · simpa using more
    · exact .inl (.inl ⟨by simp, by simpa using slash⟩)

/-- A source that begins with a service between slashes grants methods of that service only. -/
theorem service_eq_of_grants (w : path.WellFormed) {service name : String}
    (h : Grants ("/" ++ service ++ "/" ++ name) path.text) : path.service = service := by
  have source : ("/" ++ service ++ "/").toList <+: ("/" ++ service ++ "/" ++ name).toList := by
    rw [String.toList_append (s := _ ++ "/")]
    exact List.prefix_append _ _
  apply service_eq_of_isPrefix w
  cases h with
  | exact _ same => exact same ▸ source
  | beginning start star begins =>
    rw [star] at source
    rcases List.prefix_concat_iff.mp (toList_text_beginning start ▸ source) with whole | within
    · have ends : ("/" ++ service).toList ++ ['/'] = start.toList ++ ['*'] := by
        rw [← whole, String.toList_append (t := "/")]
        rfl
      exact absurd (List.append_inj' ends rfl).2 (by decide)
    · exact within.trans begins

end Pattern

namespace Acl

open Pattern (Reaches Stray)

/-- A consumer whose rules all name one service is let on to methods of that service only. -/
theorem service_eq_of_admitted {raw : RawRules} {acl : Acl} (compiled : compile raw = .ok acl)
    {consumer service : String}
    (rules : ∀ source, Lists raw consumer source → ∃ name, source = "/" ++ service ++ "/" ++ name)
    {call : Call} {hub : Hub} {metrics : Metrics} {caller : Caller}
    (admitted : (Gate.enter acl call hub metrics).result = .ok caller)
    (named : caller.consumer = consumer) : caller.method.service = service := by
  have verdict := Admission.result_eq_ok_iff.mp admitted
  rw [Gate.outcome_enter, Gate.verdict_eq_ok_iff] at verdict
  obtain ⟨wf, text, -, -, judged⟩ := verdict
  rw [← text, named] at judged
  cases (judge_eq_iff compiled).mp judged with
  | allow source listed grants =>
    obtain ⟨name, rfl⟩ := rules source listed
    exact Pattern.service_eq_of_grants wf grants

/-- What a wildcard grants on method paths. The text before it reaches everything, the services that
begin with a text, or methods of one service, and nothing when it is stray; every text is one of
these. Written `/S/*` it grants exactly the methods of `S`. So a consumer whose rules all are `/S/*`
or `/S/M` is never admitted to another service. -/
theorem wildcards_grant_by_slashes :
    (∀ source start, Pattern.compile source = .ok (.beginning start) →
      ∀ text path, MethodPath.read text = .ok path →
        ((Pattern.beginning start).covers text = true ↔ Reaches path start) ∧
        (Stray start → (Pattern.beginning start).covers text = false)) ∧
    (∀ start, Stray start ∨ start = "" ∨ start = "/" ∨
      (∃ begins, start = "/" ++ begins ∧ begins ≠ "" ∧ '/' ∉ begins.toList) ∨
      ∃ service begins, start = "/" ++ service ++ "/" ++ begins ∧ service ≠ "" ∧
        '/' ∉ service.toList ∧ '/' ∉ begins.toList) ∧
    (∀ service, service ≠ "" → '/' ∉ service.toList → '*' ∉ service.toList →
      ∃ p, Pattern.compile ("/" ++ service ++ "/*") = .ok p ∧
        ∀ text path, MethodPath.read text = .ok path →
          (p.covers text = true ↔ path.service = service)) ∧
    ∀ raw acl consumer service, compile raw = .ok acl →
      (∀ source, Lists raw consumer source →
        source = "/" ++ service ++ "/*" ∨ ∃ method, source = "/" ++ service ++ "/" ++ method) →
      ∀ call hub metrics caller, (Gate.enter acl call hub metrics).result = .ok caller →
        caller.consumer = consumer → caller.method.service = service := by
  refine ⟨?_, Pattern.stray_or_shaped, ?_, ?_⟩
  · intro source start _ text path read
    obtain ⟨w, rfl⟩ := MethodPath.read_eq_ok_iff.mp read
    exact ⟨Pattern.covers_beginning_iff w, fun stray ↦ stray.covers_eq_false w⟩
  · intro service ne plain noStar
    refine ⟨.beginning ("/" ++ service ++ "/"), ?_, ?_⟩
    · have text : "/" ++ service ++ "/*" = (Pattern.beginning ("/" ++ service ++ "/")).text := by
        rw [← String.toList_inj, Pattern.toList_text_beginning]
        simp
      rw [text]
      exact Pattern.compile_text (by simpa [Pattern.WellFormed] using noStar)
    · intro text path read
      obtain ⟨w, rfl⟩ := MethodPath.read_eq_ok_iff.mp read
      rw [Pattern.covers_beginning_iff w]
      exact Pattern.reaches_service_iff w ne plain
  · intro raw acl consumer service compiled rules call hub metrics caller admitted named
    refine service_eq_of_admitted compiled (fun source listed ↦ ?_) admitted named
    rcases rules source listed with rfl | same
    · exact ⟨"*", by rw [← String.toList_inj]; simp⟩
    · exact same

/-- `/Biz*` grants a method of `Bizarre`, `/Biz/*` does not, and `//*` grants nothing. A consumer
with the rules `/Biz/*` and `/Biz/Add` is admitted to `Biz`. -/
theorem wildcards_grant_by_slashes_of_missing_slash :
    let raw : RawRules := .ofList [("c1", ["/Biz/*", "/Biz/Add"]), ("c2", ["*"])]
    let acl : Acl := ⟨.ofList [("c1", [.beginning "/Biz/", .exact "/Biz/Add"]),
      ("c2", [.beginning ""])]⟩
    let peer : Address := .v4 ⟨127, 0, 0, 1⟩ 40000
    let call : Call := ⟨.unary, "/Biz/Test", Metadata.empty.append "consumer" "c1", some peer⟩
    let caller : Caller := ⟨"c1", peer, ⟨"Biz", "Test"⟩⟩
    Pattern.compile "/Biz*" = .ok (.beginning "/Biz") ∧
      MethodPath.read "/Bizarre/Add" = .ok ⟨"Bizarre", "Add"⟩ ∧
      Reaches ⟨"Bizarre", "Add"⟩ "/Biz" ∧
      (Pattern.beginning "/Biz").covers "/Bizarre/Add" = true ∧
      (Pattern.beginning "/Biz/").covers "/Bizarre/Add" = false ∧
      Pattern.compile "//*" = .ok (.beginning "//") ∧ Stray "//" ∧
      (Pattern.beginning "//").covers "/Bizarre/Add" = false ∧
      compile raw = .ok acl ∧
      (Gate.enter acl call (.ofDepth 1) .empty).result = .ok caller ∧
      caller.method.service = "Biz" := by
  intro raw acl peer call caller
  have short : Pattern.compile "/Biz*" = .ok (.beginning "/Biz") := rfl
  have doubled : Pattern.compile "//*" = .ok (.beginning "//") := rfl
  have read : MethodPath.read "/Bizarre/Add" = .ok ⟨"Bizarre", "Add"⟩ := rfl
  have compiled : compile raw = .ok acl := rfl
  have admitted : (Gate.enter acl call (.ofDepth 1) .empty).result = .ok caller := by
    have wf : MethodPath.WellFormed ⟨"Biz", "Test"⟩ ∧ _ = "/Biz/Test" :=
      MethodPath.read_eq_ok_iff.mp rfl
    rw [Admission.result_eq_ok_iff, Gate.outcome_enter, Gate.verdict_eq_ok_iff]
    exact ⟨wf.1, rfl, rfl, by decide, by decide⟩
  have stray : Stray "//" := .inr (.inl ⟨[], rfl⟩)
  obtain ⟨byShape, -, whole, owned⟩ := wildcards_grant_by_slashes
  obtain ⟨p, hp, covers⟩ := whole "Biz" (by decide) (by decide) (by decide)
  have long : Pattern.compile ("/" ++ "Biz" ++ "/*") = .ok (.beginning "/Biz/") := rfl
  obtain rfl := Except.ok.inj (long.symm.trans hp)
  have reaches : Reaches ⟨"Bizarre", "Add"⟩ "/Biz" :=
    @Reaches.services _ "Biz" (by decide) (by decide) ⟨_, rfl⟩
  refine ⟨short, read, reaches, ((byShape _ _ short _ _ read).1).mpr reaches, ?_, doubled, stray,
    (byShape _ _ doubled _ _ read).2 stray, compiled, admitted, ?_⟩
  · rw [Bool.eq_false_iff, Ne, covers _ _ read]
    decide
  · refine owned raw acl "c1" "Biz" compiled ?_ call _ _ caller admitted rfl
    rintro source ⟨sources, listed, member⟩
    cases listed
    rcases List.mem_cons.mp member with rfl | member
    · exact .inl rfl
    · exact .inr ⟨"Add", List.mem_singleton.mp member⟩

end Acl

end Gatehouse

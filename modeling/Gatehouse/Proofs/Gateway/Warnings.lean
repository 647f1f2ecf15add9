import Gatehouse.Proofs.Acl
import Gatehouse.Proofs.Gateway.Posts

/-!
# Rules that nothing serves

At its start a gateway notes the rules of its list that name one method which nothing serves. What
is served is decided elsewhere: by the services behind the dispatcher, and by the streams. The two
agree. No call by a rule that is noted is ever served, and some call by any other rule always is.
-/

namespace Gatehouse

/-- The list names this one method for the consumer. -/
def Acl.Names (acl : Acl) (consumer method : String) : Prop :=
  ∃ patterns, acl.rules.get? consumer = some patterns ∧ Pattern.exact method ∈ patterns

/-- The consumer calls the method, and the transport knows from where. -/
structure Call.By (call : Call) (consumer method : String) : Prop where
  method : call.method = method
  consumer : call.consumer? = some consumer
  peer : ∃ peer, call.peer = some peer

namespace Gateway

/-- The fault says that there is nothing under the path: it is not known, or it is none. -/
inductive Lost (path : String) : Fault → Prop
  | unknown : Lost path (.unknownMethod path)
  | malformed {fault : Fault} (parsed : MethodPath.parse path = .error fault) : Lost path fault

/-- No call of the method by the consumer is ever served, whatever it brings and whatever the
gateway has seen before. -/
structure NeverServed (g : Gateway) (consumer method : String) : Prop where
  unary : ∀ call : Call, call.By consumer method → ∀ body micros hub metrics,
    ∃ fault, Lost method fault ∧
      (Gate.intercept g.acl call (unaryHandler g.dispatcher body) micros hub metrics).result =
        .error fault
  stream : ∀ call : Call, call.By consumer method → ∀ query upgrade micros hub metrics,
    ∃ fault, Lost method fault ∧
      (Gate.intercept g.acl call (streamHandler g.maxInterval query upgrade) micros hub
        metrics).result = .error fault

/-- The consumer has calls of the method that are always served: all unary ones, or all that ask for
a stream in some way. -/
inductive AlwaysServed (g : Gateway) (consumer method : String) : Prop
  | unary (h : ∀ call : Call, call.By consumer method → ∀ body micros hub metrics, ∃ bytes,
      (Gate.intercept g.acl call (unaryHandler g.dispatcher body) micros hub metrics).result =
        .ok bytes)
  | stream (query : Option String) (h : ∀ call : Call, call.By consumer method →
      ∀ micros hub metrics, ∃ grant,
        (Gate.intercept g.acl call (streamHandler g.maxInterval query true) micros hub
          metrics).result = .ok grant)

theorem mem_unservedRules {served : List String} {patterns : List Pattern} {method : String} :
    method ∈ unservedRules served patterns ↔ .exact method ∈ patterns ∧ method ∉ served := by
  rw [unservedRules, List.mem_filterMap]
  constructor
  · rintro ⟨p, listed, kept⟩
    cases p with
    | beginning start => cases kept
    | exact m =>
      dsimp only at kept
      split at kept
      · cases kept
      · next unserved =>
        cases kept
        exact ⟨listed, unserved⟩
  · rintro ⟨listed, unserved⟩
    exact ⟨_, listed, if_neg unserved⟩

theorem nodup_unservedRules (served : List String) {patterns : List Pattern}
    (h : patterns.Nodup) : (unservedRules served patterns).Nodup := by
  refine h.filterMap fun p q method hp hq ↦ ?_
  cases p <;> cases q <;> grind

section

variable {g : Gateway} {consumer method : String}

theorem mem_warnings {note : Note} :
    note ∈ g.warnings ↔ ∃ consumer method, note = .unservedRule consumer method ∧
      g.acl.Names consumer method ∧ method ∉ g.served := by
  simp only [warnings, List.mem_flatMap, List.mem_map, mem_unservedRules]
  constructor
  · rintro ⟨⟨consumer, patterns⟩, entry, method, ⟨listed, unserved⟩, rfl⟩
    exact ⟨consumer, method, rfl, ⟨patterns, TextMap.mem_entries_iff.mp entry, listed⟩, unserved⟩
  · rintro ⟨consumer, method, rfl, ⟨patterns, found, listed⟩, unserved⟩
    exact ⟨(consumer, patterns), TextMap.mem_entries_iff.mpr found, method, ⟨listed, unserved⟩, rfl⟩

/-- Where each consumer has a pattern once, each note is written once. -/
theorem nodup_warnings
    (h : ∀ consumer patterns, g.acl.rules.get? consumer = some patterns → patterns.Nodup) :
    g.warnings.Nodup := by
  refine List.nodup_flatMap.mpr ⟨fun e entry ↦ ?_, ?_⟩
  · refine (nodup_unservedRules _ (h e.1 e.2 (TextMap.mem_entries_iff.mp entry))).map ?_
    exact fun _ _ same ↦ (Note.unservedRule.inj same).2
  · -- the notes of two entries are about two consumers
    refine g.acl.rules.ascending.imp fun {e e'} lt note here there ↦ ?_
    obtain ⟨_, -, rfl⟩ := List.mem_map.mp here
    obtain ⟨_, -, same⟩ := List.mem_map.mp there
    rw [(Note.unservedRule.inj same).1] at lt
    exact String.lt_irrefl _ lt

theorem judge_of_names {acl : Acl} (h : acl.Names consumer method) :
    acl.judge consumer method = .allow := by
  obtain ⟨patterns, found, listed⟩ := h
  have covered : Pattern.anyCovers patterns method = true :=
    List.any_eq_true.mpr ⟨_, listed, beq_self_eq_true method⟩
  rw [Acl.judge, found]
  exact if_pos covered

/-- A call of an allowed method path is admitted. -/
theorem verdict_of_by {acl : Acl} {call : Call} (h : call.By consumer method)
    (readable : MethodPath.IsPath method) (allowed : acl.judge consumer method = .allow) :
    ∃ caller, Gate.verdict acl call = .ok caller ∧ caller.method.WellFormed ∧
      caller.method.text = method := by
  obtain ⟨path, w, text⟩ := readable
  obtain ⟨rfl, named, peer, placed⟩ := h
  exact ⟨⟨consumer, peer, path⟩,
    (Gate.verdict_eq_ok_iff _ _).mpr ⟨w, text, placed, named, allowed⟩, w, text⟩

/-- A method that is not among those served is lost on every consumer who may call it. -/
theorem neverServed_of_not_mem_served (allowed : g.acl.judge consumer method = .allow)
    (h : method ∉ g.served) : g.NeverServed consumer method := by
  obtain ⟨unregistered, noStream⟩ := not_or.mp (mt List.mem_append.mpr h)
  have lost {α : Type} (handler : Caller → Hub → Handled α)
      (refusing : ∀ caller hub, caller.method.WellFormed → caller.method.text = method →
        (handler caller hub).result = .error (.unknownMethod method))
      {call : Call} (made : call.By consumer method) (micros : Nat) (hub : Hub)
      (metrics : Metrics) : ∃ fault, Lost method fault ∧
        (Gate.intercept g.acl call handler micros hub metrics).result = .error fault := by
    by_cases readable : MethodPath.IsPath method
    · obtain ⟨caller, verdict, w, text⟩ := verdict_of_by made readable allowed
      refine ⟨_, .unknown, ?_⟩
      rw [(Gate.intercept_of_admitted _ _ _ _ verdict).1]
      exact refusing caller _ w text
    · rw [← made.method] at readable ⊢
      obtain ⟨why, verdict, parsed, -⟩ := Gate.verdict_of_not_isPath g.acl call readable
      exact ⟨_, .malformed parsed, (Gate.intercept_of_refused _ _ _ _ verdict).1⟩
  refine ⟨fun call made body ↦ lost _ (fun caller hub w text ↦ ?_) made,
    fun call made query upgrade ↦ lost _ (fun caller hub w text ↦ ?_) made⟩
  · subst text
    rw [unaryHandler, Dispatcher.dispatch_of_unregistered w unregistered]
  · obtain ⟨logging, statistics⟩ := not_or.mp (mt List.mem_pair.mpr noStream)
    rw [streamHandler, openStream, text, if_neg logging, if_neg statistics]

/-- A method that is among those served is served to every consumer who may call it, where the
services reply to their calls and each period of a second is allowed. -/
theorem alwaysServed_of_mem_served (reliable : g.dispatcher.Reliable)
    (readable : ∀ path ∈ g.dispatcher.registeredMethods, MethodPath.IsPath path)
    (interval : 1 ≤ g.maxInterval) (allowed : g.acl.judge consumer method = .allow)
    (h : method ∈ g.served) : g.AlwaysServed consumer method := by
  rcases List.mem_append.mp h with registered | streamed
  · refine .unary fun call made body micros hub metrics ↦ ?_
    obtain ⟨caller, verdict, w, rfl⟩ := verdict_of_by made (readable method registered) allowed
    obtain ⟨s, routed⟩ := (g.dispatcher.mem_registeredMethods_iff w).mp registered
    obtain ⟨bytes, result⟩ := reliable caller s routed body
    refine ⟨bytes, ?_⟩
    rw [(Gate.intercept_of_admitted _ _ _ _ verdict).1]
    rw [unaryHandler, Dispatcher.dispatch_of_routed routed, result]
  · obtain ⟨kind, rfl⟩ : ∃ kind : StreamKind, kind.method = method := by
      rcases List.mem_pair.mp streamed with logging | statistics
      · exact ⟨.logging, logging.symm⟩
      · exact ⟨.statistics, statistics.symm⟩
    have path : MethodPath.IsPath kind.method := by cases kind <;> decide
    refine .stream (some "interval_seconds=1") fun call made micros hub metrics ↦ ?_
    obtain ⟨caller, verdict, -, text⟩ := verdict_of_by made path allowed
    have second : Http.intervalOf (some "interval_seconds=1") = .ok 1 := by decide +kernel
    have asked : asked? g.maxInterval ⟨kind.method, some "interval_seconds=1"⟩ = some kind :=
      asked?_eq_some_iff.mpr ⟨rfl, fun _ ↦ ⟨1, second, Nat.one_pos, interval⟩⟩
    rw [(Gate.intercept_of_admitted _ _ _ _ verdict).1]
    obtain ⟨⟨grant, granted, -⟩, -⟩ := streamHandler_of_upgrade text asked
      (hub.after (recordOf call.event?))
    exact ⟨grant, granted⟩

/-- Every consumer can call every method, so what is always served is not lost. -/
theorem AlwaysServed.not_neverServed (h : g.AlwaysServed consumer method) :
    ¬g.NeverServed consumer method := by
  intro never
  let call : Call :=
    ⟨.unary, method, Metadata.empty.append "consumer" consumer, some (.v4 ⟨127, 0, 0, 1⟩ 40000)⟩
  have made : call.By consumer method := ⟨rfl, rfl, _, rfl⟩
  cases h with
  | unary served =>
    obtain ⟨_, -, failed⟩ := never.unary call made .empty 0 (Hub.ofDepth 1) .empty
    obtain ⟨_, result⟩ := served call made .empty 0 (Hub.ofDepth 1) .empty
    cases failed.symm.trans result
  | stream query served =>
    obtain ⟨_, -, failed⟩ := never.stream call made query true 0 (Hub.ofDepth 1) .empty
    obtain ⟨_, result⟩ := served call made 0 (Hub.ofDepth 1) .empty
    cases failed.symm.trans result

end

/-- The rules that name one method are those that are written without a wildcard. -/
theorem names_iff {raw : RawRules} {acl : Acl} (h : Acl.compile raw = .ok acl)
    {consumer method : String} :
    acl.Names consumer method ↔ Acl.Lists raw consumer method ∧ '*' ∉ method.toList := by
  refine (Acl.mem_rules_iff h).trans ⟨fun ⟨w, listed⟩ ↦ ⟨listed, w.2⟩, fun ⟨listed, plain⟩ ↦ ?_⟩
  exact ⟨⟨(Acl.isPattern_of_compile h listed).ne_empty, plain⟩, listed⟩

/-- A gateway that starts on compiled rules notes each rule that names one method once, however
often it is written, if no call of the method by its consumer can ever be served, and notes nothing
else. A rule names one method if it has no wildcard. A method that a consumer may call, by whatever
rule, is lost on it in every call and in any state, or there are calls that are served in any state;
and a method that is lost on the consumer of a note is lost on every other one who may call it. -/
theorem warnings_are_rules_never_served (config : Config) {raw : RawRules} {acl : Acl}
    (h : Acl.compile raw = .ok acl) :
    let g := ofConfig config acl
    g.warnings.Nodup ∧
    (∀ note, note ∈ g.warnings ↔ ∃ consumer method, note = .unservedRule consumer method ∧
      acl.Names consumer method ∧ g.NeverServed consumer method) ∧
    (∀ consumer method, acl.Names consumer method ↔
      Acl.Lists raw consumer method ∧ '*' ∉ method.toList) ∧
    (∀ consumer method, acl.judge consumer method = .allow →
      (g.AlwaysServed consumer method ↔ ¬g.NeverServed consumer method)) ∧
    (∀ consumer method, .unservedRule consumer method ∈ g.warnings →
      ∀ other, acl.judge other method = .allow → g.NeverServed other method) := by
  intro g
  have readable (path : String) (registered : path ∈ builtIn.registeredMethods) :
      MethodPath.IsPath path := by
    have paths : ∀ path ∈ ["/Biz/Check", "/Biz/Add", "/Biz/Test"], MethodPath.IsPath path := by
      decide
    exact paths path (mem_registeredMethods_builtIn.mp registered)
  have served {consumer method : String} (allowed : acl.judge consumer method = .allow)
      (h : method ∈ g.served) : g.AlwaysServed consumer method :=
    alwaysServed_of_mem_served reliable_builtIn readable config.interval_pos allowed h
  have never {consumer method : String} (allowed : acl.judge consumer method = .allow) :
      g.NeverServed consumer method ↔ method ∉ g.served :=
    ⟨fun lost h ↦ (served allowed h).not_neverServed lost, neverServed_of_not_mem_served allowed⟩
  refine ⟨nodup_warnings fun consumer patterns found ↦ ?_, fun note ↦ mem_warnings.trans ?_,
    fun _ _ ↦ names_iff h, fun consumer method allowed ↦ ⟨AlwaysServed.not_neverServed, ?_⟩, ?_⟩
  · obtain ⟨sources, -, compiled⟩ := (Acl.get?_rules_iff h).mp found
    exact (Pattern.nodup_and_mem_iff_of_compileAll compiled).1
  · refine exists₂_congr fun consumer method ↦ and_congr_right fun _ ↦ ?_
    exact and_congr_right fun named ↦ (never (judge_of_names named)).symm
  · intro found
    exact served allowed (not_not.mp (mt (never allowed).mpr found))
  · intro consumer method noted other allowed
    obtain ⟨_, _, same, -, unserved⟩ := mem_warnings.mp noted
    cases same
    exact (never allowed).mpr unserved

/-- A misspelt method that is written twice is noted once, and a path with too many segments is
noted; a stream and a wildcard that grants nothing are not. -/
theorem warnings_are_rules_never_served_of_misspelt :
    let rules := ["/Biz/Ad", "/Biz/Add", "/Biz/Ad", "/Nowhere/*", "/Admin/Logging", "/Biz/Add/x"]
    let raw : RawRules := .ofList [("c1", rules)]
    let acl : Acl := ⟨.ofList [("c1", [.exact "/Biz/Ad", .exact "/Biz/Add", .beginning "/Nowhere/",
      .exact "/Admin/Logging", .exact "/Biz/Add/x"])]⟩
    let config : Config := ⟨Config.defaultListen, .v4 ⟨127, 0, 0, 1⟩ 8082,
      256, by decide, by decide, 3600, by decide, by decide, .inline raw⟩
    let g := ofConfig config acl
    Acl.compile raw = .ok acl ∧
      g.warnings = [.unservedRule "c1" "/Biz/Ad", .unservedRule "c1" "/Biz/Add/x"] ∧
      g.NeverServed "c1" "/Biz/Ad" ∧ g.NeverServed "c1" "/Biz/Add/x" ∧
      g.AlwaysServed "c1" "/Biz/Add" ∧ g.AlwaysServed "c1" "/Admin/Logging" := by
  intro rules raw acl config g
  have compiled : Acl.compile raw = .ok acl := rfl
  have noted : g.warnings = [.unservedRule "c1" "/Biz/Ad", .unservedRule "c1" "/Biz/Add/x"] := by
    have served (method : String) : method ∈ g.served ↔
        method ∈ ["/Biz/Check", "/Biz/Add", "/Biz/Test"] ∨ method ∈ adminMethods :=
      List.mem_append.trans (or_congr_left mem_registeredMethods_builtIn)
    have entries : g.acl.rules.entries = [("c1", [.exact "/Biz/Ad", .exact "/Biz/Add",
      .beginning "/Nowhere/", .exact "/Admin/Logging", .exact "/Biz/Add/x"])] := rfl
    simp [warnings, entries, unservedRules, served, adminMethods, StreamKind.method]
  obtain ⟨-, notes, -, served, -⟩ := warnings_are_rules_never_served config compiled
  have lost (method : String) (h : Note.unservedRule "c1" method ∈ g.warnings) :
      g.NeverServed "c1" method := by
    obtain ⟨_, _, same, -, never⟩ := (notes _).mp h
    cases same
    exact never
  have kept (method : String) (named : acl.Names "c1" method)
      (h : Note.unservedRule "c1" method ∉ g.warnings) : g.AlwaysServed "c1" method :=
    (served _ _ (judge_of_names named)).mpr fun never ↦ h ((notes _).mpr ⟨_, _, rfl, named, never⟩)
  refine ⟨compiled, noted, lost _ ?_, lost _ ?_, kept _ ⟨_, rfl, ?_⟩ ?_, kept _ ⟨_, rfl, ?_⟩ ?_⟩
  all_goals simp [noted]

end Gateway

end Gatehouse

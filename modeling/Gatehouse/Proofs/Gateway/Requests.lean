import Gatehouse.Gateway
import Gatehouse.Proofs.Gate
import Gatehouse.Proofs.Hub.History
import Gatehouse.Proofs.Metadata

/-!
# Requests as calls

A request is a call, or it is answered without the gate. A call is recorded exactly if it has a
method path and a peer, and what the gate decides about it depends on the access list alone.
-/

namespace Gatehouse

/-- The consumer that a call names. -/
def Call.consumer? (call : Call) : Option String := call.metadata.get? Metadata.consumerKey

/-- The event under which a call is recorded, if it is. -/
def Call.event? (call : Call) : Option Event :=
  match MethodPath.read call.method, call.peer with
  | .ok _, some peer => some (Gate.audit call peer)
  | _, _ => none

namespace Gate

/-- What the gate decides about a call. -/
def verdict (acl : Acl) (call : Call) : Except Refusal Caller :=
  match Identity.extract call.method call.metadata call.peer with
  | .error why => .error why
  | .ok identity => authorize acl identity

theorem event?_eq_some_iff {call : Call} {e : Event} :
    call.event? = some e ↔
      MethodPath.IsPath call.method ∧ ∃ peer, call.peer = some peer ∧ e = audit call peer := by
  rw [Call.event?]
  by_cases h : MethodPath.IsPath call.method
  · obtain ⟨path, hpath⟩ := id h
    rw [MethodPath.read_eq_ok_iff.mpr hpath]
    cases call.peer with
    | none => simp
    | some peer => simp [h, eq_comm]
  · obtain ⟨cause, hc⟩ := MethodPath.read_of_not_isPath h
    simp [hc, h]

/-- What the gate decides about a call, and why: the first of method, peer, consumer and access list
that speaks against the call refuses it. -/
inductive Decides (acl : Acl) (call : Call) : Except Refusal Caller → Prop
  | malformed {cause : MethodPath.Malformed} (garbled : ¬MethodPath.IsPath call.method) :
    Decides acl call (.error (.malformedMethod call.method cause))
  | noPeer (readable : MethodPath.IsPath call.method) (lost : call.peer = none) :
    Decides acl call (.error .missingPeer)
  | anonymous {peer : Address} (readable : MethodPath.IsPath call.method)
    (placed : call.peer = some peer) (silent : call.consumer? = none) :
    Decides acl call (.error .missingConsumer)
  | denied {peer : Address} {consumer : String} {why : Denial}
    (readable : MethodPath.IsPath call.method) (placed : call.peer = some peer)
    (named : call.consumer? = some consumer)
    (judged : acl.judge consumer call.method = .deny why) :
    Decides acl call (.error (.denied why consumer call.method))
  | admitted {path : MethodPath} {peer : Address} {consumer : String} (wf : path.WellFormed)
    (text : path.text = call.method) (placed : call.peer = some peer)
    (named : call.consumer? = some consumer)
    (judged : acl.judge consumer call.method = .allow) :
    Decides acl call (.ok ⟨consumer, peer, path⟩)

theorem decides_verdict (acl : Acl) (call : Call) : Decides acl call (verdict acl call) := by
  rw [verdict]
  by_cases h : MethodPath.IsPath call.method
  · cases placed : call.peer with
    | none =>
      rw [Identity.extract_none _ h]
      exact .noPeer h placed
    | some peer =>
      obtain ⟨path, wf, text⟩ := id h
      rw [← text, Identity.extract_some _ _ wf]
      let identity : Identity := ⟨call.consumer?, peer, path⟩
      change Decides acl call (authorize acl identity)
      cases named : call.consumer? with
      | none =>
        have silent : identity.consumer = none := named
        rw [authorize_anonymous acl silent]
        exact .anonymous h placed named
      | some consumer =>
        have known : identity.consumer = some consumer := named
        cases judged : acl.judge consumer path.text with
        | allow =>
          rw [authorize_eq_ok_iff.mpr ⟨consumer, known, judged, rfl⟩]
          exact .admitted wf text placed named (text ▸ judged)
        | deny why =>
          rw [authorize_of_deny known judged]
          change Decides acl call (.error (.denied why consumer path.text))
          rw [text] at judged ⊢
          exact .denied h placed named judged
  · obtain ⟨cause, hc⟩ := Identity.extract_of_not_isPath call.metadata call.peer h
    rw [hc]
    exact .malformed h

variable (acl : Acl) (call : Call) (hub : Hub) (metrics : Metrics)

theorem outcome_enter : (enter acl call hub metrics).outcome = verdict acl call := by
  rw [enter, verdict]
  cases Identity.extract call.method call.metadata call.peer with
  | error why => rfl
  | ok identity =>
    simp only
    cases authorize acl identity <;> rfl

/-- The gate records a call that is to be recorded, and does nothing else to the hub. -/
theorem hub_enter :
    (enter acl call hub metrics).hub = hub.after (recordOf call.event?) := by
  by_cases h : MethodPath.IsPath call.method
  · cases hp : call.peer with
    | none =>
      have quiet : call.event? = none := by
        rw [Option.eq_none_iff_forall_ne_some]
        intro e he
        obtain ⟨_, peer, hpeer, _⟩ := event?_eq_some_iff.mp he
        rw [hp] at hpeer
        cases hpeer
      rw [(enter_of_no_peer acl call hub metrics h hp).2, quiet]
      rfl
    | some peer =>
      obtain ⟨path, hw, ht⟩ := id h
      rw [(enter_of_peer acl call hub metrics hw ht hp).2,
        event?_eq_some_iff.mpr ⟨h, peer, hp, rfl⟩]
      rfl
  · have quiet : call.event? = none :=
      Option.eq_none_iff_forall_ne_some.mpr fun _ he ↦ h (event?_eq_some_iff.mp he).1
    rw [(enter_of_not_isPath acl call hub metrics h).2, quiet]
    rfl

/-- A call goes on when it has a method path and a peer, and names a consumer whom the list allows
the method. -/
theorem verdict_eq_ok_iff {caller : Caller} :
    verdict acl call = .ok caller ↔
      caller.method.WellFormed ∧ caller.method.text = call.method ∧
        call.peer = some caller.peer ∧
        call.metadata.get? Metadata.consumerKey = some caller.consumer ∧
        acl.judge caller.consumer call.method = .allow := by
  rw [verdict]
  by_cases h : MethodPath.IsPath call.method
  · cases hp : call.peer with
    | none => simp [Identity.extract_none _ h]
    | some peer =>
      obtain ⟨path, hw, ht⟩ := h
      rw [← ht, Identity.extract_some _ _ hw]
      simp only [authorize_eq_ok_iff]
      constructor
      · rintro ⟨consumer, hc, hj, rfl⟩
        exact ⟨hw, rfl, rfl, hc, hj⟩
      · rintro ⟨hw', ht', hp', hc, hj⟩
        have hm : caller.method = path := by
          have hr := MethodPath.read_eq_ok_iff.mpr ⟨hw', ht'⟩
          rw [MethodPath.read_eq_ok_iff.mpr ⟨hw, rfl⟩] at hr
          exact (Except.ok.inj hr).symm
        refine ⟨caller.consumer, hc, hj, ?_⟩
        rw [Option.some.inj hp', ← hm]
  · obtain ⟨cause, hc⟩ := Identity.extract_of_not_isPath call.metadata call.peer h
    rw [hc]
    constructor
    · intro he
      cases he
    · rintro ⟨hw, ht, _⟩
      exact absurd ⟨_, hw, ht⟩ h

/-- A call without a method path is refused with the fault that reading the path gives. -/
theorem verdict_of_not_isPath (h : ¬MethodPath.IsPath call.method) :
    ∃ why, verdict acl call = .error why ∧
      MethodPath.parse call.method = .error why.fault ∧ why.fault.code = .internal := by
  obtain ⟨cause, read⟩ := MethodPath.read_of_not_isPath h
  refine ⟨.malformedMethod call.method cause, ?_, ?_, rfl⟩
  · rw [verdict, Identity.extract, read]
  · rw [MethodPath.parse, read]
    rfl

variable {acl call} {α : Type} (handler : Caller → Hub → Handled α) (micros : Nat)

/-- A handler of an admitted call finds the hub as the record left it. -/
theorem intercept_of_admitted {caller : Caller} (h : verdict acl call = .ok caller) :
    let handled := handler caller (hub.after (recordOf call.event?))
    (intercept acl call handler micros hub metrics).result = handled.result ∧
      (intercept acl call handler micros hub metrics).hub = handled.hub := by
  have hr : (enter acl call hub metrics).result = .ok caller :=
    Admission.result_eq_ok_iff.mpr ((outcome_enter acl call hub metrics).trans h)
  rw [← hub_enter acl call hub metrics]
  exact (intercept_of_ok acl call hub metrics handler micros hr).2

/-- A refused call leaves its record and nothing else. -/
theorem intercept_of_refused {why : Refusal} (h : verdict acl call = .error why) :
    (intercept acl call handler micros hub metrics).result = .error why.fault ∧
      (intercept acl call handler micros hub metrics).hub =
        hub.after (recordOf call.event?) := by
  have hr : (enter acl call hub metrics).result = .error why.fault :=
    Admission.result_eq_error_iff.mpr ⟨why, (outcome_enter acl call hub metrics).trans h, rfl⟩
  rw [← hub_enter acl call hub metrics]
  exact (intercept_of_error acl call hub metrics handler micros hr).2

end Gate

namespace Http

theorem Verb.ofMethod_eq_get_iff {method : String} :
    Verb.ofMethod method = .get ↔ method = "GET" := by
  unfold ofMethod
  split
  · next get => simp [get]
  · next get =>
    split
    · simp [get]
    · split <;> simp [get]

theorem Verb.ofMethod_eq_head_iff {method : String} :
    Verb.ofMethod method = .head ↔ method = "HEAD" := by
  unfold ofMethod
  split
  · next get => simp [get]
  · split
    · next head => simp [head]
    · next head => split <;> simp [head]

theorem Verb.ofMethod_eq_post_iff {method : String} :
    Verb.ofMethod method = .post ↔ method = "POST" := by
  unfold ofMethod
  split
  · next get => simp [get]
  · split
    · next head => simp [head]
    · split <;> simp_all

private theorem isMethodRoute_text {path : MethodPath} (w : path.WellFormed) :
    isMethodRoute path.text.toList = true := by
  have hservice : ∀ c ∈ path.service.toList, (c != '/') = true := fun c hc ↦ by
    simpa using (MethodPath.isSegmentChar_iff.mp (w.service_char c hc)).1
  have hmethod : '/' ∉ path.method.toList :=
    fun h ↦ (MethodPath.isSegmentChar_iff.mp (w.method_char _ h)).1 rfl
  have hne : path.method.toList ≠ [] := fun h ↦ w.method_ne (String.toList_eq_nil_iff.mp h)
  rw [MethodPath.toList_text, isMethodRoute, List.dropWhile_append_of_pos hservice]
  simp [hne, hmethod]

/-- A method path is routed to the methods. -/
theorem Route.ofPath_of_isPath {path : String} (h : MethodPath.IsPath path) :
    Route.ofPath path = .method := by
  obtain ⟨p, w, rfl⟩ := h
  have slash : '/' ∈ p.text.toList.tail := by simp [MethodPath.toList_text]
  have other (s : String) (hs : '/' ∉ s.toList.tail) : p.text ≠ s := fun he ↦ hs (he ▸ slash)
  rw [ofPath, if_neg (other _ (by decide)), if_neg (other _ (by decide)),
    if_neg (other _ (by decide)), if_pos (isMethodRoute_text w)]

namespace Request

/-- Who calls: the value of the first `consumer` header that is text. -/
def consumer? (req : Request) : Option String :=
  req.headers.findSome? fun h ↦ if asciiLower h.name = Metadata.consumerKey then h.text? else none

/-- The call that a request makes when it is a get, a head or a post to a method route with a body
that is not too large. -/
def call? (req : Request) : Option Call :=
  match Route.ofPath req.target.path, Verb.ofMethod req.method with
  | .method, .get => some (Gateway.callOf .stream req)
  | .method, .head => some (Gateway.callOf .stream req)
  | .method, .post =>
    if req.body.size ≤ Gateway.bodyLimit then some (Gateway.callOf .unary req) else none
  | _, _ => none

/-- The event under which a request is recorded, if it is. -/
def event? (req : Request) : Option Event := req.call?.bind Call.event?

/-- The request comes from this peer, names a method path, and is a get, a head, or a post whose
body is not too large. -/
structure Audited (req : Request) (peer : Address) : Prop where
  path : MethodPath.IsPath req.target.path
  peer : req.peer = some peer
  verb : req.method = "GET" ∨ req.method = "HEAD" ∨ req.method = "POST"
  body : req.method = "POST" → req.body.size ≤ Gateway.bodyLimit

theorem get?_consumerKey (req : Request) :
    (Metadata.ofHeaders req.headers).get? Metadata.consumerKey = req.consumer? :=
  Metadata.get?_ofHeaders req.headers Metadata.consumerKey

theorem event?_callOf {req : Request} {kind : CallKind} {e : Event} :
    (Gateway.callOf kind req).event? = some e ↔
      MethodPath.IsPath req.target.path ∧ ∃ peer, req.peer = some peer ∧
        e = ⟨req.consumer?.getD "", req.target.path, peer.text⟩ := by
  rw [Gate.event?_eq_some_iff, ← get?_consumerKey]
  rfl

/-- Which requests are calls, and which calls they are. -/
theorem call?_eq_some_iff {req : Request} {call : Call} :
    req.call? = some call ↔
      Route.ofPath req.target.path = .method ∧
        ((req.method = "GET" ∨ req.method = "HEAD") ∧ call = Gateway.callOf .stream req ∨
          req.method = "POST" ∧ req.body.size ≤ Gateway.bodyLimit ∧
            call = Gateway.callOf .unary req) := by
  unfold call? Verb.ofMethod
  cases Route.ofPath req.target.path with
  | method =>
    by_cases get : req.method = "GET"
    · simp [get, eq_comm]
    · by_cases head : req.method = "HEAD"
      · simp [head, eq_comm]
      · by_cases post : req.method = "POST"
        · simp [post, eq_comm]
        · simp [get, head, post]
  | _ => simp

/-- Audited requests are recorded, and no others. -/
theorem event?_eq_some_iff {req : Request} {e : Event} :
    req.event? = some e ↔
      ∃ peer, req.Audited peer ∧ e = ⟨req.consumer?.getD "", req.target.path, peer.text⟩ := by
  constructor
  · intro h
    obtain ⟨call, hcall, he⟩ := Option.bind_eq_some_iff.mp h
    rcases (call?_eq_some_iff.mp hcall).2 with ⟨verb, rfl⟩ | ⟨post, small, rfl⟩
    · obtain ⟨path, peer, hpeer, rfl⟩ := event?_callOf.mp he
      refine ⟨peer, ⟨path, hpeer, verb.imp_right .inl, ?_⟩, rfl⟩
      intro post
      simp [post] at verb
    · obtain ⟨path, peer, hpeer, rfl⟩ := event?_callOf.mp he
      exact ⟨peer, ⟨path, hpeer, .inr (.inr post), fun _ ↦ small⟩, rfl⟩
  · rintro ⟨peer, w, rfl⟩
    have route := Route.ofPath_of_isPath w.path
    have event (kind : CallKind) : (Gateway.callOf kind req).event? = some _ :=
      event?_callOf.mpr ⟨w.path, peer, w.peer, rfl⟩
    rw [event?, Option.bind_eq_some_iff]
    rcases w.verb with get | head | post
    · exact ⟨_, call?_eq_some_iff.mpr ⟨route, .inl ⟨.inl get, rfl⟩⟩, event _⟩
    · exact ⟨_, call?_eq_some_iff.mpr ⟨route, .inl ⟨.inr head, rfl⟩⟩, event _⟩
    · exact ⟨_, call?_eq_some_iff.mpr ⟨route, .inr ⟨post, w.body post, rfl⟩⟩, event _⟩

theorem event?_eq_none_of_not_audited {req : Request} (h : ∀ peer, ¬req.Audited peer) :
    req.event? = none := by
  rw [Option.eq_none_iff_forall_ne_some]
  intro e he
  obtain ⟨peer, audited, _⟩ := event?_eq_some_iff.mp he
  exact h peer audited

end Request

end Http

end Gatehouse

import Gatehouse.Proofs.Gateway.History

/-!
# What a caller learns from an answer

All refusals about who calls read alike, so a caller cannot tell a missing name from an unknown
one, nor either from a name that may not call the method. What an answer says of the access list
is one bit: whether it lets the consumer of the request call the method.
-/

namespace Gatehouse

namespace Http

/-- The text that answers every refusal about who calls. -/
def Response.deniedText : String :=
  "\x7b\"error\":\"ACCESS_DENIED\",\"message\":\"access denied\"\x7d"

/-- The answer to every refusal about who calls. -/
def Response.denied : Response := .ofText 403 "application/json" deniedText

/-- Faults about who calls are answered alike, whatever their texts are. -/
theorem Response.ofFault_of_accessDenied {f : Fault} (h : f.code = .accessDenied) :
    Response.ofFault f = denied := by
  have text : Json.objectText [("error", Json.stringText Code.accessDenied.name),
      ("message", Json.stringText "access denied")] = deniedText := by
    decide
  rw [ofFault, faultText, Fault.status, Fault.clientMessage, h]
  simp only [text]
  rfl

end Http

namespace Gate

/-- Whom the list does not let on is refused with a fault about who calls. -/
theorem code_of_authorize {acl : Acl} {identity : Identity} {why : Refusal}
    (h : authorize acl identity = .error why) : why.fault.code = .accessDenied := by
  cases hc : identity.consumer with
  | none =>
    rw [authorize_anonymous acl hc] at h
    cases h
    rfl
  | some consumer =>
    cases hj : acl.judge consumer identity.method.text with
    | deny cause =>
      rw [authorize_of_deny hc hj] at h
      cases h
      rfl
    | allow =>
      rw [authorize_eq_ok_iff.mpr ⟨consumer, hc, hj, rfl⟩] at h
      cases h

/-- Lists that agree about the consumer of a call let the same caller go on. -/
theorem verdict_ok_of_agree {acl acl' : Acl} {call : Call} {caller : Caller}
    (agree : ∀ consumer, call.metadata.get? Metadata.consumerKey = some consumer →
      acl.allows consumer call.method = acl'.allows consumer call.method)
    (h : verdict acl call = .ok caller) : verdict acl' call = .ok caller := by
  obtain ⟨wellFormed, text, peer, consumer, allow⟩ := (verdict_eq_ok_iff _ _).mp h
  have bit := agree caller.consumer consumer
  refine (verdict_eq_ok_iff _ _).mpr ⟨wellFormed, text, peer, consumer, ?_⟩
  simpa [Acl.allows, allow] using bit

/-- Two lists that refuse a call refuse it with the same answer. -/
theorem answer_of_refused {acl acl' : Acl} {call : Call} {why why' : Refusal}
    (h : verdict acl call = .error why) (h' : verdict acl' call = .error why') :
    Http.Response.ofFault why'.fault = Http.Response.ofFault why.fault := by
  unfold verdict at h h'
  cases he : Identity.extract call.method call.metadata call.peer with
  | error cause =>
    rw [he] at h h'
    cases h
    cases h'
    rfl
  | ok identity =>
    rw [he] at h h'
    rw [Http.Response.ofFault_of_accessDenied (code_of_authorize h),
      Http.Response.ofFault_of_accessDenied (code_of_authorize h')]

/-- Lists that agree about the consumer of a call let it go on alike, or refuse it alike. -/
theorem verdict_of_agree {acl acl' : Acl} (call : Call)
    (agree : ∀ consumer, call.metadata.get? Metadata.consumerKey = some consumer →
      acl.allows consumer call.method = acl'.allows consumer call.method) :
    (∃ caller, verdict acl call = .ok caller ∧ verdict acl' call = .ok caller) ∨
      ∃ why why', verdict acl call = .error why ∧ verdict acl' call = .error why' ∧
        Http.Response.ofFault why'.fault = Http.Response.ofFault why.fault := by
  cases h : verdict acl call with
  | ok caller => exact .inl ⟨caller, rfl, verdict_ok_of_agree agree h⟩
  | error why =>
    cases h' : verdict acl' call with
    | ok caller =>
      -- Agreement goes both ways, so the first list would let this caller go on as well.
      have admitted := verdict_ok_of_agree (fun c hc ↦ (agree c hc).symm) h'
      rw [h] at admitted
      cases admitted
    | error why' => exact .inr ⟨why, why', rfl, rfl, answer_of_refused h h'⟩

end Gate

namespace Gateway

/-- The answer to a request on a method route, by its verb. -/
theorem response_handle {req : Http.Request} (h : Http.Route.ofPath req.target.path = .method)
    (g : Gateway) (micros : Nat) :
    (g.handle req micros).response =
      match Http.Verb.ofMethod req.method with
      | .get => (g.stream req).response
      | .head => (g.stream { req with upgrade := false }).response.withoutBody
      | .post => (g.unary req micros).response
      | .other => notAllowed "GET,HEAD,POST" := by
  unfold handle
  simp only [h]
  cases Http.Verb.ofMethod req.method with
  | get => simp only [get, h]
  | head => simp only [get, h]
  | _ => rfl

section

variable {acl acl' : Acl} {maxInterval : Nat} {dispatcher : Dispatcher} {s s' : Station}
  {req : Http.Request}

/-- The answer to an admitted request for a stream depends on the request and the longest period. -/
theorem response_stream_of_admitted {caller : Caller}
    (h : Gate.verdict acl (callOf .stream req) = .ok caller)
    (h' : Gate.verdict acl' (callOf .stream req) = .ok caller) :
    (stream ⟨acl', maxInterval, dispatcher, s'⟩ req).response =
      (stream ⟨acl, maxInterval, dispatcher, s⟩ req).response := by
  obtain ⟨text, result, -⟩ := intercepted_of_admitted (g := ⟨acl, maxInterval, dispatcher, s⟩) h
  obtain ⟨-, result', -⟩ := intercepted_of_admitted (g := ⟨acl', maxInterval, dispatcher, s'⟩) h'
  cases asked : asked? maxInterval req.target with
  | none =>
    obtain ⟨fault, hf⟩ := streamHandler_of_not_asked text asked
    rw [hf] at result result'
    rw [(stream_of_fault _ req result').1, (stream_of_fault _ req result).1]
  | some kind =>
    cases upgrade : req.upgrade with
    | true =>
      rw [upgrade] at result result'
      have granted (hub : Hub) := (streamHandler_of_upgrade text asked hub).1
      obtain ⟨_, hg, -⟩ := granted (s.hub.after (recordOf (callOf .stream req).event?))
      obtain ⟨_, hg', -⟩ := granted (s'.hub.after (recordOf (callOf .stream req).event?))
      rw [(stream_of_grant _ req (result'.trans hg')).1,
        (stream_of_grant _ req (result.trans hg)).1]
    | false =>
      rw [upgrade, (streamHandler_of_no_upgrade text asked _).1] at result result'
      rw [(stream_of_fault _ req result').1, (stream_of_fault _ req result).1]

variable (agree : ∀ consumer, req.consumer? = some consumer →
  acl.allows consumer req.target.path = acl'.allows consumer req.target.path)

include agree

theorem response_stream_of_agree :
    (stream ⟨acl', maxInterval, dispatcher, s'⟩ req).response =
      (stream ⟨acl, maxInterval, dispatcher, s⟩ req).response := by
  rw [← Http.Request.get?_consumerKey] at agree
  rcases Gate.verdict_of_agree (callOf .stream req) agree with
    ⟨caller, h, h'⟩ | ⟨why, why', h, h', same⟩
  · exact response_stream_of_admitted h h'
  · have answer := (stream_of_refused (g := ⟨acl, maxInterval, dispatcher, s⟩) h).1
    have answer' := (stream_of_refused (g := ⟨acl', maxInterval, dispatcher, s'⟩) h').1
    rw [answer, answer', same]

theorem response_unary_of_agree (small : req.body.size ≤ bodyLimit) (micros micros' : Nat) :
    (unary ⟨acl', maxInterval, dispatcher, s'⟩ req micros').response =
      (unary ⟨acl, maxInterval, dispatcher, s⟩ req micros).response := by
  rw [← Http.Request.get?_consumerKey] at agree
  rw [(unary_of_small _ req micros small).1, (unary_of_small _ req micros' small).1]
  rcases Gate.verdict_of_agree (callOf .unary req) agree with
    ⟨caller, h, h'⟩ | ⟨why, why', h, h', same⟩
  · rw [(Gate.intercept_of_admitted _ _ _ _ h).1, (Gate.intercept_of_admitted _ _ _ _ h').1]
    rfl
  · rw [(Gate.intercept_of_refused _ _ _ _ h).1, (Gate.intercept_of_refused _ _ _ _ h').1]
    exact same

/-- All that an answer says of the access list is whether the list lets the consumer go on. -/
theorem response_of_agree (route : Http.Route.ofPath req.target.path = .method)
    (micros micros' : Nat) :
    (handle ⟨acl', maxInterval, dispatcher, s'⟩ req micros').response =
      (handle ⟨acl, maxInterval, dispatcher, s⟩ req micros).response := by
  rw [response_handle route, response_handle route]
  cases Http.Verb.ofMethod req.method with
  | get => exact response_stream_of_agree agree
  | head => exact congrArg Http.Response.withoutBody (response_stream_of_agree agree)
  | post =>
    by_cases small : req.body.size ≤ bodyLimit
    · exact response_unary_of_agree agree small micros micros'
    · simp only [unary, if_pos (Nat.lt_of_not_le small)]
  | other => rfl

omit agree

end

/-- The gate refuses the request because of who calls. -/
def Refuses (g : Gateway) (req : Http.Request) : Prop :=
  ∃ call fault, req.call? = some call ∧
    (Gate.enter g.acl call g.station.hub g.station.metrics).result = .error fault ∧
    ((∃ text, fault = .unauthenticated text) ∨ ∃ text, fault = .notAllowed text)

/-- A call without a peer, without a consumer, or of a consumer whom the list does not let on is
refused because of who calls. -/
theorem refuses_of_unknown {g : Gateway} {req : Http.Request} {call : Call}
    (path : MethodPath.IsPath req.target.path) (hcall : req.call? = some call)
    (h : req.peer = none ∨ req.consumer? = none ∨
      ∃ consumer, req.consumer? = some consumer ∧
        g.acl.allows consumer req.target.path = false) : g.Refuses req := by
  obtain ⟨kind, rfl⟩ : ∃ kind, call = callOf kind req := by
    rcases (Http.Request.call?_eq_some_iff.mp hcall).2 with ⟨_, rfl⟩ | ⟨_, _, rfl⟩
    · exact ⟨.stream, rfl⟩
    · exact ⟨.unary, rfl⟩
  have refusal {why : Refusal} (hw : (Gate.enter g.acl (callOf kind req) g.station.hub
      g.station.metrics).outcome = .error why)
      (access : (∃ text, why.fault = .unauthenticated text) ∨
        ∃ text, why.fault = .notAllowed text) : g.Refuses req :=
    ⟨_, why.fault, hcall, Admission.result_eq_error_iff.mpr ⟨why, hw, rfl⟩, access⟩
  cases hp : req.peer with
  | none => exact refusal (Gate.enter_of_no_peer _ _ _ _ path hp).1 (.inl ⟨_, rfl⟩)
  | some peer =>
    obtain ⟨p, wellFormed, text⟩ := path
    have outcome := (Gate.enter_of_peer g.acl (callOf kind req) g.station.hub g.station.metrics
      wellFormed text hp).1
    rw [show (callOf kind req).metadata.get? _ = _ from
      Http.Request.get?_consumerKey req] at outcome
    rcases h with lost | silent | ⟨consumer, named, denied⟩
    · rw [hp] at lost
      cases lost
    · exact refusal (outcome.trans (Gate.authorize_anonymous _ silent)) (.inl ⟨_, rfl⟩)
    · cases hj : g.acl.judge consumer req.target.path with
      | allow => simp [Acl.allows, hj] at denied
      | deny cause =>
        rw [← text] at hj
        exact refusal (outcome.trans (Gate.authorize_of_deny named hj)) (.inr ⟨_, rfl⟩)

/-- The answer to a request that is refused because of who calls. -/
theorem response_of_refuses {g : Gateway} {req : Http.Request} (w : g.Refuses req) (micros : Nat) :
    (g.handle req micros).response =
      if req.method = "HEAD" then Http.Response.denied.withoutBody else Http.Response.denied := by
  obtain ⟨call, fault, hcall, hr, access⟩ := w
  obtain ⟨why, outcome, rfl⟩ := Admission.result_eq_error_iff.mp hr
  have refused : Gate.verdict g.acl call = .error why :=
    (Gate.outcome_enter _ _ _ _).symm.trans outcome
  have answer : Http.Response.ofFault why.fault = .denied := by
    apply Http.Response.ofFault_of_accessDenied
    rcases access with ⟨text, h⟩ | ⟨text, h⟩ <;> rw [h] <;> rfl
  obtain ⟨route, ⟨get | head, rfl⟩ | ⟨post, small, rfl⟩⟩ := Http.Request.call?_eq_some_iff.mp hcall
  · rw [response_handle route, Http.Verb.ofMethod_eq_get_iff.mpr get, get]
    exact (stream_of_refused refused).1.trans answer
  · have same : Gate.verdict g.acl (callOf .stream { req with upgrade := false }) = .error why :=
      refused
    rw [response_handle route, Http.Verb.ofMethod_eq_head_iff.mpr head, if_pos head, ← answer]
    exact congrArg Http.Response.withoutBody (stream_of_refused same).1
  · rw [response_handle route, Http.Verb.ofMethod_eq_post_iff.mpr post, post]
    simp only [(unary_of_small g req micros small).1]
    rw [(Gate.intercept_of_refused _ _ _ _ refused).1]
    exact answer

/-- Refusals do not leak. Requests that two gateways of different access lists refuse because of
who calls are answered alike, up to the body that a head does not get: a request without a peer or
without a consumer, or of a consumer whom the list does not know or does not let on. Two lists that
agree about whether the consumer of a request may go on give it the same answer in any state. -/
theorem refusals_do_not_leak (maxInterval : Nat) (dispatcher : Dispatcher) (acl acl' : Acl)
    (s s' : Station) :
    let g : Gateway := ⟨acl, maxInterval, dispatcher, s⟩
    let g' : Gateway := ⟨acl', maxInterval, dispatcher, s'⟩
    (∀ req req' micros micros', g.Refuses req → g'.Refuses req' →
      let response := (g.handle req micros).response
      let response' := (g'.handle req' micros').response
      response.status = response'.status ∧ response.contentType = response'.contentType ∧
        response.allow = response'.allow ∧
        (req.method ≠ "HEAD" → req'.method ≠ "HEAD" → response.body = response'.body) ∧
        (req.method = "HEAD" → response.body = .empty) ∧
        (req'.method = "HEAD" → response'.body = .empty)) ∧
    (∀ req call, MethodPath.IsPath req.target.path → req.call? = some call →
      (req.peer = none ∨ req.consumer? = none ∨
        ∃ consumer, req.consumer? = some consumer ∧
          acl.allows consumer req.target.path = false) → g.Refuses req) ∧
    (∀ req micros micros', Http.Route.ofPath req.target.path = .method →
      (∀ consumer, req.consumer? = some consumer →
        acl.allows consumer req.target.path = acl'.allows consumer req.target.path) →
      (g'.handle req micros').response = (g.handle req micros).response) := by
  intro g g'
  refine ⟨?_, fun _ _ path hcall h ↦ refuses_of_unknown path hcall h,
    fun _ micros micros' route agree ↦ response_of_agree agree route micros micros'⟩
  intro req req' micros micros' refuses refuses' response response'
  have hr : response = _ := response_of_refuses refuses micros
  have hr' : response' = _ := response_of_refuses refuses' micros'
  rw [hr, hr']
  by_cases head : req.method = "HEAD" <;> by_cases head' : req'.method = "HEAD" <;>
    simp [head, head', Http.Response.withoutBody]

/-- A post without a peer, one of an unknown consumer, and one of a consumer who may call another
method only are told the same, and a consumer whom neither list knows learns nothing else. -/
theorem refusals_do_not_leak_of_stranger :
    let acl : Acl := ⟨.empty⟩
    let acl' : Acl := ⟨TextMap.empty.insert "c1" [.beginning "/Biz/Check"]⟩
    let g : Gateway := ⟨acl, 60, builtIn, .ofDepth 8⟩
    let g' : Gateway := ⟨acl', 60, builtIn, .ofDepth 1⟩
    let peer : Address := .v4 ⟨10, 1, 2, 3⟩ 4567
    let post (name : List UInt8) (peer : Option Address) : Http.Request :=
      ⟨"POST", ⟨"/Biz/Add", none⟩, [⟨"consumer", name⟩], peer, .empty, false, .free⟩
    let lost := post [0x63, 0x31] none
    let known := post [0x63, 0x31] (some peer)
    let stranger := post [0x63, 0x32] (some peer)
    g.Refuses lost ∧ g.Refuses stranger ∧ g'.Refuses known ∧
      (g.handle lost 0).response.status = (g'.handle known 0).response.status ∧
      (g.handle stranger 0).response.body = (g'.handle known 0).response.body ∧
      (g'.handle stranger 7).response = (g.handle stranger 0).response := by
  intro acl acl' g g' peer post lost known stranger
  have read : MethodPath.read "/Biz/Add" = .ok ⟨"Biz", "Add"⟩ := rfl
  have path : MethodPath.IsPath "/Biz/Add" := ⟨_, MethodPath.read_eq_ok_iff.mp read⟩
  have route := Http.Route.ofPath_of_isPath path
  have call (name : List UInt8) (peer : Option Address) :
      (post name peer).call? = some (callOf .unary (post name peer)) :=
    Http.Request.call?_eq_some_iff.mpr ⟨route, .inr ⟨rfl, Nat.zero_le _, rfl⟩⟩
  have named : stranger.consumer? = some "c2" := by decide
  have all := refusals_do_not_leak 60 builtIn acl acl' (.ofDepth 8) (.ofDepth 1)
  have swapped := refusals_do_not_leak 60 builtIn acl' acl (.ofDepth 1) (.ofDepth 8)
  have hlost : g.Refuses lost := all.2.1 lost _ path (call _ _) (.inl rfl)
  have hstranger : g.Refuses stranger :=
    all.2.1 stranger _ path (call _ _) (.inr (.inr ⟨"c2", named, by decide⟩))
  have hknown : g'.Refuses known :=
    swapped.2.1 known _ path (call _ _) (.inr (.inr ⟨"c1", by decide, by decide⟩))
  refine ⟨hlost, hstranger, hknown, (all.1 lost known 0 0 hlost hknown).1,
    (all.1 stranger known 0 0 hstranger hknown).2.2.2.1 (by decide) (by decide),
    all.2.2 stranger 0 7 route ?_⟩
  intro consumer hc
  rw [named] at hc
  cases hc
  decide

end Gateway

end Gatehouse

import Gatehouse.Proofs.Dispatcher
import Gatehouse.Proofs.Gateway.Refusals
import Gatehouse.Proofs.Json.RoundTrip

/-!
# What a post is answered

Three things can speak against a post: its path, its caller and its method, in this order, and the
first that does so is what the caller is told. Otherwise the caller gets what the service replies.
Nothing else has a say: neither the streams that are open, nor what was counted, nor a drain.
-/

namespace Gatehouse

namespace Http

/-- The response tells of a fault: it has the status of the fault, and its body is a JSON object of
the name of its code and its message for callers, and of nothing else. -/
structure Response.Tells (r : Response) (f : Fault) : Prop where
  status : r.status = f.status
  contentType : r.contentType = some "application/json"
  body : ∃ text : String, r.body = text.toUTF8 ∧ Json.Document.read text =
    ⟨.object [("error", .text f.code.name), ("message", .text f.clientMessage)] .closed, true⟩

/-- The response hands over the bytes of a service as they are. -/
structure Response.Delivers (r : Response) (bytes : ByteArray) : Prop where
  status : r.status = 200
  contentType : r.contentType = some "application/octet-stream"
  body : r.body = bytes
  allow : r.allow = none

theorem Response.delivers_ofReply (bytes : ByteArray) : (ofReply bytes).Delivers bytes :=
  ⟨rfl, rfl, rfl, rfl⟩

@[simp] theorem Response.status_ofFault (f : Fault) : (ofFault f).status = f.code.status := rfl

@[simp] theorem Response.status_ofReply (bytes : ByteArray) : (ofReply bytes).status = 200 := rfl

/-- The answer to a fault tells of it, whatever characters its message holds. -/
theorem Response.tells_ofFault (f : Fault) : (ofFault f).Tells f where
  status := rfl
  contentType := rfl
  body := ⟨faultText f, rfl, Json.Document.read_written
    (.object [("error", .string f.code.name), ("message", .string f.clientMessage)])⟩

end Http

/-- The list lets on who sends the request: it comes from a peer, and its first consumer that is
text may call the method. -/
def Acl.Admits (acl : Acl) (req : Http.Request) : Prop :=
  ∃ peer consumer, req.peer = some peer ∧ req.consumer? = some consumer ∧
    acl.allows consumer req.target.path = true

/-- The service of the requested method replies with the bytes. -/
def Dispatcher.Replies (d : Dispatcher) (req : Http.Request) (bytes : ByteArray) : Prop :=
  ∃ caller s, caller.method.text = req.target.path ∧ req.peer = some caller.peer ∧
    req.consumer? = some caller.consumer ∧ d.route? caller.method = some s ∧
    (s.serve caller req.body).result = .ok bytes

namespace Gateway

/-- What a post is answered, and what decides it. -/
inductive Posted (acl : Acl) (d : Dispatcher) (req : Http.Request) : Http.Response → Prop
  | malformed {fault : Fault} (garbled : ¬MethodPath.IsPath req.target.path)
    (parsed : MethodPath.parse req.target.path = .error fault) (code : fault.code = .internal) :
    Posted acl d req (.ofFault fault)
  | refused {fault : Fault} (readable : MethodPath.IsPath req.target.path)
    (barred : ¬acl.Admits req) (code : fault.code = .accessDenied) :
    Posted acl d req (.ofFault fault)
  | unserved (readable : MethodPath.IsPath req.target.path) (admitted : acl.Admits req)
    (unregistered : req.target.path ∉ d.registeredMethods) :
    Posted acl d req (.ofFault (.unknownMethod req.target.path))
  | served {bytes : ByteArray} (readable : MethodPath.IsPath req.target.path)
    (admitted : acl.Admits req) (registered : req.target.path ∈ d.registeredMethods)
    (replies : d.Replies req bytes) : Posted acl d req (.ofReply bytes)

namespace Posted

variable {acl : Acl} {d : Dispatcher} {req : Http.Request} {r : Http.Response}

/-- The status of an answer tells which of the four it is. -/
theorem status_eq_500_iff (h : Posted acl d req r) :
    r.status = 500 ↔ ¬MethodPath.IsPath req.target.path := by
  cases h with
  | malformed garbled _ code => simp [code, Code.status, garbled]
  | refused readable _ code => simp [code, Code.status, readable]
  | unserved readable => simp [Fault.code, Code.status, readable]
  | served readable => simp [readable]

theorem status_eq_403_iff (h : Posted acl d req r) (readable : MethodPath.IsPath req.target.path) :
    r.status = 403 ↔ ¬acl.Admits req := by
  cases h with
  | malformed garbled => exact absurd readable garbled
  | refused _ barred code => simp [code, Code.status, barred]
  | unserved _ admitted => simp [Fault.code, Code.status, admitted]
  | served _ admitted => simp [admitted]

theorem status_eq_404_iff (h : Posted acl d req r) (readable : MethodPath.IsPath req.target.path)
    (admitted : acl.Admits req) : r.status = 404 ↔ req.target.path ∉ d.registeredMethods := by
  cases h with
  | malformed garbled => exact absurd readable garbled
  | refused _ barred => exact absurd admitted barred
  | unserved _ _ unregistered => simp [Fault.code, Code.status, unregistered]
  | served _ _ registered => simp [registered]

theorem exists_replies (h : Posted acl d req r) (readable : MethodPath.IsPath req.target.path)
    (admitted : acl.Admits req) (registered : req.target.path ∈ d.registeredMethods) :
    ∃ bytes, d.Replies req bytes ∧ r.Delivers bytes := by
  cases h with
  | malformed garbled => exact absurd readable garbled
  | refused _ barred => exact absurd admitted barred
  | unserved _ _ unregistered => exact absurd registered unregistered
  | served _ _ _ replies => exact ⟨_, replies, Http.Response.delivers_ofReply _⟩

/-- Every answer but a reply tells of the fault that it answers. -/
theorem tells (h : Posted acl d req r) :
    (r.status = 500 → ∃ fault, MethodPath.parse req.target.path = .error fault ∧
      fault.code = .internal ∧ r.Tells fault) ∧
    (r.status = 403 → ∃ fault, fault.code = .accessDenied ∧ r.Tells fault) ∧
    (r.status = 404 → r.Tells (.unknownMethod req.target.path)) := by
  have told := Http.Response.tells_ofFault
  cases h with
  | malformed _ parsed code =>
    refine ⟨fun _ ↦ ⟨_, parsed, code, told _⟩, ?_, ?_⟩ <;> simp [code, Code.status]
  | refused _ _ code =>
    refine ⟨?_, fun _ ↦ ⟨_, code, told _⟩, ?_⟩ <;> simp [code, Code.status]
  | unserved =>
    refine ⟨?_, ?_, fun _ ↦ told _⟩ <;> simp [Fault.code, Code.status]
  | served => simp

end Posted

section

variable {acl : Acl} {maxInterval : Nat} {d : Dispatcher} {s : Station} {req : Http.Request}

/-- A call is admitted exactly if the list lets on who sends the request. -/
theorem admits_of_verdict {kind : CallKind} {caller : Caller}
    (h : Gate.verdict acl (callOf kind req) = .ok caller) : acl.Admits req := by
  obtain ⟨-, -, placed, named, judged⟩ := (Gate.verdict_eq_ok_iff _ _).mp h
  refine ⟨caller.peer, caller.consumer, placed, ?_, decide_eq_true judged⟩
  exact (Http.Request.get?_consumerKey req).symm.trans named

theorem verdict_of_admits (kind : CallKind) (readable : MethodPath.IsPath req.target.path)
    (h : acl.Admits req) : ∃ caller, Gate.verdict acl (callOf kind req) = .ok caller := by
  obtain ⟨p, w, text⟩ := readable
  obtain ⟨peer, consumer, placed, named, allowed⟩ := h
  refine ⟨⟨consumer, peer, p⟩, (Gate.verdict_eq_ok_iff _ _).mpr ⟨w, text, placed, ?_, ?_⟩⟩
  · exact (Http.Request.get?_consumerKey req).trans named
  · exact of_decide_eq_true allowed

/-- With a method path, a call is refused because of who calls. -/
theorem code_of_verdict {kind : CallKind} (readable : MethodPath.IsPath req.target.path)
    {why : Refusal} (h : Gate.verdict acl (callOf kind req) = .error why) :
    why.fault.code = .accessDenied := by
  have decided := Gate.decides_verdict acl (callOf kind req)
  rw [h] at decided
  cases decided with
  | malformed garbled => exact absurd readable garbled
  | noPeer => rfl
  | anonymous => rfl
  | denied => rfl

/-- Every post is answered in one of the four ways, in any state of the gateway. -/
theorem posted_unary (reliable : d.Reliable) (small : req.body.size ≤ bodyLimit) (micros : Nat) :
    Posted acl d req (unary ⟨acl, maxInterval, d, s⟩ req micros).response := by
  rw [(unary_of_small _ req micros small).1]
  by_cases readable : MethodPath.IsPath req.target.path
  · cases verdict : Gate.verdict acl (callOf .unary req) with
    | error why =>
      rw [(Gate.intercept_of_refused _ _ _ _ verdict).1]
      refine .refused readable (fun admits ↦ ?_) (code_of_verdict readable verdict)
      obtain ⟨caller, admitted⟩ := verdict_of_admits .unary readable admits
      rw [verdict] at admitted
      cases admitted
    | ok caller =>
      have admits := admits_of_verdict verdict
      obtain ⟨w, text, placed, named, -⟩ := (Gate.verdict_eq_ok_iff _ _).mp verdict
      change caller.method.text = req.target.path at text
      rw [(Gate.intercept_of_admitted _ _ _ _ verdict).1]
      by_cases registered : caller.method.text ∈ d.registeredMethods
      · obtain ⟨service, routed⟩ := (d.mem_registeredMethods_iff w).mp registered
        obtain ⟨bytes, result⟩ := reliable caller service routed req.body
        simp only [unaryHandler, Dispatcher.dispatch_of_routed routed, result]
        exact .served readable admits (text ▸ registered) ⟨caller, service, text, placed,
          (Http.Request.get?_consumerKey req).symm.trans named, routed, result⟩
      · simp only [unaryHandler, Dispatcher.dispatch_of_unregistered w registered, text]
        exact .unserved readable admits (text ▸ registered)
  · obtain ⟨why, verdict, parsed, code⟩ :=
      Gate.verdict_of_not_isPath acl (callOf .unary req) readable
    rw [(Gate.intercept_of_refused _ _ _ _ verdict).1]
    exact .malformed readable parsed code

/-- A post to a method route is answered as a unary call. -/
theorem response_post (post : req.method = "POST")
    (route : Http.Route.ofPath req.target.path = .method) (g : Gateway) (micros : Nat) :
    (g.handle req micros).response = (g.unary req micros).response := by
  rw [response_handle route, Http.Verb.ofMethod_eq_post_iff.mpr post]

end

theorem mem_registeredMethods_builtIn {path : String} :
    path ∈ builtIn.registeredMethods ↔ path ∈ ["/Biz/Check", "/Biz/Add", "/Biz/Test"] := by
  have all : builtIn.services.entries.flatMap Dispatcher.methodsOf =
      ["/Biz/Check", "/Biz/Add", "/Biz/Test"] := by
    decide
  rw [Dispatcher.registeredMethods, List.mem_mergeSort, all]

/-- The services of a gateway that was just started reply to each call without bytes. -/
theorem serve_of_builtIn {caller : Caller} {s : Service} (h : builtIn.route? caller.method = some s)
    (body : ByteArray) : (s.serve caller body).result = .ok .empty := by
  obtain ⟨registered, offered⟩ := Dispatcher.route?_eq_some_iff.mp h
  change (TextMap.insert _ _ _).get? _ = _ at registered
  rw [TextMap.get?_insert] at registered
  split at registered
  · cases registered
    have known : caller.method.method ∈ Business.methods := offered
    change (Business.serve caller body).result = _
    rw [Business.serve_eq, if_pos known]
  · cases registered

theorem reliable_builtIn : builtIn.Reliable := fun _ _ h body ↦ ⟨_, serve_of_builtIn h body⟩

theorem eq_empty_of_replies_builtIn {req : Http.Request} {bytes : ByteArray}
    (h : builtIn.Replies req bytes) : bytes = .empty := by
  obtain ⟨caller, s, -, -, -, routed, result⟩ := h
  rw [serve_of_builtIn routed] at result
  exact (Except.ok.inj result).symm

theorem method_not_mem_registeredMethods_builtIn (kind : StreamKind) :
    kind.method ∉ builtIn.registeredMethods := by
  rw [mem_registeredMethods_builtIn]
  cases kind <;> decide

/-- A post to a method route, with a body that is not too large, is answered by its path, its caller
and its method, in this order. The answer is an internal fault exactly if the path is no method
path, and tells what is wrong with it. Otherwise it is a refusal exactly if the list does not let on
who sends the request. Otherwise nothing is found exactly if the path is not registered. Otherwise
the bytes of the service are handed over. A fault is told as a JSON object of its code and its
message, whatever characters the path holds. The answer is the same in any state of the station. A
configuration starts a gateway with services that are reliable, reply without bytes, and are no
streams. -/
theorem posts_are_answered (acl : Acl) (maxInterval : Nat) (d : Dispatcher) (depth : Nat)
    (reliable : d.Reliable) (before : List GatewayOp) (req : Http.Request) (micros : Nat)
    (post : req.method = "POST") (route : Http.Route.ofPath req.target.path = .method)
    (small : req.body.size ≤ bodyLimit) :
    let g := (fresh acl maxInterval d depth).after before
    let answer := (g.handle req micros).response
    let path := req.target.path
    (answer.status = 500 ↔ ¬MethodPath.IsPath path) ∧
    (MethodPath.IsPath path → (answer.status = 403 ↔ ¬acl.Admits req)) ∧
    (MethodPath.IsPath path → acl.Admits req →
      (answer.status = 404 ↔ path ∉ d.registeredMethods)) ∧
    (MethodPath.IsPath path → acl.Admits req → path ∈ d.registeredMethods →
      ∃ bytes, d.Replies req bytes ∧ answer.Delivers bytes) ∧
    (answer.status = 500 → ∃ fault, MethodPath.parse path = .error fault ∧
      fault.code = .internal ∧ answer.Tells fault) ∧
    (answer.status = 403 → ∃ fault, fault.code = .accessDenied ∧ answer.Tells fault) ∧
    (answer.status = 404 → answer.Tells (.unknownMethod path)) ∧
    (∀ s micros', (handle ⟨acl, maxInterval, d, s⟩ req micros').response = answer) ∧
    (∀ config, ofConfig config acl =
      fresh acl config.maxInterval builtIn config.subscriberQueue) ∧
    builtIn.Reliable ∧ (∀ bytes, builtIn.Replies req bytes → bytes = .empty) ∧
    ∀ kind : StreamKind, kind.method ∉ builtIn.registeredMethods := by
  intro g answer path
  have posted : Posted acl d req answer := by
    obtain ⟨s, hs⟩ := exists_station_after (fresh acl maxInterval d depth) before
    change Posted acl d req (g.handle req micros).response
    rw [response_post post route, show g = ⟨acl, maxInterval, d, s⟩ from hs]
    exact posted_unary reliable small micros
  have steady (s : Station) (micros' : Nat) :
      (handle ⟨acl, maxInterval, d, s⟩ req micros').response = answer := by
    obtain ⟨t, ht⟩ := exists_station_after (fresh acl maxInterval d depth) before
    change _ = (g.handle req micros).response
    rw [show g = ⟨acl, maxInterval, d, t⟩ from ht]
    exact response_of_agree (fun _ _ ↦ rfl) route micros micros'
  exact ⟨posted.status_eq_500_iff, posted.status_eq_403_iff, posted.status_eq_404_iff,
    posted.exists_replies, posted.tells.1, posted.tells.2.1, posted.tells.2.2, steady,
    fun _ ↦ rfl, reliable_builtIn, fun _ ↦ eq_empty_of_replies_builtIn,
    method_not_mem_registeredMethods_builtIn⟩

/-- A list that lets one consumer call everything. -/
def openAcl : Acl := ⟨TextMap.empty.insert "c1" [.beginning "/"]⟩

/-- A post of a consumer to a path. -/
def postOf (consumer : List UInt8) (path : String) : Http.Request :=
  ⟨"POST", ⟨path, none⟩, [⟨"consumer", consumer⟩], some (.v4 ⟨10, 1, 2, 3⟩ 4567), .empty, false,
    .free⟩

/-- While a gateway drains, a consumer who may call everything gets the reply of a business method,
is told that nothing serves the stream of statistics as a unary call, and is told what is wrong with
a path without a service. A stranger is refused. -/
theorem posts_are_answered_of_draining :
    let g := (fresh openAcl 60 builtIn 8).after [.beginDrain]
    (g.handle (postOf [0x63, 0x31] "/Biz/Add") 0).response.Delivers .empty ∧
      (g.handle (postOf [0x63, 0x31] StreamKind.statistics.method) 0).response.Tells
        (.unknownMethod StreamKind.statistics.method) ∧
      (g.handle (postOf [0x63, 0x31] "//Add") 0).response.status = 500 ∧
      (g.handle (postOf [0x63, 0x32] "/Biz/Add") 0).response.status = 403 := by
  intro g
  have all (consumer : List UInt8) (path : String) (route : Http.Route.ofPath path = .method) :=
    posts_are_answered openAcl 60 builtIn 8 reliable_builtIn [.beginDrain] (postOf consumer path) 0
      rfl route (Nat.zero_le _)
  have admitted (path : String) (h : openAcl.allows "c1" path = true) :
      openAcl.Admits (postOf [0x63, 0x31] path) := by
    have named : (postOf [0x63, 0x31] "").consumer? = some "c1" := by decide
    exact ⟨_, "c1", rfl, named, h⟩
  have add : MethodPath.IsPath "/Biz/Add" := by decide
  have statistics : MethodPath.IsPath StreamKind.statistics.method := by decide
  refine ⟨?_, ?_, ?_, ?_⟩
  · obtain ⟨bytes, replies, answer⟩ := (all [0x63, 0x31] "/Biz/Add" (by decide)).2.2.2.1 add
      (admitted _ (by decide)) (mem_registeredMethods_builtIn.mpr (by decide))
    exact eq_empty_of_replies_builtIn replies ▸ answer
  · have told := all [0x63, 0x31] StreamKind.statistics.method (by decide)
    exact told.2.2.2.2.2.2.1 ((told.2.2.1 statistics (admitted _ (by decide))).mpr
      (method_not_mem_registeredMethods_builtIn .statistics))
  · exact (all [0x63, 0x31] "//Add" (by decide)).1.mpr (by decide)
  · refine ((all [0x63, 0x32] "/Biz/Add" (by decide)).2.1 add).mpr ?_
    rintro ⟨_, consumer, -, named, allowed⟩
    have stranger : (postOf [0x63, 0x32] "/Biz/Add").consumer? = some "c2" := by decide
    rw [stranger] at named
    cases named
    revert allowed
    decide

end Gateway

end Gatehouse

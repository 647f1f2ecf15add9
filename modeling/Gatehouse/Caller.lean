import Gatehouse.Acl
import Gatehouse.Address
import Gatehouse.Event
import Gatehouse.Metadata
import Gatehouse.MethodPath

/-!
# Callers

What a call says about itself becomes an identity, and an identity that names its consumer
becomes a caller. Each way to fail on the way is a refusal with its own label and fault.
-/

namespace Gatehouse

/-- How the answer to a call is carried. -/
inductive CallKind where
  /-- One request, one reply. -/
  | unary
  /-- One request, many items. -/
  | stream
  deriving DecidableEq, Repr

/-- The name of a kind of call in metrics and logs. -/
def CallKind.label : CallKind → String
  | .unary => "unary"
  | .stream => "stream"

/-- One call as it arrives, whatever carried it. -/
structure Call where
  kind : CallKind
  /-- The method path as it was sent. -/
  method : String
  metadata : Metadata
  /-- The caller's address, when the transport knows it. -/
  peer : Option Address
  deriving DecidableEq

/-- Why a call does not reach its handler. -/
inductive Refusal where
  /-- The method is no method path. -/
  | malformedMethod (raw : String) (cause : MethodPath.Malformed)
  /-- The transport does not know the caller's address. -/
  | missingPeer
  /-- The call does not say who calls. -/
  | missingConsumer
  /-- The access list does not let the consumer call the method. -/
  | denied (why : Denial) (consumer method : String)
  deriving DecidableEq, Repr

namespace Refusal

/-- The name of a reason in metrics and logs. -/
def label : Refusal → String
  | .malformedMethod _ _ => "malformed_method"
  | .missingPeer => "missing_peer"
  | .missingConsumer => "missing_consumer"
  | .denied why _ _ => why.label

/-- The fault that a refusal is answered with. -/
def fault : Refusal → Fault
  | .malformedMethod raw cause => .internal (cause.message raw)
  | .missingPeer => .unauthenticated "missing peer info"
  | .missingConsumer => .unauthenticated "no consumer in metadata"
  | .denied why consumer method =>
    .notAllowed (why.text ++ " (consumer=" ++ consumer ++ ", method=" ++ method ++ ")")

/-- Whether the refusal is a denial, and not a defect of the call's form. -/
def isDenial (r : Refusal) : Bool := r.fault.code = .accessDenied

end Refusal

/-- A caller who has said who calls. -/
structure Caller where
  consumer : String
  peer : Address
  method : MethodPath
  deriving DecidableEq

/-- What a call says about itself. -/
structure Identity where
  /-- Who calls, when the call says so. -/
  consumer : Option String
  peer : Address
  method : MethodPath
  deriving DecidableEq

namespace Identity

/-- Reads the identity of a call: first its method, then its peer, then its consumer. -/
def extract (method : String) (metadata : Metadata) (peer : Option Address) :
    Except Refusal Identity :=
  match MethodPath.read method with
  | .error cause => .error (.malformedMethod method cause)
  | .ok path =>
    match peer with
    | none => .error .missingPeer
    | some peer => .ok ⟨metadata.get? Metadata.consumerKey, peer, path⟩

/-- The record of the call. -/
def event (i : Identity) : Event := ⟨i.consumer.getD "", i.method.text, i.peer.text⟩

/-- The caller, unless the call did not say who calls. -/
def authenticate (i : Identity) : Except Refusal Caller :=
  match i.consumer with
  | some consumer => .ok ⟨consumer, i.peer, i.method⟩
  | none => .error .missingConsumer

end Identity

end Gatehouse

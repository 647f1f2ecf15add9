/-!
# Faults and what a caller is told about them

A fault is the reason why something was not done. Toward a caller it is one of five codes with a
status and a message, and all faults about who calls share one code and one message, so a
caller cannot find out whether a name is known.
-/

namespace Gatehouse

/-- The stable code that a caller sees. -/
inductive Code where
  /-- The request itself is wrong. -/
  | badRequest
  /-- The caller is not known, or may not call the method. -/
  | accessDenied
  /-- Nothing serves the method. -/
  | notFound
  /-- The configuration has a version that is not supported. -/
  | unsupportedVersion
  /-- The fault is not the caller's. -/
  | internal
  deriving DecidableEq, Repr

/-- The name of a code in answers. -/
def Code.name : Code → String
  | .badRequest => "BAD_REQUEST"
  | .accessDenied => "ACCESS_DENIED"
  | .notFound => "NOT_FOUND"
  | .unsupportedVersion => "UNSUPPORTED_VERSION"
  | .internal => "INTERNAL"

/-- The HTTP status of a code. -/
def Code.status : Code → Nat
  | .badRequest => 400
  | .accessDenied => 403
  | .notFound => 404
  | .unsupportedVersion => 500
  | .internal => 500

/-- Why something was not done. The text is for the operator. -/
inductive Fault where
  /-- The request does not make sense. -/
  | badRequest (text : String)
  /-- The configuration or the access list is wrong. -/
  | config (text : String)
  /-- The call does not say who calls. -/
  | unauthenticated (text : String)
  /-- The caller may not call the method. -/
  | notAllowed (text : String)
  /-- An item could not be handed to a stream's client. -/
  | delivery (text : String)
  /-- Nothing serves the method. -/
  | unknownMethod (text : String)
  /-- The configuration has a version that is not supported. -/
  | unsupportedVersion
  /-- Something that callers cannot cause went wrong. -/
  | internal (text : String)
  deriving DecidableEq, Repr

namespace Fault

/-- The code under which the fault is reported to a caller. -/
def code : Fault → Code
  | .badRequest _ => .badRequest
  | .config _ => .badRequest
  | .unauthenticated _ => .accessDenied
  | .notAllowed _ => .accessDenied
  | .unknownMethod _ => .notFound
  | .unsupportedVersion => .unsupportedVersion
  | .delivery _ => .internal
  | .internal _ => .internal

/-- The operator's view of the fault. -/
def message : Fault → String
  | .badRequest text => "bad request: " ++ text
  | .config text => "config: " ++ text
  | .unauthenticated text => "unauthenticated: " ++ text
  | .notAllowed text => "not allowed: " ++ text
  | .delivery text => "delivery failed: " ++ text
  | .unknownMethod text => "unknown method: " ++ text
  | .unsupportedVersion => "unsupported config version"
  | .internal text => "internal: " ++ text

/-- The caller's view of the fault: faults about access all read alike. -/
def clientMessage (f : Fault) : String :=
  match f.code with
  | .accessDenied => "access denied"
  | _ => f.message

/-- The HTTP status with which the fault is answered. -/
def status (f : Fault) : Nat := f.code.status

end Fault

end Gatehouse

import Gatehouse.Caller
import Gatehouse.Stream.Basic

/-!
# Log notes

What the gateway reports to its operator. A note is the fact; its level, message and fields are
how the log shows it.
-/

namespace Gatehouse

/-- How much a log entry matters. -/
inductive Level where
  | trace
  | debug
  | info
  | warn
  deriving DecidableEq, Repr

/-- The name of a level. -/
def Level.name : Level → String
  | .trace => "TRACE"
  | .debug => "DEBUG"
  | .info => "INFO"
  | .warn => "WARN"

/-- A fact worth a log entry. -/
inductive Note where
  /-- A subscription was registered. -/
  | registered (kind : StreamKind) (subscriber : Nat)
  /-- A registered subscription was removed. -/
  | removed (kind : StreamKind) (subscriber : Nat)
  /-- A subscriber was cut off because its queue was full. -/
  | queueFull (subscriber : Nat)
  /-- A call was refused. -/
  | refused (kind : CallKind) (why : Refusal)
  /-- A business method was called. -/
  | businessCall (consumer method : String)
  /-- A rule names one method and nothing serves it. -/
  | unservedRule (consumer rule : String)
  /-- A client was given a stream. -/
  | streamGranted (kind : StreamKind) (consumer peer : String)
  /-- A stream to a client began. -/
  | streamOpened
  /-- A stream to a client ended. -/
  | streamClosed (outcome : Except Fault StreamEnd)

/-- How the log shows a note. -/
inductive LogEntry where
  /-- A message with its fields. -/
  | event (level : Level) (message : String) (fields : List (String × String))
  /-- The start of a named stretch of work. -/
  | span (name : String) (fields : List (String × String))
  deriving DecidableEq, Repr

/-- The log entry of a note. -/
def Note.entry : Note → LogEntry
  | .registered kind id =>
    .event .debug (kind.label ++ " subscription registered") [("subscriber", Text.decimal id)]
  | .removed kind id =>
    .event .debug (kind.label ++ " subscription removed") [("subscriber", Text.decimal id)]
  | .queueFull id =>
    .event .warn "audit queue full, disconnecting subscriber" [("subscriber", Text.decimal id)]
  | .refused kind why =>
    .event .debug "call refused"
      [("kind", kind.label), ("reason", why.label), ("error", why.fault.message)]
  | .businessCall consumer method =>
    .event .trace "biz call" [("consumer", consumer), ("method", method)]
  | .unservedRule consumer rule =>
    .event .warn "acl rule refers to an unserved method" [("consumer", consumer), ("rule", rule)]
  | .streamGranted kind consumer peer =>
    .span "admin_stream" [("stream", kind.label), ("consumer", consumer), ("peer", peer)]
  | .streamOpened => .event .info "admin stream opened" []
  | .streamClosed (.ok .clientGone) => .event .info "admin stream closed by client" []
  | .streamClosed (.ok .draining) => .event .info "admin stream closed: draining" []
  | .streamClosed (.error fault) =>
    .event .info "admin stream ended" [("error", fault.message)]

end Gatehouse

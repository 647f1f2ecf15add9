/-!
# Access events

The record of one attempted call. It is made before anything is decided about the call, so
refused calls leave one too.
-/

namespace Gatehouse

/-- The record of one attempted call. -/
structure Event where
  /-- Who calls, by the caller's own word; empty when the call does not say. -/
  consumer : String
  /-- The method path as it was sent. -/
  method : String
  /-- The printed address of the caller. -/
  host : String
  deriving DecidableEq, Repr, Inhabited

end Gatehouse

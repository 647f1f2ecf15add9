import Mathlib.Algebra.GroupWithZero.Nat
import Mathlib.Algebra.Order.BigOperators.Group.List
import Mathlib.Algebra.Order.Group.Nat
import Gatehouse.Proofs.Hub.Delivery
import Gatehouse.Proofs.Station.History

/-!
# Relays come to rest

The work of a relay bounds how often it can fire before something happens around it. Each firing
leaves less of it, and none to any other relay, so a station that is left to itself settles.
-/

namespace Gatehouse

namespace Hub

/-- How many events of a subscription are unread. -/
def unread (h : Hub) (id : Nat) : Nat := ((h.receiver? id).map (·.queue.size)).getD 0

end Hub

namespace Relay

/-- What a relay may still take from its subscription: each event, or a tick that is due, needs a
step to take it and perhaps one to hand it over. -/
def load (r : Relay) (s : Surroundings) : Nat :=
  match r.feed with
  | .events => 2 * s.hub.unread r.subscription
  | .counts _ due => if due ≤ s.clock then 2 else 0

/-- A tick moves the next one into the future. -/
theorem lt_next (period : Period) {due now : Nat} : now < period.next due now := by
  have hpos := period.pos
  unfold Period.next Period.grace Period.milliseconds
  split <;> omega

end Relay

namespace Station

/-- No relay can do anything by itself. -/
def Idle (s : Station) : Prop := ∀ r ∈ s.relays, ∀ b, r.fire b s.surroundings = none

theorem fireFirst_eq_none_iff {s : Station} : s.fireFirst = none ↔ s.Idle := by
  have all (b : Branch) : b ∈ Relay.branches := by cases b <;> decide
  simp [fireFirst, Relay.fireFirst, Idle, List.findSome?_eq_none_iff, all]

end Station

end Gatehouse

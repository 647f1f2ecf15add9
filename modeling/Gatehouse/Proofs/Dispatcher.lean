import Gatehouse.Dispatcher
import Gatehouse.Proofs.MethodPath
import Gatehouse.Proofs.TextMap

/-!
# What a dispatcher reaches

The registered methods of a dispatcher are the texts of the method paths that it routes to a
service. The names that services register under are arbitrary texts, but none of them can take the
place of another path, because a well-formed path is read in one way only.
-/

namespace Gatehouse.Dispatcher

theorem route?_eq_some_iff {d : Dispatcher} {p : MethodPath} {s : Service} :
    d.route? p = some s ↔ d.services.get? p.service = some s ∧ p.method ∈ s.methods := by
  rw [route?, Option.filter_eq_some_iff, List.contains_iff_mem]

/-- The registered methods, each with the service that it is registered for. -/
theorem mem_registeredMethods_iff_exists {d : Dispatcher} {path : String} :
    path ∈ d.registeredMethods ↔
      ∃ (p : MethodPath) (s : Service), d.services.get? p.service = some s ∧
        p.method ∈ s.methods ∧ p.text = path := by
  rw [registeredMethods, List.mem_mergeSort, List.mem_flatMap]
  constructor
  · rintro ⟨⟨name, s⟩, registered, listed⟩
    obtain ⟨method, offered, rfl⟩ := List.mem_map.mp listed
    exact ⟨⟨name, method⟩, s, TextMap.mem_entries_iff.mp registered, offered, rfl⟩
  · rintro ⟨p, s, registered, offered, rfl⟩
    exact ⟨(p.service, s), TextMap.mem_entries_iff.mpr registered,
      List.mem_map.mpr ⟨p.method, offered, rfl⟩⟩

/-- A method path is registered when it is routed to a service. -/
theorem mem_registeredMethods_iff (d : Dispatcher) {p : MethodPath} (w : p.WellFormed) :
    p.text ∈ d.registeredMethods ↔ ∃ s, d.route? p = some s := by
  rw [mem_registeredMethods_iff_exists]
  constructor
  · rintro ⟨q, s, registered, offered, text⟩
    cases w.eq_of_text text
    exact ⟨s, route?_eq_some_iff.mpr ⟨registered, offered⟩⟩
  · rintro ⟨s, routed⟩
    obtain ⟨registered, offered⟩ := route?_eq_some_iff.mp routed
    exact ⟨p, s, registered, offered, rfl⟩

theorem dispatch_of_routed {d : Dispatcher} {caller : Caller} {s : Service}
    (h : d.route? caller.method = some s) (body : ByteArray) :
    d.dispatch caller body = s.serve caller body := by
  rw [dispatch, h]

/-- A call to a method that is not registered reaches no service. -/
theorem dispatch_of_unregistered {d : Dispatcher} {caller : Caller}
    (w : caller.method.WellFormed) (h : caller.method.text ∉ d.registeredMethods)
    (body : ByteArray) :
    d.dispatch caller body = ⟨.error (.unknownMethod caller.method.text), []⟩ := by
  have unrouted : d.route? caller.method = none :=
    Option.eq_none_iff_forall_ne_some.mpr fun s hs ↦ h ((d.mem_registeredMethods_iff w).mpr ⟨s, hs⟩)
  rw [dispatch, unrouted]

/-- Every service answers each call of one of its methods with bytes. -/
def Reliable (d : Dispatcher) : Prop :=
  ∀ caller s, d.route? caller.method = some s →
    ∀ body, ∃ bytes, (s.serve caller body).result = .ok bytes

end Gatehouse.Dispatcher

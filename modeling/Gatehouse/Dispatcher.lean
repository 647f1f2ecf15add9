import Gatehouse.Note
import Gatehouse.TextMap

/-!
# Dispatching unary calls

A dispatcher knows services by name. It reaches a service only through the methods that the
service lists; a service registered under a name replaces the earlier one of that name.
-/

namespace Gatehouse

/-- What a service answers. -/
structure Reply where
  result : Except Fault ByteArray
  notes : List Note

/-- A service of unary methods. Bodies are opaque bytes. -/
structure Service where
  /-- The service segment of its method paths. -/
  name : String
  /-- The method segments that it serves. -/
  methods : List String
  /-- Answers a call. -/
  serve : Caller → ByteArray → Reply

/-- The services that can be reached, by name. -/
structure Dispatcher where
  services : TextMap Service

namespace Dispatcher

/-- No services. -/
def empty : Dispatcher := ⟨.empty⟩

/-- Adds a service, instead of any earlier one of its name. -/
def register (d : Dispatcher) (s : Service) : Dispatcher := ⟨d.services.insert s.name s⟩

/-- The method paths of a service. -/
def methodsOf (e : String × Service) : List String :=
  e.2.methods.map fun m => (MethodPath.mk e.1 m).text

/-- Every method path that can be reached, in ascending order. -/
def registeredMethods (d : Dispatcher) : List String :=
  (d.services.entries.flatMap methodsOf).mergeSort fun a b => decide (a ≤ b)

/-- The service that serves the method path. -/
def route? (d : Dispatcher) (p : MethodPath) : Option Service :=
  (d.services.get? p.service).filter (·.methods.contains p.method)

/-- Hands a call to the service of its method. -/
def dispatch (d : Dispatcher) (caller : Caller) (body : ByteArray) : Reply :=
  match d.route? caller.method with
  | some s => s.serve caller body
  | none => ⟨.error (.unknownMethod caller.method.text), []⟩

end Dispatcher

end Gatehouse

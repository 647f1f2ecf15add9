import Gatehouse.Dispatcher

/-!
# The business service

The guarded methods. They do nothing; the gateway exists to guard them.
-/

namespace Gatehouse.Business

/-- The methods of the service. -/
def methods : List String := ["Check", "Add", "Test"]

/-- Answers a call with an empty body. Which methods there are is decided here once more, whatever
the service lists. -/
def serve (caller : Caller) (_body : ByteArray) : Reply :=
  match caller.method.method with
  | "Check" | "Add" | "Test" =>
    ⟨.ok ByteArray.empty, [.businessCall caller.consumer caller.method.text]⟩
  | _ => ⟨.error (.unknownMethod caller.method.text), []⟩

/-- The service. -/
def service : Service := ⟨"Biz", methods, serve⟩

/-- The service answers the methods that it lists, and no others. -/
theorem serve_eq (caller : Caller) (body : ByteArray) :
    serve caller body =
      if caller.method.method ∈ methods then
        ⟨.ok ByteArray.empty, [.businessCall caller.consumer caller.method.text]⟩
      else ⟨.error (.unknownMethod caller.method.text), []⟩ := by
  unfold serve
  split
  · next check => rw [check, if_pos (by decide)]
  · next add => rw [add, if_pos (by decide)]
  · next test => rw [test, if_pos (by decide)]
  · next check add test =>
    have unlisted : caller.method.method ∉ methods := by
      simpa [methods] using ⟨check, add, test⟩
    rw [if_neg unlisted]

end Gatehouse.Business

import Gatehouse.Gateway
import Gatehouse.Proofs.Dispatcher
import Gatehouse.Proofs.Text.ByteOrder

/-!
# Registering services

Services are registered one after another, and the last one of a name is the one that counts. What a
dispatcher lists and what it reaches are two readings of its services: the list joins names, and a
call is routed by the segments of its path. They agree for names and methods that are any texts.
-/

namespace Gatehouse.Dispatcher

/-- The dispatcher of services that were registered one after another. -/
def ofServices (services : List Service) : Dispatcher := services.foldl register empty

/-- The service was registered, and none of its name after it. -/
def Latest (services : List Service) (s : Service) : Prop :=
  ∃ before after, services = before ++ s :: after ∧ ∀ t ∈ after, t.name ≠ s.name

/-- Under each name the same services are registered in the same order; services of different names
may change places. -/
def SameByName (services services' : List Service) : Prop :=
  ∀ name, services.filter (·.name = name) = services'.filter (·.name = name)

/-- Services as entries under their names. -/
def named (services : List Service) : List (String × Service) := services.map fun s ↦ (s.name, s)

variable {services : List Service}

theorem services_ofServices (services : List Service) :
    (ofServices services).services = .ofList (named services) := by
  have onto (d : Dispatcher) : (services.foldl register d).services =
      (named services).foldl (fun m e ↦ m.insert e.1 e.2) d.services := by
    induction services generalizing d with
    | nil => rfl
    | cons s services ih => exact ih (d.register s)
  exact onto empty

/-- The service that is reached under a name is the latest of that name. -/
theorem get?_services_ofServices {name : String} {s : Service} :
    (ofServices services).services.get? name = some s ↔ Latest services s ∧ s.name = name := by
  rw [services_ofServices, TextMap.get?_ofList, TextMap.lastOf_eq_some_iff]
  constructor
  · rintro ⟨before, after, split, later⟩
    obtain ⟨pre, rest, rfl, rfl, tail⟩ := List.map_eq_append_iff.mp split
    obtain ⟨t, post, rfl, entry, rfl⟩ := List.map_eq_cons_iff.mp tail
    cases entry
    exact ⟨⟨pre, post, rfl, fun t ht ↦ later (t.name, t) (List.mem_map.mpr ⟨t, ht, rfl⟩)⟩, rfl⟩
  · rintro ⟨⟨before, after, rfl, later⟩, rfl⟩
    exact ⟨named before, named after, by simp [named], List.forall_mem_map.mpr later⟩

/-- What is listed are the methods of the latest services, behind their names. -/
theorem mem_registeredMethods_ofServices {path : String} :
    path ∈ (ofServices services).registeredMethods ↔
      ∃ s method, Latest services s ∧ method ∈ s.methods ∧
        "/" ++ s.name ++ "/" ++ method = path := by
  rw [mem_registeredMethods_iff_exists]
  constructor
  · rintro ⟨p, s, found, offered, text⟩
    obtain ⟨latest, name⟩ := get?_services_ofServices.mp found
    refine ⟨s, p.method, latest, offered, ?_⟩
    rw [name]
    exact text
  · rintro ⟨s, method, latest, offered, text⟩
    exact ⟨⟨s.name, method⟩, s, get?_services_ofServices.mpr ⟨latest, rfl⟩, offered, text⟩

theorem pairwise_registeredMethods (d : Dispatcher) :
    d.registeredMethods.Pairwise fun a b ↦ bytes a ≤ bytes b := by
  have sorted : d.registeredMethods.Pairwise fun a b ↦ decide (a ≤ b) = true :=
    List.pairwise_mergeSort (by simpa using fun _ _ _ ↦ String.le_trans)
      (by simpa using String.le_total) _
  refine sorted.imp fun {a b} le ↦ List.not_lt.mp fun lt ↦ ?_
  exact String.not_lt.mpr (of_decide_eq_true le) (lt_iff_bytes_lt.mpr lt)

theorem SameByName.ofServices_eq {services' : List Service} (h : SameByName services services') :
    ofServices services' = ofServices services := by
  have same : TextMap.SameByKey (named services) (named services') := by
    intro name
    simp only [named, List.filter_map]
    exact congrArg _ (h name)
  have equal : (ofServices services').services = (ofServices services).services := by
    rw [services_ofServices, services_ofServices, same.ofList_eq]
  exact congrArg Dispatcher.mk equal

/-- A call of a registered method is served by the latest service of its name. -/
theorem dispatch_of_registered {caller : Caller} (w : caller.method.WellFormed)
    (registered : caller.method.text ∈ (ofServices services).registeredMethods)
    (body : ByteArray) :
    ∃ s, Latest services s ∧ s.name = caller.method.service ∧
      caller.method.method ∈ s.methods ∧
      (ofServices services).dispatch caller body = s.serve caller body := by
  obtain ⟨s, routed⟩ := (mem_registeredMethods_iff _ w).mp registered
  obtain ⟨found, offered⟩ := route?_eq_some_iff.mp routed
  obtain ⟨latest, name⟩ := get?_services_ofServices.mp found
  exact ⟨s, latest, name, offered, dispatch_of_routed routed body⟩

theorem Latest.mem {s : Service} (h : Latest services s) : s ∈ services := by
  obtain ⟨before, after, rfl, -⟩ := h
  exact List.mem_append_right _ List.mem_cons_self

theorem Latest.unique {s t : Service} (h : Latest services s) (h' : Latest services t)
    (name : s.name = t.name) : s = t :=
  Option.some.inj ((get?_services_ofServices.mpr ⟨h, name⟩).symm.trans
    (get?_services_ofServices.mpr ⟨h', rfl⟩))

/-- The gateway's services are the business service alone. A call is answered by it without bytes,
or it is not registered. -/
theorem result_dispatch_builtIn {caller : Caller} (w : caller.method.WellFormed)
    (body : ByteArray) :
    (Gateway.builtIn.dispatch caller body).result =
      if caller.method.text ∈ Gateway.builtIn.registeredMethods then .ok .empty
      else .error (.unknownMethod caller.method.text) := by
  have built : Gateway.builtIn = ofServices [Business.service] := rfl
  split
  · next registered =>
    rw [built] at registered ⊢
    obtain ⟨s, latest, -, offered, reply⟩ := dispatch_of_registered w registered body
    obtain rfl := List.mem_singleton.mp latest.mem
    change caller.method.method ∈ Business.methods at offered
    change _ = Business.serve caller body at reply
    rw [reply, Business.serve_eq, if_pos offered]
  · next unregistered => rw [dispatch_of_unregistered w unregistered]

/-- Services with any names and methods, registered one after another. The registered methods are
those of the latest service of each name, in the order of their bytes, and they do not depend on the
order in which services of different names were registered. A call of a registered method is handed
as it is to the latest service of its name, and what that replies and notes is the answer; any other
call is an unknown method, without a note. So where each service leaves one note of a sort in a
call, a registered method leaves one and any other none. The service that a gateway starts with
answers the methods that it lists, and no others. -/
theorem dispatch_reaches_registered_methods (services : List Service) :
    let d := ofServices services
    (∀ path, path ∈ d.registeredMethods ↔
      ∃ s method, Latest services s ∧ method ∈ s.methods ∧
        "/" ++ s.name ++ "/" ++ method = path) ∧
    d.registeredMethods.Pairwise (fun a b ↦ bytes a ≤ bytes b) ∧
    (∀ services', SameByName services services' → ofServices services' = d) ∧
    (∀ caller body, caller.method.WellFormed →
      (caller.method.text ∈ d.registeredMethods →
        ∃ s, Latest services s ∧ s.name = caller.method.service ∧
          caller.method.method ∈ s.methods ∧ d.dispatch caller body = s.serve caller body) ∧
      (caller.method.text ∉ d.registeredMethods →
        d.dispatch caller body = ⟨.error (.unknownMethod caller.method.text), []⟩) ∧
      (∀ rings : Note → Bool,
        (∀ s ∈ services, ∀ c b, (s.serve c b).notes.countP rings = 1) →
          (d.dispatch caller body).notes.countP rings =
            if caller.method.text ∈ d.registeredMethods then 1 else 0) ∧
      ((Gateway.builtIn.dispatch caller body).result = .ok .empty ↔
        caller.method.text ∈ Gateway.builtIn.registeredMethods)) ∧
    (∀ caller body, (Business.serve caller body).result =
      if caller.method.method ∈ Business.service.methods then .ok .empty
      else .error (.unknownMethod caller.method.text)) := by
  intro d
  have served {caller : Caller} (w : caller.method.WellFormed)
      (registered : caller.method.text ∈ d.registeredMethods) (body : ByteArray) :=
    dispatch_of_registered w registered body
  refine ⟨fun path ↦ mem_registeredMethods_ofServices, pairwise_registeredMethods d,
    fun _ h ↦ h.ofServices_eq, fun caller body w ↦
      ⟨fun h ↦ served w h body, fun h ↦ dispatch_of_unregistered w h body, ?_, ?_⟩, ?_⟩
  · intro rings once
    split
    · next registered =>
      obtain ⟨s, latest, -, -, reply⟩ := served w registered body
      rw [reply]
      exact once s latest.mem caller body
    · next unregistered => rw [dispatch_of_unregistered w unregistered, List.countP_nil]
  · rw [result_dispatch_builtIn w]
    split <;> simp_all
  · intro caller body
    rw [Business.serve_eq]
    change Reply.result (if caller.method.method ∈ Business.methods then _ else _) =
      if caller.method.method ∈ Business.methods then _ else _
    split <;> rfl

/-- A service registered anew loses the methods that it no longer lists. A name with a slash lists a
path that no call can have. -/
theorem dispatch_reaches_registered_methods_of_renewed :
    let serve (reply : String) (_ : Caller) (body : ByteArray) : Reply :=
      ⟨.ok (reply.toUTF8 ++ body), [.businessCall reply reply]⟩
    let old : Service := ⟨"Biz", ["Old", "Add"], serve "old"⟩
    let new : Service := ⟨"Biz", ["Add"], serve "new"⟩
    let nested : Service := ⟨"A/B", ["C"], serve "nested"⟩
    let d := ofServices [old, nested, new]
    let call (method : String) : Caller := ⟨"c1", .v4 ⟨10, 1, 2, 3⟩ 4567, ⟨"Biz", method⟩⟩
    let body := "x".toUTF8
    (call "Add").method.WellFormed ∧ (call "Old").method.WellFormed ∧
      d.dispatch (call "Add") body = ⟨.ok ("new".toUTF8 ++ body), [.businessCall "new" "new"]⟩ ∧
      d.dispatch (call "Old") body = ⟨.error (.unknownMethod "/Biz/Old"), []⟩ ∧
      "/A/B/C" ∈ d.registeredMethods ∧ ¬MethodPath.IsPath "/A/B/C" ∧
      d = ofServices [nested, old, new] := by
  intro serve old new nested d call body
  obtain ⟨listed, -, order, dispatched, -⟩ :=
    dispatch_reaches_registered_methods [old, nested, new]
  have readable (method : String) (h : MethodPath.read ("/Biz/" ++ method) = .ok ⟨"Biz", method⟩) :
      (call method).method.WellFormed := (MethodPath.read_eq_ok_iff.mp h).1
  have add : (call "Add").method.WellFormed := readable "Add" rfl
  have gone : (call "Old").method.WellFormed := readable "Old" rfl
  have latest : Latest [old, nested, new] new := ⟨[old, nested], [], rfl, nofun⟩
  have other : Latest [old, nested, new] nested := ⟨[old], [new], rfl, by decide⟩
  obtain ⟨serving, -⟩ := dispatched (call "Add") body add
  obtain ⟨kept, refusing, -⟩ := dispatched (call "Old") body gone
  refine ⟨add, gone, ?_, refusing fun registered ↦ ?_,
    (listed _).mpr ⟨nested, "C", other, List.mem_singleton_self _, rfl⟩, by decide, ?_⟩
  · obtain ⟨s, found, name, -, reply⟩ :=
      serving ((listed _).mpr ⟨new, "Add", latest, List.mem_singleton_self _, rfl⟩)
    obtain rfl := found.unique latest name
    exact reply
  · obtain ⟨s, found, name, offered, -⟩ := kept registered
    obtain rfl := found.unique latest name
    exact absurd offered (by decide)
  · refine (order [nested, old, new] fun name ↦ ?_).symm
    by_cases h : "Biz" = name
    · subst h
      rfl
    · simp [old, new, nested, h, List.filter_cons]

end Gatehouse.Dispatcher

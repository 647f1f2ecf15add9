import Gatehouse.Admin
import Gatehouse.Proofs.Stream.Relay

/-!
# Histories of a station

A history of a station is a list of what happens there, in any order: programs use the hub, relays
start and move, clients read and leave, the gateway drains, time passes. To the hub each of these
is a short history of its own, and a relay holds its subscription until it ends and no longer.
-/

namespace Gatehouse

/-- One thing that happens at a station. -/
inductive StationOp where
  /-- A program uses the hub and subscriptions of its own. -/
  | hub (op : HubOp)
  /-- A relay begins to serve a subscription. -/
  | start (grant : Grant) (transport : Transport) (watchesClient : Bool)
  /-- A relay makes a move. -/
  | move (id : Nat) (m : Move)
  /-- The client of a relay reads an item. -/
  | read (id : Nat)
  /-- The client of a relay goes away. -/
  | leave (id : Nat)
  | drain
  | dropTrigger
  | advance (ms : Nat)

/-- The event that is recorded. -/
def StationOp.event? : StationOp → Option Event
  | .hub op => op.event?
  | _ => none

namespace Station

/-- Whether no relay was given the subscription. -/
def isFree (s : Station) (id : Nat) : Bool := (s.relay? id).isNone

/-- What happens next. A subscription that a relay was given is out of the reach of programs, and
a trigger that was dropped cannot be pulled. -/
def step (s : Station) : StationOp → Station
  | .hub op => if op.subject?.all s.isFree then { s with hub := (s.hub.step op).1 } else s
  | .start g transport watchesClient =>
    if s.isFree g.subscription ∧ g.subscription ∈ s.hub.idsOf g.kind then
      s.spawn (g.relay transport watchesClient s.channel)
    else s
  | .move id m =>
    match s.relay? id with
    | none => s
    | some r =>
      match r.move s.surroundings m with
      | none => s
      | some f => (s.apply r f).1
  | .read id => (s.read id).1
  | .leave id => s.leave id
  | .drain => if s.channel.triggerHeld then s.drain else s
  | .dropTrigger => { s with channel := s.channel.dropTrigger }
  | .advance ms => s.advance ms

/-- What the next thing that happens does to the hub. -/
def hubOps (s : Station) : StationOp → List HubOp
  | .hub op => if op.subject?.all s.isFree then [op] else []
  | .move id m =>
    match s.relay? id with
    | none => []
    | some r =>
      match r.move s.surroundings m with
      | none => []
      | some f => r.uses m f
  | _ => []

/-- The station after a history. -/
def after (s : Station) (ops : List StationOp) : Station := ops.foldl step s

/-- What a history does to the hub. -/
def history (s : Station) : List StationOp → List HubOp
  | [] => []
  | op :: ops => s.hubOps op ++ (s.step op).history ops

theorem after_cons (s : Station) (op : StationOp) (ops : List StationOp) :
    s.after (op :: ops) = (s.step op).after ops := rfl

theorem after_append (s : Station) (xs ys : List StationOp) :
    s.after (xs ++ ys) = (s.after xs).after ys := List.foldl_append

/-! ### The hub of a station -/

@[simp] theorem hub_read (s : Station) (id : Nat) : (s.read id).1.hub = s.hub := by
  unfold read
  split <;> rfl

@[simp] theorem hub_leave (s : Station) (id : Nat) : (s.leave id).hub = s.hub := by
  unfold leave
  split <;> rfl

/-- Whatever happens does to the hub what its operations do. -/
theorem hub_step (s : Station) (op : StationOp) : (s.step op).hub = s.hub.after (s.hubOps op) := by
  cases op with
  | hub op =>
    simp only [step, hubOps]
    split <;> rfl
  | start g transport watchesClient =>
    simp only [step, hubOps]
    split <;> rfl
  | move id m =>
    simp only [step, hubOps]
    split
    · rfl
    · split
      · rfl
      · next h => exact Relay.hub_of_move h
  | read id => exact hub_read s id
  | leave id => exact hub_leave s id
  | drain =>
    simp only [step, hubOps]
    split <;> rfl
  | dropTrigger => rfl
  | advance ms => rfl

theorem hub_after (s : Station) (ops : List StationOp) :
    (s.after ops).hub = s.hub.after (s.history ops) := by
  induction ops generalizing s with
  | nil => rfl
  | cons op ops ih => rw [after_cons, ih, hub_step, history, Hub.after_append]

theorem history_append (s : Station) (xs ys : List StationOp) :
    s.history (xs ++ ys) = s.history xs ++ (s.after xs).history ys := by
  induction xs generalizing s with
  | nil => rfl
  | cons op xs ih => rw [List.cons_append, history, history, ih, List.append_assoc, after_cons]

/-- Only programs record events at a station, and each is recorded once. -/
theorem recorded_hubOps (s : Station) (op : StationOp) :
    recorded (s.hubOps op) = op.event?.toList := by
  cases op with
  | hub op =>
    cases op with
    | record e => rfl
    | _ =>
      simp only [hubOps]
      split <;> rfl
  | move id m =>
    simp only [hubOps]
    split
    · rfl
    · split
      · rfl
      · exact Relay.recorded_uses _ _ _
  | _ => rfl

theorem recorded_history (s : Station) (ops : List StationOp) :
    recorded (s.history ops) = ops.filterMap StationOp.event? := by
  induction ops generalizing s with
  | nil => rfl
  | cons op ops ih =>
    rw [history, recorded_append, recorded_hubOps, ih, ← List.singleton_append,
      List.filterMap_append]
    cases he : op.event? <;> simp [he]

/-! ### Subscriptions of relays -/

theorem mem_of_relay? {s : Station} {id : Nat} {r : Relay} (h : s.relay? id = some r) :
    r ∈ s.relays ∧ r.subscription = id :=
  ⟨List.mem_of_find?_eq_some h, by simpa using List.find?_some h⟩

theorem isFree_iff {s : Station} {id : Nat} :
    s.isFree id = true ↔ ∀ r ∈ s.relays, r.subscription ≠ id := by
  simp [isFree, relay?]

theorem mem_setRelay {s : Station} {r o : Relay} (h : o ∈ (s.setRelay r).relays) :
    o = r ∨ o ∈ s.relays ∧ o.subscription ≠ r.subscription := by
  obtain ⟨a, ha, rfl⟩ := List.mem_map.mp h
  by_cases he : a.subscription = r.subscription
  · exact .inl (if_pos he)
  · rw [if_neg he]
    exact .inr ⟨ha, he⟩

theorem subscriptions_setRelay (s : Station) (r : Relay) :
    (s.setRelay r).relays.map (·.subscription) = s.relays.map (·.subscription) := by
  change (s.relays.map _).map _ = _
  rw [List.map_map]
  apply List.map_congr_left
  intro o _
  simp only [Function.comp_apply]
  split
  · next h => exact h.symm
  · rfl

/-- Each relay serves a subscription of its own, which is at the hub as long as the relay runs. -/
structure Sound (s : Station) : Prop where
  coherent : s.hub.Coherent
  nodup : (s.relays.map (·.subscription)).Nodup
  known : ∀ r ∈ s.relays, r.subscription < s.hub.nextId
  held : ∀ r ∈ s.relays, ∀ kind,
    r.subscription ∈ s.hub.idsOf kind ↔ r.hasEnded = false ∧ kind = r.kind

theorem sound_ofDepth (depth : Nat) : (ofDepth depth).Sound where
  coherent := Hub.coherent_ofDepth depth
  nodup := .nil
  known _ h := absurd h List.not_mem_nil
  held _ h := absurd h List.not_mem_nil

/-- No relay has the number that is given out next. -/
theorem Sound.isFree_nextId {s : Station} (w : s.Sound) : s.isFree s.hub.nextId = true :=
  isFree_iff.mpr fun r hr ↦ Nat.ne_of_lt (w.known r hr)

/-- A relay is replaced by one of the same subscription, and no other subscription comes or goes. -/
theorem Sound.replace {s t : Station} {r r' : Relay} (w : s.Sound) (hr : r ∈ s.relays)
    (hs : r'.subscription = r.subscription) (ht : t.relays = (s.setRelay r').relays)
    (coherent : t.hub.Coherent) (next : s.hub.nextId ≤ t.hub.nextId)
    (others : ∀ id ≠ r.subscription, ∀ kind, id ∈ t.hub.idsOf kind ↔ id ∈ s.hub.idsOf kind)
    (own : ∀ kind, r.subscription ∈ t.hub.idsOf kind ↔ r'.hasEnded = false ∧ kind = r'.kind) :
    t.Sound where
  coherent := coherent
  nodup := by
    rw [ht, subscriptions_setRelay]
    exact w.nodup
  known := by
    intro o ho
    rw [ht] at ho
    rcases mem_setRelay ho with rfl | ⟨ho, _⟩
    · rw [hs]
      exact Nat.lt_of_lt_of_le (w.known r hr) next
    · exact Nat.lt_of_lt_of_le (w.known o ho) next
  held := by
    intro o ho kind
    rw [ht] at ho
    rcases mem_setRelay ho with rfl | ⟨ho, hne⟩
    · rw [hs]
      exact own kind
    · rw [hs] at hne
      exact (others _ hne kind).trans (w.held o ho kind)

/-- What a client does leaves the relay's subscription alone. -/
theorem Sound.setOutbox {s : Station} (w : s.Sound) {r : Relay} (hr : r ∈ s.relays)
    (outbox : Outbox) : (s.setRelay { r with outbox }).Sound := by
  have same : ({ r with outbox } : Relay).subscription = r.subscription := rfl
  exact w.replace hr same rfl w.coherent (Nat.le_refl _) (fun _ _ _ ↦ Iff.rfl) (w.held r hr)

/-- A program does not touch the subscriptions of relays. -/
theorem Sound.hubStep {s : Station} (w : s.Sound) {op : HubOp}
    (hfree : op.subject?.all s.isFree = true) :
    ({ s with hub := (s.hub.step op).1 } : Station).Sound where
  coherent := Hub.coherent_step w.coherent op
  nodup := w.nodup
  known r hr := Nat.lt_of_lt_of_le (w.known r hr) (Hub.nextId_step s.hub op)
  held := by
    intro r hr kind
    have hnext : r.subscription ≠ s.hub.nextId := Nat.ne_of_lt (w.known r hr)
    have hdrop : op ≠ .drop kind r.subscription := by
      rintro rfl
      have free : s.isFree r.subscription = true := by simpa [HubOp.subject?] using hfree
      exact isFree_iff.mp free r hr rfl
    rw [← w.held r hr kind]
    simp [Hub.mem_idsOf_step, hnext, hdrop]

/-- Operations that name no subscription of a relay leave all of them alone. -/
theorem Sound.hubAfter {s : Station} (w : s.Sound) {ops : List HubOp}
    (hfree : ∀ op ∈ ops, op.subject?.all s.isFree = true) :
    ({ s with hub := s.hub.after ops } : Station).Sound := by
  induction ops generalizing s with
  | nil => exact w
  | cons op ops ih =>
    have first := w.hubStep (hfree op List.mem_cons_self)
    exact ih first fun o ho ↦ hfree o (List.mem_cons_of_mem _ ho)

/-- Only the hub and the relays of a station matter for its soundness. -/
theorem Sound.congr {s t : Station} (w : s.Sound) (hub : t.hub = s.hub)
    (relays : t.relays = s.relays) : t.Sound := by
  obtain ⟨coherent, nodup, known, held⟩ := w
  rw [← hub] at coherent
  rw [← relays] at nodup
  rw [← hub, ← relays] at known held
  exact ⟨coherent, nodup, known, held⟩

/-- A new relay gets a subscription that is at the hub and that no other relay has. -/
theorem Sound.spawn {s : Station} (w : s.Sound) {r : Relay}
    (hfree : s.isFree r.subscription = true) (hid : r.subscription ∈ s.hub.idsOf r.kind)
    (hr : r.hasEnded = false) : (s.spawn r).Sound where
  coherent := w.coherent
  nodup := by
    rw [Station.spawn, List.map_append, List.nodup_append]
    refine ⟨w.nodup, List.nodup_singleton _, ?_⟩
    intro i hi j hj hij
    obtain ⟨o, ho, rfl⟩ := List.mem_map.mp hi
    rw [List.map_singleton, List.mem_singleton] at hj
    exact isFree_iff.mp hfree o ho (hij.trans hj)
  known := by
    intro o ho
    rcases List.mem_append.mp ho with ho | ho
    · exact w.known o ho
    · rw [List.mem_singleton.mp ho]
      exact w.coherent.lt_next _ (Hub.mem_ids_iff.mpr ⟨_, hid⟩)
  held := by
    intro o ho kind
    rcases List.mem_append.mp ho with ho | ho
    · exact w.held o ho kind
    · rw [List.mem_singleton.mp ho]
      constructor
      · intro hk
        exact ⟨hr, w.coherent.kind_unique hk hid⟩
      · rintro ⟨_, rfl⟩
        exact hid

/-- A relay that moves drops its own subscription when it ends, and no other. -/
theorem Sound.apply {s : Station} (w : s.Sound) {r : Relay} (hr : r ∈ s.relays) {m : Move}
    {f : Fired} (hf : r.move s.surroundings m = some f) : (s.apply r f).1.Sound := by
  obtain ⟨running, onward⟩ := Relay.onward_of_move hf
  have hhub : (s.apply r f).1.hub = s.hub.after (r.uses m f) := Relay.hub_of_move hf
  have hmem (kind : StreamKind) (id : Nat) : id ∈ (s.apply r f).1.hub.idsOf kind ↔
      id ∈ s.hub.idsOf kind ∧ .drop kind id ∉ r.uses m f := by
    rw [hhub]
    exact Hub.mem_idsOf_after (Relay.subscribe_not_mem_uses r m f)
  refine w.replace hr onward.subscription rfl ?_ ?_ ?_ ?_
  · rw [hhub]
    exact Hub.coherent_after w.coherent _
  · rw [hhub]
    exact Hub.nextId_after s.hub _
  · intro id hne kind
    rw [hmem, Relay.drop_mem_uses_iff]
    simp [hne]
  · intro kind
    rw [hmem, Relay.drop_mem_uses_iff, w.held r hr kind, running, onward.kind]
    cases f.relay.hasEnded <;> simp

/-- Whatever happens, relays keep holding their subscriptions until they end. -/
theorem sound_step {s : Station} (w : s.Sound) (op : StationOp) : (s.step op).Sound := by
  cases op with
  | hub op =>
    simp only [step]
    split
    · next hfree => exact w.hubStep hfree
    · exact w
  | start g transport watchesClient =>
    simp only [step]
    split
    · next h => exact w.spawn h.1 h.2 rfl
    · exact w
  | move id m =>
    simp only [step]
    split
    · exact w
    · next hr =>
      split
      · exact w
      · next hf => exact w.apply (mem_of_relay? hr).1 hf
  | read id =>
    simp only [step, read]
    split
    · exact w
    · next hr => exact w.setOutbox (mem_of_relay? hr).1 _
  | leave id =>
    simp only [step, leave]
    split
    · exact w
    · next hr => exact w.setOutbox (mem_of_relay? hr).1 _
  | drain =>
    simp only [step]
    split
    · exact ⟨w.coherent, w.nodup, w.known, w.held⟩
    · exact w
  | dropTrigger => exact ⟨w.coherent, w.nodup, w.known, w.held⟩
  | advance ms => exact ⟨w.coherent, w.nodup, w.known, w.held⟩

theorem sound_after {s : Station} (w : s.Sound) (ops : List StationOp) : (s.after ops).Sound := by
  induction ops generalizing s with
  | nil => exact w
  | cons op ops ih => exact ih (sound_step w op)

end Station

end Gatehouse

import Gatehouse.Proofs.Hub.Ledger
import Gatehouse.Proofs.Hub.Windows
import Gatehouse.Proofs.Stream.Relay

/-!
# What a relay does with its items

A relay hands each item that it takes, an event or the counts of a period, to the outbox before it
does anything else. So at each moment it owes its client one item at most: the one for which it
waits for room, or the one whose push failed and ended the relay.
-/

namespace Gatehouse

theorem Transport.goneFault_ne_evictedFault (t : Transport) : t.goneFault ≠ Relay.evictedFault := by
  cases t with
  | channel capacity => simp [goneFault, Relay.evictedFault]
  | socket ws =>
    intro same
    -- The two texts differ in their first characters.
    have texts := congrArg String.toList (Fault.delivery.inj same)
    rw [String.toList_append] at texts
    exact absurd (congrArg List.head? texts) (by simp)

/-- An item that is taken is queued behind the others. -/
theorem Outbox.eq_of_offer {o o' : Outbox} {item : Item} (h : o.offer item = .taken o') :
    o' = { o with queue := o.queue.push item } := by
  unfold offer at h
  split at h
  · split at h
    · cases h
      rfl
    · cases h
  · cases h

/-- A push fails exactly when the client is gone. -/
theorem Outbox.offer_eq_failed_iff {o : Outbox} {item : Item} {fault : Fault} :
    o.offer item = .failed fault ↔ o.clientHere = false ∧ fault = o.transport.goneFault := by
  unfold offer
  cases o.clientHere with
  | true => cases o.hasRoom <;> simp
  | false => simp [eq_comm]

/-- What a client reads is the oldest of what is on its way. -/
theorem Outbox.toList_read (o : Outbox) :
    o.read.2.toList ++ o.read.1.queue.toList = o.queue.toList := by
  unfold read
  split
  · next item queue hp => exact (Queue.toList_of_pop? hp).symm
  · rfl

theorem Outbox.clientHere_read (o : Outbox) : o.read.1.clientHere = o.clientHere := by
  unfold read
  split <;> rfl

theorem Outbox.transport_read (o : Outbox) : o.read.1.transport = o.transport := by
  unfold read
  split <;> rfl

/-- The items that one subscription gave out, in order: the events that its polls found, and the
counts that its flushes took. -/
def items (id : Nat) (trace : List (HubOp × HubAnswer)) : List Item :=
  trace.filterMap fun
    | (.poll i, .polled found) => if i = id then found.event?.map .event else none
    | (.flush i, .flushed counts) => if i = id then some (.snapshot counts) else none
    | _ => none

theorem items_append (id : Nat) (xs ys : List (HubOp × HubAnswer)) :
    items id (xs ++ ys) = items id xs ++ items id ys := List.filterMap_append

/-- What a subscription gives out in one operation. -/
theorem items_step (h : Hub) (id : Nat) (op : HubOp) :
    items id [(op, (h.step op).2)] =
      if op = .poll id then (h.poll id).2.event?.toList.map .event
      else if op = .flush id then [.snapshot (h.flush id).2] else [] := by
  cases op with
  | poll i =>
    by_cases hi : i = id
    · subst hi
      cases hp : (h.poll i).2 <;> simp [items, Hub.step, hp, Poll.event?]
    · simp [items, Hub.step, hi]
  | flush i =>
    by_cases hi : i = id
    · subst hi
      simp [items, Hub.step]
    · simp [items, Hub.step, hi]
  | _ => rfl

theorem items_cons (h : Hub) (id : Nat) (op : HubOp) (ops : List HubOp) :
    items id (h.trace (op :: ops)) =
      items id [(op, (h.step op).2)] ++ items id ((h.step op).1.trace ops) :=
  items_append id [(op, (h.step op).2)] ((h.step op).1.trace ops)

/-- Operations that leave a subscription alone take nothing from it. -/
theorem items_of_subject_ne {h : Hub} {id : Nat} {ops : List HubOp}
    (hops : ∀ op ∈ ops, op.subject? ≠ some id) : items id (h.trace ops) = [] := by
  induction ops generalizing h with
  | nil => rfl
  | cons op ops ih =>
    have poll : op ≠ .poll id := by
      rintro rfl
      exact hops _ List.mem_cons_self rfl
    have flush : op ≠ .flush id := by
      rintro rfl
      exact hops _ List.mem_cons_self rfl
    rw [items_cons, items_step, if_neg poll, if_neg flush,
      ih fun o ho ↦ hops o (List.mem_cons_of_mem _ ho)]
    rfl

/-- Without flushes a subscription gives out the events that it receives. -/
theorem items_of_flush_not_mem {h : Hub} {id : Nat} {ops : List HubOp} (quiet : .flush id ∉ ops) :
    items id (h.trace ops) = (received id (h.trace ops)).map .event := by
  induction ops generalizing h with
  | nil => rfl
  | cons op ops ih =>
    rw [items_cons, items_step, if_neg (List.ne_of_not_mem_cons quiet).symm,
      ih (List.not_mem_of_not_mem_cons quiet), Hub.received_cons, Hub.received_step,
      List.map_append]
    split <;> rfl

/-- Without polls a subscription gives out the counts that its flushes take. -/
theorem items_of_poll_not_mem {h : Hub} {id : Nat} {ops : List HubOp} (quiet : .poll id ∉ ops) :
    items id (h.trace ops) = (flushes id (h.trace ops)).map .snapshot := by
  induction ops generalizing h with
  | nil => rfl
  | cons op ops ih =>
    rw [items_cons, items_step, if_neg (List.ne_of_not_mem_cons quiet).symm,
      ih (List.not_mem_of_not_mem_cons quiet), Hub.flushes_cons, Hub.flushes_step, List.map_append]
    split <;> rfl

namespace Relay

/-- What a move of a relay is: the relay, its surroundings, the move, and the relay and the hub
afterwards. -/
inductive Acts (r : Relay) (s : Surroundings) : Move → Fired → Prop
  | start (created : r.phase = .created) : Acts r s (.branch .start) ⟨r.started s.clock, s.hub, []⟩
  | receive {e : Event} (waiting : r.phase = .waiting) (events : r.feed = .events)
      (found : (s.hub.poll r.subscription).2 = .event e) :
      Acts r s (.branch .receive) (r.hand (.event e) (s.hub.poll r.subscription).1)
  | tick {period : Period} {due : Nat} (waiting : r.phase = .waiting)
      (counts : r.feed = .counts period due) (late : due ≤ s.clock) :
      Acts r s (.branch .tick)
        ({ r with feed := .counts period (period.next due s.clock) }.hand
          (.snapshot (s.hub.flush r.subscription).2) (s.hub.flush r.subscription).1)
  | cutOff (waiting : r.phase = .waiting) (events : r.feed = .events)
      (drained : (s.hub.poll r.subscription).2 = .ended) :
      Acts r s (.branch .receive)
        (r.finish (.error evictedFault) (s.hub.poll r.subscription).1)
  | gone (waiting : r.phase = .waiting) (watches : r.watchesClient = true)
      (left : r.outbox.clientHere = false) :
      Acts r s (.branch .gone) (r.finish (.ok .clientGone) s.hub)
  | lose (waiting : r.phase = .waiting) : Acts r s .lose (r.finish (.ok .clientGone) s.hub)
  | drain (waiting : r.phase = .waiting) (draining : s.channel.draining = true) :
      Acts r s (.branch .drain) (r.finish (.ok .draining) s.hub)
  | push {item : Item} (pushing : r.phase = .pushing item) (ready : r.outbox.offer item ≠ .full) :
      Acts r s (.branch .push) (r.hand item s.hub)

/-- A relay makes no other moves than these. -/
theorem acts_of_move {r : Relay} {s : Surroundings} {m : Move} {f : Fired}
    (h : r.move s m = some f) : r.Acts s m f := by
  cases m with
  | lose =>
    simp only [move] at h
    split at h
    · next hp =>
      cases h
      exact .lose hp
    · cases h
  | branch b =>
    change r.fire b s = some f at h
    unfold fire at h
    split at h
    · next hp =>
      cases h
      exact .start hp
    · next hp =>
      unfold receive at h
      split at h
      · cases h
      · next events =>
        split at h
        · next hub e hpoll =>
          cases h
          have found : (s.hub.poll r.subscription).2 = .event e := congrArg Prod.snd hpoll
          rw [show hub = (s.hub.poll r.subscription).1 from congrArg Prod.fst hpoll.symm]
          exact .receive hp events found
        · next hub hpoll =>
          cases h
          have drained : (s.hub.poll r.subscription).2 = .ended := congrArg Prod.snd hpoll
          rw [show hub = (s.hub.poll r.subscription).1 from congrArg Prod.fst hpoll.symm]
          exact .cutOff hp events drained
        · cases h
    · next hp =>
      unfold tick at h
      split at h
      · cases h
      · next period due counts =>
        split at h
        · next late =>
          cases h
          exact .tick hp counts late
        · cases h
    · next hp =>
      split at h
      · next ready =>
        cases h
        obtain ⟨watches, left⟩ := Bool.and_eq_true_iff.mp ready
        exact .gone hp watches (by simpa using left)
      · cases h
    · next hp =>
      split at h
      · next ready =>
        cases h
        exact .drain hp ready
      · cases h
    · next item hp =>
      split at h
      · cases h
      · next ready =>
        cases h
        exact .push hp ready
    · cases h

/-- The items that a relay took and that are not on their way to its client. -/
def Owes (r : Relay) (items : List Item) : Prop :=
  match r.phase with
  | .created => items = []
  | .waiting => items = []
  | .pushing item => items = [item]
  | .ended (.ok _) => items = []
  | .ended (.error fault) =>
    (fault = evictedFault ∧ items = []) ∨
      ∃ item, r.outbox.offer item = .failed fault ∧ items = [item]

/-- What a client does changes nothing about what it is owed. -/
theorem Owes.setOutbox {r : Relay} {owed : List Item} (w : r.Owes owed) {o : Outbox}
    (gone : r.outbox.clientHere = false → o.clientHere = false)
    (transport : o.transport = r.outbox.transport) :
    ({ r with outbox := o } : Relay).Owes owed := by
  unfold Owes at w ⊢
  cases hp : r.phase with
  | ended outcome =>
    cases outcome with
    | ok reason => simpa [hp] using w
    | error fault =>
      simp only [hp] at w ⊢
      rcases w with cut | ⟨item, failed, lost⟩
      · exact .inl cut
      · refine .inr ⟨item, ?_, lost⟩
        rw [Outbox.offer_eq_failed_iff] at failed ⊢
        exact ⟨gone failed.1, by rw [transport, failed.2]⟩
  | _ => simpa [hp] using w

/-- A relay that was cut off owes nothing. -/
theorem Owes.of_evictedFault {r : Relay} {owed : List Item} (w : r.Owes owed)
    (h : r.phase = .ended (.error evictedFault)) : owed = [] := by
  simp only [Owes, h] at w
  rcases w with ⟨_, nothing⟩ | ⟨item, failed, _⟩
  · exact nothing
  · exact absurd (Outbox.offer_eq_failed_iff.mp failed).2.symm
      (Transport.goneFault_ne_evictedFault _)

/-- An item that is handed over is on its way, or the relay owes it. -/
theorem owes_hand (r : Relay) (item : Item) (hub : Hub) :
    ∃ owed, (r.hand item hub).relay.Owes owed ∧
      (r.hand item hub).relay.outbox.queue.toList ++ owed = r.outbox.queue.toList ++ [item] := by
  unfold hand
  split
  · next outbox taken => exact ⟨[], rfl, by simp [Outbox.eq_of_offer taken]⟩
  · exact ⟨[item], rfl, rfl⟩
  · next fault failed => exact ⟨[item], .inr ⟨item, failed, rfl⟩, rfl⟩

/-- What a relay takes from its subscription in a move. -/
theorem items_uses (r : Relay) (hub : Hub) (m : Move) (f : Fired) :
    items r.subscription (hub.trace (r.uses m f)) =
      match m with
      | .branch .receive => (hub.poll r.subscription).2.event?.toList.map .event
      | .branch .tick => [.snapshot (hub.flush r.subscription).2]
      | _ => [] := by
  have tail (k : Hub) : items r.subscription
      (k.trace (if f.relay.hasEnded then [.drop r.kind r.subscription] else [])) = [] := by
    cases f.relay.hasEnded <;> rfl
  rw [uses, Hub.trace_append, items_append, tail, List.append_nil]
  cases m with
  | lose => rfl
  | branch b =>
    cases b with
    | receive => exact (items_step hub r.subscription (.poll r.subscription)).trans (if_pos rfl)
    | tick => exact (items_step hub r.subscription (.flush r.subscription)).trans (if_pos rfl)
    | _ => rfl

/-- Only a logging relay receives. -/
theorem Acts.kind_of_receive {r : Relay} {s : Surroundings} {f : Fired}
    (w : r.Acts s (.branch .receive) f) : r.kind = .logging := by
  cases w with
  | receive waiting events found => rw [kind, events]
  | cutOff waiting events drained => rw [kind, events]

/-- Only a statistics relay ticks. -/
theorem Acts.kind_of_tick {r : Relay} {s : Surroundings} {f : Fired}
    (w : r.Acts s (.branch .tick) f) : r.kind = .statistics := by
  cases w with
  | tick waiting counts late => rw [kind, counts]

/-- In a move, what the relay takes is added to what is on its way or owed, behind the rest. -/
theorem Acts.account {r : Relay} {s : Surroundings} {m : Move} {f : Fired} (w : r.Acts s m f)
    {owed : List Item} (owes : r.Owes owed) :
    ∃ owed', f.relay.Owes owed' ∧
      f.relay.outbox.queue.toList ++ owed' =
        r.outbox.queue.toList ++ owed ++
          items r.subscription (s.hub.trace (r.uses m f)) := by
  rw [items_uses]
  cases w with
  | start created =>
    obtain rfl : owed = [] := by simpa [Owes, created] using owes
    exact ⟨[], rfl, by simp [started]⟩
  | receive waiting events found =>
    obtain rfl : owed = [] := by simpa [Owes, waiting] using owes
    simpa [found, Poll.event?] using owes_hand r _ _
  | tick waiting counts late =>
    obtain rfl : owed = [] := by simpa [Owes, waiting] using owes
    simpa using owes_hand _ _ _
  | cutOff waiting events drained =>
    obtain rfl : owed = [] := by simpa [Owes, waiting] using owes
    exact ⟨[], .inl ⟨rfl, rfl⟩, by simp [finish, drained, Poll.event?]⟩
  | gone waiting watches left =>
    obtain rfl : owed = [] := by simpa [Owes, waiting] using owes
    exact ⟨[], rfl, by simp [finish]⟩
  | lose waiting =>
    obtain rfl : owed = [] := by simpa [Owes, waiting] using owes
    exact ⟨[], rfl, by simp [finish]⟩
  | drain waiting draining =>
    obtain rfl : owed = [] := by simpa [Owes, waiting] using owes
    exact ⟨[], rfl, by simp [finish]⟩
  | push pushing ready =>
    obtain rfl : owed = [_] := by simpa [Owes, pushing] using owes
    simpa using owes_hand r _ _

/-- A relay that hands over an item does not end well, nor for the reason that it was cut off. -/
theorem phase_hand {r : Relay} {item : Item} {hub : Hub} {outcome : Except Fault StreamEnd}
    (h : (r.hand item hub).relay.phase = .ended outcome) :
    outcome = .error r.outbox.transport.goneFault := by
  unfold hand at h
  split at h
  · cases h
  · cases h
  · next fault failed =>
    cases h
    rw [(Outbox.offer_eq_failed_iff.mp failed).2]

/-- Only a relay that finds its mailbox cut off and empty ends as one that was cut off. -/
theorem Acts.of_evictedFault {r : Relay} {s : Surroundings} {m : Move} {f : Fired}
    (w : r.Acts s m f) (h : f.relay.phase = .ended (.error evictedFault)) :
    (s.hub.poll r.subscription).2 = .ended := by
  cases w with
  | cutOff waiting events drained => exact drained
  | receive waiting events found =>
    exact absurd (Except.error.inj (phase_hand h)).symm (Transport.goneFault_ne_evictedFault _)
  | tick waiting counts late =>
    exact absurd (Except.error.inj (phase_hand h)).symm (Transport.goneFault_ne_evictedFault _)
  | push pushing ready =>
    exact absurd (Except.error.inj (phase_hand h)).symm (Transport.goneFault_ne_evictedFault _)
  | _ => cases h

/-- Handing over an item changes nothing about a relay but its outbox and what it is doing. -/
theorem hand_keeps (r : Relay) (item : Item) (hub : Hub) :
    (r.hand item hub).relay.feed = r.feed ∧
      (r.hand item hub).relay.watchesClient = r.watchesClient ∧
      (r.hand item hub).relay.outbox.clientHere = r.outbox.clientHere := by
  unfold hand
  split
  · next outbox taken => exact ⟨rfl, rfl, by rw [Outbox.eq_of_offer taken]⟩
  · exact ⟨rfl, rfl, rfl⟩
  · exact ⟨rfl, rfl, rfl⟩

/-- A move leaves a logging relay what it is. -/
theorem Acts.keeps {r : Relay} {s : Surroundings} {m : Move} {f : Fired} (w : r.Acts s m f)
    (events : r.feed = .events) :
    f.relay.feed = .events ∧ f.relay.watchesClient = r.watchesClient ∧
      f.relay.outbox.clientHere = r.outbox.clientHere := by
  rw [← events]
  cases w with
  | start created => exact ⟨by simp [started, events], rfl, rfl⟩
  | receive waiting events found => exact hand_keeps _ _ _
  | tick waiting counts late => cases events.symm.trans counts
  | push pushing ready => exact hand_keeps _ _ _
  | _ => exact ⟨rfl, rfl, rfl⟩

/-- The relay has begun, and its items travel as before. -/
structure Begun (r : Relay) (f : Fired) : Prop where
  started : f.relay.hasStarted = true
  transport : f.relay.outbox.transport = r.outbox.transport

theorem begun_finish (r : Relay) (outcome : Except Fault StreamEnd) (hub : Hub) :
    r.Begun (r.finish outcome hub) := ⟨rfl, rfl⟩

theorem begun_hand (r : Relay) (item : Item) (hub : Hub) : r.Begun (r.hand item hub) := by
  unfold hand
  split
  · next outbox taken => exact ⟨rfl, by rw [Outbox.eq_of_offer taken]⟩
  · exact ⟨rfl, rfl⟩
  · exact begun_finish r _ hub

/-- A relay that makes a move has begun, with this move or before. -/
theorem Acts.begun {r : Relay} {s : Surroundings} {m : Move} {f : Fired} (w : r.Acts s m f) :
    r.Begun f := by
  cases w with
  | start created => exact ⟨rfl, rfl⟩
  | receive waiting events found => exact begun_hand r _ _
  | tick waiting counts late => exact ⟨(begun_hand _ _ _).started, (begun_hand _ _ _).transport⟩
  | push pushing ready => exact begun_hand r _ _
  | _ => exact begun_finish r _ _

end Relay

end Gatehouse

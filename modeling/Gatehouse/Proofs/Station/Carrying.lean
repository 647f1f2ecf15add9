import Gatehouse.Proofs.Station.Relaying

/-!
# Events on their way through a steady relay

A relay is steady while its client stays and the gateway does not drain. The events of its
subscription then move from the mailbox through the hand of the relay and its channel to the client,
and none is lost on the way. Records add to them until one cuts the subscription off, and the relay
ends when it finds the end of the mailbox.
-/

namespace Gatehouse

namespace Hub

/-- Without a record nothing is delivered. -/
theorem deliveredTo_of_quiet {h : Hub} {id : Nat} {ops : List HubOp} (quiet : recorded ops = []) :
    h.deliveredTo id ops = [] := by
  induction ops generalizing h with
  | nil => rfl
  | cons op ops ih =>
    cases op with
    | record e => cases quiet
    | _ => exact ih quiet

/-- Without a record a mailbox is registered as before and no fuller. -/
theorem mailbox?_of_quiet {h : Hub} (w : h.Coherent) {id : Nat} (given : id < h.nextId)
    {ops : List HubOp} (quiet : recorded ops = []) {m' : Mailbox}
    (found' : (h.after ops).mailbox? id = some m') :
    ∃ m, h.mailbox? id = some m ∧ m'.registered = m.registered ∧
      m'.queue.size ≤ m.queue.size := by
  induction ops generalizing h with
  | nil => exact ⟨m', found', rfl, Nat.le_refl _⟩
  | cons op ops ih =>
    have rest : recorded ops = [] := by
      cases op with
      | record e => cases quiet
      | _ => exact quiet
    obtain ⟨m₁, found₁, registered₁, size₁⟩ :=
      ih (coherent_step w op) (Nat.lt_of_lt_of_le given (nextId_step h op)) rest found'
    cases found : h.mailbox? id with
    | none =>
      rw [mailbox?_step_none found given op] at found₁
      cases found₁
    | some m =>
      have live : op ≠ .drop .logging id := by
        rintro rfl
        rw [show (h.step (.drop .logging id)).1.mailbox? id = none from
          (mailbox?_dropLogging h id id).trans (if_pos rfl)] at found₁
        cases found₁
      rw [mailbox?_step w found live] at found₁
      cases found₁
      refine ⟨m, rfl, registered₁.trans ?_, size₁.trans ?_⟩
      · cases op with
        | record e => cases quiet
        | poll i =>
          rw [Mailbox.react]
          split
          · exact m.registered_poll
          · rfl
        | _ => rfl
      · have block := congrArg List.length (block_step found op)
        rw [show h.delivers id op = [] by cases op <;> first | rfl | cases quiet] at block
        simp only [List.length_append, Queue.length_toList, List.append_nil] at block
        omega

/-- A subscription that is spent stays so. -/
theorem Spent.spent_after {h : Hub} (coherent : h.Coherent) {id : Nat} (w : h.Spent id)
    (ops : List HubOp) : (h.after ops).Spent id := by
  induction ops generalizing h with
  | nil => exact w
  | cons op ops ih => exact ih (coherent_step coherent op) (w.step coherent op).1

end Hub

/-- Only an item that has room is taken. -/
theorem Outbox.hasRoom_of_taken {o o' : Outbox} {item : Item} (h : o.offer item = .taken o') :
    o.hasRoom = true := by
  unfold offer at h
  split at h
  · split at h
    · next room => exact room
    · cases h
  · cases h

namespace Relay

/-- A logging relay over a channel whose client is there and which holds no more items than it has
room for. -/
structure Steady (r : Relay) (capacity : Nat) : Prop where
  events : r.feed = .events
  transport : r.outbox.transport = .channel capacity
  here : r.outbox.clientHere = true
  within : r.outbox.queue.size ≤ capacity

variable {r : Relay} {capacity : Nat}

/-- What a client reads does not unsettle its relay. -/
theorem Steady.read (w : r.Steady capacity) :
    ({ r with outbox := r.outbox.read.1 } : Relay).Steady capacity where
  events := w.events
  transport := r.outbox.transport_read.trans w.transport
  here := r.outbox.clientHere_read.trans w.here
  within := by
    have split := congrArg List.length r.outbox.toList_read
    rw [List.length_append, Queue.length_toList, Queue.length_toList] at split
    have := w.within
    change r.outbox.read.1.queue.size ≤ capacity
    omega

/-- A steady relay that hands over an item goes on. -/
theorem Steady.hand (w : r.Steady capacity) (item : Item) (hub : Hub) :
    (r.hand item hub).relay.Steady capacity ∧ (r.hand item hub).relay.hasEnded = false := by
  unfold Relay.hand
  split
  · next outbox taken =>
    refine ⟨⟨w.events, ?_, ?_, ?_⟩, rfl⟩ <;> rw [Outbox.eq_of_offer taken]
    · exact w.transport
    · exact w.here
    · have room := Outbox.hasRoom_of_taken taken
      rw [Outbox.hasRoom, w.transport] at room
      exact of_decide_eq_true room
  · exact ⟨⟨w.events, w.transport, w.here, w.within⟩, rfl⟩
  · next fault failed =>
    have gone := (Outbox.offer_eq_failed_iff.mp failed).1
    exact absurd (gone.symm.trans w.here) Bool.false_ne_true

/-- Unless the gateway drains or the relay is told that its client is gone, a steady relay ends only
when it finds that its subscription was cut off. -/
theorem Steady.acts (w : r.Steady capacity) {s : Surroundings} (calm : s.channel.draining = false)
    {m : Move} (kept : m ≠ .lose) {f : Fired} (acts : r.Acts s m f) :
    f.relay.Steady capacity ∧
      (f.relay.hasEnded = true → f.relay.phase = .ended (.error evictedFault)) := by
  have going {g : Fired} (h : g.relay.Steady capacity ∧ g.relay.hasEnded = false) :
      g.relay.Steady capacity ∧
        (g.relay.hasEnded = true → g.relay.phase = .ended (.error evictedFault)) :=
    ⟨h.1, fun ended ↦ absurd (h.2.symm.trans ended) Bool.false_ne_true⟩
  cases acts with
  | start created =>
    exact going ⟨⟨by simp [started, w.events], w.transport, w.here, w.within⟩, rfl⟩
  | receive waiting events found => exact going (w.hand _ _)
  | tick waiting counts late => cases w.events.symm.trans counts
  | cutOff waiting events drained => exact ⟨⟨w.events, w.transport, w.here, w.within⟩, fun _ ↦ rfl⟩
  | gone waiting watches left => exact absurd (left.symm.trans w.here) Bool.false_ne_true
  | lose waiting => exact absurd rfl kept
  | drain waiting draining => exact absurd (calm.symm.trans draining) Bool.false_ne_true
  | push pushing ready => exact going (w.hand _ _)

/-- What happens at a station leaves a relay steady, as long as it does not touch its client. -/
theorem Steady.react (w : r.Steady capacity) {s : Surroundings}
    (calm : s.channel.draining = false) {op : StationOp} (stays : op ≠ .leave r.subscription)
    (kept : op ≠ .move r.subscription .lose) :
    (r.react s op).Steady capacity ∧
      ((r.react s op).hasEnded = true →
        r.hasEnded = true ∨ (r.react s op).phase = .ended (.error evictedFault)) := by
  cases op with
  | move i m =>
    rw [Relay.react]
    split
    · next own =>
      subst own
      cases hf : r.move s m with
      | none => exact ⟨w, .inl⟩
      | some f =>
        have lose : m ≠ .lose := by
          rintro rfl
          exact kept rfl
        obtain ⟨steady, ended⟩ := w.acts calm lose (acts_of_move hf)
        exact ⟨steady, fun h ↦ .inr (ended h)⟩
    · exact ⟨w, .inl⟩
  | read i =>
    rw [Relay.react]
    split
    · exact ⟨w.read, .inl⟩
    · exact ⟨w, .inl⟩
  | leave i =>
    rw [Relay.react]
    split
    · next own => exact absurd (congrArg StationOp.leave own) stays
    · exact ⟨w, .inl⟩
  | _ => exact ⟨w, .inl⟩

end Relay

/-- Only records of programs are recorded. -/
theorem StationOp.event?_eq_none {op : StationOp} (other : ¬∃ e, op = .hub (.record e)) :
    op.event? = none := by
  cases op with
  | hub op =>
    cases op with
    | record e => exact absurd ⟨e, rfl⟩ other
    | _ => rfl
  | _ => rfl

namespace Station

/-- Whether what happens next cuts a subscription off. -/
def evicts (s : Station) (id : Nat) : StationOp → Bool
  | .hub (.record e) => decide (id ∈ (s.hub.record e).2.evicted)
  | _ => false

theorem evicts_eq_false {s : Station} {id : Nat} {op : StationOp}
    (other : ¬∃ e, op = .hub (.record e)) : s.evicts id op = false := by
  cases op with
  | hub op =>
    cases op with
    | record e => exact absurd ⟨e, rfl⟩ other
    | _ => rfl
  | _ => rfl

/-- How far the events of a block have come on their way to the client of a steady relay: what was
read, what is in the channel and what the relay owes was taken from the block, and the rest of the
block is in the mailbox. The mailbox is registered until a record cuts it off, and the relay runs
until it has found the end of the mailbox. -/
structure Carries (s : Station) (id capacity : Nat) (read : List Item) (block : List Event)
    (cut : Bool) (r : Relay) : Prop where
  found : s.relay? id = some r
  steady : r.Steady capacity
  mailbox : ∀ m, s.hub.mailbox? id = some m →
    m.registered = !cut ∧ m.queue.size ≤ s.hub.depth
  whole : ∃ owed taken, r.Owes owed ∧
    read ++ r.outbox.queue.toList ++ owed = taken.map .event ∧ s.hub.Ledger id taken block ∧
    (r.hasEnded = true → taken = block)
  ended : r.hasEnded = true →
    r.phase = .ended (.error Relay.evictedFault) ∧ cut = true ∧ s.hub.Spent id

section

variable {s : Station} {id capacity : Nat} {read : List Item} {block : List Event} {cut : Bool}
  {r : Relay} {op : StationOp}

/-- The mailbox of a relay that runs. -/
theorem Carries.exists_mailbox (sound : s.Sound) (w : s.Carries id capacity read block cut r)
    (running : r.hasEnded = false) : ∃ m, s.hub.mailbox? id = some m := by
  obtain ⟨mem, rfl⟩ := mem_of_relay? w.found
  have held : r.subscription ∈ s.hub.idsOf .logging := by
    refine (sound.held r mem .logging).mpr ⟨running, ?_⟩
    rw [Relay.kind, w.steady.events]
  exact Hub.exists_mailbox held

/-- A relay that has ended after what happens next has found, by then, the end of a mailbox that was
cut off. -/
theorem Carries.spent_of_ends (sound : s.Sound) (w : s.Carries id capacity read block cut r)
    (calm : s.channel.draining = false) (stays : op ≠ .leave id) (kept : op ≠ .move id .lose)
    (ends : (r.react s.surroundings op).hasEnded = true) :
    (r.react s.surroundings op).phase = .ended (.error Relay.evictedFault) ∧ cut = true ∧
      s.hub.Spent id := by
  obtain ⟨mem, hid⟩ := mem_of_relay? w.found
  cases running : r.hasEnded with
  | true =>
    obtain ⟨phase, gone, spent⟩ := w.ended running
    exact ⟨phase_react_of_ended phase op, gone, spent⟩
  | false =>
    rw [← hid] at stays kept
    have phase := ((w.steady.react calm stays kept).2 ends).resolve_left
      (by rw [running]; exact Bool.false_ne_true)
    -- Only a move of its own ends a relay, and this one found the end of the mailbox.
    have finds : (s.hub.poll id).2 = .ended := by
      by_cases hop : ∃ m, op = .move r.subscription m
      · obtain ⟨m, rfl⟩ := hop
        rw [Relay.react, if_pos rfl] at phase
        cases hf : r.move s.surroundings m with
        | none =>
          rw [hf] at phase
          simp [Relay.hasEnded, show r.phase = _ from phase] at running
        | some f =>
          rw [hf] at phase
          rw [← hid]
          exact (Relay.acts_of_move hf).of_evictedFault phase
      · rw [phase_react fun m he ↦ hop ⟨m, he⟩] at phase
        simp [Relay.hasEnded, phase] at running
    obtain ⟨m, found⟩ := w.exists_mailbox sound running
    have spent := Hub.spent_of_ended sound.coherent (Hub.mem_idsOf_of_mailbox? found) finds
    refine ⟨phase, ?_, spent⟩
    have registered := (w.mailbox m found).1
    rw [(spent.cut m found).1] at registered
    cases cut with
    | true => rfl
    | false => cases registered

/-- What happens next does to the mailbox what it does to the subscription. -/
theorem Carries.mailbox_step (sound : s.Sound) (w : s.Carries id capacity read block cut r)
    (op : StationOp) : ∀ m, (s.step op).hub.mailbox? id = some m →
      m.registered = !(cut || s.evicts id op) ∧ m.queue.size ≤ (s.step op).hub.depth := by
  intro m' found'
  obtain ⟨mem, hid⟩ := mem_of_relay? w.found
  have given : id < s.hub.nextId := hid ▸ sound.known r mem
  rw [hub_step] at found' ⊢
  rw [Hub.depth_after]
  by_cases hop : ∃ e, op = .hub (.record e)
  · obtain ⟨e, rfl⟩ := hop
    change (s.hub.step (.record e)).1.mailbox? id = some m' at found'
    cases found : s.hub.mailbox? id with
    | none =>
      rw [Hub.mailbox?_step_none found given] at found'
      cases found'
    | some m =>
      have live : HubOp.record e ≠ .drop .logging id := nofun
      rw [Hub.mailbox?_step sound.coherent found live] at found'
      cases found'
      obtain ⟨registered, size⟩ := w.mailbox m found
      have evicted := Hub.mem_evicted_iff e found
      rw [Mailbox.react, Mailbox.registered_offer, registered, evicts]
      constructor
      · cases cut <;> simp [evicted]
      · by_cases room : m.registered = true ∧ m.queue.size < s.hub.depth
        · rw [Mailbox.offer_of_room e room.1 room.2]
          exact room.2
        · unfold Mailbox.offer
          split
          · next listed =>
            rw [if_neg fun free ↦ room ⟨listed, free⟩]
            exact size
          · exact size
  · have quiet : recorded (s.hubOps op) = [] := by
      rw [recorded_hubOps, StationOp.event?_eq_none hop]
      rfl
    obtain ⟨m, found, registered, size⟩ := Hub.mailbox?_of_quiet sound.coherent given quiet found'
    obtain ⟨registered₁, size₁⟩ := w.mailbox m found
    rw [evicts_eq_false hop, Bool.or_false]
    exact ⟨registered.trans registered₁, size.trans size₁⟩

/-- One thing that happens moves events on and loses none. -/
theorem Carries.step (sound : s.Sound) (w : s.Carries id capacity read block cut r)
    (calm : s.channel.draining = false) (stays : op ≠ .leave id) (kept : op ≠ .move id .lose) :
    (s.step op).Carries id capacity (read ++ s.reading id op)
      (block ++ s.hub.deliveredTo id (s.hubOps op)) (cut || s.evicts id op)
      (r.react s.surroundings op) := by
  obtain ⟨mem, hid⟩ := mem_of_relay? w.found
  obtain ⟨owed, taken, owes, handed, ledger, final⟩ := w.whole
  obtain ⟨owed', owes', account⟩ := account_step w.found owes op
  have unflushed : .flush id ∉ s.hubOps op := by
    intro flushes
    have kind := (kind_of_hubOps w.found op).2 flushes
    rw [Relay.kind, w.steady.events] at kind
    cases kind
  rw [items_of_flush_not_mem unflushed] at account
  have ends := w.spent_of_ends sound calm stays kept
  rw [← hid] at stays kept
  refine ⟨relay?_step w.found op, (w.steady.react calm stays kept).1, w.mailbox_step sound op,
    ⟨owed', taken ++ received id (s.hub.trace (s.hubOps op)), owes', ?_, ?_, ?_⟩, ?_⟩
  · rw [List.map_append, ← handed]
    simp only [List.append_assoc] at account ⊢
    rw [account]
  · rw [hub_step]
    exact ledger.after sound.coherent (s.hubOps op)
  · intro ended
    obtain ⟨_, _, spent⟩ := ends ended
    obtain ⟨silent, dry⟩ := spent.after sound.coherent (s.hubOps op)
    rw [silent, dry, List.append_nil, List.append_nil]
    cases running : r.hasEnded with
    | true => exact final running
    | false =>
      obtain ⟨m, found⟩ := w.exists_mailbox sound running
      have block := ledger.block m found
      rwa [(spent.cut m found).2, List.append_nil] at block
  · intro ended
    obtain ⟨phase, gone, spent⟩ := ends ended
    refine ⟨phase, by rw [gone, Bool.true_or], ?_⟩
    rw [hub_step]
    exact spent.spent_after sound.coherent _

/-- Until its subscription is cut off, and with the event that does it left out, each event that is
recorded is delivered. -/
theorem Carries.delivered (sound : s.Sound) (w : s.Carries id capacity read block cut r)
    (op : StationOp) : s.hub.deliveredTo id (s.hubOps op) =
      if cut || s.evicts id op then [] else op.event?.toList := by
  by_cases hop : ∃ e, op = .hub (.record e)
  · obtain ⟨e, rfl⟩ := hop
    change s.hub.delivers id (.record e) ++ [] = _
    rw [List.append_nil, Hub.delivers, evicts]
    cases found : s.hub.mailbox? id with
    | none =>
      have gone : cut = true := by
        cases running : r.hasEnded with
        | true => exact (w.ended running).2.1
        | false =>
          obtain ⟨m, there⟩ := w.exists_mailbox sound running
          rw [found] at there
          cases there
      simp [gone]
    | some m =>
      have registered := (w.mailbox m found).1
      have evicted := Hub.mem_evicted_iff e found
      rw [Mailbox.isFull] at evicted
      rw [Option.any_some, Mailbox.hasRoom, registered]
      rw [registered] at evicted
      by_cases room : m.queue.size < s.hub.depth <;> cases cut <;>
        simp [evicted, room, StationOp.event?, HubOp.event?]
  · have none : op.event? = none := StationOp.event?_eq_none hop
    have quiet : recorded (s.hubOps op) = [] := by
      rw [recorded_hubOps, none]
      rfl
    rw [Hub.deliveredTo_of_quiet quiet, none]
    exact (ite_self _).symm

variable {ops : List StationOp}

/-- Nothing gets behind the block of a subscription that was cut off. -/
theorem Carries.after_cut (sound : s.Sound) (w : s.Carries id capacity read block true r)
    (calm : s.channel.draining = false) (undrained : .drain ∉ ops) (stays : .leave id ∉ ops)
    (kept : .move id .lose ∉ ops) :
    ∃ r', (s.after ops).Carries id capacity (read ++ s.reads id ops) block true r' := by
  induction ops generalizing s read r with
  | nil => exact ⟨r, by simpa [reads, Station.after] using w⟩
  | cons op ops ih =>
    have next := w.step sound calm (List.ne_of_not_mem_cons stays).symm
      (List.ne_of_not_mem_cons kept).symm
    rw [w.delivered sound, Bool.true_or, if_pos rfl, List.append_nil] at next
    obtain ⟨r', w'⟩ := ih (sound_step sound op) next
      (calm_step calm (List.ne_of_not_mem_cons undrained).symm)
      (List.not_mem_of_not_mem_cons undrained) (List.not_mem_of_not_mem_cons stays)
      (List.not_mem_of_not_mem_cons kept)
    refine ⟨r', ?_⟩
    rwa [reads, ← List.append_assoc]

/-- The subscription was cut off by a record of the history, and holds what was recorded before. -/
structure CutBy (s : Station) (id capacity : Nat) (read : List Item) (block : List Event)
    (ops past : List StationOp) (e : Event) (later : List StationOp) : Prop where
  split : ops = past ++ .hub (.record e) :: later
  evicts : id ∈ ((s.after past).hub.record e).2.evicted
  before : ∃ r, (s.after past).Carries id capacity (read ++ s.reads id past)
    (block ++ past.filterMap StationOp.event?) false r
  now : ∃ r, (s.after ops).Carries id capacity (read ++ s.reads id ops)
    (block ++ past.filterMap StationOp.event?) true r

/-- All that is recorded gets on its way, up to a record that cuts the subscription off. -/
theorem Carries.after (sound : s.Sound) (w : s.Carries id capacity read block false r)
    (calm : s.channel.draining = false) (undrained : .drain ∉ ops) (stays : .leave id ∉ ops)
    (kept : .move id .lose ∉ ops) :
    (∃ r', (s.after ops).Carries id capacity (read ++ s.reads id ops)
      (block ++ ops.filterMap StationOp.event?) false r') ∨
    ∃ past e later, s.CutBy id capacity read block ops past e later := by
  induction ops generalizing s read block r with
  | nil => exact .inl ⟨r, by simpa [reads, Station.after] using w⟩
  | cons op ops ih =>
    have sound₁ := sound_step sound op
    have calm₁ := calm_step calm (List.ne_of_not_mem_cons undrained).symm
    have next := w.step sound calm (List.ne_of_not_mem_cons stays).symm
      (List.ne_of_not_mem_cons kept).symm
    rw [w.delivered sound, Bool.false_or] at next
    cases evicting : s.evicts id op with
    | true =>
      rw [evicting, if_pos rfl, List.append_nil] at next
      obtain ⟨e, rfl⟩ : ∃ e, op = .hub (.record e) := by
        by_contra other
        rw [evicts_eq_false other] at evicting
        cases evicting
      obtain ⟨r', now⟩ := next.after_cut sound₁ calm₁ (List.not_mem_of_not_mem_cons undrained)
        (List.not_mem_of_not_mem_cons stays) (List.not_mem_of_not_mem_cons kept)
      have before : (s.after []).Carries id capacity (read ++ s.reads id [])
          (block ++ [].filterMap StationOp.event?) false r := by
        simpa [reads, Station.after] using w
      refine .inr ⟨[], e, ops, rfl, of_decide_eq_true evicting, ⟨r, before⟩, r', ?_⟩
      rw [reads, ← List.append_assoc, List.filterMap_nil, List.append_nil]
      exact now
    | false =>
      rw [evicting, if_neg Bool.false_ne_true] at next
      have news (ops : List StationOp) : block ++ (op :: ops).filterMap StationOp.event? =
          block ++ op.event?.toList ++ ops.filterMap StationOp.event? := by
        cases h : op.event? <;> simp [h]
      rcases ih sound₁ next calm₁ (List.not_mem_of_not_mem_cons undrained)
        (List.not_mem_of_not_mem_cons stays) (List.not_mem_of_not_mem_cons kept) with
        ⟨r', w'⟩ | ⟨past, e, later, split, evicts, ⟨r₁, before⟩, r₂, now⟩
      · refine .inl ⟨r', ?_⟩
        rwa [reads, ← List.append_assoc, news]
      · refine .inr ⟨op :: past, e, later, congrArg _ split, evicts, ⟨r₁, ?_⟩, r₂, ?_⟩
        · rwa [reads, ← List.append_assoc, news]
        · rwa [reads, ← List.append_assoc, news]

end

end Station

end Gatehouse

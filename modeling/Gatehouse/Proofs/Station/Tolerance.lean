import Gatehouse.Proofs.Station.Carrying

/-!
# How slow a client may be

What a logging client has not read fills its channel first, then the hand of the relay, then the
mailbox at the hub. When relays go on as far as they can before anything else happens, the three
fill up in this order. So the record that cuts a subscription off is the first that finds as many
events unread as there is room for in all three.
-/

namespace Gatehouse

/-- Whether the operation is something that a relay does by itself. -/
def StationOp.isFiring : StationOp → Bool
  | .move _ (.branch _) => true
  | _ => false

namespace Station

section

variable {s : Station} {id capacity : Nat} {read : List Item} {block : List Event} {cut : Bool}
  {r : Relay}

/-- What a relay that can do nothing is at: it waits and everything is in its channel, it holds an
item for which the channel has no room, or it has ended and everything is in its channel. -/
inductive AtRest (s : Station) (id capacity : Nat) (read : List Item) (block : List Event)
    (cut : Bool) (r : Relay) : Prop
  | waiting (m : Mailbox) (found : s.hub.mailbox? id = some m) (running : r.hasEnded = false)
      (listed : cut = false) (empty : m.queue.size = 0)
      (whole : read ++ r.outbox.queue.toList = block.map .event)
  | pushing (m : Mailbox) (found : s.hub.mailbox? id = some m) (running : r.hasEnded = false)
      (item : Item) (full : r.outbox.queue.size = capacity)
      (whole : read ++ r.outbox.queue.toList ++ item :: m.queue.toList.map .event =
        block.map .event)
  | ended (phase : r.phase = .ended (.error Relay.evictedFault)) (gone : cut = true)
      (whole : read ++ r.outbox.queue.toList = block.map .event)

theorem Carries.atRest (sound : s.Sound) (w : s.Carries id capacity read block cut r)
    (rest : ∀ b, r.fire b s.surroundings = none) : s.AtRest id capacity read block cut r := by
  obtain ⟨owed, taken, owes, handed, ledger, final⟩ := w.whole
  have hid := (mem_of_relay? w.found).2
  cases phase : r.phase with
  | created =>
    have begins := rest .start
    simp [Relay.fire, phase] at begins
  | waiting =>
    have running : r.hasEnded = false := by rw [Relay.hasEnded, phase]
    obtain ⟨m, found⟩ := w.exists_mailbox sound running
    obtain rfl : owed = [] := by simpa [Relay.Owes, phase] using owes
    -- A relay that waits would take an event, and would see the end of its mailbox.
    have pending : (s.hub.poll id).2 = .pending := by
      have quiet := rest .receive
      simp only [Relay.fire, phase, Relay.receive, w.steady.events, hid] at quiet
      split at quiet
      · cases quiet
      · cases quiet
      · next h => exact congrArg Prod.snd h
    rw [Hub.poll_eq found] at pending
    cases hq : m.queue.toList with
    | cons e rest =>
      obtain ⟨queue, _, hp⟩ := Mailbox.poll_of_cons hq
      rw [hp] at pending
      cases pending
    | nil =>
      rw [Mailbox.poll_of_nil hq, (w.mailbox m found).1] at pending
      refine .waiting m found running (by cases cut <;> simp at pending ⊢) ?_ ?_
      · rw [← Queue.length_toList, hq, List.length_nil]
      · have block := ledger.block m found
        rw [hq, List.append_nil] at block
        rw [← block, ← handed, List.append_nil]
  | pushing item =>
    have running : r.hasEnded = false := by rw [Relay.hasEnded, phase]
    obtain ⟨m, found⟩ := w.exists_mailbox sound running
    obtain rfl : owed = [item] := by simpa [Relay.Owes, phase] using owes
    have full : r.outbox.offer item = .full := by
      have quiet := rest .push
      simp only [Relay.fire, phase] at quiet
      split at quiet
      · next full => exact full
      · cases quiet
    refine .pushing m found running item ?_ ?_
    · have room := (Relay.offer_eq_full_iff.mp full).2
      rw [Outbox.hasRoom, w.steady.transport] at room
      exact Nat.le_antisymm w.steady.within (Nat.le_of_not_lt (of_decide_eq_false room))
    · rw [← ledger.block m found, List.map_append, ← handed, List.append_assoc, List.append_assoc]
      simp
  | ended outcome =>
    have finished : r.hasEnded = true := by rw [Relay.hasEnded, phase]
    obtain ⟨same, gone, _⟩ := w.ended finished
    obtain rfl : owed = [] := owes.of_evictedFault same
    refine .ended same gone ?_
    rw [← final finished, ← handed, List.append_nil]

/-- What was read is the beginning of the block. -/
theorem Carries.isPrefix (w : s.Carries id capacity read block cut r) :
    read <+: block.map .event := by
  obtain ⟨owed, taken, _, handed, ledger, _⟩ := w.whole
  refine List.IsPrefix.trans ?_ (ledger.isPrefix.map Item.event)
  rw [← handed, List.append_assoc]
  exact List.prefix_append _ _

/-- The hub lists a subscription until it is cut off. -/
theorem Carries.mem_loggers_iff (sound : s.Sound)
    (w : s.Carries id capacity read block cut r) : id ∈ s.hub.loggers ↔ cut = false := by
  constructor
  · intro listed
    obtain ⟨m, found⟩ := Hub.exists_mailbox (sound.coherent.loggers.subset listed)
    have registered := (w.mailbox m found).1
    rw [(Hub.mem_loggers_iff found).mp listed] at registered
    cases cut with
    | false => rfl
    | true => cases registered
  · rintro rfl
    have running : r.hasEnded = false := by
      cases running : r.hasEnded with
      | false => rfl
      | true => cases (w.ended running).2.1
    obtain ⟨m, found⟩ := w.exists_mailbox sound running
    exact (Hub.mem_loggers_iff found).mpr (w.mailbox m found).1

/-- What the client reads next is the next event of the block. -/
theorem AtRest.read_eq (room : 0 < capacity) (found : s.relay? id = some r)
    (w : s.AtRest id capacity read block cut r) :
    (s.read id).2 = (block[read.length]?).map .event := by
  have next (o : Outbox) : o.read.2 = o.queue.toList.head? := by
    unfold Outbox.read
    split
    · next item queue hp => rw [Queue.toList_of_pop? hp, List.head?_cons]
    · next hp => rw [Queue.pop?_eq_none_iff.mp hp, List.head?_nil]
  have first {xs ys : List Item} (ready : ys = [] ∨ xs ≠ [])
      (whole : read ++ xs ++ ys = block.map .event) :
      xs.head? = (block[read.length]?).map .event := by
    rw [← List.getElem?_map, ← whole, List.append_assoc, List.getElem?_append_right (Nat.le_refl _),
      Nat.sub_self, ← List.head?_eq_getElem?, List.head?_append]
    rcases ready with rfl | some
    · simp
    · rw [List.head?_eq_some_head some, Option.some_or]
  have item : (s.read id).2 = r.outbox.queue.toList.head? := by rw [Station.read, found, ← next]
  rw [item]
  cases w with
  | waiting m _ running listed empty whole =>
    exact first (.inl rfl) ((List.append_nil _).trans whole)
  | pushing m _ running item full whole =>
    refine first (.inr fun none ↦ ?_) whole
    rw [← Queue.length_toList, none, List.length_nil] at full
    exact absurd room (full ▸ Nat.lt_irrefl 0)
  | ended phase gone whole => exact first (.inl rfl) ((List.append_nil _).trans whole)

/-- A record cuts the subscription off when the channel, the hand of the relay and the mailbox are
full. -/
theorem AtRest.mem_evicted_iff (w : s.Carries id capacity read block false r)
    (rest : s.AtRest id capacity read block false r) (e : Event) :
    id ∈ (s.hub.record e).2.evicted ↔
      read.length + (capacity + 1 + s.hub.depth) = block.length := by
  have evicted {m : Mailbox} (found : s.hub.mailbox? id = some m) :
      id ∈ (s.hub.record e).2.evicted ↔ m.queue.size = s.hub.depth := by
    have cuts := Hub.mem_evicted_iff e found
    obtain ⟨registered, size⟩ := w.mailbox m found
    rw [Mailbox.isFull, registered] at cuts
    rw [cuts]
    simp
    omega
  have positive := s.hub.depth_pos
  have within := w.steady.within
  cases rest with
  | waiting m found running listed empty whole =>
    have total := congrArg List.length whole
    simp only [List.length_append, List.length_map, Queue.length_toList] at total
    rw [evicted found]
    omega
  | pushing m found running item full whole =>
    have total := congrArg List.length whole
    simp only [List.length_append, List.length_cons, List.length_map, Queue.length_toList] at total
    rw [evicted found]
    omega
  | ended phase gone whole => cases gone

/-- A relay whose subscription was cut off has ended when everything was handed to its channel. -/
theorem AtRest.ended_iff (w : s.AtRest id capacity read block true r) :
    r.phase = .ended (.error Relay.evictedFault) ↔
      read ++ r.outbox.queue.toList = block.map .event := by
  cases w with
  | waiting m found running listed empty whole => cases listed
  | pushing m found running item full whole =>
    refine iff_of_false ?_ ?_
    · intro phase
      rw [Relay.hasEnded, phase] at running
      cases running
    · intro all
      rw [← all] at whole
      simpa using congrArg List.length whole
  | ended phase gone whole => exact iff_of_true phase whole

end

/-- Relays go on as far as they can before anything else happens. -/
def Eager (s : Station) : List StationOp → Prop
  | [] => True
  | op :: ops => (op.isFiring = false → s.Idle) ∧ (s.step op).Eager ops

instance (s : Station) : Decidable s.Idle :=
  decidable_of_iff (s.fireFirst.isNone = true)
    (Option.isNone_iff_eq_none.trans fireFirst_eq_none_iff)

instance decidableEager : (s : Station) → (ops : List StationOp) → Decidable (s.Eager ops)
  | _, [] => .isTrue trivial
  | s, op :: ops =>
    have := decidableEager (s.step op) ops
    inferInstanceAs (Decidable ((op.isFiring = false → s.Idle) ∧ (s.step op).Eager ops))

theorem Eager.idle {s : Station} {past later : List StationOp} {op : StationOp}
    (w : s.Eager (past ++ op :: later)) (outside : op.isFiring = false) : (s.after past).Idle := by
  induction past generalizing s with
  | nil => exact w.1 outside
  | cons first past ih => exact ih w.2

/-- A station on which a logging stream was opened and started. -/
def withLogging (s : Station) (capacity : Nat) (watchesClient : Bool) : Station :=
  s.after [.hub (.subscribe .logging),
    .start ⟨s.hub.nextId, .events⟩ (.channel capacity) watchesClient]

theorem carries_withLogging {s : Station} (sound : s.Sound) (capacity : Nat)
    (watchesClient : Bool) :
    ∃ r, (s.withLogging capacity watchesClient).Carries s.hub.nextId capacity [] [] false r := by
  let g : Grant := ⟨s.hub.nextId, .events⟩
  let listed := s.step (.hub (.subscribe .logging))
  have hub : (s.withLogging capacity watchesClient).hub = s.hub.subscribeLogging.1 :=
    hub_step listed (.start g (.channel capacity) watchesClient)
  have free : listed.isFree g.subscription = true := sound.isFree_nextId
  have held : g.subscription ∈ listed.hub.idsOf g.kind := by
    change s.hub.nextId ∈ (s.hub.subscribe .logging).1.idsOf .logging
    rw [Hub.idsOf_subscribe, if_pos rfl]
    exact List.mem_append_right _ (List.mem_singleton_self _)
  have found := start_of_free free held (.channel capacity) watchesClient
  have mailbox : (s.withLogging capacity watchesClient).hub.mailbox? s.hub.nextId =
      some ⟨s.hub.nextId, .empty, true⟩ := by
    rw [hub]
    exact Hub.mailbox?_subscribeLogging sound.coherent
  refine ⟨_, found, ⟨rfl, rfl, rfl, Nat.zero_le _⟩, ?_, ⟨[], [], rfl, rfl, ?_, nofun⟩, nofun⟩
  · intro m there
    rw [mailbox] at there
    cases there
    exact ⟨rfl, Nat.zero_le _⟩
  · refine ⟨List.prefix_rfl, fun m there ↦ ?_, fun _ ↦ rfl⟩
    rw [mailbox] at there
    cases there
    rfl

/-- How much a client may leave unread. A logging stream over a channel is started on its
subscription at once, the relays always go on as far as they can, the client stays and the gateway
does not drain. Until the subscription is cut off, the client reads every event since the opening in
order, and a record cuts it off exactly if it finds as many of them unread as there is room for:
those that fill the channel, one in the hand of the relay, and those that fill the mailbox. From
then on the client reads the rest of what was recorded before that record, which are just so many
events, and nothing else. The stream ends with the fault of eviction, for no other reason, when all
of them were handed to the channel and not earlier. -/
theorem client_may_leave_unread (depth : Nat) (before : List StationOp) (capacity : Nat)
    (watchesClient : Bool) (ops : List StationOp) :
    let start := (ofDepth depth).after before
    let id := start.hub.nextId
    let opened := start.withLogging capacity watchesClient
    let s := opened.after ops
    let room := capacity + 1 + max depth 1
    let read := opened.reads id ops
    let news := ops.filterMap StationOp.event?
    0 < capacity → start.channel.draining = false → .drain ∉ ops → .leave id ∉ ops →
      .move id .lose ∉ ops → opened.Eager ops →
    ∃ r, s.relay? id = some r ∧
      ((id ∈ s.hub.loggers ∧ r.hasEnded = false ∧ read <+: news.map .event ∧
        (s.Idle → (s.read id).2 = (news[read.length]?).map .event ∧
          ∀ e, id ∈ (s.hub.record e).2.evicted ↔ read.length + room = news.length)) ∨
      ∃ past e later, ops = past ++ .hub (.record e) :: later ∧
        let block := past.filterMap StationOp.event?
        id ∈ ((opened.after past).hub.record e).2.evicted ∧
        (opened.reads id past).length + room = block.length ∧
        id ∉ s.hub.loggers ∧ (∀ e, id ∉ (s.hub.record e).2.evicted) ∧
        read <+: block.map .event ∧
        (∀ outcome, r.phase = .ended outcome → outcome = .error Relay.evictedFault ∧
          read ++ r.outbox.queue.toList = block.map .event) ∧
        (s.Idle → (s.read id).2 = (block[read.length]?).map .event ∧
          (r.phase = .ended (.error Relay.evictedFault) ↔
            read ++ r.outbox.queue.toList = block.map .event))) := by
  intro start id opened s room read news positive calm undrained stays kept eager
  have sound : start.Sound := sound_after (sound_ofDepth depth) before
  have sound₀ : opened.Sound := sound_after sound _
  obtain ⟨r₀, w₀⟩ := carries_withLogging sound capacity watchesClient
  have calm₀ : opened.channel.draining = false := calm_after calm (by simp)
  have holds (ops : List StationOp) : (opened.after ops).hub.depth = max depth 1 := by
    rw [hub_after, Hub.depth_after]
    change (start.after _).hub.depth = _
    rw [hub_after, Hub.depth_after, hub_after, Hub.depth_after]
    rfl
  have rule {past : List StationOp} {read : List Item} {block : List Event} {r : Relay}
      (w : (opened.after past).Carries id capacity read block false r)
      (idle : (opened.after past).Idle) (e : Event) :
      id ∈ ((opened.after past).hub.record e).2.evicted ↔ read.length + room = block.length := by
    have sound := sound_after sound₀ past
    have rest := w.atRest sound fun b ↦ idle r (mem_of_relay? w.found).1 b
    rw [rest.mem_evicted_iff w e, holds past]
  have sound' : s.Sound := sound_after sound₀ ops
  rcases w₀.after sound₀ calm₀ undrained stays kept with
    ⟨r, w⟩ | ⟨past, e, later, split, evicts, ⟨r₁, w₁⟩, r, w⟩
  · rw [List.nil_append, List.nil_append] at w
    have listed := (w.mem_loggers_iff sound').mpr rfl
    refine ⟨r, w.found, .inl ⟨listed, ?_, w.isPrefix, fun idle ↦ ⟨?_, ?_⟩⟩⟩
    · cases running : r.hasEnded with
      | false => rfl
      | true => cases (w.ended running).2.1
    · exact (w.atRest sound' fun b ↦ idle r (mem_of_relay? w.found).1 b).read_eq positive w.found
    · exact rule w idle
  · rw [List.nil_append, List.nil_append] at w₁ w
    have unlisted : id ∉ s.hub.loggers := by
      rw [w.mem_loggers_iff sound']
      exact Bool.noConfusion
    refine ⟨r, w.found, .inr ⟨past, e, later, split, evicts, ?_, unlisted,
      fun e cut ↦ unlisted ((Hub.evicted_sublist_loggers s.hub e).subset cut), w.isPrefix, ?_,
      fun idle ↦ ?_⟩⟩
    · rw [split] at eager
      exact (rule w₁ (eager.idle rfl) e).mp evicts
    · intro outcome ended
      have finished : r.hasEnded = true := by rw [Relay.hasEnded, ended]
      have phase := (w.ended finished).1
      rw [ended] at phase
      obtain ⟨owed, taken, owes, handed, _, final⟩ := w.whole
      obtain rfl : owed = [] := owes.of_evictedFault (w.ended finished).1
      refine ⟨Phase.ended.inj phase, ?_⟩
      rw [← final finished, ← handed, List.append_nil]
    · have rest := w.atRest sound' fun b ↦ idle r (mem_of_relay? w.found).1 b
      exact ⟨rest.read_eq positive w.found, rest.ended_iff⟩

/-- Over a channel for one item and with a mailbox for one event a client may leave three events
unread. The fourth record cuts it off, and the stream ends while the client reads the three. -/
theorem client_may_leave_unread_of_three :
    let call (consumer : String) : Event := ⟨consumer, "/Biz/Add", "127.0.0.1:1"⟩
    let opened := (ofDepth 1).withLogging 1 true
    let filling : List StationOp := [.move 1 (.branch .start), .hub (.record (call "a")),
      .move 1 (.branch .receive), .hub (.record (call "b")), .move 1 (.branch .receive),
      .hub (.record (call "c"))]
    let reading : List StationOp := [.hub (.record (call "d")), .read 1, .move 1 (.branch .push),
      .move 1 (.branch .receive), .read 1, .move 1 (.branch .push), .move 1 (.branch .receive)]
    let full := opened.after filling
    let s := opened.after (filling ++ reading)
    full.Idle ∧ 1 ∈ (full.hub.record (call "d")).2.evicted ∧ s.Idle ∧
      opened.reads 1 (filling ++ reading) = [.event (call "a"), .event (call "b")] ∧
      (s.read 1).2 = some (.event (call "c")) ∧
      ∃ r, s.relay? 1 = some r ∧ r.phase = .ended (.error Relay.evictedFault) := by
  intro call opened filling reading full s
  have runs : opened.Eager filling ∧ opened.Eager (filling ++ reading) ∧ full.Idle ∧ s.Idle ∧
      1 ∈ full.hub.loggers ∧ (s.relay? 1).map (·.hasEnded) = some true := by
    decide +kernel
  obtain ⟨eager, eager', rest, rest', listed, finished⟩ := runs
  have unread : (opened.reads 1 filling).length + 3 =
      (filling.filterMap StationOp.event?).length := by
    decide +kernel
  have shown : opened.reads 1 (filling ++ reading) = [.event (call "a"), .event (call "b")] ∧
      (s.read 1).2 = some (.event (call "c")) := by
    decide +kernel
  obtain ⟨_, _, follows | cutOff⟩ :=
    client_may_leave_unread 1 [] 1 true filling (by decide) rfl (by simp [filling])
      (by simp [filling]) (by simp [filling]) eager
  · obtain ⟨r, found, final⟩ :=
      client_may_leave_unread 1 [] 1 true (filling ++ reading) (by decide) rfl
        (by simp [filling, reading]) (by simp [filling, reading]) (by simp [filling, reading])
        eager'
    rw [show s.relay? 1 = some r from found] at finished
    have ended : r.hasEnded = true := Option.some.inj finished
    rcases final with follows' | ⟨_, _, _, _, cutOff⟩
    · rw [follows'.2.1] at ended
      cases ended
    · obtain ⟨_, _, _, _, _, ending, _⟩ := cutOff
      have evicted := ((follows.2.2.2 rest).2 (call "d")).mpr unread
      refine ⟨rest, evicted, rest', shown.1, shown.2, r, found, ?_⟩
      cases phase : r.phase with
      | ended outcome => rw [(ending outcome phase).1]
      | _ => simp [Relay.hasEnded, phase] at ended
  · obtain ⟨_, _, _, _, _, _, gone, _⟩ := cutOff
    exact absurd listed gone

end Station

end Gatehouse

import Gatehouse.Proofs.Hub.Membership
import Gatehouse.Proofs.Station.Draining
import Gatehouse.Proofs.Stream.Acts

/-!
# Events on their way to a client

Whatever else happens at a station, a relay is changed by its own moves and by what its client does,
and by nothing else. From these steps follows the account of a logging relay: each event that was
delivered to its subscription is with the client, on its way, with the relay, or still unread, in
this order.
-/

namespace Gatehouse

/-- What happens to one relay among others. -/
def Relay.react (s : Surroundings) (r : Relay) : StationOp → Relay
  | .move id m => if id = r.subscription then ((r.move s m).map (·.relay)).getD r else r
  | .read id => if id = r.subscription then { r with outbox := r.outbox.read.1 } else r
  | .leave id => if id = r.subscription then { r with outbox := r.outbox.leave } else r
  | _ => r

namespace Station

/-- The items that the client of a relay reads next. -/
def reading (s : Station) (id : Nat) : StationOp → List Item
  | .read i => if i = id then (s.read i).2.toList else []
  | _ => []

/-- The items that the client of a relay reads, in order. -/
def reads (s : Station) (id : Nat) : List StationOp → List Item
  | [] => []
  | op :: ops => s.reading id op ++ (s.step op).reads id ops

theorem reads_append (s : Station) (id : Nat) (xs ys : List StationOp) :
    s.reads id (xs ++ ys) = s.reads id xs ++ (s.after xs).reads id ys := by
  induction xs generalizing s with
  | nil => rfl
  | cons op xs ih => rw [List.cons_append, reads, reads, ih, List.append_assoc, after_cons]

/-! ### One relay among others -/

/-- A relay that is put in place of another is found under the subscription of both. -/
theorem relay?_setRelay {s : Station} {i : Nat} {r r' : Relay} (found : s.relay? i = some r)
    (same : r'.subscription = r.subscription) (id : Nat) :
    (s.setRelay r').relay? id = if id = i then some r' else s.relay? id := by
  have hi : r'.subscription = i := same.trans (mem_of_relay? found).2
  have key : ∀ o : Relay, (if o.subscription = r'.subscription then r' else o).subscription =
      o.subscription := by
    intro o
    split
    · next h => exact h.symm
    · rfl
  change (s.relays.map _).find? _ = _
  rw [List.find?_map]
  simp only [Function.comp_def, key]
  change (s.relay? id).map _ = _
  by_cases hid : id = i
  · subst hid
    rw [found, Option.map_some, if_pos rfl, if_pos same.symm]
  · rw [if_neg hid]
    cases other : s.relay? id with
    | none => rfl
    | some o =>
      have hne : o.subscription ≠ r'.subscription := by rwa [hi, (mem_of_relay? other).2]
      rw [Option.map_some, if_neg hne]

theorem relay?_setOutbox {s : Station} {i : Nat} {r : Relay} (found : s.relay? i = some r)
    (outbox : Outbox) (id : Nat) :
    (s.setRelay { r with outbox }).relay? id =
      if id = i then some { r with outbox } else s.relay? id := by
  have same : ({ r with outbox } : Relay).subscription = r.subscription := rfl
  exact relay?_setRelay found same id

/-- A relay is changed by its own moves and by its client. -/
theorem relay?_step {s : Station} {id : Nat} {r : Relay} (found : s.relay? id = some r)
    (op : StationOp) : (s.step op).relay? id = some (r.react s.surroundings op) := by
  have hid := (mem_of_relay? found).2
  cases op with
  | hub op =>
    simp only [step]
    split <;> exact found
  | start g transport watchesClient =>
    simp only [step]
    split
    · change (s.relays ++ [_]).find? _ = _
      rw [List.find?_append, show s.relays.find? _ = some r from found, Option.some_or]
      rfl
    · exact found
  | move i m =>
    by_cases hi : i = id
    · subst hi
      simp only [step, Relay.react, found, if_pos hid.symm]
      cases hf : r.move s.surroundings m with
      | none => exact found
      | some f =>
        change (s.setRelay f.relay).relay? i = some f.relay
        rw [relay?_setRelay found (Relay.onward_of_move hf).2.subscription, if_pos rfl]
    · simp only [step, Relay.react, hid, if_neg hi]
      split
      · exact found
      · next o other =>
        split
        · exact found
        · next f hf =>
          change (s.setRelay f.relay).relay? id = some r
          rw [relay?_setRelay other (Relay.onward_of_move hf).2.subscription,
            if_neg (Ne.symm hi), found]
  | read i =>
    by_cases hi : i = id
    · subst hi
      simp only [step, read, Relay.react, found, if_pos hid.symm]
      rw [relay?_setOutbox found, if_pos rfl]
    · simp only [step, read, Relay.react, hid, if_neg hi]
      split
      · exact found
      · next o other =>
        rw [relay?_setOutbox other, if_neg (Ne.symm hi), found]
  | leave i =>
    by_cases hi : i = id
    · subst hi
      simp only [step, leave, Relay.react, found, if_pos hid.symm]
      rw [relay?_setOutbox found, if_pos rfl]
    · simp only [step, leave, Relay.react, hid, if_neg hi]
      split
      · exact found
      · next o other =>
        rw [relay?_setOutbox other, if_neg (Ne.symm hi), found]
  | drain =>
    simp only [step]
    split <;> exact found
  | dropTrigger => exact found
  | advance ms => exact found

/-- Only a relay itself uses its subscription. -/
theorem subject_hubOps {s : Station} {id : Nat} {r : Relay} (found : s.relay? id = some r)
    {op : StationOp} (hop : ∀ m, op ≠ .move id m) : ∀ o ∈ s.hubOps op, o.subject? ≠ some id := by
  intro o ho
  cases op with
  | hub op =>
    simp only [hubOps] at ho
    split at ho
    · next free =>
      rw [List.mem_singleton.mp ho]
      intro subject
      rw [subject, Option.all_some, isFree, found] at free
      cases free
    · cases ho
  | move i m =>
    have hi : i ≠ id := by
      rintro rfl
      exact hop m rfl
    simp only [hubOps] at ho
    split at ho
    · cases ho
    · next other =>
      split at ho
      · cases ho
      · rw [Relay.subject_uses o ho, (mem_of_relay? other).2]
        exact fun he ↦ hi (Option.some.inj he)
  | _ => cases ho

/-! ### The account of a relay -/

/-- What happens at the station adds to what is with the client, on its way or owed just what the
relay takes. -/
theorem account_step {s : Station} {id : Nat} {r : Relay} (found : s.relay? id = some r)
    {owed : List Item} (owes : r.Owes owed) (op : StationOp) :
    ∃ owed', (r.react s.surroundings op).Owes owed' ∧
      s.reading id op ++ (r.react s.surroundings op).outbox.queue.toList ++ owed' =
        r.outbox.queue.toList ++ owed ++ items id (s.hub.trace (s.hubOps op)) := by
  have hid := (mem_of_relay? found).2
  by_cases hop : ∃ m, op = .move id m
  · obtain ⟨m, rfl⟩ := hop
    simp only [Relay.react, hid, hubOps, found, if_true, reading]
    cases hf : r.move s.surroundings m with
    | none => exact ⟨owed, owes, by simp [Hub.trace, items]⟩
    | some f =>
      obtain ⟨owed', owes', account⟩ := (Relay.acts_of_move hf).account owes
      rw [hid] at account
      exact ⟨owed', owes', account⟩
  · rw [items_of_subject_ne (subject_hubOps found fun m he ↦ hop ⟨m, he⟩), List.append_nil]
    cases op with
    | move i m =>
      have hi : i ≠ id := by
        rintro rfl
        exact hop ⟨m, rfl⟩
      simp only [Relay.react, hid, if_neg hi]
      exact ⟨owed, owes, rfl⟩
    | read i =>
      simp only [Relay.react, hid, reading]
      by_cases hi : i = id
      · subst hi
        have item : (s.read i).2 = r.outbox.read.2 := by rw [read, found]
        refine ⟨owed, ?_, ?_⟩
        · rw [if_pos rfl]
          exact owes.setOutbox (fun gone ↦ r.outbox.clientHere_read.trans gone)
            r.outbox.transport_read
        · rw [if_pos rfl, if_pos rfl, item, Outbox.toList_read]
      · rw [if_neg hi, if_neg hi]
        exact ⟨owed, owes, rfl⟩
    | leave i =>
      simp only [Relay.react, hid]
      by_cases hi : i = id
      · rw [if_pos hi]
        exact ⟨owed, owes.setOutbox (fun _ ↦ rfl) rfl, rfl⟩
      · rw [if_neg hi]
        exact ⟨owed, owes, rfl⟩
    | _ => exact ⟨owed, owes, rfl⟩

/-- The account of a relay: what is with its client, on its way or owed grows by just the items that
the relay takes, in order. -/
theorem account {s : Station} {id : Nat} {r : Relay} (found : s.relay? id = some r)
    {owed : List Item} (owes : r.Owes owed) (ops : List StationOp) :
    ∃ r' owed', (s.after ops).relay? id = some r' ∧ r'.Owes owed' ∧
      s.reads id ops ++ r'.outbox.queue.toList ++ owed' =
        r.outbox.queue.toList ++ owed ++ items id (s.hub.trace (s.history ops)) := by
  induction ops generalizing s r owed with
  | nil => exact ⟨r, owed, found, owes, by simp [reads, history, Hub.trace, items]⟩
  | cons op ops ih =>
    obtain ⟨owed₁, owes₁, first⟩ := account_step found owes op
    obtain ⟨r', owed', found', owes', rest⟩ := ih (relay?_step found op) owes₁
    refine ⟨r', owed', found', owes', ?_⟩
    rw [history, Hub.trace_append, items_append, ← List.append_assoc, ← first, ← hub_step, reads]
    simp only [List.append_assoc] at rest ⊢
    rw [rest]

/-- A relay stays of its kind. -/
theorem kind_react (s : Surroundings) (r : Relay) (op : StationOp) :
    (r.react s op).kind = r.kind := by
  cases op with
  | move i m =>
    simp only [Relay.react]
    split
    · cases hf : r.move s m with
      | none => rfl
      | some f => exact (Relay.onward_of_move hf).2.kind
    · rfl
  | read i =>
    simp only [Relay.react]
    split <;> rfl
  | leave i =>
    simp only [Relay.react]
    split <;> rfl
  | _ => rfl

/-- The subscription of a relay is polled if the relay is a logging relay, and flushed if it is a
statistics relay. -/
theorem kind_of_hubOps {s : Station} {id : Nat} {r : Relay} (found : s.relay? id = some r)
    (op : StationOp) : (.poll id ∈ s.hubOps op → r.kind = .logging) ∧
      (.flush id ∈ s.hubOps op → r.kind = .statistics) := by
  by_cases hop : ∃ m, op = .move id m
  · obtain ⟨m, rfl⟩ := hop
    simp only [hubOps, found]
    cases hf : r.move s.surroundings m with
    | none => exact ⟨fun h ↦ absurd h List.not_mem_nil, fun h ↦ absurd h List.not_mem_nil⟩
    | some f =>
      obtain rfl := (mem_of_relay? found).2
      have acts := Relay.acts_of_move hf
      constructor
      · intro polls
        rw [Relay.poll_mem_uses_iff.mp polls] at acts
        exact acts.kind_of_receive
      · intro flushes
        rw [Relay.flush_mem_uses_iff.mp flushes] at acts
        exact acts.kind_of_tick
  · have alone := subject_hubOps found fun m he ↦ hop ⟨m, he⟩
    exact ⟨fun polls ↦ absurd rfl (alone _ polls), fun flushes ↦ absurd rfl (alone _ flushes)⟩

theorem kind_of_history {s : Station} {id : Nat} {r : Relay} (found : s.relay? id = some r)
    (ops : List StationOp) : (.poll id ∈ s.history ops → r.kind = .logging) ∧
      (.flush id ∈ s.history ops → r.kind = .statistics) := by
  induction ops generalizing s r with
  | nil => exact ⟨fun h ↦ absurd h List.not_mem_nil, fun h ↦ absurd h List.not_mem_nil⟩
  | cons op ops ih =>
    have first := kind_of_hubOps found op
    have rest := ih (relay?_step found op)
    rw [kind_react] at rest
    exact ⟨fun polls ↦ (List.mem_append.mp polls).elim first.1 rest.1,
      fun flushes ↦ (List.mem_append.mp flushes).elim first.2 rest.2⟩

/-! ### Logging relays -/

/-- Only its own moves change more of a relay than its outbox. -/
theorem exists_outbox_of_react {s : Surroundings} {r : Relay} {op : StationOp}
    (hop : ∀ m, op ≠ .move r.subscription m) : ∃ outbox, r.react s op = { r with outbox } := by
  cases op with
  | move i m =>
    have hi : i ≠ r.subscription := by
      rintro rfl
      exact hop m rfl
    exact ⟨r.outbox, by rw [Relay.react, if_neg hi]⟩
  | read i =>
    rw [Relay.react]
    split
    · exact ⟨_, rfl⟩
    · exact ⟨r.outbox, rfl⟩
  | leave i =>
    rw [Relay.react]
    split
    · exact ⟨_, rfl⟩
    · exact ⟨r.outbox, rfl⟩
  | _ => exact ⟨r.outbox, rfl⟩

/-- Only its own moves change what a relay is doing. -/
theorem phase_react {s : Surroundings} {r : Relay} {op : StationOp}
    (hop : ∀ m, op ≠ .move r.subscription m) : (r.react s op).phase = r.phase := by
  obtain ⟨outbox, same⟩ := exists_outbox_of_react (s := s) hop
  rw [same]

/-- A relay that has ended stays as it ended. -/
theorem phase_react_of_ended {s : Surroundings} {r : Relay} {outcome : Except Fault StreamEnd}
    (ended : r.phase = .ended outcome) (op : StationOp) :
    (r.react s op).phase = .ended outcome := by
  by_cases hop : ∃ m, op = .move r.subscription m
  · obtain ⟨m, rfl⟩ := hop
    rw [Relay.react, if_pos rfl]
    cases hf : r.move s m with
    | none => exact ended
    | some f =>
      have running := (Relay.onward_of_move hf).1
      simp [Relay.hasEnded, ended] at running
  · exact (phase_react fun m he ↦ hop ⟨m, he⟩).trans ended

theorem phase_after_of_ended {s : Station} {id : Nat} {r x : Relay} (found : s.relay? id = some r)
    {outcome : Except Fault StreamEnd} (ended : r.phase = .ended outcome) {ops : List StationOp}
    (found' : (s.after ops).relay? id = some x) : x.phase = .ended outcome := by
  induction ops generalizing s r with
  | nil =>
    rw [show (s.after []).relay? id = some r from found] at found'
    cases found'
    exact ended
  | cons op ops ih => exact ih (relay?_step found op) (phase_react_of_ended ended op) found'

/-- The subscription of a relay is not dropped before the relay ends. -/
theorem drop_not_mem_history {s : Station} {id : Nat} {r x : Relay} (found : s.relay? id = some r)
    {ops : List StationOp} (found' : (s.after ops).relay? id = some x)
    (running : x.hasEnded = false) (kind : StreamKind) : .drop kind id ∉ s.history ops := by
  induction ops generalizing s r with
  | nil => exact List.not_mem_nil
  | cons op ops ih =>
    intro dropped
    rcases List.mem_append.mp dropped with first | rest
    · by_cases hop : ∃ m, op = .move id m
      · obtain ⟨m, rfl⟩ := hop
        have found₁ := relay?_step found (.move id m)
        obtain rfl := (mem_of_relay? found).2
        simp only [hubOps, found] at first
        rw [Relay.react, if_pos rfl] at found₁
        cases hf : r.move s.surroundings m with
        | none =>
          rw [hf] at first
          exact List.not_mem_nil first
        | some f =>
          rw [hf] at first found₁
          have ended : f.relay.hasEnded = true := (Relay.drop_mem_uses_iff.mp first).1
          cases phase : f.relay.phase with
          | ended outcome =>
            have final := phase_after_of_ended found₁ phase found'
            rw [Relay.hasEnded, final] at running
            cases running
          | _ => simp [Relay.hasEnded, phase] at ended
      · exact subject_hubOps found (fun m he ↦ hop ⟨m, he⟩) _ first rfl
    · exact ih (relay?_step found op) found' rest

/-- A relay that is started is found, and starts without touching the hub. -/
theorem start_of_free {s : Station} {g : Grant} (free : s.isFree g.subscription = true)
    (held : g.subscription ∈ s.hub.idsOf g.kind) (transport : Transport) (watchesClient : Bool) :
    (s.step (.start g transport watchesClient)).relay? g.subscription =
      some (g.relay transport watchesClient s.channel) := by
  simp only [step, if_pos (And.intro free held)]
  change (s.relays ++ [g.relay transport watchesClient s.channel]).find? _ = _
  have none : s.relays.find? (·.subscription == g.subscription) = none :=
    Option.isNone_iff_eq_none.mp free
  rw [List.find?_append, none, Option.none_or, List.find?_singleton]
  exact if_pos (beq_self_eq_true _)

/-- A hub of depth one with a logging subscription. -/
def opened : Station := (ofDepth 1).after [.hub (.subscribe .logging)]

end Station

end Gatehouse

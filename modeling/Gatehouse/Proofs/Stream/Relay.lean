import Gatehouse.Proofs.Hub.History
import Gatehouse.Stream.Relay

/-!
# Moves of a relay

In one move a relay takes at most one thing from its subscription. Then it goes on, and the hub
stays as it is, or it ends, and its subscription is dropped. A draining gateway leaves a relay
without a move in two cases only: it has ended, or it holds an item for which its client makes no
room.
-/

namespace Gatehouse

/-- One move of a relay. -/
inductive Move where
  /-- It does what it does on a branch. -/
  | branch (b : Branch)
  /-- It is told that its client is gone while it waits, whether that is so or not. -/
  | lose
  deriving DecidableEq

/-- What a move takes from the relay's subscription. -/
def Move.takes (id : Nat) : Move → List HubOp
  | .branch .receive => [.poll id]
  | .branch .tick => [.flush id]
  | _ => []

namespace Relay

/-- What the relay does in a move; none when it cannot make it. -/
def move (r : Relay) (s : Surroundings) : Move → Option Fired
  | .branch b => r.fire b s
  | .lose =>
    match r.phase with
    | .waiting => some (r.finish (.ok .clientGone) s.hub)
    | _ => none

/-- The relay serves the same subscription, and dropped it from the hub exactly if it ended. -/
structure Onward (r : Relay) (hub : Hub) (f : Fired) : Prop where
  subscription : f.relay.subscription = r.subscription
  kind : f.relay.kind = r.kind
  hub : f.hub = if f.relay.hasEnded then (hub.drop r.kind r.subscription).1 else hub

theorem onward_finish (r : Relay) (outcome : Except Fault StreamEnd) (hub : Hub) :
    r.Onward hub (r.finish outcome hub) := ⟨rfl, rfl, rfl⟩

theorem onward_hand (r : Relay) (item : Item) (hub : Hub) : r.Onward hub (r.hand item hub) := by
  unfold hand
  split
  · exact ⟨rfl, rfl, rfl⟩
  · exact ⟨rfl, rfl, rfl⟩
  · exact onward_finish r _ hub

/-- Onward says the same of relays that serve the same subscription. -/
theorem Onward.congr {r r' : Relay} {hub : Hub} {f : Fired} (w : r'.Onward hub f)
    (hs : r'.subscription = r.subscription) (hk : r'.kind = r.kind) : r.Onward hub f :=
  ⟨w.subscription.trans hs, w.kind.trans hk, by rw [← hs, ← hk, w.hub]⟩

/-- A relay that receives has polled its subscription, and goes on from there. -/
theorem onward_of_receive {r : Relay} {s : Surroundings} {f : Fired} (h : r.receive s = some f) :
    r.Onward (s.hub.poll r.subscription).1 f := by
  unfold receive at h
  split at h
  · cases h
  · split at h
    · next hp =>
      rw [hp]
      cases h
      exact onward_hand r _ _
    · next hp =>
      rw [hp]
      cases h
      exact onward_finish r _ _
    · cases h

/-- A relay that ticks has flushed its subscription, and goes on from there. -/
theorem onward_of_tick {r : Relay} {s : Surroundings} {f : Fired} (h : r.tick s = some f) :
    r.Onward (s.hub.flush r.subscription).1 f := by
  unfold tick at h
  split at h
  · cases h
  · next hfeed =>
    split at h
    · cases h
      exact (onward_hand _ _ _).congr rfl (by simp [kind, hfeed])
    · cases h

/-- Only running relays move. A move takes what it takes, and then the relay goes on or ends. -/
theorem onward_of_move {r : Relay} {s : Surroundings} {m : Move} {f : Fired}
    (h : r.move s m = some f) :
    r.hasEnded = false ∧ r.Onward (s.hub.after (m.takes r.subscription)) f := by
  cases m with
  | lose =>
    simp only [move] at h
    split at h
    · next hp =>
      cases h
      exact ⟨by simp [hasEnded, hp], onward_finish r _ _⟩
    · cases h
  | branch b =>
    change r.fire b s = some f at h
    unfold fire at h
    split at h
    · next hp =>
      cases h
      refine ⟨by simp [hasEnded, hp], rfl, ?_, rfl⟩
      cases hf : r.feed <;> simp [kind, started, hf]
    · next hp => exact ⟨by simp [hasEnded, hp], onward_of_receive h⟩
    · next hp => exact ⟨by simp [hasEnded, hp], onward_of_tick h⟩
    · next hp =>
      split at h
      · cases h
        exact ⟨by simp [hasEnded, hp], onward_finish r _ _⟩
      · cases h
    · next hp =>
      split at h
      · cases h
        exact ⟨by simp [hasEnded, hp], onward_finish r _ _⟩
      · cases h
    · next item hp =>
      split at h
      · cases h
      · cases h
        exact ⟨by simp [hasEnded, hp], onward_hand r item _⟩
    · cases h

/-- What a relay does to the hub in a move that ends as it does. -/
def uses (r : Relay) (m : Move) (f : Fired) : List HubOp :=
  m.takes r.subscription ++ if f.relay.hasEnded then [.drop r.kind r.subscription] else []

theorem hub_of_move {r : Relay} {s : Surroundings} {m : Move} {f : Fired}
    (h : r.move s m = some f) : f.hub = s.hub.after (r.uses m f) := by
  rw [(onward_of_move h).2.hub, uses, Hub.after_append]
  cases f.relay.hasEnded <;> rfl

/-- A relay uses no subscription but its own. -/
theorem subject_uses {r : Relay} {m : Move} {f : Fired} :
    ∀ op ∈ r.uses m f, op.subject? = some r.subscription := by
  cases hf : f.relay.hasEnded <;> cases m with
  | lose => simp [uses, Move.takes, HubOp.subject?, hf]
  | branch b => cases b <;> simp [uses, Move.takes, HubOp.subject?, hf]

theorem subscribe_not_mem_uses (r : Relay) (m : Move) (f : Fired) (kind : StreamKind) :
    .subscribe kind ∉ r.uses m f := fun h ↦ Option.some_ne_none _ (subject_uses _ h).symm

/-- A relay drops its own subscription, and only when it ends. -/
theorem drop_mem_uses_iff {r : Relay} {m : Move} {f : Fired} {kind : StreamKind} {id : Nat} :
    .drop kind id ∈ r.uses m f ↔
      f.relay.hasEnded = true ∧ kind = r.kind ∧ id = r.subscription := by
  cases hf : f.relay.hasEnded <;> cases m with
  | lose => simp [uses, Move.takes, hf]
  | branch b => cases b <;> simp [uses, Move.takes, hf]

/-- A relay polls its subscription to receive an event. -/
theorem poll_mem_uses_iff {r : Relay} {m : Move} {f : Fired} :
    .poll r.subscription ∈ r.uses m f ↔ m = .branch .receive := by
  cases hf : f.relay.hasEnded <;> cases m with
  | lose => simp [uses, Move.takes, hf]
  | branch b => cases b <;> simp [uses, Move.takes, hf]

/-- A relay flushes its subscription at a tick. -/
theorem flush_mem_uses_iff {r : Relay} {m : Move} {f : Fired} :
    .flush r.subscription ∈ r.uses m f ↔ m = .branch .tick := by
  cases hf : f.relay.hasEnded <;> cases m with
  | lose => simp [uses, Move.takes, hf]
  | branch b => cases b <;> simp [uses, Move.takes, hf]

/-- A relay uses its subscription in no way twice in a move. -/
theorem nodup_uses (r : Relay) (m : Move) (f : Fired) : (r.uses m f).Nodup := by
  cases hf : f.relay.hasEnded <;> cases m with
  | lose => simp [uses, Move.takes, hf]
  | branch b => cases b <;> simp [uses, Move.takes, hf]

/-- A relay records nothing. -/
theorem recorded_uses (r : Relay) (m : Move) (f : Fired) : recorded (r.uses m f) = [] := by
  rw [recorded, List.filterMap_eq_nil_iff]
  intro op hop
  have subject := subject_uses op hop
  cases op with
  | record e => cases subject
  | _ => rfl

theorem offer_eq_full_iff {o : Outbox} {item : Item} :
    o.offer item = .full ↔ o.clientHere = true ∧ o.hasRoom = false := by
  unfold Outbox.offer
  split
  · next hc =>
    split
    · next hr => simp [hr]
    · next hr => simp [hc, hr]
  · next hc => simp [hc]

end Relay

end Gatehouse

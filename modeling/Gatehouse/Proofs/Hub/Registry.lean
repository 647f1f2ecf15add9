import Gatehouse.Proofs.Hub.History

/-!
# Who is listed at a hub

A registry grows by registrations at its end. A record takes out the logging subscriptions that it
cuts off, and a drop the subscription that it names. At a coherent hub the receiver of whoever is
registered is still there, so that each record is taken by a registered subscription or cuts it
off. A subscription that is dropped at once leaves no trace but its number. What is done with one
subscription is not seen by the others.
-/

namespace Gatehouse.Hub

/-- Nobody is registered whose receiver is gone. -/
def Reaches (h : Hub) : Prop := ∀ id ∈ h.loggers, h.trySend id ≠ .closed

/-- The receivers of those who are registered are there while they are not dropped. -/
theorem reaches_of_subset {h : Hub} (held : h.loggers ⊆ h.idsOf .logging) : h.Reaches := by
  intro id listed
  obtain ⟨m, hm⟩ := exists_mailbox (held listed)
  rw [trySend_eq hm]
  split <;> nofun

theorem Coherent.reaches {h : Hub} (w : h.Coherent) : h.Reaches :=
  reaches_of_subset w.loggers.subset

/-- A drop leaves the registry first, so that no receiver is missed on the way. -/
theorem Coherent.reaches_unregister {h : Hub} (w : h.Coherent) (kind : StreamKind) (id : Nat) :
    (h.unregister kind id).1.Reaches := by
  apply reaches_of_subset
  rw [idsOf_unregister]
  cases kind with
  | logging => exact List.Subset.trans (List.filter_subset_self _) w.loggers.subset
  | statistics => exact w.loggers.subset

/-- A record keeps a registered subscription just if it does not cut it off. -/
theorem Reaches.keeps_iff {h : Hub} (w : h.Reaches) (e : Event) {id : Nat}
    (listed : id ∈ h.loggers) :
    (h.trySend id).keeps = true ↔ id ∉ (h.record e).2.evicted := by
  have there := w id listed
  change _ ↔ id ∉ h.loggers.filter _
  cases hs : h.trySend id <;> simp_all [Sent.keeps]

/-- A record takes the subscriptions that it cuts off out of the registry, and no others. -/
theorem loggers_record {h : Hub} (w : h.Coherent) (e : Event) :
    (h.record e).1.loggers = h.loggers.filter (· ∉ (h.record e).2.evicted) := by
  refine List.filter_congr fun id listed ↦ ?_
  rw [Bool.eq_iff_iff, w.reaches.keeps_iff e listed, decide_eq_true_iff]

theorem loggers_subscribe (h : Hub) (kind : StreamKind) :
    (h.subscribe kind).1.loggers =
      h.loggers ++ if kind = .logging then [h.nextId] else [] := by
  cases kind <;> simp [subscribe, subscribeLogging, subscribeStatistics]

/-- What is in a registry was given a number. -/
theorem Coherent.registered_lt {h : Hub} (w : h.Coherent) (kind : StreamKind) {id : Nat}
    (listed : id ∈ h.registry kind) : id < h.nextId := by
  cases kind with
  | logging => exact w.lt_nextId .logging (w.loggers.subset listed)
  | statistics => exact w.lt_nextId .statistics (w.statistics ▸ listed)

private theorem filter_append_new {α : Type} (key : α → Nat) {xs : List α} (a : α)
    (h : ∀ o ∈ xs, key o < key a) : (xs ++ [a]).filter (fun o ↦ key o != key a) = xs := by
  have old : xs.filter (fun o ↦ key o != key a) = xs := by
    rw [List.filter_eq_self]
    intro o ho
    simpa using Nat.ne_of_lt (h o ho)
  rw [List.filter_append, old]
  simp

/-- Of a subscription that is dropped at once, only its number remains used. -/
theorem drop_subscribe {h : Hub} (w : h.Coherent) (kind : StreamKind) :
    ((h.subscribe kind).1.drop kind h.nextId).1 = { h with nextId := h.nextId + 1 } := by
  cases kind with
  | logging =>
    have listed : (h.loggers ++ [h.nextId]).filter (· != h.nextId) = h.loggers :=
      filter_append_new id h.nextId fun _ hid ↦ w.registered_lt .logging hid
    have held := filter_append_new Receiver.id ⟨h.nextId, .empty⟩ fun _ hr ↦
      w.lt_nextId .logging (List.mem_map_of_mem hr)
    simp only [subscribe, subscribeLogging, drop, unregister, release, listed, held]
  | statistics =>
    have listed : (h.statistics ++ [h.nextId]).filter (· != h.nextId) = h.statistics :=
      filter_append_new id h.nextId fun _ hid ↦ w.registered_lt .statistics hid
    have held := filter_append_new Tally.id ⟨h.nextId, .empty⟩ fun _ ht ↦
      w.lt_nextId .statistics (List.mem_map_of_mem ht)
    simp only [subscribe, subscribeStatistics, drop, unregister, release, listed, held]

/-- A drop takes out the subscription that it names, if it is listed, and no other. -/
theorem registry_drop (h : Hub) (kind other : StreamKind) (id : Nat) :
    (h.drop kind id).1.registry other =
      if kind = other then (h.registry other).filter (· != id) else h.registry other := by
  cases kind <;> cases other <;> rfl

/-- A drop tells whether the subscription was listed. -/
theorem drop_snd_eq_true_iff {h : Hub} {kind : StreamKind} {id : Nat} :
    (h.drop kind id).2 = true ↔ id ∈ h.registry kind := by
  cases kind <;> exact List.contains_iff_mem

/-- Each listed subscription either takes an event or is cut off by it. -/
theorem Reaches.delivered_add_evicted {h : Hub} (w : h.Reaches) (e : Event) :
    (h.record e).2.delivered + (h.record e).2.evicted.length = h.loggingSubscribers := by
  change h.loggers.countP _ + (h.loggers.filter _).length = _
  have rest : h.loggers.countP (h.trySend · == .full) =
      h.loggers.countP fun id ↦ ¬(h.trySend id == .taken) = true := by
    refine List.countP_congr fun id listed ↦ ?_
    have there := w id listed
    cases hs : h.trySend id <;> simp_all
  rw [← List.countP_eq_length_filter, rest, ← List.length_eq_countP_add_countP, loggingSubscribers]

/-- The subscriptions that took an event are those that are listed after it. -/
theorem delivered_eq (h : Hub) (e : Event) :
    (h.record e).2.delivered = (h.record e).1.loggingSubscribers := by
  change h.loggers.countP _ = (h.loggers.filter _).length
  rw [← List.countP_eq_length_filter]
  refine List.countP_congr fun id _ ↦ ?_
  cases h.trySend id <;> simp [Sent.keeps]

/-! ### The subscriptions beside one -/

/-- The hub without one subscription: whoever else is registered, with what is queued and counted
for them. -/
def without (h : Hub) (id : Nat) : Hub :=
  { h with
    loggers := h.loggers.filter (· != id)
    statistics := h.statistics.filter (· != id)
    receivers := h.receivers.filter (·.id != id)
    tallies := h.tallies.filter (·.id != id) }

end Gatehouse.Hub

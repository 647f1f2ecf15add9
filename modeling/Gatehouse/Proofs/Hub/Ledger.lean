import Gatehouse.Proofs.Hub.Delivery

/-!
# The ledger of a logging subscription

A record is delivered to a subscription when its event finds room in the mailbox. What was delivered
is what was received followed by what is unread, in the order of the records. So the events received
are the first of those delivered, and all of them once the mailbox is empty.
-/

namespace Gatehouse.Hub

/-- The event that an operation delivers to a subscription. -/
def delivers (h : Hub) (id : Nat) : HubOp → List Event
  | .record e => if (h.mailbox? id).any (·.hasRoom h.depth) then [e] else []
  | _ => []

/-- The events that a history delivers to a subscription, in order. -/
def deliveredTo (h : Hub) (id : Nat) : List HubOp → List Event
  | [] => []
  | op :: ops => h.delivers id op ++ (h.step op).1.deliveredTo id ops

/-- What one operation answers to a subscription: something only when it is a poll of that
subscription that finds an event. -/
theorem received_step (h : Hub) (id : Nat) (op : HubOp) :
    received id [(op, (h.step op).2)] =
      if op = .poll id then (h.poll id).2.event?.toList else [] := by
  cases op with
  | poll i =>
    by_cases hi : i = id
    · subst hi
      cases hp : (h.poll i).2 <;> simp [received, polls, step, hp, Poll.event?]
    · simp [received, polls, step, hi]
  | _ => rfl

theorem received_cons (h : Hub) (id : Nat) (op : HubOp) (ops : List HubOp) :
    received id (h.trace (op :: ops)) =
      received id [(op, (h.step op).2)] ++ received id ((h.step op).1.trace ops) :=
  received_append id [(op, (h.step op).2)] ((h.step op).1.trace ops)

/-- A mailbox that was not there before is empty. -/
theorem queue_of_new {h : Hub} {id : Nat} {m : Mailbox} {op : HubOp} (old : h.mailbox? id = none)
    (new : (h.step op).1.mailbox? id = some m) : m.queue.toList = [] := by
  have stays : (h.step op).1.mailbox? id = none → m.queue.toList = [] := by
    intro gone
    rw [gone] at new
    cases new
  cases op with
  | subscribe kind =>
    cases kind with
    | logging =>
      change h.subscribeLogging.1.mailbox? id = some m at new
      by_cases hid : id = h.nextId
      · obtain ⟨r, hr, rfl⟩ := mailbox?_eq_some_iff.mp new
        have found := (List.find?_append).symm.trans hr
        rw [show h.receivers.find? _ = none from mailbox?_eq_none_iff.mp old, Option.none_or,
          List.find?_singleton] at found
        split at found
        · cases found
          rfl
        · cases found
      · rw [mailbox?_subscribeLogging_of_ne h hid, old] at new
        cases new
    | statistics => exact stays old
  | record e =>
    refine stays ((mailbox?_record h e id).trans ?_)
    rw [old, Option.map_none]
  | poll i =>
    refine stays ((mailbox?_poll h i id).trans ?_)
    rw [old, Option.map_none]
  | flush i => exact stays ((mailbox?_flush h i id).trans old)
  | drop kind i =>
    cases kind with
    | logging =>
      refine stays ((mailbox?_dropLogging h i id).trans ?_)
      rw [old, ite_self]
    | statistics => exact stays old

/-- The events that a subscription took are the first of those that were delivered to it, and the
others are unread. -/
structure Ledger (h : Hub) (id : Nat) (taken delivered : List Event) : Prop where
  isPrefix : taken <+: delivered
  block : ∀ m, h.mailbox? id = some m → taken ++ m.queue.toList = delivered
  fresh : h.nextId ≤ id → delivered = []

/-- Without a mailbox nothing is delivered or taken. -/
theorem Ledger.step_of_none {h : Hub} {id : Nat} {taken delivered : List Event}
    (w : h.Ledger id taken delivered) (none : h.mailbox? id = none) (op : HubOp) :
    (h.step op).1.Ledger id (taken ++ received id [(op, (h.step op).2)])
      (delivered ++ h.delivers id op) := by
  have silent : received id [(op, (h.step op).2)] = [] := by
    rw [received_step]
    split
    · rw [poll_of_gone (mailbox?_eq_none_iff.mp none)]
      rfl
    · rfl
  have dry : h.delivers id op = [] := by cases op <;> simp [delivers, none]
  rw [silent, dry, List.append_nil, List.append_nil]
  refine ⟨w.isPrefix, fun m found ↦ ?_, fun hid ↦ w.fresh (Nat.le_trans (nextId_step h op) hid)⟩
  -- Only a number that was not given out before gets a mailbox, and nothing was delivered to it.
  have new : h.nextId ≤ id := by
    by_contra old
    rw [mailbox?_step_none none (Nat.lt_of_not_le old) op] at found
    cases found
  have nothing : delivered = [] := w.fresh new
  rw [queue_of_new none found, nothing, List.append_nil]
  exact List.prefix_nil.mp (nothing ▸ w.isPrefix)

/-- What an operation delivers is queued, and what it takes is the oldest that is queued. -/
theorem block_step {h : Hub} {id : Nat} {m : Mailbox} (found : h.mailbox? id = some m)
    (op : HubOp) :
    received id [(op, (h.step op).2)] ++ (m.react h.depth op).queue.toList =
      m.queue.toList ++ h.delivers id op := by
  have hid := id_of_mailbox? found
  rw [received_step]
  cases op with
  | record e =>
    simp only [delivers, found, Option.any_some, Mailbox.hasRoom, Mailbox.react]
    by_cases registered : m.registered = true
    · by_cases room : m.queue.size < h.depth
      · simp [Mailbox.offer_of_room e registered room, registered, room]
      · simp [Mailbox.offer_of_full e registered room, room]
    · have cut : m.registered = false := Bool.eq_false_iff.mpr registered
      simp [Mailbox.offer_of_cut e cut, cut]
  | poll i =>
    by_cases hi : i = id
    · subst hi
      rw [if_pos rfl, poll_eq found, Mailbox.react, if_pos hid.symm,
        show h.delivers i (.poll i) = [] from rfl, List.append_nil]
      cases hq : m.queue.toList with
      | nil =>
        rw [Mailbox.poll_of_nil hq]
        cases m.registered <;> simp [Poll.event?, hq]
      | cons e rest =>
        obtain ⟨queue, hrest, hp⟩ := Mailbox.poll_of_cons hq
        simp [hp, Poll.event?, hrest]
    · have other : i ≠ m.id := by rwa [hid]
      simp [Mailbox.react, delivers, hi, other]
  | _ => simp [Mailbox.react, delivers]

/-- Each operation keeps the ledger. -/
theorem Ledger.step {h : Hub} {id : Nat} {taken delivered : List Event} (coherent : h.Coherent)
    (w : h.Ledger id taken delivered) (op : HubOp) :
    (h.step op).1.Ledger id (taken ++ received id [(op, (h.step op).2)])
      (delivered ++ h.delivers id op) := by
  cases found : h.mailbox? id with
  | none => exact w.step_of_none found op
  | some m =>
    have given : id < h.nextId :=
      coherent.lt_nextId .logging (mem_idsOf_of_mailbox? found)
    have given' := Nat.lt_of_lt_of_le given (nextId_step h op)
    have block := block_step found op
    have total : taken ++ received id [(op, (h.step op).2)] ++ (m.react h.depth op).queue.toList =
        delivered ++ h.delivers id op := by
      rw [List.append_assoc, block, ← List.append_assoc, w.block m found]
    refine ⟨⟨_, total⟩, fun m' found' ↦ ?_, fun new ↦ absurd given' (Nat.not_lt.mpr new)⟩
    have live : op ≠ .drop .logging id := by
      rintro rfl
      rw [show (h.step (.drop .logging id)).1.mailbox? id = none from
        (mailbox?_dropLogging h id id).trans (if_pos rfl)] at found'
      cases found'
    rw [mailbox?_step coherent found live] at found'
    cases found'
    exact total

theorem Ledger.after {h : Hub} {id : Nat} {taken delivered : List Event} (coherent : h.Coherent)
    (w : h.Ledger id taken delivered) (ops : List HubOp) :
    (h.after ops).Ledger id (taken ++ received id (h.trace ops))
      (delivered ++ h.deliveredTo id ops) := by
  induction ops generalizing h taken delivered with
  | nil => simpa [trace, received, polls, deliveredTo] using w
  | cons op ops ih =>
    rw [received_cons, deliveredTo, ← List.append_assoc, ← List.append_assoc]
    exact ih (coherent_step coherent op) (w.step coherent op)

/-- Nothing is unread and nothing more comes: the subscription was dropped, or it was cut off and
its mailbox is empty. -/
structure Spent (h : Hub) (id : Nat) : Prop where
  given : id < h.nextId
  cut : ∀ m, h.mailbox? id = some m → m.registered = false ∧ m.queue.toList = []

theorem Spent.step {h : Hub} (coherent : h.Coherent) {id : Nat} (w : h.Spent id) (op : HubOp) :
    (h.step op).1.Spent id ∧ received id [(op, (h.step op).2)] = [] ∧ h.delivers id op = [] := by
  have given := Nat.lt_of_lt_of_le w.given (nextId_step h op)
  cases found : h.mailbox? id with
  | none =>
    refine ⟨⟨given, fun m new ↦ ?_⟩, ?_, ?_⟩
    · rw [mailbox?_step_none found w.given op] at new
      cases new
    · rw [received_step]
      split
      · rw [poll_of_gone (mailbox?_eq_none_iff.mp found)]
        rfl
      · rfl
    · cases op <;> simp [delivers, found]
  | some m =>
    obtain ⟨cut, empty⟩ := w.cut m found
    have dry : h.delivers id op = [] := by cases op <;> simp [delivers, found, Mailbox.hasRoom, cut]
    have block := block_step found op
    rw [dry, empty, List.append_nil, List.append_eq_nil_iff] at block
    refine ⟨⟨given, fun m' found' ↦ ?_⟩, block.1, dry⟩
    by_cases live : op = .drop .logging id
    · subst live
      rw [show (h.step (.drop .logging id)).1.mailbox? id = none from
        (mailbox?_dropLogging h id id).trans (if_pos rfl)] at found'
      cases found'
    · rw [mailbox?_step coherent found live] at found'
      cases found'
      refine ⟨?_, block.2⟩
      cases op with
      | record e => rw [Mailbox.react, Mailbox.offer_of_cut e cut, cut]
      | poll i =>
        rw [Mailbox.react, Mailbox.poll_of_nil empty]
        split <;> exact cut
      | _ => exact cut

/-- A subscription that finds the end is spent. -/
theorem spent_of_ended {h : Hub} (coherent : h.Coherent) {id : Nat} (held : id ∈ h.idsOf .logging)
    (ended : (h.poll id).2 = .ended) : h.Spent id where
  given := coherent.lt_nextId .logging held
  cut m found := by
    rw [poll_eq found] at ended
    cases hq : m.queue.toList with
    | nil =>
      rw [Mailbox.poll_of_nil hq] at ended
      exact ⟨by cases hr : m.registered <;> simp [hr] at ended ⊢, rfl⟩
    | cons e rest =>
      obtain ⟨queue, _, hp⟩ := Mailbox.poll_of_cons hq
      rw [hp] at ended
      cases ended

/-- To a subscription that is spent nothing happens any more. -/
theorem Spent.after {h : Hub} (coherent : h.Coherent) {id : Nat} (w : h.Spent id)
    (ops : List HubOp) : received id (h.trace ops) = [] ∧ h.deliveredTo id ops = [] := by
  induction ops generalizing h with
  | nil => exact ⟨rfl, rfl⟩
  | cons op ops ih =>
    obtain ⟨spent, silent, dry⟩ := w.step coherent op
    obtain ⟨silent', dry'⟩ := ih (coherent_step coherent op) spent
    exact ⟨by rw [received_cons, silent, silent']; rfl, by rw [deliveredTo, dry, dry']; rfl⟩

end Gatehouse.Hub

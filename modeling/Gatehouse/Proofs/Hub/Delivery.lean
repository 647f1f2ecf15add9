import Mathlib.Data.List.Induction
import Mathlib.Data.List.Infix
import Gatehouse.Proofs.Hub.History

/-!
# What a logging subscription receives

From its registration on, a logging subscription receives every recorded event once and in order,
up to the first record that finds as many of its events unread as its mailbox holds. That record
cuts it off, and what was queued before stays readable. Nothing else about the hub matters to it.
-/

namespace Gatehouse

namespace Mailbox

/-- A poll of an empty mailbox finds nothing, and the end where the hub has cut it off. -/
theorem poll_of_nil {m : Mailbox} (h : m.queue.toList = []) :
    m.poll = (m, if m.registered then .pending else .ended) := by
  rw [poll, Queue.pop?_eq_none_iff.mpr h]

/-- A poll takes the oldest event. -/
theorem poll_of_cons {m : Mailbox} {e : Event} {rest : List Event}
    (h : m.queue.toList = e :: rest) :
    ∃ queue : Queue Event, queue.toList = rest ∧ m.poll = ({ m with queue }, .event e) := by
  cases hp : m.queue.pop? with
  | none =>
    rw [Queue.pop?_eq_none_iff, h] at hp
    cases hp
  | some r =>
    obtain ⟨a, queue⟩ := r
    have hq := Queue.toList_of_pop? hp
    rw [h] at hq
    obtain ⟨rfl, rfl⟩ := List.cons.inj hq
    exact ⟨queue, rfl, by rw [poll, hp]⟩

/-- An event with room to spare is queued behind the others. -/
theorem offer_of_room {depth : Nat} {m : Mailbox} (e : Event) (hr : m.registered = true)
    (h : m.queue.size < depth) : m.offer depth e = { m with queue := m.queue.push e } := by
  rw [offer, if_pos hr, if_pos h]

/-- An event without room cuts the mailbox off. -/
theorem offer_of_full {depth : Nat} {m : Mailbox} (e : Event) (hr : m.registered = true)
    (h : ¬m.queue.size < depth) : m.offer depth e = { m with registered := false } := by
  rw [offer, if_pos hr, if_neg h]

/-- Nothing reaches a mailbox that was cut off. -/
theorem offer_of_cut {depth : Nat} {m : Mailbox} (e : Event) (hr : m.registered = false) :
    m.offer depth e = m := by
  rw [offer, if_neg (by simp [hr])]

/-- What an event does to a mailbox: it is queued last while the mailbox is registered and has room.
Else the mailbox is registered no longer, and what was queued stays. -/
structure Took (depth : Nat) (m : Mailbox) (e : Event) (m' : Mailbox) : Prop where
  registered : m'.registered = true ↔ m.registered = true ∧ m.queue.toList.length < depth
  queued : m'.queue.toList = if m'.registered then m.queue.toList ++ [e] else m.queue.toList

theorem took_offer (depth : Nat) (m : Mailbox) (e : Event) : m.Took depth e (m.offer depth e) := by
  by_cases registered : m.registered = true
  · by_cases room : m.queue.size < depth
    · rw [offer_of_room e registered room]
      exact ⟨by simp [registered, room], by simp [registered]⟩
    · rw [offer_of_full e registered room]
      exact ⟨by simp [room], rfl⟩
  · rw [offer_of_cut e (Bool.eq_false_iff.mpr registered)]
    exact ⟨by simp [registered], by simp [registered]⟩

end Mailbox

/-- What a subscription takes part in: the records, and its own polls, which stand for no
event. -/
def HubOp.seenBy (id : Nat) : HubOp → Option (Option Event)
  | .record e => some (some e)
  | .poll i => if i = id then some none else none
  | _ => none

/-- The part of a history that a subscription takes part in. -/
def seen (id : Nat) (ops : List HubOp) : List (Option Event) := ops.filterMap (HubOp.seenBy id)

/-- What polls find in a mailbox that is alone with its history. -/
def Mailbox.observe (depth : Nat) : Mailbox → List (Option Event) → List Poll
  | _, [] => []
  | m, some e :: rest => (m.offer depth e).observe depth rest
  | m, none :: rest => m.poll.2 :: m.poll.1.observe depth rest

/-- The number of a mailbox does not matter to what is found in it. -/
theorem Mailbox.observe_renumber (depth id : Nat) (m : Mailbox) (ops : List (Option Event)) :
    ({ m with id } : Mailbox).observe depth ops = m.observe depth ops := by
  induction ops generalizing m with
  | nil => rfl
  | cons op ops ih =>
    cases op with
    | some e =>
      have ho : ({ m with id } : Mailbox).offer depth e = { m.offer depth e with id } := by
        unfold offer
        split
        · split <;> rfl
        · rfl
      rw [observe, observe, ho, ih]
    | none =>
      have hp : ({ m with id } : Mailbox).poll = ({ m.poll.1 with id }, m.poll.2) := by
        cases hq : m.queue.pop? <;> simp [poll, hq]
      rw [observe, observe, hp, ih]

/-! ### What a history shows of one subscription -/

theorem recorded_snoc (ops : List HubOp) (op : HubOp) :
    recorded (ops ++ [op]) = recorded ops ++ op.event?.toList := by
  rw [recorded, List.filterMap_append]
  cases h : op.event? <;> simp [recorded, h]

theorem received_append (id : Nat) (xs ys : List (HubOp × HubAnswer)) :
    received id (xs ++ ys) = received id xs ++ received id ys := by
  rw [received, polls, List.filterMap_append, List.filterMap_append]
  rfl

namespace Hub

/-- What a poll of one subscription adds to what it received. -/
theorem received_snoc_poll (h : Hub) (id : Nat) (ops : List HubOp) :
    received id (h.trace (ops ++ [.poll id])) =
      received id (h.trace ops) ++ ((h.after ops).poll id).2.event?.toList := by
  rw [trace_snoc, received_append]
  cases he : ((h.after ops).poll id).2 <;> simp [received, polls, step, he, Poll.event?]

/-- An operation that is no poll of a subscription adds nothing to what it received. -/
theorem received_snoc_of_ne (h : Hub) {id : Nat} (ops : List HubOp) {op : HubOp}
    (hop : op ≠ .poll id) :
    received id (h.trace (ops ++ [op])) = received id (h.trace ops) := by
  rw [trace_snoc, received_append]
  have hnil : received id [(op, ((h.after ops).step op).2)] = [] := by
    cases op with
    | poll i =>
      have hne : i ≠ id := by
        rintro rfl
        exact hop rfl
      simp [received, polls, step, hne]
    | _ => rfl
  rw [hnil, List.append_nil]

/-- The subscription has as many unread events as a mailbox holds: those recorded in the history
less those that it received. -/
def Full (h : Hub) (id : Nat) (ops : List HubOp) : Prop :=
  (received id (h.trace ops)).length + h.depth = (recorded ops).length

/-- No record of the history found the subscription full. -/
def Keeps (h : Hub) (id : Nat) (ops : List HubOp) : Prop :=
  ∀ p e s, ops = p ++ .record e :: s → ¬h.Full id p

private theorem snoc_eq_append_cons {α : Type} {xs p s : List α} {x y : α}
    (h : xs ++ [x] = p ++ y :: s) :
    (xs = p ∧ x = y ∧ s = []) ∨ ∃ t, s = t ++ [x] ∧ xs = p ++ y :: t := by
  rcases List.eq_nil_or_concat s with rfl | ⟨t, z, rfl⟩
  · left
    obtain ⟨rfl, hx⟩ := List.append_inj' h rfl
    exact ⟨rfl, (List.cons.inj hx).1, rfl⟩
  · right
    rw [List.concat_eq_append, ← List.cons_append, ← List.append_assoc] at h
    obtain ⟨rfl, hx⟩ := List.append_inj' h rfl
    obtain ⟨rfl, _⟩ := List.cons.inj hx
    exact ⟨t, List.concat_eq_append, rfl⟩

/-- An operation keeps a subscription that it does not find full. -/
theorem keeps_snoc {h : Hub} {id : Nat} {ops : List HubOp} {op : HubOp} (hk : h.Keeps id ops)
    (hop : ∀ e, op = .record e → ¬h.Full id ops) : h.Keeps id (ops ++ [op]) := by
  intro p e s hs
  rcases snoc_eq_append_cons hs with ⟨rfl, rfl, _⟩ | ⟨t, _, ht⟩
  · exact hop e rfl
  · exact hk p e t ht

/-- The events received and those in the mailbox are the block, in this order. -/
structure Holds (h : Hub) (id : Nat) (ops : List HubOp) (block : List Event) (m : Mailbox) :
    Prop where
  found : (h.after ops).mailbox? id = some m
  block : received id (h.trace ops) ++ m.queue.toList = block

/-- Where no event gets into the mailbox, an operation moves events from the mailbox to those
received and does nothing else. -/
theorem Holds.snoc {h : Hub} (coherent : h.Coherent) {id : Nat} {ops : List HubOp}
    {block : List Event} {m : Mailbox} (w : h.Holds id ops block m) {op : HubOp}
    (hop : op ≠ .drop .logging id) (hrec : op.event? = none ∨ m.registered = false) :
    ∃ m', h.Holds id (ops ++ [op]) block m' ∧ m'.registered = m.registered ∧
      m'.queue.size ≤ m.queue.size := by
  have hfound := mailbox?_step (coherent_after coherent ops) w.found hop
  rw [← after_snoc] at hfound
  have hid := id_of_mailbox? w.found
  by_cases hpoll : op = .poll id
  · subst hpoll
    have hreact : m.react (h.after ops).depth (.poll id) = m.poll.1 := if_pos hid.symm
    rw [hreact] at hfound
    cases hq : m.queue.toList with
    | nil =>
      have hp := Mailbox.poll_of_nil hq
      rw [hp] at hfound
      refine ⟨m, ⟨hfound, ?_⟩, rfl, Nat.le_refl _⟩
      rw [received_snoc_poll, poll_eq w.found, hp, ← w.block]
      cases m.registered <;> simp [Poll.event?]
    | cons e rest =>
      obtain ⟨queue, hrest, hp⟩ := Mailbox.poll_of_cons hq
      rw [hp] at hfound
      refine ⟨_, ⟨hfound, ?_⟩, rfl, ?_⟩
      · rw [received_snoc_poll, poll_eq w.found, hp, ← w.block, hq, List.append_assoc, hrest]
        rfl
      · rw [← Queue.length_toList, ← Queue.length_toList, hq, hrest, List.length_cons]
        exact Nat.le_succ _
  · have hreact : m.react (h.after ops).depth op = m := by
      cases op with
      | record e =>
        rcases hrec with hrec | hrec
        · cases hrec
        · exact Mailbox.offer_of_cut e hrec
      | poll i =>
        have hne : i ≠ m.id := by
          rw [hid]
          rintro rfl
          exact hpoll rfl
        exact if_neg hne
      | _ => rfl
    rw [hreact] at hfound
    exact ⟨m, ⟨hfound, (received_snoc_of_ne h ops hpoll).symm ▸ w.block⟩, rfl, Nat.le_refl _⟩

/-- An event with room to spare lengthens the block. -/
theorem Holds.snoc_room {h : Hub} (coherent : h.Coherent) {id : Nat} {ops : List HubOp}
    {block : List Event} {m : Mailbox} (w : h.Holds id ops block m) (e : Event)
    (hr : m.registered = true) (hs : m.queue.size < h.depth) :
    ∃ m', h.Holds id (ops ++ [.record e]) (block ++ [e]) m' ∧ m'.registered = true ∧
      m'.queue.size ≤ h.depth := by
  have hdrop : HubOp.record e ≠ .drop .logging id := nofun
  have hpoll : HubOp.record e ≠ .poll id := nofun
  have hfound := mailbox?_step (coherent_after coherent ops) w.found hdrop
  rw [← after_snoc] at hfound
  have hreact : m.react (h.after ops).depth (.record e) =
      { m with queue := m.queue.push e } := by
    rw [depth_after]
    exact Mailbox.offer_of_room e hr hs
  rw [hreact] at hfound
  refine ⟨_, ⟨hfound, ?_⟩, hr, hs⟩
  rw [received_snoc_of_ne h ops hpoll, Queue.toList_push, ← List.append_assoc, w.block]

/-- An event without room cuts the subscription off and leaves the block as it is. -/
theorem Holds.snoc_full {h : Hub} (coherent : h.Coherent) {id : Nat} {ops : List HubOp}
    {block : List Event} {m : Mailbox} (w : h.Holds id ops block m) (e : Event)
    (hr : m.registered = true) (hs : ¬m.queue.size < h.depth) :
    h.Holds id (ops ++ [.record e]) block { m with registered := false } ∧
      id ∈ ((h.after ops).record e).2.evicted := by
  have hdrop : HubOp.record e ≠ .drop .logging id := nofun
  have hpoll : HubOp.record e ≠ .poll id := nofun
  have hfound := mailbox?_step (coherent_after coherent ops) w.found hdrop
  rw [← after_snoc] at hfound
  have hreact : m.react (h.after ops).depth (.record e) = { m with registered := false } := by
    rw [depth_after]
    exact Mailbox.offer_of_full e hr hs
  rw [hreact] at hfound
  refine ⟨⟨hfound, ?_⟩, ?_⟩
  · rw [received_snoc_of_ne h ops hpoll]
    exact w.block
  · rw [mem_evicted_iff e w.found, Mailbox.isFull, hr, depth_after]
    simp [hs]

/-- What is left to read when the subscription has lost nothing: a record finds it full exactly
when its mailbox is. -/
theorem Holds.full_iff {h : Hub} {id : Nat} {ops : List HubOp} {m : Mailbox}
    (w : h.Holds id ops (recorded ops) m) : h.Full id ops ↔ m.queue.size = h.depth := by
  have hl := congrArg List.length w.block
  rw [List.length_append, Queue.length_toList] at hl
  rw [Full]
  omega

/-- While it is not dropped, a subscription either has lost nothing, or was cut off by the first
record that found it full and has lost that record and all later ones. -/
theorem delivery {h : Hub} (coherent : h.Coherent) {id : Nat}
    (hm : h.mailbox? id = some ⟨id, .empty, true⟩) {ops : List HubOp}
    (live : .drop .logging id ∉ ops) :
    (∃ m, h.Holds id ops (recorded ops) m ∧ m.registered = true ∧ m.queue.size ≤ h.depth ∧
      h.Keeps id ops) ∨
    ∃ p e s m, ops = p ++ .record e :: s ∧ h.Full id p ∧ h.Keeps id p ∧
      id ∈ ((h.after p).record e).2.evicted ∧ h.Holds id ops (recorded p) m ∧
      m.registered = false := by
  induction ops using List.reverseRecOn with
  | nil =>
    refine .inl ⟨_, ⟨hm, rfl⟩, rfl, Nat.zero_le _, ?_⟩
    intro p e s hs
    simp at hs
  | append_singleton ops op ih =>
    have hop : op ≠ .drop .logging id := fun he ↦
      live (he ▸ List.mem_append_right _ List.mem_cons_self)
    rcases ih fun hm ↦ live (List.mem_append_left _ hm) with
      ⟨m, w, hreg, hsize, hkeeps⟩ | ⟨p, e, s, m, rfl, hfull, hkeeps, hev, w, hreg⟩
    · cases hrec : op.event? with
      | none =>
        obtain ⟨m', w', hr', hs'⟩ := w.snoc coherent hop (.inl hrec)
        refine .inl ⟨m', ?_, hr'.trans hreg, Nat.le_trans hs' hsize, keeps_snoc hkeeps ?_⟩
        · rw [recorded_snoc, hrec]
          simpa using w'
        · rintro e rfl
          cases hrec
      | some e =>
        obtain rfl : op = .record e := by
          cases op with
          | record e' => exact congrArg HubOp.record (Option.some.inj hrec)
          | _ => cases hrec
        by_cases hroom : m.queue.size < h.depth
        · obtain ⟨m', w', hr', hs'⟩ := w.snoc_room coherent e hreg hroom
          refine .inl ⟨m', ?_, hr', hs', keeps_snoc hkeeps fun _ _ hfull ↦ ?_⟩
          · rw [recorded_snoc]
            exact w'
          · have := w.full_iff.mp hfull
            omega
        · obtain ⟨w', hev⟩ := w.snoc_full coherent e hreg hroom
          have hfull := w.full_iff.mpr (by omega)
          exact .inr ⟨ops, e, [], _, rfl, hfull, hkeeps, hev, w', rfl⟩
    · obtain ⟨m', w', hr', _⟩ := w.snoc coherent hop (.inr hreg)
      refine .inr ⟨p, e, s ++ [op], m', ?_, hfull, hkeeps, hev, w', hr'.trans hreg⟩
      rw [List.append_assoc, List.cons_append]

/-- What a subscription finds is what it would find if it were alone. -/
theorem polls_eq_observe {h : Hub} (w : h.Coherent) {id : Nat} {m : Mailbox}
    (hm : h.mailbox? id = some m) {ops : List HubOp} (live : .drop .logging id ∉ ops) :
    polls id (h.trace ops) = m.observe h.depth (seen id ops) := by
  induction ops generalizing h m with
  | nil => rfl
  | cons op ops ih =>
    have hstep := mailbox?_step w hm fun he ↦ live (he ▸ List.mem_cons_self)
    have hrest := ih (coherent_step w op) hstep fun hm ↦ live (List.mem_cons_of_mem _ hm)
    rw [depth_step] at hrest
    have hid := id_of_mailbox? hm
    cases op with
    | record e => exact hrest
    | poll i =>
      by_cases hi : i = id
      · subst hi
        have hreact : m.react h.depth (.poll i) = m.poll.1 := if_pos hid.symm
        rw [hreact] at hrest
        have hcons : polls i (h.trace (.poll i :: ops)) =
            (h.poll i).2 :: polls i ((h.step (.poll i)).1.trace ops) := by
          simp [polls, trace, step]
        rw [hcons, poll_eq hm, hrest]
        simp [seen, HubOp.seenBy, Mailbox.observe]
      · have hreact : m.react h.depth (.poll i) = m := if_neg (by rwa [hid])
        rw [hreact] at hrest
        have hcons : polls id (h.trace (.poll i :: ops)) =
            polls id ((h.step (.poll i)).1.trace ops) := by
          simp [polls, trace, step, hi]
        rw [hcons, hrest]
        simp [seen, HubOp.seenBy, hi]
    | _ => exact hrest

/-- A subscription that is gone receives nothing. -/
theorem received_of_gone {h : Hub} {id : Nat} (hm : h.mailbox? id = none) (hid : id < h.nextId)
    (ops : List HubOp) : received id (h.trace ops) = [] := by
  induction ops generalizing h with
  | nil => rfl
  | cons op ops ih =>
    have hrest := ih (mailbox?_step_none hm hid op) (Nat.lt_of_lt_of_le hid (nextId_step h op))
    have hfirst : received id [(op, (h.step op).2)] = [] := by
      cases op with
      | poll i =>
        by_cases hi : i = id
        · subst hi
          have ended := poll_of_gone (mailbox?_eq_none_iff.mp hm)
          simp [received, polls, step, ended, Poll.event?]
        · simp [received, polls, step, hi]
      | _ => rfl
    change received id ([(op, (h.step op).2)] ++ (h.step op).1.trace ops) = []
    rw [received_append, hfirst, hrest, List.append_nil]

/-- Dropped or not, a subscription has received the first events since its registration. -/
theorem received_prefix {h : Hub} (w : h.Coherent) {id : Nat}
    (hm : h.mailbox? id = some ⟨id, .empty, true⟩) (ops : List HubOp) :
    received id (h.trace ops) <+: recorded ops := by
  have hid : id < h.nextId := w.lt_nextId .logging (mem_idsOf_of_mailbox? hm)
  have hlive : ∀ ops : List HubOp, .drop .logging id ∉ ops →
      received id (h.trace ops) <+: recorded ops := by
    intro ops live
    rcases delivery w hm live with ⟨m, w, _⟩ | ⟨p, e, s, m, rfl, _, _, _, w, _⟩
    · exact ⟨_, w.block⟩
    · refine List.IsPrefix.trans ⟨_, w.block⟩ ?_
      rw [recorded_append]
      exact List.prefix_append _ _
  by_cases live : .drop .logging id ∈ ops
  · obtain ⟨xs, ys, rfl, hxs⟩ := List.eq_append_cons_of_mem live
    have hgone : ((h.after xs).step (.drop .logging id)).1.mailbox? id = none :=
      (mailbox?_dropLogging (h.after xs) id id).trans (if_pos rfl)
    have hnext : id < ((h.after xs).step (.drop .logging id)).1.nextId :=
      Nat.lt_of_lt_of_le hid (Nat.le_trans (nextId_after h xs) (nextId_step _ _))
    have hnil : received id ((h.after xs).trace (.drop .logging id :: ys)) = [] :=
      received_of_gone hgone hnext ys
    rw [trace_append, received_append, hnil, List.append_nil, recorded_append]
    exact (hlive xs hxs).trans (List.prefix_append _ _)
  · exact hlive ops live

/-- Every event since the registration was received or is unread. With nothing unread the
subscription waits for more. -/
structure Following (h : Hub) (id : Nat) (ops : List HubOp) (unread : List Event) : Prop where
  keeps : h.Keeps id ops
  listed : id ∈ (h.after ops).loggers
  block : received id (h.trace ops) ++ unread = recorded ops
  next : ((h.after ops).poll id).2 = unread.head?.elim .pending .event

/-- The record of an event after `before` is the first to find the subscription full, and cuts it
off. All events before that record were received or are unread, and then comes the end. -/
structure CutOff (h : Hub) (id : Nat) (ops : List HubOp) (unread : List Event)
    (before : List HubOp) (e : Event) (later : List HubOp) : Prop where
  split : ops = before ++ .record e :: later
  full : h.Full id before
  first : h.Keeps id before
  evicted : id ∈ ((h.after before).record e).2.evicted
  unlisted : id ∉ (h.after ops).loggers
  block : received id (h.trace ops) ++ unread = recorded before
  next : ((h.after ops).poll id).2 = unread.head?.elim .ended .event

/-- What a poll finds is the first unread event, or else whether more can come. -/
private theorem Holds.next {h : Hub} {id : Nat} {ops : List HubOp} {block : List Event}
    {m : Mailbox} (w : h.Holds id ops block m) :
    ((h.after ops).poll id).2 =
      m.queue.toList.head?.elim (if m.registered then .pending else .ended) .event := by
  rw [poll_eq w.found]
  cases hq : m.queue.toList with
  | nil =>
    rw [Mailbox.poll_of_nil hq]
    rfl
  | cons e rest =>
    obtain ⟨queue, _, hp⟩ := Mailbox.poll_of_cons hq
    rw [hp]
    rfl

/-- While it is not dropped, a subscription that began empty follows the records or was cut off. -/
theorem following_or_cutOff {h : Hub} (w : h.Coherent) {id : Nat}
    (found : h.mailbox? id = some ⟨id, .empty, true⟩) {ops : List HubOp}
    (live : .drop .logging id ∉ ops) :
    ∃ unread, h.Following id ops unread ∨
      ∃ before e later, h.CutOff id ops unread before e later := by
  rcases delivery w found live with
    ⟨m, holds, registered, _, keeps⟩ | ⟨before, e, later, m, split, full, first, cut, holds, gone⟩
  · refine ⟨m.queue.toList, .inl ⟨keeps, ?_, holds.block, ?_⟩⟩
    · exact (mem_loggers_iff holds.found).mpr registered
    · rw [holds.next, if_pos registered]
  · refine ⟨m.queue.toList,
      .inr ⟨before, e, later, split, full, first, cut, ?_, holds.block, ?_⟩⟩
    · rw [mem_loggers_iff holds.found, gone]
      exact Bool.false_ne_true
    · rw [holds.next, if_neg (by simp [gone])]

private theorem coherent_subscribeLogging (h : Hub) (w : h.Coherent) :
    h.subscribeLogging.1.Coherent :=
  coherent_step w (.subscribe .logging)

/-- A logging subscription receives one contiguous block of the records. It begins with the first
record after the registration and holds every later one in order. It ends before the first record
that finds as many events unread as a mailbox holds, which is at least one: that record cuts the
subscription off, and what is unread then is still received before the end is reported. What the
subscription finds depends on the records and its own polls only. Of two subscriptions, one has
received from the later registration on what the other has, or the beginning of it. -/
theorem logging_receives_contiguous_block (q : Nat) (pre post : List HubOp) :
    let hub := ((ofDepth q).after pre).subscribeLogging.1
    let id := ((ofDepth q).after pre).subscribeLogging.2
    hub.depth = max q 1 ∧
    (.drop .logging id ∉ post → ∃ unread,
      hub.Following id post unread ∨ ∃ before e later, hub.CutOff id post unread before e later) ∧
    (∀ pre' post',
      let hub' := ((ofDepth q).after pre').subscribeLogging.1
      let id' := ((ofDepth q).after pre').subscribeLogging.2
      .drop .logging id ∉ post → .drop .logging id' ∉ post' → seen id post = seen id' post' →
        polls id (hub.trace post) = polls id' (hub'.trace post')) ∧
    (∀ mid rest, post = mid ++ .subscribe .logging :: rest →
      let hub' := (hub.after mid).subscribeLogging.1
      let id' := (hub.after mid).subscribeLogging.2
      let older := (received id (hub.trace post)).drop (recorded mid).length
      let newer := received id' (hub'.trace rest)
      older <+: newer ∨ newer <+: older) := by
  intro hub id
  have fresh (pre : List HubOp) : ((ofDepth q).after pre).Coherent :=
    coherent_after (coherent_ofDepth q) pre
  have depth (pre : List HubOp) : ((ofDepth q).after pre).subscribeLogging.1.depth = max q 1 :=
    depth_after (ofDepth q) pre
  have hub_coherent : hub.Coherent := coherent_subscribeLogging _ (fresh pre)
  have found : hub.mailbox? id = some ⟨id, .empty, true⟩ := mailbox?_subscribeLogging (fresh pre)
  refine ⟨depth pre, ?_, ?_, ?_⟩
  · exact following_or_cutOff hub_coherent found
  · intro pre' post' hub' id' live live' hseen
    have found' : hub'.mailbox? id' = some ⟨id', .empty, true⟩ :=
      mailbox?_subscribeLogging (fresh pre')
    rw [polls_eq_observe hub_coherent found live,
      polls_eq_observe (coherent_subscribeLogging _ (fresh pre')) found' live', hseen]
    change Mailbox.observe hub.depth { (⟨id', .empty, true⟩ : Mailbox) with id } _ = _
    rw [Mailbox.observe_renumber, depth pre, depth pre']
  · rintro mid rest rfl hub' id' older newer
    have hmid := coherent_after hub_coherent mid
    have found' : hub'.mailbox? id' = some ⟨id', .empty, true⟩ := mailbox?_subscribeLogging hmid
    have holder : older <+: recorded rest := by
      have hall := received_prefix hub_coherent found (mid ++ .subscribe .logging :: rest)
      have hdrop := List.IsPrefix.drop hall (recorded mid).length
      rw [recorded_append, List.drop_left] at hdrop
      exact hdrop
    have hnewer : newer <+: recorded rest :=
      received_prefix (coherent_subscribeLogging _ hmid) found' rest
    exact List.prefix_or_prefix_of_prefix holder hnewer

/-- With the least depth the second record cuts a subscription off. One event is still received, as
on a hub where nobody else ever subscribed, and a later subscription agrees on what comes after its
registration. -/
theorem logging_receives_contiguous_block_of_one :
    let hub := ((ofDepth 0).after [.subscribe .statistics]).subscribeLogging.1
    let alone := (ofDepth 0).subscribeLogging.1
    let a : Event := ⟨"c1", "/Biz/Add", "127.0.0.1:40000"⟩
    let b : Event := ⟨"c2", "/Biz/Check", "127.0.0.1:40001"⟩
    let rest := [.record b, .poll 2, .drop .logging 3, .poll 2]
    let ops := [.record a, .subscribe .logging] ++ rest
    let ops' := [.record a, .record b, .poll 1, .poll 1]
    let older := (received 2 (hub.trace ops)).drop 1
    let newer := received 3 ((hub.after [.record a]).subscribeLogging.1.trace rest)
    (.drop .logging 2 ∉ ops ∧ ∃ unread before e later, hub.CutOff 2 ops unread before e later) ∧
      seen 2 ops = seen 1 ops' ∧ polls 2 (hub.trace ops) = polls 1 (alone.trace ops') ∧
      polls 2 (hub.trace ops) = [.event a, .ended] ∧ (older <+: newer ∨ newer <+: older) := by
  intro hub alone a b rest ops ops' older newer
  have live : HubOp.drop .logging 2 ∉ ops := by decide
  have block := logging_receives_contiguous_block 0 [.subscribe .statistics] ops
  have common : older <+: newer ∨ newer <+: older := block.2.2.2 [.record a] rest rfl
  obtain ⟨unread, following | cutOff⟩ := block.2.1 live
  · exact absurd following.listed (by decide)
  · exact ⟨⟨live, unread, cutOff⟩, by decide,
      block.2.2.1 [] ops' live (by decide) (by decide), by decide, common⟩

end Hub

end Gatehouse

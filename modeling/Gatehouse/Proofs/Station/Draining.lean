import Gatehouse.Proofs.Station.Settling

/-!
# Draining

A station that drains keeps draining. When it comes to rest, every relay has ended and dropped its
subscription, except those that hold an item for which their clients make no room: a relay that
waits for room does not see that the gateway is draining.
-/

namespace Gatehouse

/-- What happens to the drain channel. -/
def StationOp.onChannel (c : Drain.Channel) : StationOp → Drain.Channel
  | .drain => if c.triggerHeld then c.drain else c
  | .dropTrigger => c.dropTrigger
  | _ => c

namespace Station

theorem channel_step (s : Station) (op : StationOp) :
    (s.step op).channel = op.onChannel s.channel := by
  cases op with
  | hub op =>
    simp only [step]
    split <;> rfl
  | start g transport watchesClient =>
    simp only [step]
    split <;> rfl
  | move id m =>
    simp only [step]
    split
    · rfl
    · split <;> rfl
  | read id =>
    simp only [step, read]
    split <;> rfl
  | leave id =>
    simp only [step, leave]
    split <;> rfl
  | drain =>
    simp only [step, StationOp.onChannel]
    split <;> rfl
  | dropTrigger => rfl
  | advance ms => rfl

/-- Nothing stops the draining. -/
theorem draining_after {s : Station} (h : s.channel.draining = true) (ops : List StationOp) :
    (s.after ops).channel.draining = true := by
  induction ops generalizing s with
  | nil => exact h
  | cons op ops ih =>
    refine ih ?_
    rw [channel_step]
    cases op with
    | drain =>
      simp only [StationOp.onChannel]
      split
      · rfl
      · exact h
    | _ => exact h

/-- A station that drains was told so, before the trigger was dropped. -/
theorem exists_drain_of_draining {s : Station} {ops : List StationOp}
    (h : (s.after ops).channel.draining = true) :
    s.channel.draining = true ∨
      s.channel.triggerHeld = true ∧
        ∃ before later, ops = before ++ .drain :: later ∧ .dropTrigger ∉ before := by
  induction ops generalizing s with
  | nil => exact .inl h
  | cons op ops ih =>
    have step := channel_step s op
    rcases ih h with draining | ⟨held, before, later, rfl, kept⟩
    · rw [step] at draining
      cases op with
      | drain =>
        simp only [StationOp.onChannel] at draining
        split at draining
        · next held => exact .inr ⟨held, [], ops, rfl, List.not_mem_nil⟩
        · exact .inl draining
      | _ => exact .inl draining
    · rw [step] at held
      refine .inr ⟨?_, op :: before, later, rfl, ?_⟩
      · cases op with
        | drain =>
          simp only [StationOp.onChannel] at held
          split at held
          · next held => exact held
          · exact held
        | dropTrigger => cases held
        | _ => exact held
      · intro hm
        rcases List.mem_cons.mp hm with rfl | hm
        · cases held
        · exact kept hm

/-- A station that is not told to drain does not drain. -/
theorem calm_after {s : Station} {ops : List StationOp} (calm : s.channel.draining = false)
    (undrained : .drain ∉ ops) : (s.after ops).channel.draining = false := by
  rw [← Bool.not_eq_true]
  intro draining
  rcases exists_drain_of_draining draining with old | ⟨_, before, later, rfl, _⟩
  · exact Bool.false_ne_true (calm.symm.trans old)
  · exact undrained (by simp)

theorem calm_step {s : Station} {op : StationOp} (calm : s.channel.draining = false)
    (undrained : op ≠ .drain) : (s.step op).channel.draining = false := by
  change (s.after [op]).channel.draining = false
  exact calm_after calm (by simpa using undrained.symm)

end Station

end Gatehouse

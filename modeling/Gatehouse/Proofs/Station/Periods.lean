import Gatehouse.Proofs.Station.Ticking

/-!
# Periods of relays

A relay never loses the period that its stream was opened with, and its next tick is never due later
than one period from now. So where streams are opened with periods that are allowed, all relays of
the station have such periods, and all their ticks are near.
-/

namespace Gatehouse

/-- A grant as the gateway gives it: of a logging stream, or of a statistics stream with a period
that is allowed. -/
inductive Grant.Opened (maxInterval : Nat) : Grant → Prop
  | logging (hub : Hub) : Opened maxInterval (Admin.openLogging hub).1
  | statistics {seconds : Nat} {hub hub' : Hub} {grant : Grant}
    (h : Admin.openStatistics maxInterval seconds hub = .ok (grant, hub')) :
    Opened maxInterval grant

/-- The period is allowed, and the next tick is due within one period from now. -/
def Feed.Near (maxInterval clock : Nat) : Feed → Prop
  | .events => True
  | .counts period due => period.seconds ≤ maxInterval ∧ due ≤ clock + period.milliseconds

section

variable {maxInterval clock : Nat}

theorem Feed.Near.wait {feed : Feed} (w : feed.Near maxInterval clock) {later : Nat}
    (h : clock ≤ later) : feed.Near maxInterval later := by
  cases feed with
  | events => trivial
  | counts period due => exact ⟨w.1, w.2.trans (Nat.add_le_add_right h _)⟩

theorem Grant.Opened.near {grant : Grant} (h : grant.Opened maxInterval) (clock : Nat) :
    grant.feed.Near maxInterval clock := by
  cases h with
  | logging hub => trivial
  | statistics h =>
    obtain ⟨le, ⟨period, rfl, rfl⟩, -⟩ := Admin.openStatistics_eq_ok_iff.mp h
    exact ⟨le, Nat.zero_le _⟩

/-- The tick after one that came is due within one period. -/
theorem Period.next_le (period : Period) {due now : Nat} (late : due ≤ now) :
    period.next due now ≤ now + period.milliseconds := by
  unfold next
  split <;> omega

/-- A move leaves a relay its period, and its next tick near. -/
theorem Relay.Acts.near {r : Relay} {s : Surroundings} {m : Move} {f : Fired} (acts : r.Acts s m f)
    (w : r.feed.Near maxInterval s.clock) : f.relay.feed.Near maxInterval s.clock := by
  cases acts with
  | start created =>
    cases counts : r.feed with
    | events =>
      simp only [Relay.started, counts]
      trivial
    | counts period due =>
      rw [counts] at w
      simp only [Relay.started, counts]
      exact ⟨w.1, Nat.le_refl _⟩
  | @tick period due waiting counts late =>
    rw [counts] at w
    rw [(Relay.hand_keeps _ _ _).1]
    exact ⟨w.1, period.next_le late⟩
  | receive waiting events found =>
    rw [(Relay.hand_keeps _ _ _).1]
    exact w
  | push pushing ready =>
    rw [(Relay.hand_keeps _ _ _).1]
    exact w
  | _ => exact w

end

namespace Station

/-- Each relay has a period that is allowed, and its next tick is near. -/
def Near (maxInterval : Nat) (s : Station) : Prop :=
  ∀ r ∈ s.relays, r.feed.Near maxInterval s.clock

variable {maxInterval : Nat} {s : Station}

theorem Near.setRelay (w : s.Near maxInterval) {r : Relay}
    (h : r.feed.Near maxInterval s.clock) : (s.setRelay r).Near maxInterval := by
  intro o ho
  rcases mem_setRelay ho with rfl | ⟨old, -⟩
  · exact h
  · exact w o old

theorem Near.spawn (w : s.Near maxInterval) {r : Relay} (h : r.feed.Near maxInterval s.clock) :
    (s.spawn r).Near maxInterval := by
  intro o ho
  rcases List.mem_append.mp ho with old | new
  · exact w o old
  · rw [List.mem_singleton.mp new]
    exact h

/-- What happens at a station leaves the relays their periods, and their next ticks near. -/
theorem near_step (w : s.Near maxInterval) {op : StationOp}
    (opened : ∀ grant transport watches, op = .start grant transport watches →
      grant.Opened maxInterval) : (s.step op).Near maxInterval := by
  cases op with
  | hub op =>
    simp only [step]
    split <;> exact w
  | start grant transport watches =>
    simp only [step]
    split
    · exact w.spawn ((opened _ _ _ rfl).near s.clock)
    · exact w
  | move id m =>
    simp only [step]
    split
    · exact w
    · next r found =>
      split
      · exact w
      · next f moved =>
        exact w.setRelay ((Relay.acts_of_move moved).near (w r (mem_of_relay? found).1))
  | read id =>
    simp only [step, read]
    split
    · exact w
    · next r found => exact w.setRelay (w r (mem_of_relay? found).1)
  | leave id =>
    simp only [step, leave]
    split
    · exact w
    · next r found => exact w.setRelay (w r (mem_of_relay? found).1)
  | drain =>
    simp only [step]
    split <;> exact w
  | dropTrigger => exact w
  | advance ms => exact fun r hr ↦ (w r hr).wait (Nat.le_add_right _ _)

end Station

end Gatehouse

import Mathlib.Data.List.Chain
import Gatehouse.Proofs.Stream.Acts

/-!
# The pace of a statistics relay

A tick is never early, and how late it is moves the ones after it. So the times of the ticks are
spread out from the start of the relay on, by a period for each, and after a stall there is no
burst: two ticks in turn are a period apart, less what a late tick may be late without moving the
next.
-/

namespace Gatehouse

/-- The next tick is due a period later at least. -/
theorem Period.add_le_next (period : Period) (due now : Nat) :
    due + period.milliseconds ≤ period.next due now := by
  unfold next
  split <;> omega

/-- The next tick is due a period after this one came, less the grace. -/
theorem Period.add_le_next_add_grace (period : Period) (due now : Nat) :
    now + period.milliseconds ≤ period.next due now + grace := by
  unfold next
  split <;> omega

/-- The times of the ticks up to now of a relay that began at `start` and whose next tick is due at
`due`. -/
structure Pacing (period : Period) (start : Nat) (times : List Nat) (due now : Nat) : Prop where
  begun : start ≤ now
  /-- Each tick came after as many periods as there were ticks with it. -/
  spread : ∀ k (h : k < times.length), start + (k + 1) * period.milliseconds ≤ times[k]
  apart : times.IsChain fun a b ↦ a + period.milliseconds ≤ b + Period.grace
  /-- No more ticks came up to a time than there were full periods. -/
  few : ∀ t, times.countP (· ≤ t) * period.milliseconds ≤ t - start
  past : ∀ t ∈ times, t ≤ now
  ahead : start + (times.length + 1) * period.milliseconds ≤ due
  rested : ∀ last ∈ times.getLast?, last + period.milliseconds ≤ due + Period.grace

namespace Pacing

variable {period : Period} {start due now : Nat} {times : List Nat}

/-- A relay that begins has not ticked, and its first tick is due after one period. -/
theorem begin (period : Period) (now : Nat) :
    Pacing period now [] (now + period.milliseconds) now where
  begun := Nat.le_refl _
  spread _ h := absurd h (Nat.not_lt_zero _)
  apart := .nil
  few _ := by simp
  past _ h := absurd h List.not_mem_nil
  ahead := by simp
  rested _ h := nomatch h

/-- Time goes by. -/
theorem wait (w : Pacing period start times due now) {later : Nat} (h : now ≤ later) :
    Pacing period start times due later where
  begun := w.begun.trans h
  spread := w.spread
  apart := w.apart
  few := w.few
  past t ht := (w.past t ht).trans h
  ahead := w.ahead
  rested := w.rested

/-- A tick that is due comes now. -/
theorem tick (w : Pacing period start times due now) (late : due ≤ now) :
    Pacing period start (times ++ [now]) (period.next due now) now where
  begun := w.begun
  spread := by
    intro k h
    rw [List.getElem_append]
    split
    · next old => exact w.spread k old
    · next new =>
      rw [List.length_append, List.length_singleton] at h
      obtain rfl : k = times.length := by omega
      rw [List.getElem_singleton]
      exact w.ahead.trans late
  apart := by
    refine w.apart.append (.singleton now) fun last hlast b hb ↦ ?_
    rw [List.head?_singleton, Option.mem_some_iff] at hb
    subst hb
    exact (w.rested last hlast).trans (Nat.add_le_add_right late _)
  few := by
    intro t
    rw [List.countP_append]
    by_cases reached : now ≤ t
    · -- Up to a time from now on all ticks came, the new one among them.
      have all : times.countP (· ≤ t) = times.length :=
        List.countP_eq_length.mpr fun u hu ↦ decide_eq_true ((w.past u hu).trans reached)
      rw [all, List.countP_singleton, if_pos (decide_eq_true reached)]
      have := w.ahead
      omega
    · rw [List.countP_singleton, if_neg (by simpa using reached), Nat.add_zero]
      exact w.few t
  past := by
    intro t ht
    rcases List.mem_append.mp ht with old | new
    · exact w.past t old
    · exact Nat.le_of_eq (List.mem_singleton.mp new)
  ahead := by
    have := w.ahead
    have := period.add_le_next due now
    rw [List.length_append, List.length_singleton, Nat.add_mul _ 1]
    omega
  rested := by
    intro last hlast
    rw [List.getLast?_concat, Option.mem_some_iff] at hlast
    subst hlast
    exact period.add_le_next_add_grace due now

end Pacing

namespace Relay

/-- A statistics relay with the times at which it began and ticked: it has yet to begin, or it began
once. -/
inductive Paced (period : Period) (now : Nat) (r : Relay) : List Nat → List Nat → Prop
  | created {due : Nat} (counts : r.feed = .counts period due) (created : r.phase = .created) :
      Paced period now r [] []
  | running {start due : Nat} {times : List Nat} (counts : r.feed = .counts period due)
      (started : r.hasStarted = true) (pacing : Pacing period start times due now) :
      Paced period now r [start] times

variable {period : Period} {now : Nat} {r : Relay} {begun times : List Nat}

/-- Time goes by. -/
theorem Paced.wait (w : r.Paced period now begun times) {later : Nat} (h : now ≤ later) :
    r.Paced period later begun times := by
  cases w with
  | created counts created => exact .created counts created
  | running counts started pacing => exact .running counts started (pacing.wait h)

/-- What matters for the pace of a relay is where its items come from and what it is doing. -/
theorem Paced.congr (w : r.Paced period now begun times) {r' : Relay} (feed : r'.feed = r.feed)
    (phase : r'.phase = r.phase) : r'.Paced period now begun times := by
  cases w with
  | created counts created => exact .created (feed.trans counts) (phase.trans created)
  | running counts started pacing =>
    refine .running (feed.trans counts) ?_ pacing
    rwa [hasStarted, phase]

/-- A move that is no tick leaves the feed of a relay that has begun as it is. -/
theorem Acts.feed_eq {s : Surroundings} {m : Move} {f : Fired} (w : r.Acts s m f)
    (start : m ≠ .branch .start) (tick : m ≠ .branch .tick) : f.relay.feed = r.feed := by
  cases w with
  | start created => exact absurd rfl start
  | tick waiting counts late => exact absurd rfl tick
  | receive waiting events found => exact (hand_keeps _ _ _).1
  | push pushing ready => exact (hand_keeps _ _ _).1
  | _ => rfl

/-- A relay that makes a move begins now, or it has begun before and ticks or does not. -/
theorem Paced.acts {s : Surroundings} {m : Move} {f : Fired}
    (w : r.Paced period s.clock begun times) (acts : r.Acts s m f) :
    f.relay.Paced period s.clock (begun ++ if r.hasStarted then [] else [s.clock])
      (times ++ if m = .branch .tick then [s.clock] else []) := by
  have started := acts.begun.started
  by_cases begins : m = .branch .start
  · subst begins
    cases acts with
    | start created =>
      cases w with
      | created counts _ =>
        rw [if_neg (by simp [hasStarted, created]), if_neg (by simp)]
        refine .running ?_ started (Pacing.begin period s.clock)
        simp [Relay.started, counts]
      | running counts running pacing => simp [hasStarted, created] at running
  · have running : r.hasStarted = true := by
      cases acts with
      | start created => exact absurd rfl begins
      | _ => simp [hasStarted, *]
    rw [if_pos running, List.append_nil]
    cases w with
    | created counts created => simp [hasStarted, created] at running
    | @running start due times counts _ pacing =>
      by_cases ticks : m = .branch .tick
      · subst ticks
        rw [if_pos rfl]
        cases acts with
        | tick waiting counts' late =>
          rw [counts] at counts'
          cases counts'
          exact .running (hand_keeps _ _ _).1 started (pacing.tick late)
      · rw [if_neg ticks, List.append_nil]
        exact .running ((acts.feed_eq begins ticks).trans counts) started pacing

/-- A relay has not begun and not ticked, or it ticks as its pace tells. -/
theorem Paced.schedule (w : r.Paced period now begun times) :
    begun = [] ∧ times = [] ∨ ∃ start, begun = [start] ∧
      (∀ k (h : k < times.length), start + (k + 1) * period.milliseconds ≤ times[k]) ∧
      (∀ k (h : k + 1 < times.length),
        times[k] + period.milliseconds ≤ times[k + 1] + Period.grace) ∧
      ∀ t, times.countP (· ≤ t) ≤ (t - start) / period.milliseconds := by
  cases w with
  | created counts created => exact .inl ⟨rfl, rfl⟩
  | @running start due times counts started pacing =>
    have positive : 0 < period.milliseconds := Nat.mul_pos (by decide) period.pos
    exact .inr ⟨start, rfl, pacing.spread, List.isChain_iff_getElem.mp pacing.apart,
      fun t ↦ (Nat.le_div_iff_mul_le positive).mpr (pacing.few t)⟩

end Relay

end Gatehouse

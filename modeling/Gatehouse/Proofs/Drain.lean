import Gatehouse.Drain

/-!
# No signal misses the draining

Signals are taken from a trigger and cloned, waited for and dropped in any order. A wait is parked
only by a signal that has seen a channel which was not draining, and it is hopeless only when the
trigger was dropped without being pulled. So the next poll of any wait ends it exactly if the
trigger was pulled before.
-/

namespace Gatehouse.Drain

/-- A signal, and how far a wait for it has got. -/
structure Observer where
  signal : Signal
  wait : Wait

namespace Observer

/-- An observer whose next poll begins a wait. -/
def ofSignal (s : Signal) : Observer := ⟨s, .fresh⟩

/-- Polls the wait. One that is over is done with, and the next poll begins another. -/
def poll (o : Observer) (c : Channel) : Observer × Bool :=
  let (signal, wait, ended) := o.signal.poll o.wait c
  (⟨signal, if ended then .fresh else wait⟩, ended)

/-- What the observer knows about the channel: a wait is parked on a value that was no draining, and
hopeless only where nothing can change. -/
structure Sound (o : Observer) (c : Channel) : Prop where
  seen_le : o.signal.seen ≤ c.version
  parked : o.wait = .parked → o.signal.seen = c.version → c.draining = false
  hopeless : o.wait = .hopeless → c.draining = false ∧ c.triggerHeld = false

theorem sound_ofSignal {s : Signal} {c : Channel} (h : s.seen ≤ c.version) :
    (ofSignal s).Sound c := ⟨h, nofun, nofun⟩

variable {o : Observer} {c : Channel}

/-- A poll ends a wait exactly if the gateway is draining. -/
theorem Sound.poll_snd (w : o.Sound c) : (o.poll c).2 = c.draining := by
  unfold poll Signal.poll
  cases hw : o.wait with
  | fresh => rfl
  | parked =>
    by_cases seen : o.signal.seen = c.version
    · simp only [if_pos seen]
      exact (w.parked hw seen).symm
    · simp only [if_neg seen]
      rfl
  | hopeless => exact (w.hopeless hw).1.symm

/-- Whoever looks at the channel knows what it shows. -/
private theorem sound_look (c : Channel) :
    (⟨(Signal.look c).1, if c.draining then .fresh else (Signal.look c).2.1⟩ : Observer).Sound
      c := by
  refine ⟨Nat.le_refl _, ?_, ?_⟩
  · intro h _
    cases hd : c.draining with
    | false => rfl
    | true => simp [hd] at h
  · intro h
    cases hd : c.draining <;> cases ht : c.triggerHeld <;> simp [hd, ht, Signal.look] at h ⊢

theorem Sound.poll (w : o.Sound c) : (o.poll c).1.Sound c := by
  unfold Observer.poll Signal.poll
  cases hw : o.wait with
  | fresh => exact sound_look c
  | parked =>
    by_cases seen : o.signal.seen = c.version
    · simp only [if_pos seen]
      have quiet := w.parked hw seen
      refine ⟨w.seen_le, fun _ _ ↦ quiet, fun h ↦ ⟨quiet, ?_⟩⟩
      cases ht : c.triggerHeld <;> simp [ht] at h ⊢
    · simp only [if_neg seen]
      exact sound_look c
  | hopeless => exact ⟨w.seen_le, nofun, fun _ ↦ w.hopeless hw⟩

/-- Pulling the trigger is a change that nobody has seen. -/
theorem Sound.drain (w : o.Sound c) (held : c.triggerHeld = true) : o.Sound c.drain where
  seen_le := Nat.le_succ_of_le w.seen_le
  parked _ seen := by
    have := w.seen_le
    change o.signal.seen = c.version + 1 at seen
    omega
  hopeless h := absurd ((w.hopeless h).2.symm.trans held) Bool.false_ne_true

theorem Sound.dropTrigger (w : o.Sound c) : o.Sound c.dropTrigger :=
  ⟨w.seen_le, w.parked, fun h ↦ ⟨(w.hopeless h).1, rfl⟩⟩

end Observer

/-- What is done with the signals of a channel. Observers are named by their places. -/
inductive SignalOp where
  /-- A signal is taken from the trigger. -/
  | take
  | clone (i : Nat)
  /-- A wait is polled, or begun. -/
  | poll (i : Nat)
  /-- A wait that is not over is given up. -/
  | giveUp (i : Nat)
  | drop (i : Nat)

/-- The observers of a channel after something was done with its signals. Without its trigger a
channel gives no signals. -/
def Channel.serve (c : Channel) (os : List Observer) : SignalOp → List Observer
  | .take => if c.triggerHeld then os ++ [.ofSignal c.signal] else os
  | .clone i => os ++ (os[i]?.map fun o ↦ .ofSignal o.signal).toList
  | .poll i => os.modify i fun o ↦ (o.poll c).1
  | .giveUp i => os.modify i fun o ↦ .ofSignal o.signal
  | .drop i => os.eraseIdx i

/-- Whatever is done with signals, no observer is wrong about the channel. -/
theorem sound_serve {c : Channel} {os : List Observer} (w : ∀ o ∈ os, o.Sound c) (op : SignalOp) :
    ∀ o ∈ c.serve os op, o.Sound c := by
  have modified {f : Observer → Observer} (hf : ∀ o, o.Sound c → (f o).Sound c) (i : Nat) :
      ∀ o ∈ os.modify i f, o.Sound c := by
    intro o ho
    obtain ⟨j, hj, rfl⟩ := List.mem_iff_getElem.mp ho
    rw [List.length_modify] at hj
    have old := w os[j] (List.getElem_mem hj)
    rw [List.getElem_modify]
    split
    · exact hf _ old
    · exact old
  intro o ho
  cases op with
  | take =>
    simp only [Channel.serve] at ho
    split at ho
    · rcases List.mem_append.mp ho with ho | ho
      · exact w o ho
      · rw [List.mem_singleton.mp ho]
        exact Observer.sound_ofSignal (Nat.le_refl _)
    · exact w o ho
  | clone i =>
    rcases List.mem_append.mp ho with ho | ho
    · exact w o ho
    · rw [Option.mem_toList, Option.map_eq_some_iff] at ho
      obtain ⟨p, hp, rfl⟩ := ho
      exact Observer.sound_ofSignal (w p (List.mem_of_getElem? hp)).seen_le
  | poll i => exact modified (fun _ w ↦ w.poll) i o ho
  | giveUp i => exact modified (fun _ w ↦ Observer.sound_ofSignal w.seen_le) i o ho
  | drop i => exact w o (List.mem_of_mem_eraseIdx ho)

/-! ### Sessions -/

/-- One thing that happens to a channel and its signals. -/
inductive Op where
  | drain
  | dropTrigger
  | signal (op : SignalOp)

/-- A channel with its observers. -/
structure Session where
  channel : Channel
  observers : List Observer

namespace Session

/-- A new channel with its first signal. -/
def new : Session := ⟨.new, [.ofSignal Channel.new.signal]⟩

/-- What happens next. A trigger that was dropped cannot be pulled. -/
def step (s : Session) : Op → Session
  | .drain => if s.channel.triggerHeld then { s with channel := s.channel.drain } else s
  | .dropTrigger => { s with channel := s.channel.dropTrigger }
  | .signal op => { s with observers := s.channel.serve s.observers op }

/-- The session after a history. -/
def after (s : Session) (ops : List Op) : Session := ops.foldl step s

theorem after_append (s : Session) (xs ys : List Op) :
    s.after (xs ++ ys) = (s.after xs).after ys := List.foldl_append

/-- No observer is wrong about the channel. -/
def Sound (s : Session) : Prop := ∀ o ∈ s.observers, o.Sound s.channel

theorem sound_new : new.Sound := by
  intro o ho
  rw [List.mem_singleton.mp ho]
  exact Observer.sound_ofSignal (Nat.le_refl _)

theorem Sound.step {s : Session} (w : s.Sound) (op : Op) : (s.step op).Sound := by
  cases op with
  | drain =>
    simp only [Session.step]
    split
    · next held => exact fun o ho ↦ (w o ho).drain held
    · exact w
  | dropTrigger => exact fun o ho ↦ (w o ho).dropTrigger
  | signal op => exact sound_serve w op

theorem Sound.after {s : Session} (w : s.Sound) (ops : List Op) : (s.after ops).Sound := by
  induction ops generalizing s with
  | nil => exact w
  | cons op ops ih => exact ih (w.step op)

end Session

/-- The trigger was pulled, which it can be until it is dropped. -/
def Pulled (ops : List Op) : Prop :=
  ∃ before later, ops = before ++ .drain :: later ∧ .dropTrigger ∉ before

theorem pulled_cons_iff {op : Op} {ops : List Op} :
    Pulled (op :: ops) ↔ op = .drain ∨ op ≠ .dropTrigger ∧ Pulled ops := by
  constructor
  · rintro ⟨before, later, h, kept⟩
    cases before with
    | nil => exact .inl (List.cons.inj h).1
    | cons first before =>
      obtain ⟨rfl, rfl⟩ := List.cons.inj h
      rw [List.mem_cons, not_or] at kept
      exact .inr ⟨Ne.symm kept.1, before, later, rfl, kept.2⟩
  · rintro (rfl | ⟨hop, before, later, rfl, kept⟩)
    · exact ⟨[], ops, rfl, List.not_mem_nil⟩
    · exact ⟨op :: before, later, rfl, List.not_mem_cons_of_ne_of_not_mem (Ne.symm hop) kept⟩

/-- While the trigger is kept, it was pulled if it was pulled at all. -/
theorem pulled_iff_mem {ops : List Op} (kept : .dropTrigger ∉ ops) :
    Pulled ops ↔ .drain ∈ ops := by
  constructor
  · rintro ⟨before, later, rfl, -⟩
    exact List.mem_append_right _ List.mem_cons_self
  · intro h
    obtain ⟨before, later, rfl⟩ := List.append_of_mem h
    exact ⟨before, later, rfl, fun h ↦ kept (List.mem_append_left _ h)⟩

theorem Pulled.append {ops : List Op} (h : Pulled ops) (later : List Op) :
    Pulled (ops ++ later) := by
  obtain ⟨before, rest, rfl, kept⟩ := h
  exact ⟨before, rest ++ later, by simp, kept⟩

/-- After the trigger was dropped nothing pulls it. -/
theorem pulled_of_dropTrigger {ops later : List Op} (h : Pulled (ops ++ .dropTrigger :: later)) :
    Pulled ops := by
  induction ops with
  | nil =>
    rw [List.nil_append, pulled_cons_iff] at h
    rcases h with h | ⟨h, _⟩
    · cases h
    · exact absurd rfl h
  | cons op ops ih =>
    rw [List.cons_append, pulled_cons_iff] at h
    rw [pulled_cons_iff]
    exact h.imp_right fun h ↦ ⟨h.1, ih h.2⟩

namespace Session

theorem draining_after_iff {s : Session} {ops : List Op} :
    (s.after ops).channel.draining = true ↔
      s.channel.draining = true ∨ s.channel.triggerHeld = true ∧ Pulled ops := by
  induction ops generalizing s with
  | nil => simp [after, Pulled]
  | cons op ops ih =>
    refine ih.trans ?_
    rw [pulled_cons_iff]
    cases op with
    | drain =>
      by_cases held : s.channel.triggerHeld = true
      · simp [step, held, Channel.drain]
      · simp [step, held]
    | dropTrigger => simp [step, Channel.dropTrigger]
    | signal op => simp [step]

/-- A session shows the draining exactly if the trigger was pulled. -/
theorem draining_after_new_iff {ops : List Op} :
    (new.after ops).channel.draining = true ↔ Pulled ops :=
  draining_after_iff.trans (by simp [new, Channel.new])

/-- Whether every observer of a session tells so much of the draining: its signal, a new wait and
the next poll of the wait that it is at. -/
def Tells (s : Session) (draining : Bool) : Prop :=
  ∀ o ∈ s.observers, o.signal.isDraining s.channel = draining ∧
    o.signal.resolves s.channel = draining ∧ (o.poll s.channel).2 = draining

theorem Sound.tells {s : Session} (w : s.Sound) : s.Tells s.channel.draining :=
  fun o ho ↦ ⟨rfl, rfl, (w o ho).poll_snd⟩

/-- Every observer of a session tells whether the trigger was pulled. -/
theorem tells_after_new {ops : List Op} {draining : Bool} (h : draining = true ↔ Pulled ops) :
    (new.after ops).Tells draining := by
  have shown : (new.after ops).channel.draining = draining :=
    Bool.eq_iff_iff.mpr (draining_after_new_iff.trans h.symm)
  exact shown ▸ (sound_new.after ops).tells

end Session

end Gatehouse.Drain

import Mathlib.Data.List.Perm.Basic
import Gatehouse.Proofs.Hub.Membership
import Gatehouse.Proofs.Metrics
import Gatehouse.Proofs.Station.History
import Gatehouse.Proofs.Stream.Acts

/-!
# The gauges of running streams

A relay to a web socket is counted up when it starts and down when it ends, while its subscription
is registered before the one and dropped with the other. At a station where each subscription
belongs to such a relay, the gauge of a kind tells how many relays run, and the subscriptions at
the hub are those of the relays that have not ended.
-/

namespace Gatehouse

/-- The gauge of the streams of a kind. -/
def Metrics.streams (m : Metrics) (kind : StreamKind) : Int64 :=
  m.adminStreams.get (streamLabels kind)

theorem Metrics.streams_began (m : Metrics) (k kind : StreamKind) :
    (m.streamBegan k).streams kind = if kind = k then m.streams k + 1 else m.streams kind := by
  refine (Gauges.get_add m.adminStreams (streamLabels k) (streamLabels kind) 1).trans ?_
  simp only [streamLabels_inj]
  rfl

theorem Metrics.streams_ended (m : Metrics) (k kind : StreamKind) :
    (m.streamEnded k).streams kind = if kind = k then m.streams k + -1 else m.streams kind := by
  refine (Gauges.get_add m.adminStreams (streamLabels k) (streamLabels kind) (-1)).trans ?_
  simp only [streamLabels_inj]
  rfl

namespace Relay

/-- Whether the relay has begun and not ended. -/
def isRunning (r : Relay) : Bool := r.hasStarted && !r.hasEnded

/-- Whether the relay runs a stream of the kind. -/
def runs (kind : StreamKind) (r : Relay) : Bool := decide (kind = r.kind) && r.isRunning

end Relay

namespace Station

/-- How many streams of a kind run. -/
def running (s : Station) (kind : StreamKind) : Nat := s.relays.countP (Relay.runs kind)

/-- How many logging streams run of those that were cut off. -/
def runningCut (s : Station) (cut : List Nat) : Nat :=
  s.relays.countP fun r ↦ r.runs .logging && decide (r.subscription ∈ cut)

/-- A relay that goes on is counted by the difference that this makes. -/
theorem streams_countRelay {old new : Relay} (shown : isPublic old = true)
    (live : old.hasEnded = false) (begun : new.hasStarted = true) (same : new.kind = old.kind)
    (m : Metrics) (kind : StreamKind) :
    (countRelay old new m).streams kind + Int64.ofNat (old.runs kind).toNat =
      m.streams kind + Int64.ofNat (new.runs kind).toNat := by
  simp only [countRelay, shown, live, begun, Relay.runs, Relay.isRunning, same, if_true]
  by_cases other : kind = old.kind
  · subst other
    cases old.hasStarted <;> cases new.hasEnded <;>
      simp [Metrics.streams_began, Metrics.streams_ended, Int64.add_assoc]
  · cases old.hasStarted <;> cases new.hasEnded <;>
      simp [Metrics.streams_began, Metrics.streams_ended, other]

/-- Of the relays in a list, another stands in place of one. -/
theorem countP_setRelay {s : Station} {r r' : Relay}
    (nodup : (s.relays.map (·.subscription)).Nodup) (hr : r ∈ s.relays)
    (same : r'.subscription = r.subscription) (p : Relay → Bool) :
    (s.setRelay r').relays.countP p + (p r).toNat = s.relays.countP p + (p r').toNat := by
  obtain ⟨xs, ys, parts⟩ := List.append_of_mem hr
  have others {zs : List Relay} (h : ∀ o ∈ zs, o.subscription ≠ r.subscription) :
      zs.map (fun o ↦ if o.subscription = r'.subscription then r' else o) = zs := by
    rw [List.map_congr_left fun o ho ↦ if_neg (same ▸ h o ho), List.map_id']
  have replaced : (s.setRelay r').relays = xs ++ r' :: ys := by
    simp only [parts, List.map_append, List.map_cons, List.nodup_append, List.nodup_cons,
      List.mem_map, List.mem_cons] at nodup
    change s.relays.map _ = _
    rw [parts, List.map_append, List.map_cons, if_pos same.symm, others, others]
    · exact fun o ho he ↦ nodup.2.1.1 ⟨o, ho, he⟩
    · exact fun o ho he ↦ nodup.2.2 _ ⟨o, ho, rfl⟩ _ (.inl rfl) he
  rw [replaced, parts, List.countP_append, List.countP_append, List.countP_cons, List.countP_cons]
  cases p r <;> cases p r' <;> simp <;> omega

/-- Each subscription at the hub belongs to a relay to a web socket, and the gauges tell how many of
the relays run. -/
structure Counted (s : Station) : Prop where
  sound : s.Sound
  shown : ∀ r ∈ s.relays, isPublic r = true
  served : ∀ kind, ∀ id ∈ s.hub.idsOf kind, ∃ r ∈ s.relays, r.subscription = id
  gauge : ∀ kind, s.metrics.streams kind = Int64.ofNat (s.running kind)

theorem counted_ofDepth (depth : Nat) : (ofDepth depth).Counted where
  sound := sound_ofDepth depth
  shown _ h := absurd h List.not_mem_nil
  served kind _ h := by cases kind <;> exact absurd h List.not_mem_nil
  gauge _ := rfl

/-- A relay is replaced by one of the same subscription that is counted by the difference. -/
theorem Counted.replace {s t : Station} {r r' : Relay} (w : s.Counted) (sound : t.Sound)
    (hr : r ∈ s.relays) (same : r'.subscription = r.subscription)
    (transport : r'.outbox.transport = r.outbox.transport)
    (relays : t.relays = (s.setRelay r').relays)
    (ids : ∀ kind, ∀ id ∈ t.hub.idsOf kind, id ∈ s.hub.idsOf kind)
    (gauge : ∀ kind, t.metrics.streams kind + Int64.ofNat (r.runs kind).toNat =
      s.metrics.streams kind + Int64.ofNat (r'.runs kind).toNat) : t.Counted where
  sound := sound
  shown := by
    intro o ho
    rw [relays] at ho
    rcases mem_setRelay ho with rfl | ⟨ho, _⟩
    · have shown := w.shown r hr
      rwa [isPublic, ← transport] at shown
    · exact w.shown o ho
  served := by
    intro kind id hid
    obtain ⟨o, ho, rfl⟩ := w.served kind id (ids kind id hid)
    have known := List.mem_map_of_mem (f := Relay.subscription) ho
    rw [← subscriptions_setRelay s r', ← relays] at known
    exact List.mem_map.mp known
  gauge := by
    intro kind
    have counted := countP_setRelay w.sound.nodup hr same (Relay.runs kind)
    have balance := gauge kind
    rw [w.gauge kind, running, ← Int64.ofNat_add, ← counted, Int64.ofNat_add] at balance
    rw [running, relays]
    exact (Int64.add_left_inj _).mp balance

/-- What a client does is not counted. -/
theorem Counted.setOutbox {s : Station} (w : s.Counted) {r : Relay} (hr : r ∈ s.relays)
    {outbox : Outbox} (transport : outbox.transport = r.outbox.transport) :
    (s.setRelay { r with outbox }).Counted := by
  have same : ({ r with outbox } : Relay).subscription = r.subscription := rfl
  exact w.replace (w.sound.setOutbox hr outbox) hr same transport rfl (fun _ _ h ↦ h) fun _ ↦ rfl

/-- A relay that has not begun is not counted yet. -/
theorem Counted.grow {s t : Station} (w : s.Counted) (sound : t.Sound) {new : List Relay}
    (relays : t.relays = s.relays ++ new) (shown : ∀ r ∈ new, isPublic r = true)
    (created : ∀ r ∈ new, r.phase = .created)
    (served : ∀ kind, ∀ id ∈ t.hub.idsOf kind,
      id ∈ s.hub.idsOf kind ∨ ∃ r ∈ new, r.subscription = id)
    (gauge : t.metrics.adminStreams = s.metrics.adminStreams) : t.Counted where
  sound := sound
  shown := by
    intro r hr
    rw [relays] at hr
    exact (List.mem_append.mp hr).elim (w.shown r) (shown r)
  served := by
    intro kind id hid
    rw [relays]
    rcases served kind id hid with old | ⟨r, hr, rfl⟩
    · obtain ⟨r, hr, rfl⟩ := w.served kind id old
      exact ⟨r, List.mem_append_left _ hr, rfl⟩
    · exact ⟨r, List.mem_append_right _ hr, rfl⟩
  gauge := by
    intro kind
    have quiet : new.countP (Relay.runs kind) = 0 := by
      refine List.countP_eq_zero.mpr fun r hr ↦ ?_
      simp [Relay.runs, Relay.isRunning, Relay.hasStarted, created r hr]
    rw [running, relays, List.countP_append, quiet, Metrics.streams, gauge]
    exact w.gauge kind

/-- Nothing but a new subscription or a new relay can unsettle the gauges. -/
theorem counted_step {s : Station} (w : s.Counted) {op : StationOp}
    (closed : ∀ kind, op ≠ .hub (.subscribe kind))
    (unstarted : ∀ g t watches, op ≠ .start g t watches) : (s.step op).Counted := by
  have sound := sound_step w.sound op
  cases op with
  | hub op =>
    simp only [step] at sound ⊢
    split
    · next hfree =>
      rw [if_pos hfree] at sound
      refine ⟨sound, w.shown, fun kind id hid ↦ ?_, w.gauge⟩
      rcases Hub.mem_idsOf_step.mp hid with ⟨old, _⟩ | ⟨rfl, _⟩
      · exact w.served kind id old
      · exact absurd rfl (closed kind)
    · exact w
  | start g t watches => exact absurd rfl (unstarted g t watches)
  | move id m =>
    simp only [step] at sound ⊢
    split
    · exact w
    · next r found =>
      split
      · exact w
      · next f hf =>
        simp only [found, hf] at sound
        obtain ⟨live, onward⟩ := Relay.onward_of_move hf
        have begun := (Relay.acts_of_move hf).begun
        have hr := (mem_of_relay? found).1
        refine w.replace sound hr onward.subscription begun.transport rfl ?_ ?_
        · intro kind id hid
          change id ∈ f.hub.idsOf kind at hid
          rw [Relay.hub_of_move hf, Hub.mem_idsOf_after (Relay.subscribe_not_mem_uses r m f)] at hid
          exact hid.1
        · exact streams_countRelay (w.shown r hr) live begun.started onward.kind s.metrics
  | read id =>
    simp only [step, read]
    split
    · exact w
    · next r found => exact w.setOutbox (mem_of_relay? found).1 r.outbox.transport_read
  | leave id =>
    simp only [step, leave]
    split
    · exact w
    · next found => exact w.setOutbox (mem_of_relay? found).1 rfl
  | drain =>
    simp only [step] at sound ⊢
    split
    · next held =>
      rw [if_pos held] at sound
      exact ⟨sound, w.shown, w.served, w.gauge⟩
    · exact w
  | dropTrigger => exact ⟨sound, w.shown, w.served, w.gauge⟩
  | advance ms => exact ⟨sound, w.shown, w.served, w.gauge⟩

/-- The subscriptions at the hub are those of the relays that have not ended. -/
theorem Counted.perm {s : Station} (w : s.Counted) (kind : StreamKind) :
    (s.hub.idsOf kind).Perm ((s.relays.filter fun r ↦ decide (kind = r.kind) && !r.hasEnded).map
      (·.subscription)) := by
  have distinct : (s.hub.idsOf kind).Nodup := by
    refine w.sound.coherent.nodup.sublist ?_
    cases kind with
    | logging => exact List.sublist_append_left _ _
    | statistics => exact List.sublist_append_right _ _
  rw [List.perm_ext_iff_of_nodup distinct (w.sound.nodup.sublist (List.filter_sublist.map _))]
  intro id
  simp only [List.mem_map, List.mem_filter, Bool.and_eq_true, decide_eq_true_eq,
    Bool.not_eq_true']
  constructor
  · intro hid
    obtain ⟨r, hr, rfl⟩ := w.served kind id hid
    obtain ⟨live, same⟩ := (w.sound.held r hr kind).mp hid
    exact ⟨r, ⟨hr, same, live⟩, rfl⟩
  · rintro ⟨r, ⟨hr, same, live⟩, rfl⟩
    exact (w.sound.held r hr kind).mpr ⟨live, same⟩

/-- Where each relay has begun, as many subscriptions of some sort are at the hub as streams of
that sort run. -/
theorem Counted.countP_idsOf {s : Station} (w : s.Counted)
    (begun : ∀ r ∈ s.relays, r.hasStarted = true) (kind : StreamKind) (p : Nat → Bool) :
    (s.hub.idsOf kind).countP p = s.relays.countP fun r ↦ r.runs kind && p r.subscription := by
  rw [(w.perm kind).countP_eq, List.countP_map, List.countP_filter]
  refine List.countP_congr fun r hr ↦ ?_
  simp [Relay.runs, Relay.isRunning, begun r hr, and_comm]

/-- Where each relay has begun, the subscriptions of a kind are as many as its running streams. -/
theorem Counted.length_idsOf {s : Station} (w : s.Counted)
    (begun : ∀ r ∈ s.relays, r.hasStarted = true) (kind : StreamKind) :
    (s.hub.idsOf kind).length = s.running kind := by
  simpa [running] using w.countP_idsOf begun kind fun _ ↦ true

theorem Counted.statisticsSubscribers_eq {s : Station} (w : s.Counted) (sound : s.Sound)
    (begun : ∀ r ∈ s.relays, r.hasStarted = true) :
    s.hub.statisticsSubscribers = s.running .statistics := by
  rw [← w.length_idsOf begun, Hub.statisticsSubscribers, sound.coherent.statistics]

/-- The logging streams that run are the listed ones and those that were cut off. -/
theorem Counted.loggingSubscribers_add {s : Station} (w : s.Counted)
    (begun : ∀ r ∈ s.relays, r.hasStarted = true) {cut : List Nat} (listed : s.hub.Listed cut) :
    s.hub.loggingSubscribers + s.runningCut cut = s.running .logging := by
  have cutOff : (s.hub.idsOf .logging).countP (· ∈ cut) = s.runningCut cut :=
    w.countP_idsOf begun .logging _
  have kept : (s.hub.idsOf .logging).countP (· ∉ cut) = s.hub.loggingSubscribers := by
    rw [List.countP_eq_length_filter, ← listed.loggers, Hub.loggingSubscribers]
  rw [← w.length_idsOf begun, List.length_eq_countP_add_countP (· ∈ cut), cutOff, ← kept,
    Nat.add_comm]
  simp

end Station

end Gatehouse

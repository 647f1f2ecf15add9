import Gatehouse.Proofs.Hub.Windows
import Gatehouse.Proofs.Station.Relaying
import Gatehouse.Proofs.Stream.Pacing

/-!
# Counts on their way to a client

A statistics relay keeps its pace whatever happens at the station, and each of its ticks takes the
counts of one window. So the snapshots that are with the client, on their way or in the hand of the
relay, with the counts that wait at the hub, tell of each record since the subscription was opened,
and of each once.
-/

namespace Gatehouse

/-- A statistics stream is opened just if its period is allowed, with this period and the next
number. -/
theorem Admin.openStatistics_eq_ok_iff {maxInterval seconds : Nat} {hub hub' : Hub}
    {grant : Grant} :
    openStatistics maxInterval seconds hub = .ok (grant, hub') ↔
      seconds ≤ maxInterval ∧ (∃ period : Period, period.seconds = seconds ∧
        grant = ⟨hub.nextId, .counts period 0⟩) ∧ hub' = hub.subscribeStatistics.1 := by
  unfold openStatistics Period.ofSeconds
  by_cases allowed : 0 < seconds ∧ seconds ≤ maxInterval
  · rw [dif_pos allowed]
    constructor
    · rintro ⟨⟩
      exact ⟨allowed.2, ⟨_, rfl, rfl⟩, rfl⟩
    · rintro ⟨-, ⟨⟨_, _⟩, rfl, rfl⟩, rfl⟩
      rfl
  · rw [dif_neg allowed]
    constructor
    · intro h
      cases h
    · rintro ⟨le, ⟨period, rfl, -⟩, -⟩
      exact absurd ⟨period.pos, le⟩ allowed

/-- A statistics stream is opened with the period that was asked for and the next number. -/
theorem Admin.of_openStatistics {maxInterval seconds : Nat} {hub hub' : Hub} {grant : Grant}
    (h : openStatistics maxInterval seconds hub = .ok (grant, hub')) :
    ∃ period : Period, period.seconds = seconds ∧ grant = ⟨hub.nextId, .counts period 0⟩ ∧
      hub' = hub.subscribeStatistics.1 := by
  obtain ⟨-, ⟨period, same, given⟩, registered⟩ := openStatistics_eq_ok_iff.mp h
  exact ⟨period, same, given, registered⟩

/-- Whether a program uses a subscription or a relay is started on it. -/
def StationOp.reachesFor (id : Nat) : StationOp → Bool
  | .hub op => decide (op.subject? = some id)
  | .start g _ _ => decide (g.subscription = id)
  | _ => false

namespace Station

/-- The times at which something of a sort happens. -/
def moments (s : Station) (sort : Station → StationOp → Bool) : List StationOp → List Nat
  | [] => []
  | op :: ops => (if sort s op then [s.clock] else []) ++ (s.step op).moments sort ops

/-- Whether the relay of a subscription begins with what happens next. -/
def begins (id : Nat) (s : Station) (op : StationOp) : Bool :=
  !(s.relay? id).any (·.hasStarted) && ((s.step op).relay? id).any (·.hasStarted)

/-- Whether the counts of a subscription are taken by what happens next. -/
def ticks (id : Nat) (s : Station) (op : StationOp) : Bool := decide (.flush id ∈ s.hubOps op)

theorem moments_append (s : Station) (sort : Station → StationOp → Bool)
    (xs ys : List StationOp) :
    s.moments sort (xs ++ ys) = s.moments sort xs ++ (s.after xs).moments sort ys := by
  induction xs generalizing s with
  | nil => rfl
  | cons op xs ih =>
    rw [List.cons_append, moments, moments, ih, List.append_assoc, after_cons]

/-- Time does not run back. -/
theorem clock_step (s : Station) (op : StationOp) : s.clock ≤ (s.step op).clock := by
  cases op with
  | hub op =>
    simp only [step]
    split <;> exact Nat.le_refl _
  | start g transport watchesClient =>
    simp only [step]
    split <;> exact Nat.le_refl _
  | move id m =>
    simp only [step]
    split
    · exact Nat.le_refl _
    · split <;> exact Nat.le_refl _
  | read id =>
    simp only [step, read]
    split <;> exact Nat.le_refl _
  | leave id =>
    simp only [step, leave]
    split <;> exact Nat.le_refl _
  | drain =>
    simp only [step]
    split <;> exact Nat.le_refl _
  | dropTrigger => exact Nat.le_refl _
  | advance ms => exact Nat.le_add_right _ _

/-! ### The pace of a relay -/

/-- What happens at the station leaves a statistics relay its pace. -/
theorem paced_step {s : Station} {id : Nat} {r : Relay} (found : s.relay? id = some r)
    {period : Period} {begun times : List Nat} (w : r.Paced period s.clock begun times)
    (op : StationOp) :
    (r.react s.surroundings op).Paced period (s.step op).clock
      (begun ++ if s.begins id op then [s.clock] else [])
      (times ++ if s.ticks id op then [s.clock] else []) := by
  have begins_eq : s.begins id op =
      (!r.hasStarted && (r.react s.surroundings op).hasStarted) := by
    rw [begins, found, relay?_step found]
    rfl
  -- Only in a move of its own does the relay begin or tick.
  by_cases hop : ∃ m, op = .move id m
  · obtain ⟨m, rfl⟩ := hop
    obtain rfl := (mem_of_relay? found).2
    rw [begins_eq, ticks]
    simp only [Relay.react, hubOps, found, if_true]
    cases hf : r.move s.surroundings m with
    | none => simpa using w.wait (clock_step s _)
    | some f =>
      have acts := Relay.acts_of_move hf
      have paced := (w.acts (s := s.surroundings) acts).wait (clock_step s (.move r.subscription m))
      change f.relay.Paced period _ (begun ++ if r.hasStarted then [] else [s.clock])
        (times ++ if m = .branch .tick then [s.clock] else []) at paced
      simp only [Option.map_some, Option.getD_some, acts.begun.started, Bool.and_true,
        Relay.flush_mem_uses_iff]
      cases hs : r.hasStarted <;> simpa [hs] using paced
  · have alone := subject_hubOps found fun m he ↦ hop ⟨m, he⟩
    have unticked : s.ticks id op = false := decide_eq_false fun flush ↦ alone _ flush rfl
    have other (m : Move) : op ≠ .move r.subscription m := fun he ↦
      hop ⟨m, (mem_of_relay? found).2 ▸ he⟩
    obtain ⟨outbox, same⟩ := exists_outbox_of_react (s := s.surroundings) other
    have still : (r.react s.surroundings op).hasStarted = r.hasStarted := by
      rw [same]
      rfl
    rw [begins_eq, unticked, still, Bool.not_and_self, same]
    have paced : ({ r with outbox } : Relay).Paced period s.clock begun times := w.congr rfl rfl
    simpa using paced.wait (clock_step s op)

/-- A statistics relay keeps its pace. -/
theorem paced_after {s : Station} {id : Nat} {r : Relay} (found : s.relay? id = some r)
    {period : Period} {begun times : List Nat} (w : r.Paced period s.clock begun times)
    (ops : List StationOp) :
    ∃ r', (s.after ops).relay? id = some r' ∧
      r'.Paced period (s.after ops).clock (begun ++ s.moments (begins id) ops)
        (times ++ s.moments (ticks id) ops) := by
  induction ops generalizing s r begun times with
  | nil =>
    rw [moments, moments, List.append_nil, List.append_nil]
    exact ⟨r, found, w⟩
  | cons op ops ih =>
    obtain ⟨r', found', paced⟩ := ih (relay?_step found op) (paced_step found w op)
    refine ⟨r', found', ?_⟩
    simpa [moments, begins, ticks, after_cons] using paced

/-- The counts of a subscription are taken once at each tick. -/
theorem length_ticks (s : Station) (id : Nat) (ops : List StationOp) :
    (s.moments (ticks id) ops).length = (s.history ops).count (.flush id) := by
  have nodup (s : Station) (op : StationOp) : (s.hubOps op).Nodup := by
    cases op with
    | hub op =>
      simp only [hubOps]
      split <;> simp
    | move i m =>
      simp only [hubOps]
      split
      · exact .nil
      · split
        · exact .nil
        · exact Relay.nodup_uses _ _ _
    | _ => exact .nil
  induction ops generalizing s with
  | nil => rfl
  | cons op ops ih =>
    rw [moments, history, List.length_append, List.count_append, ih, (nodup s op).count, ticks]
    by_cases tick : HubOp.flush id ∈ s.hubOps op
    · simp [tick]
    · simp [tick]

/-! ### Subscriptions that no relay was given -/

/-- Only a start gives a subscription to a relay. -/
theorem isFree_step {s : Station} {id : Nat} {op : StationOp} (free : s.isFree id = true)
    (untouched : op.reachesFor id = false) : (s.step op).isFree id = true := by
  rw [isFree_iff] at free ⊢
  have set (r o : Relay) (ho : o ∈ (s.setRelay r).relays) : o.subscription ≠ id := by
    have mem := List.mem_map_of_mem (f := Relay.subscription) ho
    rw [subscriptions_setRelay] at mem
    obtain ⟨old, hold, same⟩ := List.mem_map.mp mem
    rw [← same]
    exact free old hold
  cases op with
  | hub op =>
    simp only [step]
    split <;> exact free
  | start g transport watchesClient =>
    simp only [step]
    split
    · intro r hr
      rcases List.mem_append.mp hr with old | new
      · exact free r old
      · rw [List.mem_singleton.mp new]
        exact of_decide_eq_false untouched
    · exact free
  | move i m =>
    simp only [step]
    split
    · exact free
    · split
      · exact free
      · exact set _
  | read i =>
    simp only [step, read]
    split
    · exact free
    · exact set _
  | leave i =>
    simp only [step, leave]
    split
    · exact free
    · exact set _
  | drain =>
    simp only [step]
    split <;> exact free
  | dropTrigger => exact free
  | advance ms => exact free

/-- A subscription that no relay was given is used by programs only. -/
theorem subject_hubOps_of_isFree {s : Station} {id : Nat} {op : StationOp}
    (free : s.isFree id = true) (untouched : op.reachesFor id = false) :
    ∀ o ∈ s.hubOps op, o.subject? ≠ some id := by
  intro o ho
  cases op with
  | hub op =>
    simp only [hubOps] at ho
    split at ho
    · rw [List.mem_singleton.mp ho]
      exact of_decide_eq_false untouched
    · cases ho
  | move i m =>
    simp only [hubOps] at ho
    split at ho
    · cases ho
    · next r found =>
      split at ho
      · cases ho
      · rw [Relay.subject_uses o ho]
        exact fun he ↦ isFree_iff.mp free r (mem_of_relay? found).1 (Option.some.inj he)
  | _ => cases ho

/-- Through a history nothing had to do with a subscription. -/
structure Untouched (s : Station) (id : Nat) (ops : List StationOp) : Prop where
  free : (s.after ops).isFree id = true
  alone : ∀ o ∈ s.history ops, o.subject? ≠ some id
  reads : s.reads id ops = []
  begins : s.moments (begins id) ops = []
  ticks : s.moments (ticks id) ops = []

theorem untouched {s : Station} {id : Nat} {ops : List StationOp} (free : s.isFree id = true)
    (untouched : ∀ op ∈ ops, op.reachesFor id = false) : s.Untouched id ops := by
  induction ops generalizing s with
  | nil => exact ⟨free, fun o ho ↦ absurd ho List.not_mem_nil, rfl, rfl, rfl⟩
  | cons op ops ih =>
    have first := untouched op List.mem_cons_self
    have free₁ := isFree_step free first
    have alone := subject_hubOps_of_isFree free first
    have rest := ih free₁ fun o ho ↦ untouched o (List.mem_cons_of_mem _ ho)
    have unserved : s.relay? id = none := Option.isNone_iff_eq_none.mp free
    have unserved₁ : (s.step op).relay? id = none := Option.isNone_iff_eq_none.mp free₁
    refine ⟨rest.free, ?_, ?_, ?_, ?_⟩
    · intro o ho
      rcases List.mem_append.mp ho with ho | ho
      · exact alone o ho
      · exact rest.alone o ho
    · rw [Station.reads, rest.reads, List.append_nil]
      cases op with
      | read i =>
        rw [reading]
        split
        · next hi =>
          rw [read, hi, unserved]
          rfl
        · rfl
      | _ => rfl
    · rw [moments, rest.begins, Station.begins, unserved, unserved₁]
      rfl
    · have unticked : s.ticks id op = false := decide_eq_false fun flush ↦ alone _ flush rfl
      rw [moments, rest.ticks, unticked]
      rfl

/-- A history that had nothing to do with a subscription can be left out before another. -/
theorem Untouched.skip {s : Station} {id : Nat} {xs : List StationOp} (w : s.Untouched id xs)
    (ys : List StationOp) :
    s.reads id (xs ++ ys) = (s.after xs).reads id ys ∧
      s.moments (Station.begins id) (xs ++ ys) = (s.after xs).moments (Station.begins id) ys ∧
      s.moments (Station.ticks id) (xs ++ ys) = (s.after xs).moments (Station.ticks id) ys ∧
      flushes id (s.hub.trace (s.history (xs ++ ys))) =
        flushes id ((s.after xs).hub.trace ((s.after xs).history ys)) := by
  have unflushed : .flush id ∉ s.history xs := fun h ↦ w.alone _ h rfl
  refine ⟨?_, ?_, ?_, ?_⟩
  · rw [reads_append, w.reads, List.nil_append]
  · rw [moments_append, w.begins, List.nil_append]
  · rw [moments_append, w.ticks, List.nil_append]
  · rw [history_append, Hub.trace_append, flushes_append, Hub.flushes_of_not_mem unflushed,
      List.nil_append, hub_after]

/-- A relay does not begin and takes nothing when it is started. -/
theorem skip_start {s : Station} {g : Grant} (free : s.isFree g.subscription = true)
    (held : g.subscription ∈ s.hub.idsOf g.kind) (transport : Transport) (watchesClient : Bool)
    (later : List StationOp) :
    let op := .start g transport watchesClient
    let id := g.subscription
    s.moments (begins id) (op :: later) = (s.step op).moments (begins id) later ∧
      s.moments (ticks id) (op :: later) = (s.step op).moments (ticks id) later ∧
      s.hub.trace (s.history (op :: later)) =
        (s.step op).hub.trace ((s.step op).history later) := by
  intro op id
  have created : s.begins id op = false := by
    rw [begins, start_of_free free held]
    exact Bool.and_false _
  have unticked : s.ticks id op = false := rfl
  have hub : (s.step op).hub = s.hub := hub_step s op
  rw [moments, moments, created, unticked, hub]
  exact ⟨rfl, rfl, rfl⟩

/-- The snapshots of a statistics relay: what is with its client, on its way or owed are the counts
that its flushes took. -/
theorem account_of_statistics {s : Station} {id : Nat} {r : Relay} (found : s.relay? id = some r)
    (statistics : r.kind = .statistics) (unread : r.outbox.queue.toList = []) (owes : r.Owes [])
    (ops : List StationOp) :
    ∃ r' owed, (s.after ops).relay? id = some r' ∧ r'.Owes owed ∧
      s.reads id ops ++ r'.outbox.queue.toList ++ owed =
        (flushes id (s.hub.trace (s.history ops))).map .snapshot := by
  obtain ⟨r', owed, found', owes', sum⟩ := account found owes ops
  have unpolled : .poll id ∉ s.history ops := fun polls ↦
    StreamKind.noConfusion (((kind_of_history found ops).1 polls).symm.trans statistics)
  rw [unread, items_of_poll_not_mem unpolled] at sum
  exact ⟨r', owed, found', owes', sum⟩

/-- Statistics at their pace. A statistics stream is opened with a period that is allowed, nothing
but its relay uses its subscription, and anything else happens in any order. Once the relay has
begun, no flush comes before as many periods are over as there were flushes with it, two flushes in
turn are a period apart, less what a tick may be late without moving the next, and up to any time
there were no more of them than full periods. While the relay runs, there is one snapshot for each
flush: those that the client has read, those on their way and the one for which the relay waits for
room. Each tells of the records between two flushes, and the counts that a flush would take now tell
of those since the last one. Together these are the records since the opening, so the counts of a
method or a consumer add up to its records, as far as 64 bits hold them between two flushes. -/
theorem statistics_stream_keeps_pace (depth maxInterval seconds : Nat)
    (before between later : List StationOp) (transport : Transport) (watchesClient : Bool)
    (grant : Grant) (hub : Hub) :
    let start := (ofDepth depth).after before
    let opened : Station := { start with hub }
    let id := grant.subscription
    let ops := between ++ .start grant transport watchesClient :: later
    let s := opened.after ops
    let period := 1000 * seconds
    let began := opened.moments (begins id) ops
    let flushed := opened.moments (ticks id) ops
    let news := ops.filterMap StationOp.event?
    let blocks := windows id (opened.history ops)
    let current := (s.hub.flush id).2
    Admin.openStatistics maxInterval seconds start.hub = .ok (grant, hub) →
    (∀ op ∈ between, op.reachesFor id = false) →
    ∃ r, s.relay? id = some r ∧
      (began = [] ∧ flushed = [] ∨ ∃ t, began = [t] ∧
        (∀ k (h : k < flushed.length), t + (k + 1) * period ≤ flushed[k]) ∧
        (∀ k (h : k + 1 < flushed.length), flushed[k] + period ≤ flushed[k + 1] + 5) ∧
        ∀ now, flushed.countP (· ≤ now) ≤ (now - t) / period) ∧
      (r.hasEnded = false → ∃ snapshots owed, r.Owes owed ∧
        opened.reads id ops ++ r.outbox.queue.toList ++ owed = snapshots.map .snapshot ∧
        snapshots.length = flushed.length ∧ blocks.flatten = news ∧
        List.Forall₂ Snapshot.Tallies (snapshots ++ [current]) blocks ∧
        ∀ k,
          ((∀ block ∈ blocks, (block.map (·.method)).count k < 2 ^ 64) →
            ((snapshots ++ [current]).map (·.byMethod.countAt k)).sum =
              (news.map (·.method)).count k) ∧
          ((∀ block ∈ blocks, (block.map (·.consumer)).count k < 2 ^ 64) →
            ((snapshots ++ [current]).map (·.byConsumer.countAt k)).sum =
              (news.map (·.consumer)).count k)) := by
  intro start opened id ops s period began flushed news blocks current granted apart
  obtain ⟨p, rfl, rfl, rfl⟩ := Admin.of_openStatistics granted
  have sound : start.Sound := sound_after (sound_ofDepth depth) before
  have tally : opened.hub.tally? id = some ⟨id, .empty⟩ :=
    Hub.tally?_subscribeStatistics sound.coherent
  have coherent : opened.hub.Coherent :=
    Hub.coherent_step sound.coherent (.subscribe .statistics)
  have quiet : opened.Untouched id between := untouched sound.isFree_nextId apart
  let ready := opened.after between
  have held : id ∈ ready.hub.idsOf .statistics := by
    have live : .drop .statistics id ∉ opened.history between := fun h ↦ quiet.alone _ h rfl
    rw [hub_after]
    exact Hub.mem_idsOf_of_tally? (Hub.tally?_after coherent tally live)
  -- The relay keeps its pace and its account from its start on, before which there was nothing.
  let g : Grant := ⟨id, .counts p 0⟩
  let first := ready.step (.start g transport watchesClient)
  have found : first.relay? id = some (g.relay transport watchesClient ready.channel) :=
    start_of_free quiet.free held transport watchesClient
  have same : s = first.after later := after_append opened between _
  obtain ⟨reads_eq, begins_eq, ticks_eq, flushes_eq⟩ :=
    quiet.skip (.start g transport watchesClient :: later)
  obtain ⟨begins_eq', ticks_eq', trace_eq⟩ :=
    skip_start (g := g) quiet.free held transport watchesClient later
  obtain ⟨r, found', paced⟩ := paced_after found (.created rfl rfl) later
  rw [List.nil_append, List.nil_append, ← begins_eq', ← ticks_eq', ← begins_eq, ← ticks_eq] at paced
  refine ⟨r, same ▸ found', paced.schedule, fun running ↦ ?_⟩
  obtain ⟨r', owed, found'', owes, sum⟩ := account_of_statistics found rfl rfl rfl later
  obtain rfl : r' = r := Option.some.inj (found''.symm.trans found')
  rw [← trace_eq, ← flushes_eq] at sum
  have live : .drop .statistics id ∉ opened.history ops := by
    rw [show opened.history ops = _ from history_append opened between _, List.mem_append, not_or]
    exact ⟨fun h ↦ quiet.alone _ h rfl, drop_not_mem_history found found' running _⟩
  have tallies := Hub.taken_tallies coherent tally live
  rw [Hub.taken, ← hub_after] at tallies
  have whole : blocks.flatten = news :=
    (flatten_windows id (opened.history ops)).trans (recorded_history opened ops)
  refine ⟨_, owed, owes, (congrArg (· ++ _ ++ _) reads_eq).trans sum, ?_, whole, tallies,
    fun k ↦ ⟨fun few ↦ ?_, fun few ↦ ?_⟩⟩
  · rw [Hub.length_flushes, ← length_ticks]
  · rw [← whole]
    exact Snapshot.sum_countAt (tallies.imp fun _ _ h ↦ h.byMethod) few
  · rw [← whole]
    exact Snapshot.sum_countAt (tallies.imp fun _ _ h ↦ h.byConsumer) few

/-- The client of a stream of each second reads late, and its channel holds one snapshot. So the
second snapshot waits until the third is late, which then comes at once, and the fourth would come a
second after it. -/
theorem statistics_stream_keeps_pace_of_stall :
    let call (consumer : String) : StationOp := .hub (.record ⟨consumer, "/Biz/Add", "127.0.0.1:1"⟩)
    let opened : Station := { ofDepth 1 with hub := (Hub.ofDepth 1).subscribeStatistics.1 }
    let between : List StationOp := [call "a", .advance 100]
    let tick : StationOp := .move 1 (.branch .tick)
    let later : List StationOp := [.move 1 (.branch .start), .advance 1000, tick, call "b",
      .advance 1000, tick, .advance 2500, call "c", .read 1, .move 1 (.branch .push), tick,
      call "a", .advance 999, tick]
    let ops := between ++ .start ⟨1, .counts ⟨1, Nat.one_pos⟩ 0⟩ (.channel 1) true :: later
    let s := opened.after ops
    (∀ op ∈ between, op.reachesFor 1 = false) ∧
      opened.moments (begins 1) ops = [100] ∧
      opened.moments (ticks 1) ops = [1100, 2100, 4600] ∧
      ∃ r snapshots owed, s.relay? 1 = some r ∧ r.hasEnded = false ∧ r.Owes owed ∧
        opened.reads 1 ops ++ r.outbox.queue.toList ++ owed = snapshots.map .snapshot ∧
        snapshots.length = 3 ∧
        ((snapshots ++ [(s.hub.flush 1).2]).map (·.byMethod.countAt "/Biz/Add")).sum = 4 ∧
        ((snapshots ++ [(s.hub.flush 1).2]).map (·.byConsumer.countAt "a")).sum = 2 := by
  intro call opened between tick later ops s
  have apart : ∀ op ∈ between, op.reachesFor 1 = false := by decide +kernel
  have times : opened.moments (begins 1) ops = [100] ∧
      opened.moments (ticks 1) ops = [1100, 2100, 4600] ∧
      (s.relay? 1).map (·.hasEnded) = some false := by
    decide +kernel
  obtain ⟨began, flushed, runs⟩ := times
  have short : ∀ block ∈ windows 1 (opened.history ops), block.length < 2 ^ 64 := by
    decide +kernel
  have few (key : Event → String) (k : String) :
      ∀ block ∈ windows 1 (opened.history ops), (block.map key).count k < 2 ^ 64 := by
    intro block hb
    refine Nat.lt_of_le_of_lt List.count_le_length ?_
    rw [List.length_map]
    exact short block hb
  obtain ⟨r, found, -, counts⟩ :=
    statistics_stream_keeps_pace 1 60 1 [] between later (.channel 1) true _ _ rfl apart
  have running : r.hasEnded = false := by
    rw [show s.relay? 1 = some r from found] at runs
    exact Option.some.inj runs
  obtain ⟨snapshots, owed, owes, handed, length, -, -, sums⟩ := counts running
  refine ⟨apart, began, flushed, r, snapshots, owed, found, running, owes, handed, ?_, ?_, ?_⟩
  · rw [length]
    exact congrArg List.length flushed
  · exact ((sums "/Biz/Add").1 (few _ _)).trans (by decide +kernel)
  · exact ((sums "a").2 (few _ _)).trans (by decide +kernel)

end Station

end Gatehouse

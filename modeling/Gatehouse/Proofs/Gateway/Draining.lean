import Gatehouse.Proofs.Drain
import Gatehouse.Proofs.Gate.Counters
import Gatehouse.Proofs.Gateway.History
import Gatehouse.Proofs.Metrics.Lines
import Gatehouse.Proofs.Station.Draining

/-!
# A gateway that drains shows it everywhere

A gateway keeps two marks of draining, one in its metrics and one in the channel of its signals. It
sets them in turn when it begins to drain, and nothing else sets either or takes it back. So once it
has begun to drain, its readiness, its gauge and all its signals say so for ever.
-/

namespace Gatehouse

/-- Nothing that happens at a station changes what the metrics say about draining. -/
theorem Station.draining_step (s : Station) (op : StationOp) :
    (s.step op).metrics.draining = s.metrics.draining := by
  have counted (old new : Relay) (m : Metrics) :
      (countRelay old new m).draining = m.draining := by
    unfold countRelay
    split
    · simp only
      split <;> split <;> rfl
    · rfl
  cases op with
  | hub op =>
    simp only [step]
    split <;> rfl
  | start g transport watchesClient =>
    simp only [step]
    split <;> rfl
  | move id m =>
    simp only [step]
    split
    · rfl
    · split
      · rfl
      · exact counted _ _ _
  | read id =>
    simp only [step, read]
    split <;> rfl
  | leave id =>
    simp only [step, leave]
    split <;> rfl
  | drain =>
    simp only [step]
    split <;> rfl
  | dropTrigger => rfl
  | advance ms => rfl

namespace Gateway

/-- Marks the metrics as draining. -/
def mark (g : Gateway) : Gateway :=
  { g with station := { g.station with metrics := g.station.metrics.setDraining } }

/-- Pulls the trigger. -/
def pull (g : Gateway) : Gateway := { g with station := g.station.drain }

/-- Whether a gateway knows of the draining what it knew before. -/
structure Untouched (g h : Gateway) : Prop where
  channel : h.station.channel = g.station.channel
  draining : h.station.metrics.draining = g.station.metrics.draining

theorem untouched_unary (g : Gateway) (req : Http.Request) (micros : Nat) :
    g.Untouched (g.unary req micros).gateway := by
  unfold unary
  split
  · exact ⟨rfl, rfl⟩
  · exact ⟨rfl, Gate.draining_intercept _ _ _ _ _ _⟩

theorem untouched_stream (g : Gateway) (req : Http.Request) :
    g.Untouched (g.stream req).gateway := by
  have quiet := Gate.draining_intercept g.acl (callOf .stream req) g.station.hub
    g.station.metrics (streamHandler g.maxInterval req.target.query req.upgrade) 0
  unfold stream
  simp only
  split <;> exact ⟨rfl, quiet⟩

/-- No request changes anything about draining. -/
theorem untouched_handle (g : Gateway) (req : Http.Request) (micros : Nat) :
    g.Untouched (g.handle req micros).gateway := by
  have answers := answers_handle g req micros
  generalize g.handle req micros = a at answers ⊢
  cases answers with
  | outside response h => exact ⟨rfl, rfl⟩
  | unary h small => exact untouched_unary g req micros
  | get h hm => exact untouched_stream g req
  | head h hm a ha =>
    have := untouched_stream g { req with upgrade := false }
    rwa [← ha] at this

end Gateway

/-- One thing that happens at a gateway or to the signals of its trigger. Between the two things
that a gateway does to begin to drain others may happen. -/
inductive WatchOp where
  | gateway (op : GatewayOp)
  | mark
  | pull
  | signal (op : Drain.SignalOp)

namespace WatchOp

/-- Whether the operation leaves the trigger to its gateway, which never gives it up. -/
def isProper : WatchOp → Bool
  | .gateway (.station .drain) => false
  | .gateway (.station .dropTrigger) => false
  | _ => true

/-- Whether the operation marks the metrics. -/
def marks : WatchOp → Bool
  | .gateway .beginDrain => true
  | .mark => true
  | _ => false

/-- Whether the operation pulls the trigger. -/
def pulls : WatchOp → Bool
  | .gateway .beginDrain => true
  | .pull => true
  | _ => false

/-- What the operation is to the trigger and its signals. -/
def drainOps : WatchOp → List Drain.Op
  | .gateway .beginDrain => [.drain]
  | .pull => [.drain]
  | .signal op => [.signal op]
  | _ => []

end WatchOp

/-- A gateway with the observers of its trigger. -/
structure Watched where
  gateway : Gateway
  observers : List Drain.Observer

namespace Watched

/-- A gateway to which nothing has happened. It does not keep the first signal of its trigger. -/
def fresh (acl : Acl) (maxInterval : Nat) (dispatcher : Dispatcher) (depth : Nat) : Watched :=
  ⟨.fresh acl maxInterval dispatcher depth, []⟩

/-- What happens next. -/
def step (w : Watched) : WatchOp → Watched
  | .gateway op => { w with gateway := w.gateway.step op }
  | .mark => { w with gateway := w.gateway.mark }
  | .pull => { w with gateway := w.gateway.pull }
  | .signal op => { w with observers := w.gateway.station.channel.serve w.observers op }

/-- What is there after a history. -/
def after (w : Watched) (ops : List WatchOp) : Watched := ops.foldl step w

/-- The trigger with its signals. -/
def session (w : Watched) : Drain.Session := ⟨w.gateway.station.channel, w.observers⟩

/-- To the trigger and its signals a step is what its operations are. -/
theorem session_step {w : Watched} (held : w.gateway.station.channel.triggerHeld = true)
    {op : WatchOp} (proper : op.isProper = true) :
    (w.step op).session = w.session.after op.drainOps ∧
      (w.step op).gateway.station.channel.triggerHeld = true := by
  have pulled : w.session.step .drain = ⟨w.gateway.station.channel.drain, w.observers⟩ :=
    if_pos held
  cases op with
  | gateway op =>
    cases op with
    | request req micros =>
      have quiet := (w.gateway.untouched_handle req micros).channel
      simp only [step, Gateway.step, session, quiet]
      exact ⟨rfl, held⟩
    | station op =>
      have same : (w.gateway.station.step op).channel = w.gateway.station.channel := by
        rw [Station.channel_step]
        cases op with
        | drain => cases proper
        | dropTrigger => cases proper
        | _ => rfl
      simp only [step, Gateway.step, session, same]
      exact ⟨rfl, held⟩
    | beginDrain => exact ⟨pulled.symm, held⟩
  | mark => exact ⟨rfl, held⟩
  | pull => exact ⟨pulled.symm, held⟩
  | signal op => exact ⟨rfl, held⟩

theorem session_after {w : Watched} (held : w.gateway.station.channel.triggerHeld = true)
    {ops : List WatchOp} (proper : ∀ op ∈ ops, op.isProper = true) :
    (w.after ops).session = w.session.after (ops.flatMap WatchOp.drainOps) := by
  induction ops generalizing w with
  | nil => rfl
  | cons op ops ih =>
    obtain ⟨first, kept⟩ := session_step held (proper op List.mem_cons_self)
    rw [List.flatMap_cons, Drain.Session.after_append, ← first]
    exact ih kept fun o ho ↦ proper o (List.mem_cons_of_mem _ ho)

theorem isDraining_step (w : Watched) (op : WatchOp) :
    (w.step op).gateway.isDraining = (w.gateway.isDraining || op.marks) := by
  cases op with
  | gateway op =>
    cases op with
    | request req micros =>
      exact (w.gateway.untouched_handle req micros).draining.trans (Bool.or_false _).symm
    | station op => exact (Station.draining_step _ op).trans (Bool.or_false _).symm
    | beginDrain => exact (Bool.or_true _).symm
  | mark => exact (Bool.or_true _).symm
  | pull => exact (Bool.or_false _).symm
  | signal op => exact (Bool.or_false _).symm

/-- The flag is set exactly if the metrics were marked. -/
theorem isDraining_after (w : Watched) (ops : List WatchOp) :
    (w.after ops).gateway.isDraining = (w.gateway.isDraining || ops.any WatchOp.marks) := by
  induction ops generalizing w with
  | nil => exact (Bool.or_false _).symm
  | cons op ops ih =>
    refine (ih (w.step op)).trans ?_
    rw [isDraining_step, List.any_cons, Bool.or_assoc]

/-- What is shown of the draining, wherever one looks. -/
structure Shows (w : Watched) (draining : Bool) : Prop where
  flag : w.gateway.isDraining = draining
  readiness : w.gateway.operator .ready =
    if draining then .ofText 503 Http.Response.plainText "draining"
    else .ofText 200 Http.Response.plainText "ready"
  gauge : ∃ lines : List String, w.gateway.operator .metrics =
      .ofText 200 "text/plain; version=0.0.4; charset=utf-8"
        (String.join (lines.map (· ++ "\n"))) ∧
    lines.filter (beginsWith drainingGauge) =
      ["aclgate_draining " ++ if draining then "1" else "0"]
  signals : w.session.Tells draining
  relays : ∀ r ∈ w.gateway.station.relays,
    r.signal.isDraining w.gateway.station.channel = draining ∧
      r.signal.resolves w.gateway.station.channel = draining

/-- Where both marks are the same, that is what is shown. -/
theorem shows_of_marks {w : Watched} {draining : Bool} (sound : w.session.Sound)
    (flag : w.gateway.isDraining = draining)
    (channel : w.gateway.station.channel.draining = draining) : w.Shows draining where
  flag := flag
  readiness := by rw [Gateway.operator, flag]
  gauge := by
    refine ⟨_, rfl, ?_⟩
    rw [Metrics.filter_lines_draining, ← flag]
    · rfl
    · have apart : ∀ name ∈ ["aclgate_logging_subscribers", "aclgate_stats_subscribers",
          "aclgate_acl_consumers"], beginsWith drainingGauge name = false ∧
            beginsWith name drainingGauge = false := by
        decide
      intro g hg
      refine apart g.1 ?_
      exact List.mem_map_of_mem hg (f := Prod.fst)
  signals := channel ▸ sound.tells
  relays _ _ := ⟨channel, channel⟩

section

variable (acl : Acl) (maxInterval : Nat) (dispatcher : Dispatcher) (depth : Nat)

/-- To the trigger and its signals a history of a gateway is one that begins with the loss of the
first signal. -/
theorem session_after_fresh {ops : List WatchOp} (proper : ∀ op ∈ ops, op.isProper = true) :
    ((fresh acl maxInterval dispatcher depth).after ops).session =
      Drain.Session.new.after (.signal (.drop 0) :: ops.flatMap WatchOp.drainOps) :=
  session_after rfl proper

/-- The trigger of a gateway is pulled by what pulls it. -/
theorem pulled_drainOps_iff (ops : List WatchOp) :
    Drain.Pulled (.signal (.drop 0) :: ops.flatMap WatchOp.drainOps) ↔
      ops.any WatchOp.pulls = true := by
  have own (op : WatchOp) :
      .dropTrigger ∉ op.drainOps ∧ (.drain ∈ op.drainOps ↔ op.pulls = true) := by
    rcases op with op | _ | _ | op
    · cases op <;> simp [WatchOp.drainOps, WatchOp.pulls]
    · simp [WatchOp.drainOps, WatchOp.pulls]
    · simp [WatchOp.drainOps, WatchOp.pulls]
    · simp [WatchOp.drainOps, WatchOp.pulls]
  have kept : .dropTrigger ∉ .signal (.drop 0) :: ops.flatMap WatchOp.drainOps := by
    simp [List.mem_flatMap, own]
  rw [Drain.pulled_iff_mem kept]
  simp [List.mem_flatMap, own]

theorem draining_after_fresh {ops : List WatchOp} (proper : ∀ op ∈ ops, op.isProper = true) :
    ((fresh acl maxInterval dispatcher depth).after ops).gateway.station.channel.draining =
      ops.any WatchOp.pulls := by
  have same := session_after_fresh acl maxInterval dispatcher depth proper
  have shown := congrArg (·.channel.draining) same
  refine shown.trans (Bool.eq_iff_iff.mpr ?_)
  exact Drain.Session.draining_after_new_iff.trans (pulled_drainOps_iff ops)

theorem isDraining_after_fresh (ops : List WatchOp) :
    ((fresh acl maxInterval dispatcher depth).after ops).gateway.isDraining =
      ops.any WatchOp.marks := isDraining_after _ ops

theorem tells_after_fresh {ops : List WatchOp} (proper : ∀ op ∈ ops, op.isProper = true) :
    ((fresh acl maxInterval dispatcher depth).after ops).session.Tells
      (ops.any WatchOp.pulls) := by
  rw [session_after_fresh acl maxInterval dispatcher depth proper]
  exact Drain.Session.tells_after_new (pulled_drainOps_iff ops).symm

/-- Where the metrics were marked if and only if the trigger was pulled, that is what is shown. -/
theorem shows_after_fresh {ops : List WatchOp} (proper : ∀ op ∈ ops, op.isProper = true)
    {draining : Bool} (marked : ops.any WatchOp.marks = draining)
    (pulled : ops.any WatchOp.pulls = draining) :
    ((fresh acl maxInterval dispatcher depth).after ops).Shows draining := by
  refine shows_of_marks ?_ ?_ ?_
  · rw [session_after_fresh _ _ _ _ proper]
    exact Drain.Session.sound_new.after _
  · rw [isDraining_after_fresh, marked]
  · rw [draining_after_fresh _ _ _ _ proper, pulled]

end

end Watched

/-- No signal misses the draining. Whatever was done in whatever order with a trigger and the
signals that were taken from it, cloned, polled, given up and dropped, each signal tells of the
draining and ends its wait, a new one as well as one that was polled before, exactly if the trigger
was pulled. That stays so, also when the trigger is pulled again or dropped, and if it is dropped
without having been pulled, no wait ever ends. At a gateway the flag behind readiness and the gauge
is set exactly if it was marked, and the signals tell exactly if the trigger was pulled; so from
when it has begun to drain, all of them say so for ever, and before it begins none does. -/
theorem drain_reaches_every_signal :
    (∀ ops : List Drain.Op,
      (Drain.Pulled ops → ∀ later, (Drain.Session.new.after (ops ++ later)).Tells true) ∧
      (¬Drain.Pulled ops → (Drain.Session.new.after ops).Tells false ∧
        ∀ later, (Drain.Session.new.after (ops ++ .dropTrigger :: later)).Tells false)) ∧
    ∀ (acl : Acl) (maxInterval : Nat) (dispatcher : Dispatcher) (depth : Nat)
      (ops : List WatchOp), (∀ op ∈ ops, op.isProper = true) →
      let start := Watched.fresh acl maxInterval dispatcher depth
      let w := start.after ops
      w.gateway.isDraining = ops.any WatchOp.marks ∧
      w.session.Tells (ops.any WatchOp.pulls) ∧
      (.gateway .beginDrain ∈ ops ∨ .mark ∈ ops ∧ .pull ∈ ops →
        ∀ later, (∀ op ∈ later, op.isProper = true) → (start.after (ops ++ later)).Shows true) ∧
      (ops.any WatchOp.marks = false → ops.any WatchOp.pulls = false → w.Shows false) := by
  refine ⟨fun ops ↦ ⟨fun pulled later ↦ ?_, fun idle ↦ ⟨?_, fun later ↦ ?_⟩⟩, ?_⟩
  · exact Drain.Session.tells_after_new (iff_of_true rfl (pulled.append later))
  · exact Drain.Session.tells_after_new (iff_of_false Bool.false_ne_true idle)
  · refine Drain.Session.tells_after_new (iff_of_false Bool.false_ne_true fun pulled ↦ ?_)
    exact idle (Drain.pulled_of_dropTrigger pulled)
  · intro acl maxInterval dispatcher depth ops proper start w
    refine ⟨Watched.isDraining_after_fresh acl maxInterval dispatcher depth ops, ?_, ?_,
      Watched.shows_after_fresh acl maxInterval dispatcher depth proper⟩
    · exact Watched.tells_after_fresh acl maxInterval dispatcher depth proper
    · intro begun later properLater
      have both : ops.any WatchOp.marks = true ∧ ops.any WatchOp.pulls = true := by
        rcases begun with begun | ⟨marked, pulled⟩
        · exact ⟨List.any_eq_true.mpr ⟨_, begun, rfl⟩, List.any_eq_true.mpr ⟨_, begun, rfl⟩⟩
        · exact ⟨List.any_eq_true.mpr ⟨_, marked, rfl⟩, List.any_eq_true.mpr ⟨_, pulled, rfl⟩⟩
      refine Watched.shows_after_fresh acl maxInterval dispatcher depth ?_ ?_ ?_
      · intro op hop
        exact (List.mem_append.mp hop).elim (proper op) (properLater op)
      · rw [List.any_append, both.1, Bool.true_or]
      · rw [List.any_append, both.2, Bool.true_or]

/-- A wait that was polled before the trigger is pulled ends after it, though the trigger is dropped
then; where it is dropped without having been pulled, the wait never ends. At a gateway that is
marked and has not pulled yet a signal is taken and polled; when the trigger is pulled, it is told.
-/
theorem drain_reaches_every_signal_of_polled :
    let waiting : List Drain.Op := [.signal (.clone 0), .signal (.poll 0), .signal (.poll 1)]
    let given : List Drain.Op := [.drain, .dropTrigger]
    let begun : List WatchOp := [.signal .take, .signal (.poll 0), .mark, .signal .take,
      .signal (.poll 1), .pull]
    let start := Watched.fresh ⟨.empty⟩ 60 Gateway.builtIn 1
    Drain.Pulled (waiting ++ given) ∧ ¬Drain.Pulled waiting ∧
      ((Drain.Session.new.after waiting).observers.map (·.wait)) = [.parked, .parked] ∧
      (Drain.Session.new.after (waiting ++ given)).Tells true ∧
      (Drain.Session.new.after (waiting ++ .dropTrigger :: [.signal (.poll 0)])).Tells false ∧
      (start.after begun).observers.length = 2 ∧ (start.after begun).Shows true := by
  intro waiting given begun start
  obtain ⟨sessions, gateways⟩ := drain_reaches_every_signal
  have pulled : Drain.Pulled (waiting ++ given) :=
    ⟨waiting, [.dropTrigger], rfl, by simp [waiting]⟩
  have idle : ¬Drain.Pulled waiting := by
    rw [Drain.pulled_iff_mem (by simp [waiting])]
    simp [waiting]
  have told := (sessions (waiting ++ given)).1 pulled []
  rw [List.append_nil] at told
  obtain ⟨-, -, shown, -⟩ :=
    gateways ⟨.empty⟩ 60 Gateway.builtIn 1 begun (by simp [begun, WatchOp.isProper])
  have shown := shown (.inr (by simp [begun])) [] (List.forall_mem_nil _)
  rw [List.append_nil] at shown
  exact ⟨pulled, idle, rfl, told, ((sessions waiting).2 idle).2 _, rfl, shown⟩

end Gatehouse

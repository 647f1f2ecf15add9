import Mathlib.Data.List.Forall2
import Gatehouse.Proofs.Hub.History
import Gatehouse.Proofs.Snapshot

/-!
# What a statistics subscription counts

The flushes of a statistics subscription cut the records since its registration into windows. Each
flush reports the window that it ends, and the window after the last flush is still being counted.
-/

namespace Gatehouse

open Snapshot (Reports)

/-- The events between the flushes of one subscription, before the first and after the last. -/
def windows (id : Nat) (ops : List HubOp) : List (List Event) :=
  (ops.splitOn (.flush id)).map recorded

/-- A history either has no flush of a subscription or goes on after the first. -/
private theorem flush_induction (id : Nat) {motive : List HubOp → Prop}
    (quiet : ∀ ops, .flush id ∉ ops → motive ops)
    (flush : ∀ ops later, .flush id ∉ ops → motive later → motive (ops ++ .flush id :: later))
    (ops : List HubOp) : motive ops := by
  induction hn : ops.length using Nat.strong_induction_on generalizing ops with
  | h n ih =>
    by_cases h : .flush id ∈ ops
    · obtain ⟨first, later, rfl, hfirst⟩ := List.eq_append_cons_of_mem h
      rw [List.length_append, List.length_cons] at hn
      exact flush first later hfirst (ih later.length (by omega) later rfl)
    · exact quiet ops h

theorem windows_of_not_mem {id : Nat} {ops : List HubOp} (h : .flush id ∉ ops) :
    windows id ops = [recorded ops] := by
  rw [windows, List.splitOn_eq_singleton h]
  rfl

theorem windows_flush {id : Nat} {ops : List HubOp} (h : .flush id ∉ ops) (later : List HubOp) :
    windows id (ops ++ .flush id :: later) = recorded ops :: windows id later := by
  rw [windows, List.splitOn_append_cons_self_of_not_mem h]
  rfl

/-- Each event falls in one window. -/
theorem flatten_windows (id : Nat) (ops : List HubOp) :
    (windows id ops).flatten = recorded ops := by
  induction ops using flush_induction id with
  | quiet ops h => rw [windows_of_not_mem h, List.flatten_singleton]
  | flush ops later h ih =>
    rw [windows_flush h, List.flatten_cons, ih, recorded_append]
    rfl

theorem flushes_append (id : Nat) (xs ys : List (HubOp × HubAnswer)) :
    flushes id (xs ++ ys) = flushes id xs ++ flushes id ys := List.filterMap_append

namespace Hub

/-- What one operation answers to a subscription: its counts only when it is a flush of that
subscription. -/
theorem flushes_step (h : Hub) (id : Nat) (op : HubOp) :
    flushes id [(op, (h.step op).2)] = if op = .flush id then [(h.flush id).2] else [] := by
  cases op with
  | flush i =>
    by_cases hi : i = id
    · subst hi
      simp [flushes, step]
    · simp [flushes, step, hi]
  | _ => rfl

theorem flushes_cons (h : Hub) (id : Nat) (op : HubOp) (ops : List HubOp) :
    flushes id (h.trace (op :: ops)) =
      flushes id [(op, (h.step op).2)] ++ flushes id ((h.step op).1.trace ops) :=
  flushes_append id [(op, (h.step op).2)] ((h.step op).1.trace ops)

theorem flushes_of_not_mem {id : Nat} {ops : List HubOp} (h : .flush id ∉ ops) (hub : Hub) :
    flushes id (hub.trace ops) = [] := by
  induction ops generalizing hub with
  | nil => rfl
  | cons op ops ih =>
    rw [flushes_cons, flushes_step, if_neg (List.ne_of_not_mem_cons h).symm,
      ih (List.not_mem_of_not_mem_cons h)]
    rfl

/-- Each flush takes counts. -/
theorem length_flushes (h : Hub) (id : Nat) (ops : List HubOp) :
    (flushes id (h.trace ops)).length = ops.count (.flush id) := by
  induction ops generalizing h with
  | nil => rfl
  | cons op ops ih =>
    rw [flushes_cons, List.length_append, ih, flushes_step, List.count_cons, Nat.add_comm]
    by_cases hop : op = .flush id
    · simp [hop]
    · simp [hop]

theorem flush_of_tally? {h : Hub} {id : Nat} {t : Tally} (ht : h.tally? id = some t) :
    (h.flush id).2 = t.counts := by
  rw [flush, ht]

/-- A flush of a subscription takes what its tally counted. -/
theorem flushes_flush {h : Hub} {id : Nat} {t : Tally} (ht : h.tally? id = some t)
    (ops : List HubOp) :
    flushes id (h.trace (.flush id :: ops)) =
      t.counts :: flushes id ((h.flush id).1.trace ops) := by
  rw [flushes_cons, flushes_step, if_pos rfl, flush_of_tally? ht]
  rfl

/-- Between flushes a tally counts each record. -/
private theorem tallies_of_quiet {h : Hub} (w : h.Coherent) {id : Nat} {t : Tally}
    (ht : h.tally? id = some t) {window : List Event} (hw : t.counts.Tallies window)
    {ops : List HubOp} (live : .drop .statistics id ∉ ops) (quiet : .flush id ∉ ops) :
    ∃ t', (h.after ops).tally? id = some t' ∧ t'.counts.Tallies (window ++ recorded ops) := by
  induction ops generalizing h t window with
  | nil => exact ⟨t, ht, by rwa [recorded, List.filterMap_nil, List.append_nil]⟩
  | cons op ops ih =>
    rw [List.mem_cons, not_or] at live quiet
    obtain ⟨hop, live⟩ := live
    obtain ⟨hop', quiet⟩ := quiet
    have ht' := tally?_step w ht (Ne.symm hop)
    have w' := coherent_step w op
    cases op with
    | record e =>
      obtain ⟨t', hfound, htallies⟩ := ih w' ht' (hw.count e) live quiet
      exact ⟨t', hfound, by rwa [List.append_assoc] at htallies⟩
    | flush i =>
      have hne : i ≠ t.id := by
        rw [id_of_tally? ht]
        exact fun hi ↦ hop' (congrArg HubOp.flush hi.symm)
      rw [Tally.react, if_neg hne] at ht'
      exact ih w' ht' hw live quiet
    | _ => exact ih w' ht' hw live quiet

/-- What the flushes of one subscription took, and last what a flush would take now. -/
def taken (h : Hub) (id : Nat) (ops : List HubOp) : List Snapshot :=
  flushes id (h.trace ops) ++ [((h.after ops).flush id).2]

/-- Each flush shows the counts of its window, and a flush at the end those since the last one. -/
theorem taken_tallies {h : Hub} (w : h.Coherent) {id : Nat}
    (ht : h.tally? id = some ⟨id, .empty⟩) {ops : List HubOp} (live : .drop .statistics id ∉ ops) :
    List.Forall₂ Snapshot.Tallies (h.taken id ops) (windows id ops) := by
  induction ops using flush_induction id generalizing h with
  | quiet ops quiet =>
    obtain ⟨t, hfound, htallies⟩ := tallies_of_quiet w ht Snapshot.tallies_empty live quiet
    rw [taken, flushes_of_not_mem quiet, windows_of_not_mem quiet, flush_of_tally? hfound]
    exact .cons htallies .nil
  | flush ops later quiet ih =>
    rw [List.mem_append, not_or, List.mem_cons, not_or] at live
    obtain ⟨live, -, live'⟩ := live
    obtain ⟨t, hfound, htallies⟩ := tallies_of_quiet w ht Snapshot.tallies_empty live quiet
    have hflushed : ((h.after ops).flush id).1.tally? id = some ⟨id, .empty⟩ := by
      have hid := id_of_tally? hfound
      rw [tally?_flush, hfound, Option.map_some, if_pos hid.symm, hid]
    have hlast : (h.taken id (ops ++ .flush id :: later)) =
        t.counts :: ((h.after ops).flush id).1.taken id later := by
      rw [taken, trace_append, flushes_append, flushes_of_not_mem quiet, flushes_flush hfound,
        after_append]
      rfl
    rw [hlast, windows_flush quiet]
    exact .cons htallies (ih (coherent_step (coherent_after w ops) (.flush id)) hflushed live')

/-- Each flush reports its window if 64 bits hold the number of all records. -/
theorem taken_reports {h : Hub} (w : h.Coherent) {id : Nat}
    (ht : h.tally? id = some ⟨id, .empty⟩) {ops : List HubOp} (live : .drop .statistics id ∉ ops)
    (hl : (recorded ops).length < UInt64.size) :
    List.Forall₂ Reports (h.taken id ops) (windows id ops) := by
  have all {ss : List Snapshot} {ws : List (List Event)}
      (tallies : List.Forall₂ Snapshot.Tallies ss ws) (few : ws.flatten.length < UInt64.size) :
      List.Forall₂ Reports ss ws := by
    induction tallies with
    | nil => exact .nil
    | cons first _ ih =>
      rw [List.flatten_cons, List.length_append] at few
      exact .cons (first.reports (by omega)) (ih (by omega))
  refine all (taken_tallies w ht live) ?_
  rwa [flatten_windows]

private theorem eq_of_reports {ss ts : List Snapshot} {ws vs : List (List Event)}
    (hs : List.Forall₂ Reports ss ws) (ht : List.Forall₂ Reports ts vs)
    (hp : List.Forall₂ List.Perm ws vs) : ss = ts := by
  induction hs generalizing ts vs with
  | nil =>
    cases hp
    cases ht
    rfl
  | cons h _ ih =>
    obtain - | ⟨hp, hps⟩ := hp
    obtain - | ⟨h', ht⟩ := ht
    rw [h.eq_of_perm h' hp, ih ht hps]

/-- The flushes of a statistics subscription cut the records since its registration into windows,
and each record falls in one of them. Each flush reports the window that it ends, whatever else
goes on at the hub, and so does a flush after all operations. Only the events in the windows
matter, not their order in there. A flush leaves the counts of all other subscriptions alone. -/
theorem statistics_count_windows (q : Nat) (pre post : List HubOp) :
    let hub := ((ofDepth q).after pre).subscribeStatistics.1
    let id := ((ofDepth q).after pre).subscribeStatistics.2
    (windows id post).flatten = recorded post ∧
    (.drop .statistics id ∉ post → (recorded post).length < 2 ^ 64 →
      List.Forall₂ Reports (hub.taken id post) (windows id post)) ∧
    (∀ pre' post',
      let hub' := ((ofDepth q).after pre').subscribeStatistics.1
      let id' := ((ofDepth q).after pre').subscribeStatistics.2
      .drop .statistics id ∉ post → .drop .statistics id' ∉ post' →
        (recorded post).length < 2 ^ 64 → (recorded post').length < 2 ^ 64 →
          List.Forall₂ List.Perm (windows id post) (windows id' post') →
            hub.taken id post = hub'.taken id' post') ∧
    (∀ i j, i ≠ j → ((hub.after post).flush i).1.tally? j = (hub.after post).tally? j) := by
  intro hub id
  have found (pre : List HubOp) : ((ofDepth q).after pre).subscribeStatistics.1.tally?
      ((ofDepth q).after pre).subscribeStatistics.2 =
        some ⟨((ofDepth q).after pre).subscribeStatistics.2, .empty⟩ :=
    tally?_subscribeStatistics (coherent_after (coherent_ofDepth q) pre)
  have fresh (pre : List HubOp) : ((ofDepth q).after pre).subscribeStatistics.1.Coherent :=
    coherent_step (coherent_after (coherent_ofDepth q) pre) (.subscribe .statistics)
  refine ⟨flatten_windows id post, fun live hl ↦ taken_reports (fresh pre) (found pre) live hl,
    ?_, ?_⟩
  · intro pre' post' hub' id' live live' hl hl' hp
    have hs := taken_reports (fresh pre) (found pre) live hl
    have hs' := taken_reports (fresh pre') (found pre') live' hl'
    exact eq_of_reports hs hs' hp
  · intro i j hij
    rw [tally?_flush]
    cases ht : (hub.after post).tally? j with
    | none => rfl
    | some t =>
      have hid := id_of_tally? ht
      rw [Option.map_some, if_neg (by omega)]

/-- A call before the first flush and two after it. -/
theorem statistics_count_windows_of_two :
    let pre := [.subscribe .logging, .subscribe .statistics]
    let hub := ((ofDepth 0).after pre).subscribeStatistics.1
    let a : Event := ⟨"c1", "/Biz/Add", "127.0.0.1:40000"⟩
    let b : Event := ⟨"c2", "/Biz/Check", "127.0.0.1:40001"⟩
    let ops := [.record a, .flush 3, .record b, .flush 2, .record a, .drop .statistics 2]
    let ops' := [.record a, .flush 3, .record a, .poll 1, .record b]
    windows 3 ops = [[a], [b, a]] ∧ List.Forall₂ Reports (hub.taken 3 ops) (windows 3 ops) ∧
      hub.taken 3 ops = hub.taken 3 ops' ∧
      (hub.taken 3 ops).map Snapshot.total? = [some 1, some 2] ∧
      ((hub.after ops).flush 3).1.tally? 2 = (hub.after ops).tally? 2 := by
  intro pre hub a b ops ops'
  have live : HubOp.drop .statistics 3 ∉ ops := by decide
  have hw : windows 3 ops = [[a], [b, a]] := rfl
  have hw' : windows 3 ops' = [[a], [a, b]] := rfl
  have hp : List.Forall₂ List.Perm (windows 3 ops) (windows 3 ops') := by
    rw [hw, hw']
    exact .cons (.refl _) (.cons (.swap a b []) .nil)
  have all := statistics_count_windows 0 pre ops
  exact ⟨hw, all.2.1 live (by decide),
    all.2.2.1 _ ops' live (by decide) (by decide) (by decide) hp, by decide,
    all.2.2.2 3 2 (by decide)⟩

end Hub

end Gatehouse

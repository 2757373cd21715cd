import Bootkit.Otelkit.Hooks

/-!
The counter of failed evaluations, against the cycles that were run and the answers that probes
were given.
-/

namespace Bootkit

open Go

/--
Once all calls have returned, the hook was called once for each cycle and once for each join.

A call joins a cycle when it enters the flight while that cycle is in it. So the hook was called
as often as cycles were run exactly if nobody joined one, and then it was told each cycle's error.
-/
theorem hook_counts_cycles (aggregator : Aggregator) (labels : List HealthLabel) (s : HealthState)
    (reached : healthMachine.run (HealthState.init aggregator) labels = some s)
    (installed : healthMachine.Obeys (fun s label => hookInstalled s label = true)
      (HealthState.init aggregator) labels)
    (ended : allReturned labels s = true) :
    -- The calls of the hook are those of the cycles and those of the joins.
    (∀ kind, hookCalls s kind = cyclesRun s kind +
      (joinsOf aggregator labels).countP fun e => (s.cycles e.cycle).kind = kind) ∧
    (∀ kind, (measured s.hooked).healthErrorsTotal (kind.toString, true) = cyclesFailed s kind +
      (joinsOf aggregator labels).countP fun e => failedOutcome kind (s.cycles e.cycle).outcome) ∧
    -- They count the cycles exactly if every call that entered a flight found it empty.
    ((∀ kind, hookCalls s kind = cyclesRun s kind) ↔
      healthMachine.Obeys (fun s label => entersAlone s label = true)
        (HealthState.init aggregator) labels) ∧
    (healthMachine.Obeys (fun s label => entersAlone s label = true)
        (HealthState.init aggregator) labels →
      (s.hooked.map outcomeTold).Perm ((List.range s.opened).map fun i => (s.cycles i).outcome) ∧
      ∀ kind, (measured s.hooked).healthErrorsTotal (kind.toString, true) =
        cyclesFailed s kind) := by
  have perm := hooked_perm reached installed ended
  have calls : ∀ kind, hookCalls s kind = cyclesRun s kind +
      (joinsOf aggregator labels).countP fun e => (s.cycles e.cycle).kind = kind := by
    intro kind
    have count := perm.countP_eq fun outcome => decide (outcome.1 = kind)
    rw [List.countP_append, List.countP_map, List.countP_map, List.countP_map] at count
    exact count
  have failures : ∀ kind, (measured s.hooked).healthErrorsTotal (kind.toString, true) =
      cyclesFailed s kind + (joinsOf aggregator labels).countP fun e =>
        failedOutcome kind (s.cycles e.cycle).outcome := by
    intro kind
    have count := perm.countP_eq (failedOutcome kind)
    rw [List.countP_append, List.countP_map, List.countP_map, List.countP_map] at count
    rw [measured_errors]
    exact count
  refine ⟨calls, failures, ?_, ?_⟩
  · rw [← joinsOf_nil_iff]
    constructor
    · intro equal
      -- A join would have been counted for the kind of its cycle.
      rw [List.eq_nil_iff_forall_not_mem]
      intro e member
      have none : (joinsOf aggregator labels).countP
          (fun other => (s.cycles other.cycle).kind = (s.cycles e.cycle).kind) = 0 := by
        have sum := calls (s.cycles e.cycle).kind
        rw [equal] at sum
        omega
      exact absurd (List.countP_eq_zero.mp none e member) (by simp)
    · intro empty kind
      rw [calls kind, empty]
      rfl
  · intro alone
    have empty := (joinsOf_nil_iff aggregator labels).mpr alone
    refine ⟨by simpa [empty] using perm, ?_⟩
    intro kind
    rw [failures kind, empty]
    rfl

/-- An aggregator with a hook and one readiness check that runs without a cache. -/
def hookSetup : List HealthLabel :=
  [.setHook, .register [⟨"db", .readiness, 1000⟩]]

/-- The steps of one cycle whose only check fails. -/
def failingCycle (i : Nat) : List HealthLabel :=
  [.cycle i .snapshot, .cycle i (.launch 0), .cycle i (.finish 0 (some (.new deadlineExceeded))),
    .cycle i .collect, .cycle i .store, .cycle i .retire]

/-- Two probes, one after the other. -/
def probesInTurn : List HealthLabel :=
  hookSetup ++ [.call 0 (.arrive .readiness), .call 0 .lookup, .call 0 .enter] ++ failingCycle 0 ++
    [.call 0 .receive, .call 0 .report, .call 1 (.arrive .readiness), .call 1 .lookup,
      .call 1 .enter] ++ failingCycle 1 ++ [.call 1 .receive, .call 1 .report]

/-- Two probes in turn call the hook twice for two cycles. -/
theorem hook_counts_cycles_in_turn :
    ∃ s, healthMachine.run (HealthState.init (newAggregator (-1))) probesInTurn = some s ∧
      hookCalls s .readiness = cyclesRun s .readiness ∧ cyclesRun s .readiness = 2 ∧
      (measured s.hooked).healthErrorsTotal ("readiness", true) = cyclesFailed s .readiness := by
  -- The second probe finds the flight empty, because the first cycle has been retired.
  obtain ⟨s, reached, ended, two⟩ := healthMachine.run_observe
    (HealthState.init (newAggregator (-1))) probesInTurn
    (fun s => allReturned probesInTurn s = true ∧ cyclesRun s .readiness = 2) (by decide +kernel)
  have installed : healthMachine.Obeys (fun s label => hookInstalled s label = true)
      (HealthState.init (newAggregator (-1))) probesInTurn :=
    (healthMachine.obeys_iff _ _ _).mp (by decide +kernel)
  have alone : healthMachine.Obeys (fun s label => entersAlone s label = true)
      (HealthState.init (newAggregator (-1))) probesInTurn :=
    (healthMachine.obeys_iff _ _ _).mp (by decide +kernel)
  obtain ⟨-, -, counts, counter⟩ := hook_counts_cycles _ _ s reached installed ended
  exact ⟨s, reached, counts.mpr alone .readiness, two, (counter alone).2 .readiness⟩

/-- Two probes at once. -/
def probesAtOnce : List HealthLabel :=
  hookSetup ++ [.call 0 (.arrive .readiness), .call 1 (.arrive .readiness), .call 0 .lookup,
    .call 1 .lookup, .call 0 .enter, .call 1 .enter] ++ failingCycle 0 ++
    [.call 0 .receive, .call 1 .receive, .call 0 .report, .call 1 .report]

/-- Two probes that share a cycle call the hook twice and count its failure twice. -/
theorem hook_counts_joins :
    healthMachine.Obeys (fun s label => hookInstalled s label = true)
      (HealthState.init (newAggregator (-1))) probesAtOnce ∧
    ∃ s, healthMachine.run (HealthState.init (newAggregator (-1))) probesAtOnce = some s ∧
      allReturned probesAtOnce s = true ∧ cyclesRun s .readiness = 1 ∧
      hookCalls s .readiness = 2 ∧ cyclesFailed s .readiness = 1 ∧
      (measured s.hooked).healthErrorsTotal ("readiness", true) = 2 := by
  -- The second probe enters the flight of the first one's cycle.
  refine ⟨(healthMachine.obeys_iff _ _ _).mp (by decide +kernel), ?_⟩
  exact healthMachine.run_observe (HealthState.init (newAggregator (-1))) probesAtOnce
    (fun s => allReturned probesAtOnce s = true ∧ cyclesRun s .readiness = 1 ∧
      hookCalls s .readiness = 2 ∧ cyclesFailed s .readiness = 1 ∧
      (measured s.hooked).healthErrorsTotal ("readiness", true) = 2) (by decide +kernel)

section Counted

variable {cacheTTL : Int} {labels : List HealthLabel} {s : HealthState} {kind : Kind}

/-- The hook was told the error of every answer, whether from a cycle or from the cache. -/
theorem told_of_returned
    (reached : healthMachine.run (HealthState.init (newAggregator cacheTTL)) labels = some s)
    (installed : healthMachine.Obeys (fun s label => hookInstalled s label = true)
      (HealthState.init (newAggregator cacheTTL)) labels)
    (ended : allReturned labels s = true) {c start : Nat} {err : Option Err}
    (answered : s.calls c = .returned kind start err) :
    ∃ duration, (kind, duration, err) ∈ s.hooked := by
  -- The answer is the outcome of a cycle, and that cycle's leader has told of it.
  obtain ⟨i, answers, -⟩ := (callHistory_run reached c).returned kind start err answered
  have outcome : (s.cycles i).outcome = (kind, some err) := by
    rw [Cycle.outcome, answers.own, answers.final]
  have among : (kind, some err) ∈ s.hooked.map outcomeTold := by
    rw [(hooked_perm reached installed ended).mem_iff, ← outcome]
    exact List.mem_append_left _ (List.mem_map.mpr ⟨i, List.mem_range.mpr answers.opened, rfl⟩)
  obtain ⟨⟨other, duration, given⟩, member, same⟩ := List.mem_map.mp among
  obtain ⟨rfl, rfl⟩ : other = kind ∧ given = err := by simpa [outcomeTold] using same
  exact ⟨duration, member⟩

/-- A report tells of the answer that the reporting call gave. -/
theorem returned_of_report
    (reached : healthMachine.run (HealthState.init (newAggregator cacheTTL)) labels = some s)
    {report : HookReport} (made : report ∈ reportsOf (newAggregator cacheTTL) labels) :
    ∃ start, s.calls report.call = .returned report.kind start report.err := by
  have ledger := ledger_run reached
  obtain ⟨back, e, member, same⟩ := ledger.origin report made
  cases ledger.staged e member with
  | waiting phase | received phase => simp [← same, phase, CallPhase.isReturned] at back
  | @returned start duration err phase answers told =>
    -- No call reports twice, so this is the report of the entry.
    obtain rfl : report = ⟨e.call, e.kind, duration, err⟩ :=
      List.inj_on_of_nodup_map ledger.once made told same.symm
    exact ⟨start, phase⟩

end Counted

/--
Once all calls have returned, the counter of failed evaluations of a kind has counted answers of
that kind that were failures, no call twice, and it has counted some if there were any.
-/
theorem health_errors_counted (cacheTTL : Int) (labels : List HealthLabel) (s : HealthState)
    (reached : healthMachine.run (HealthState.init (newAggregator cacheTTL)) labels = some s)
    (installed : healthMachine.Obeys (fun s label => hookInstalled s label = true)
      (HealthState.init (newAggregator cacheTTL)) labels)
    (ended : allReturned labels s = true) (kind : Kind) :
    (∃ calls : List Nat, calls.Nodup ∧
      calls.length = (s.hooked.foldl OTelHooks.evaluated .unused).health.healthErrorsTotal
        (kind.toString, true) ∧
      ∀ c ∈ calls, ∃ start err, s.calls c = .returned kind start err ∧
        (probeResponse err).1 = 503) ∧
    ((s.hooked.foldl OTelHooks.evaluated .unused).health.healthErrorsTotal
        (kind.toString, true) = 0 ↔
      ∀ c start err, s.calls c = .returned kind start err → (probeResponse err).1 = 200) := by
  have ledger := ledger_run reached
  rw [evaluated_health, measured_errors]
  refine ⟨?_, ?_⟩
  · -- The calls that were counted are those that made the reports.
    refine ⟨((reportsOf (newAggregator cacheTTL) labels).filter fun r =>
      r.kind = kind ∧ r.err.isSome).map HookReport.call, ?_, ?_, ?_⟩
    · exact ledger.once.sublist (List.filter_sublist.map _)
    · rw [(hooked_run reached installed).told, List.countP_map, List.length_map,
        List.countP_eq_length_filter]
      rfl
    · intro c counted
      obtain ⟨report, member, rfl⟩ := List.mem_map.mp counted
      obtain ⟨made, own, failed⟩ : report ∈ reportsOf (newAggregator cacheTTL) labels ∧
          report.kind = kind ∧ report.err.isSome = true := by simpa using member
      obtain ⟨start, answered⟩ := returned_of_report reached made
      rw [own] at answered
      obtain ⟨err, real⟩ := Option.isSome_iff_exists.mp failed
      exact ⟨start, report.err, answered, by rw [real]; rfl⟩
  · rw [List.countP_eq_zero]
    constructor
    · intro none c start err answered
      obtain ⟨duration, told⟩ := told_of_returned reached installed ended answered
      cases err with
      | none => rfl
      | some cause => exact absurd (none _ told) (by simp)
    · intro healthy told member failed
      rw [(hooked_run reached installed).told] at member
      obtain ⟨report, made, rfl⟩ := List.mem_map.mp member
      obtain ⟨own, failed⟩ : report.kind = kind ∧ report.err.isSome = true := by
        simpa using failed
      obtain ⟨start, answered⟩ := returned_of_report reached made
      rw [own] at answered
      have status := healthy _ _ _ answered
      obtain ⟨err, real⟩ := Option.isSome_iff_exists.mp failed
      rw [real] at status
      exact absurd status (by simp [probeResponse])

/-- A probe that fails, and one that is answered from the cache behind it. -/
def cachedFailure : List HealthLabel :=
  hookSetup ++ [.call 0 (.arrive .readiness), .call 0 .lookup, .call 0 .enter] ++ failingCycle 0 ++
    [.call 0 .receive, .call 0 .report, .call 1 (.arrive .readiness), .call 1 .lookup]

/-- A failure that was answered from the cache was counted when it was found. -/
theorem health_errors_counted_cached : ∃ s err,
    healthMachine.run (HealthState.init (newAggregator 0)) cachedFailure = some s ∧
    s.calls 1 = .returned .readiness 0 (some err) ∧
    (s.hooked.foldl OTelHooks.evaluated .unused).health.healthErrorsTotal
      ("readiness", true) ≠ 0 := by
  -- The second answer is a failure, so that the counter cannot be zero.
  obtain ⟨s, reached, ended, cached⟩ := healthMachine.run_observe
    (HealthState.init (newAggregator 0)) cachedFailure
    (fun s => allReturned cachedFailure s = true ∧ s.calls 1 = .returned .readiness 0
      (Err.join [(Err.new deadlineExceeded).annotate "db"])) (by decide +kernel)
  have installed : healthMachine.Obeys (fun s label => hookInstalled s label = true)
      (HealthState.init (newAggregator 0)) cachedFailure :=
    (healthMachine.obeys_iff _ _ _).mp (by decide +kernel)
  have law := health_errors_counted 0 _ s reached installed ended .readiness
  refine ⟨s, _, reached, cached, ?_⟩
  intro none
  have status := law.2.mp none 1 0 _ cached
  exact absurd status (by decide)

end Bootkit

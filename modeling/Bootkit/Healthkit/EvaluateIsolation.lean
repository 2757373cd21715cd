import Bootkit.Healthkit.EvaluateMoves

/-! When backends are up, which probes can be told otherwise. -/

namespace Bootkit

open Go

/-- A check that is about to return: its cycle, when it began, and what it returns. -/
structure CheckReturn where
  cycle : Cycle
  since : Nat
  check : Check
  err : Option Err

/-- The check that a step lets return, if it lets one return. -/
def returningCheck (s : HealthState) : HealthLabel → Option CheckReturn
  | .cycle i (.finish j err) =>
    match (s.cycles i).checks[j]?, (s.cycles i).progress j with
    | some check, .running since => some ⟨s.cycles i, since, check, err⟩
    | _, _ => none
  | _ => none

/--
Every backend is up.

A check then answers within its timeout, and it fails only when its context is done.
-/
def BackendsUp (s : HealthState) (label : HealthLabel) : Prop :=
  ∀ r ∈ returningCheck s label, s.now < r.since + r.check.timeout ∧
    (s.checkDone r.cycle r.since r.check = false → r.err = none)

instance (s : HealthState) (label : HealthLabel) : Decidable (BackendsUp s label) :=
  inferInstanceAs (Decidable (∀ r ∈ returningCheck s label, _))

/-- Whoever leads a cycle stays until its checks have returned. -/
def LeaderStays (s : HealthState) (label : HealthLabel) : Prop :=
  ∀ r ∈ returningCheck s label, s.requests r.cycle.leader = none

instance (s : HealthState) (label : HealthLabel) : Decidable (LeaderStays s label) :=
  inferInstanceAs (Decidable (∀ r ∈ returningCheck s label, _))

/-- Under a live request a check whose backend is up returns nil. -/
theorem returns_nil {s : HealthState} {label : HealthLabel} {r : CheckReturn}
    (up : BackendsUp s label) (stays : LeaderStays s label)
    (returning : returningCheck s label = some r) : r.err = none := by
  -- Neither of the two reasons for a done context applies.
  obtain ⟨inTime, clean⟩ := up r returning
  apply clean
  have live := stays r returning
  have waiting : ¬ (r.since + r.check.timeout ≤ s.now) := by omega
  simp [HealthState.checkDone, live, waiting]

/-- The result of a cycle, once it is known. -/
def CyclePhase.final : CyclePhase → Option (Option Err)
  | .collected final | .stored final _ | .retired final _ => some final
  | _ => none

/-- The result of a call, once it is known. -/
def CallPhase.result : CallPhase → Option (Option Err)
  | .received _ _ _ err | .returned _ _ err => some err
  | _ => none

/-- A cycle that has seen no failure. -/
structure Cycle.Clear (cycle : Cycle) : Prop where
  silent : cycle.errCh = []
  final : ∀ final, cycle.phase.final = some final → final = none

/-- No failure is known anywhere: not in a cycle, not in the cache, not in a call. -/
structure AllClear (s : HealthState) : Prop where
  cycles : ∀ i, (s.cycles i).Clear
  cache : ∀ kind stored, s.cache kind = some stored → stored.err = none
  calls : ∀ c err, (s.calls c).result = some err → err = none

/-- A cycle that stays clear keeps all cycles clear. -/
theorem AllClear.setCycle {s : HealthState} (holds : AllClear s) (i : Nat) {cycle : Cycle}
    (clear : cycle.Clear) : AllClear (s.setCycle i cycle) := by
  -- The other cycles are the ones of before.
  refine ⟨?_, holds.cache, holds.calls⟩
  intro j
  by_cases same : j = i
  · subst same
    simpa [HealthState.setCycle] using clear
  · simpa [HealthState.setCycle, same] using holds.cycles j

/-- A call that has no failure to report keeps all calls clear. -/
theorem AllClear.setCall {s : HealthState} (holds : AllClear s) (c : Nat) {phase : CallPhase}
    (clear : ∀ err, phase.result = some err → err = none) : AllClear (s.setCall c phase) := by
  -- The other calls are the ones of before.
  refine ⟨holds.cycles, holds.cache, ?_⟩
  intro d err known
  by_cases same : d = c
  · subst same
    exact clear err (by simpa [HealthState.setCall] using known)
  · exact holds.calls d err (by simpa [HealthState.setCall, same] using known)

/-- A new cycle has seen no failure. -/
theorem AllClear.openCycle {s : HealthState} (holds : AllClear s) (kind : Kind) (leader : Nat) :
    AllClear (s.openCycle kind leader) := by
  have blank : ({ Cycle.blank with kind, leader, phase := .opened } : Cycle).Clear :=
    ⟨rfl, by simp [CyclePhase.final]⟩
  -- Opening a cycle also changes the flight, which carries no result.
  have added := holds.setCycle s.opened blank
  exact ⟨added.cycles, added.cache, added.calls⟩

/-- A clear cache answers with nil. -/
theorem AllClear.cached {s : HealthState} (holds : AllClear s) {kind : Kind} {start : Nat}
    {err : Option Err} (fresh : s.cached kind start = some err) : err = none := by
  -- An answer of the cache is a stored result, which is clear.
  unfold HealthState.cached at fresh
  split at fresh
  · cases stored : s.cache kind with
    | none => simp [stored] at fresh
    | some res =>
      simp only [stored] at fresh
      split at fresh
      · rw [← Option.some.inj fresh]
        exact holds.cache kind res stored
      · cases fresh
  · cases fresh

/-- A call passes on what it is given, and a new cycle has seen nothing. -/
theorem allClear_call {s next : HealthState} {c : Nat} {action : CallAction}
    (moved : CallMove s c action next) (holds : AllClear s) : AllClear next := by
  -- A call gets its result from the cache or from a cycle, and both are clear.
  cases moved with
  | hit phase fresh =>
    apply holds.setCall
    rintro err ⟨⟩
    exact holds.cached fresh
  | lead phase landed =>
    apply (holds.openCycle _ c).setCall
    simp [CallPhase.result]
  | @receive kind start i since final phase retired =>
    apply holds.setCall
    rintro err ⟨⟩
    exact (holds.cycles i).final final (by rw [retired]; rfl)
  | @report kind start duration err phase =>
    have given : err = none := holds.calls c err (by rw [phase]; rfl)
    have reported : AllClear (s.setCall c (.returned kind start err)) := by
      apply holds.setCall
      rintro _ ⟨⟩
      exact given
    exact ⟨reported.cycles, reported.cache, reported.calls⟩
  | _ phase =>
    apply holds.setCall
    simp [CallPhase.result]

/-- A cycle stays clear while its checks return nil. -/
theorem allClear_cycle {s next : HealthState} {i : Nat} {action : CycleAction}
    (moved : CycleMove s i action next) (up : BackendsUp s (.cycle i action))
    (stays : LeaderStays s (.cycle i action)) (holds : AllClear s) : AllClear next := by
  -- A check is the only source of errors, and it returns nil here; the rest passes results on.
  have clear := holds.cycles i
  cases moved with
  | snapshot phase => exact holds.setCycle i ⟨clear.silent, by simp [CyclePhase.final]⟩
  | launch phase present waiting => exact holds.setCycle i ⟨clear.silent, clear.final⟩
  | @finish j since check err phase present running =>
    have nil : err = none := returns_nil (r := ⟨s.cycles i, since, check, err⟩) up stays (by
      simp [returningCheck, present, running])
    refine holds.setCycle i ⟨?_, clear.final⟩
    simp [clear.silent, nil, checkFailure]
  | collect phase all =>
    refine holds.setCycle i ⟨clear.silent, ?_⟩
    rintro final ⟨⟩
    simp [clear.silent]
  | @store final phase =>
    have nil : final = none := clear.final final (by rw [phase]; rfl)
    have kept : AllClear (s.setCycle i { s.cycles i with phase := .stored final s.now }) :=
      holds.setCycle i ⟨clear.silent, by rintro _ ⟨⟩; exact nil⟩
    refine ⟨kept.cycles, ?_, kept.calls⟩
    intro kind stored found
    by_cases same : kind = (s.cycles i).kind
    · subst same
      obtain rfl : (⟨final, s.now⟩ : CachedResult) = stored := by simpa using found
      exact nil
    · exact holds.cache kind stored (by simpa [same] using found)
  | @retire final since phase =>
    have nil : final = none := clear.final final (by rw [phase]; rfl)
    have kept : AllClear (s.setCycle i { s.cycles i with phase := .retired final since }) :=
      holds.setCycle i ⟨clear.silent, by rintro _ ⟨⟩; exact nil⟩
    exact ⟨kept.cycles, kept.cache, kept.calls⟩

/-- While backends are up and leaders stay, nothing is ever wrong. -/
theorem allClear_run {aggregator : Aggregator} {labels : List HealthLabel} {s : HealthState}
    (obeyed : healthMachine.Obeys (fun s label => BackendsUp s label ∧ LeaderStays s label)
      (HealthState.init aggregator) labels)
    (reached : healthMachine.run (HealthState.init aggregator) labels = some s) :
    AllClear s := by
  refine healthMachine.run_obeying (fun _ s => AllClear s) ?_ ?_ labels s obeyed reached
  · refine ⟨fun i => ⟨rfl, ?_⟩, ?_, ?_⟩ <;>
      simp [HealthState.init, Cycle.blank, CyclePhase.final, CallPhase.result]
  · intro _ s label next _ holds met taken
    cases label with
    | call c action => exact allClear_call (callStep_move taken) holds
    | cycle i action => exact allClear_cycle (cycleStep_move taken) met.1 met.2 holds
    | _ =>
      -- Time, requests, and registration carry no result.
      cases taken
      exact ⟨holds.cycles, holds.cache, holds.calls⟩

/--
While backends are up and no leader leaves its cycle, every probe is answered with success.

So two such runs, with requests that are cancelled in one of them only, answer a probe alike.
-/
theorem probe_succeeds (aggregator : Aggregator) (labels : List HealthLabel) (s : HealthState)
    (c start : Nat) (kind : Kind) (err : Option Err)
    (reached : healthMachine.run (HealthState.init aggregator) labels = some s)
    (returned : s.calls c = .returned kind start err)
    (obeyed : healthMachine.Obeys (fun s label => BackendsUp s label ∧ LeaderStays s label)
      (HealthState.init aggregator) labels) :
    (err = none ∧ probeResponse err = (200, "ok")) ∧
    ∀ others t began answer, healthMachine.run (HealthState.init aggregator) others = some t →
      healthMachine.Obeys (fun s label => BackendsUp s label ∧ LeaderStays s label)
        (HealthState.init aggregator) others →
      t.calls c = .returned kind began answer → answer = err := by
  -- What a call returned is among the results that are clear.
  have nil : err = none := (allClear_run obeyed reached).calls c err (by rw [returned]; rfl)
  subst nil
  refine ⟨⟨rfl, rfl⟩, ?_⟩
  intro others t began answer ran calm answered
  exact (allClear_run calm ran).calls c answer (by rw [answered]; rfl)

/-- A probe that leads a cycle, and one that joins it, up to the moment its check is running. -/
def sharedCycleLabels : List HealthLabel :=
  [.register (standardChecks "db"),
    .call 0 (.arrive .readiness), .call 0 .lookup, .call 0 .enter,
    .cycle 0 .snapshot, .cycle 0 (.launch 0),
    .call 1 (.arrive .readiness), .call 1 .lookup, .call 1 .enter]

/-- The end of that cycle, the answer to the joined probe, and a later probe of the cache. -/
def landingLabels (err : Option Err) : List HealthLabel :=
  [.cycle 0 (.finish 0 err), .cycle 0 .collect, .cycle 0 .store, .cycle 0 .retire,
    .call 1 .receive, .call 1 .report, .call 2 (.arrive .readiness), .call 2 .lookup]

/-- A probe that joined a cycle whose leader stayed is answered with success. -/
theorem probe_succeeds_joined : ∃ s err,
    healthMachine.run (HealthState.init (newAggregator 0))
      (sharedCycleLabels ++ landingLabels none) = some s ∧
    s.calls 1 = .returned .readiness 0 err ∧ probeResponse err = (200, "ok") := by
  -- Both conditions can be checked step by step along the concrete run.
  obtain ⟨s, reached, returned⟩ := healthMachine.run_observe (HealthState.init (newAggregator 0))
    (sharedCycleLabels ++ landingLabels none)
    (fun s => s.calls 1 = .returned .readiness 0 none) (by decide +kernel)
  have obeyed := (healthMachine.obeys_iff
    (fun s label => BackendsUp s label ∧ LeaderStays s label)
    (HealthState.init (newAggregator 0)) (sharedCycleLabels ++ landingLabels none)).mp
    (by decide +kernel)
  exact ⟨s, none, reached, returned,
    (probe_succeeds (newAggregator 0) _ s 1 0 .readiness none reached returned obeyed).1.2⟩

/--
A leader whose client disconnects fails other probes although every backend is up.

The probe that joined its cycle and a later one answered by the cache both see the cancellation.
-/
theorem probe_fails_with_leader : ∃ labels s err,
    healthMachine.run (HealthState.init (newAggregator 0)) labels = some s ∧
    healthMachine.Obeys BackendsUp (HealthState.init (newAggregator 0)) labels ∧
    s.requests 1 = none ∧ s.calls 1 = .returned .readiness 0 (some err) ∧
    s.requests 2 = none ∧ s.calls 2 = .returned .readiness 0 (some err) := by
  -- Only the leader is cancelled, and its check returns the error of its own context.
  obtain ⟨s, reached, live, returned, alive, cached⟩ := healthMachine.run_observe
    (HealthState.init (newAggregator 0))
    (sharedCycleLabels ++ [.cancelRequest 0 canceled] ++ landingLabels (some (.new canceled)))
    (fun s => s.requests 1 = none ∧
      s.calls 1 = .returned .readiness 0
        (Err.join [(Err.new canceled).annotate "db-readiness"]) ∧
      s.requests 2 = none ∧ s.calls 2 = .returned .readiness 0
        (Err.join [(Err.new canceled).annotate "db-readiness"]))
    (by decide +kernel)
  have obeyed := (healthMachine.obeys_iff BackendsUp (HealthState.init (newAggregator 0))
    (sharedCycleLabels ++ [.cancelRequest 0 canceled] ++ landingLabels (some (.new canceled)))).mp
    (by decide +kernel)
  exact ⟨_, s, _, reached, obeyed, live, returned, alive, cached⟩

end Bootkit

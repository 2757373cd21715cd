import Bootkit.Healthkit.EvaluateCycles

/-! Every answer of `evaluate` comes from one complete cycle that was fresh when it was chosen. -/

namespace Bootkit

open Go

/-- The cycle that a call joins or leads when it enters the flight. -/
def HealthState.joins (s : HealthState) (c : Nat) : Option Nat :=
  match s.calls c with
  | .missed kind _ => some ((s.flight kind).getD s.opened)
  | _ => none

/-- The cycle whose result the cache gives to a call that looks it up. -/
def HealthState.LooksUp (s : HealthState) (c i : Nat) : Prop :=
  ∃ kind start res, s.calls c = .arrived kind start ∧ s.cached kind start = some res.err ∧
    s.Latest kind i res

/-- A call was answered by the cache, with the result of a cycle. -/
def FromCache (aggregator : Aggregator) (labels : List HealthLabel) (c i : Nat) : Prop :=
  ∃ s, healthMachine.Took (HealthState.init aggregator) labels (.call c .lookup) s ∧ s.LooksUp c i

/-- A call was answered by the flight, with the result of a cycle. -/
def FromFlight (aggregator : Aggregator) (labels : List HealthLabel) (c i : Nat) : Prop :=
  ∃ s, healthMachine.Took (HealthState.init aggregator) labels (.call c .enter) s ∧
    s.joins c = some i

/-- How far a call of `evaluate` has come. -/
def CallPhase.rank : CallPhase → Nat
  | .idle => 0
  | .arrived _ _ => 1
  | .missed _ _ => 2
  | .waiting _ _ _ => 3
  | .received _ _ _ _ => 4
  | .returned _ _ _ => 5

/-- A step of a call brings it further. -/
theorem CallMove.rank_lt {s next : HealthState} {c : Nat} {action : CallAction}
    (moved : CallMove s c action next) : (s.calls c).rank < (next.calls c).rank := by
  cases moved <;> simp_all [HealthState.setCall, HealthState.openCycle, CallPhase.rank]

/-- No step brings a call back. -/
theorem rank_step (c : Nat) (s : HealthState) (label : HealthLabel) (next : HealthState)
    (taken : healthMachine.step s label = some next) :
    (s.calls c).rank ≤ (next.calls c).rank := by
  -- A step of the call itself goes forward, and no other step touches its phase.
  by_cases calls : ∃ d action, label = .call d action
  · obtain ⟨d, action, rfl⟩ := calls
    have moved := callStep_move taken
    by_cases same : c = d
    · subst same
      exact Nat.le_of_lt moved.rank_lt
    · rw [moved.others same]
  · rw [calls_frame taken fun d action same => calls ⟨d, action, same⟩]

/-- After a step of a call, the call has come further for good. -/
theorem rank_after {s next later : HealthState} {c : Nat} {action : CallAction}
    {between : List HealthLabel} (taken : healthMachine.step s (.call c action) = some next)
    (reached : healthMachine.run next between = some later) :
    (s.calls c).rank < (later.calls c).rank := by
  -- The step goes forward, and the run behind it never goes back.
  have moved : CallMove s c action next := callStep_move taken
  have kept := healthMachine.run_rank (fun s => (s.calls c).rank) (rank_step c) reached
  exact Nat.lt_of_lt_of_le moved.rank_lt kept

/-- A call that looks up the cache has just arrived. -/
theorem HealthState.LooksUp.rank {s : HealthState} {c i : Nat} (looks : s.LooksUp c i) :
    (s.calls c).rank = 1 := by
  -- A call looks up when it has arrived.
  obtain ⟨kind, start, res, arrived, -, -⟩ := looks
  rw [arrived]
  rfl

/-- A call that joins a cycle has missed the cache. -/
theorem rank_of_joins {s : HealthState} {c i : Nat} (joins : s.joins c = some i) :
    (s.calls c).rank = 2 := by
  -- A call joins when its lookup has missed.
  unfold HealthState.joins at joins
  split at joins
  · rename_i missed
    rw [missed]
    rfl
  · cases joins

/-- A call that finds its answer in the cache returns at once. -/
theorem HealthState.LooksUp.returns {s next : HealthState} {c i : Nat} (looks : s.LooksUp c i)
    (taken : healthMachine.step s (.call c .lookup) = some next) : (next.calls c).rank = 5 := by
  obtain ⟨kind, start, res, arrived, hit, -⟩ := looks
  have moved : CallMove s c .lookup next := callStep_move taken
  cases moved with
  | hit phase fresh => simp [HealthState.setCall, CallPhase.rank]
  | miss phase stale =>
    -- The cache cannot both have an answer and have none.
    rw [phase] at arrived
    obtain ⟨rfl, rfl⟩ := CallPhase.arrived.inj arrived
    rw [stale] at hit
    cases hit

section Unique

variable {aggregator : Aggregator} {labels : List HealthLabel} {c i j : Nat}

/-- A call looks up the cache at most once, so at most one cycle answers it from there. -/
theorem FromCache.unique (first : FromCache aggregator labels c i)
    (second : FromCache aggregator labels c j) : i = j := by
  -- A call looks up once: the two lookups are the same step, or one would be made from a later
  -- phase.
  obtain ⟨s, tookFirst, looksFirst⟩ := first
  obtain ⟨t, tookSecond, looksSecond⟩ := second
  have low := looksFirst.rank
  have high := looksSecond.rank
  rcases tookFirst.order tookSecond with
    ⟨-, rfl⟩ | ⟨next, between, taken, later⟩ | ⟨next, between, taken, later⟩
  · obtain ⟨kind, start, res, arrived, -, latest⟩ := looksFirst
    obtain ⟨other, begun, stored, again, -, last⟩ := looksSecond
    rw [arrived] at again
    obtain ⟨rfl, -⟩ := CallPhase.arrived.inj again
    exact (latest.unique last).1
  · have further := rank_after taken later
    omega
  · have further := rank_after taken later
    omega

/-- A call enters the flight at most once, so at most one cycle answers it from there. -/
theorem FromFlight.unique (first : FromFlight aggregator labels c i)
    (second : FromFlight aggregator labels c j) : i = j := by
  -- A call enters once, for the same reason.
  obtain ⟨s, tookFirst, joinsFirst⟩ := first
  obtain ⟨t, tookSecond, joinsSecond⟩ := second
  have low := rank_of_joins joinsFirst
  have high := rank_of_joins joinsSecond
  rcases tookFirst.order tookSecond with
    ⟨-, rfl⟩ | ⟨next, between, taken, later⟩ | ⟨next, between, taken, later⟩
  · exact Option.some.inj (joinsFirst.symm.trans joinsSecond)
  · have further := rank_after taken later
    omega
  · have further := rank_after taken later
    omega

/-- A call that the cache answered never enters the flight. -/
theorem FromCache.not_flight (cached : FromCache aggregator labels c i) :
    ¬ FromFlight aggregator labels c j := by
  -- A lookup that hits returns, and a call that has returned enters no flight; nor does one look up
  -- after it has entered.
  rintro ⟨t, tookFlight, joins⟩
  obtain ⟨s, tookCache, looks⟩ := cached
  have low := looks.rank
  have high := rank_of_joins joins
  rcases tookCache.order tookFlight with
    ⟨same, -⟩ | ⟨next, between, taken, later⟩ | ⟨next, between, taken, later⟩
  · cases same
  · have returned := looks.returns taken
    have grown := healthMachine.run_rank (fun s => (s.calls c).rank) (rank_step c) later
    omega
  · have further := rank_after taken later
    omega

end Unique

/-- A cycle of a kind whose outcome is known. -/
structure HealthState.Answers (s : HealthState) (i : Nat) (kind : Kind) (err : Option Err) :
    Prop where
  opened : i < s.opened
  own : (s.cycles i).kind = kind
  final : (s.cycles i).phase.final = some err

/-- A stored result is the outcome of its cycle. -/
theorem CyclePhase.final_of_entry {phase : CyclePhase} {res : CachedResult}
    (entry : phase.entry = some res) : phase.final = some res.err := by
  cases phase <;> simp_all [CyclePhase.entry, CyclePhase.final] <;> simp [← entry]

/-- An opened cycle keeps its kind and what is known of its outcome. -/
theorem cycle_kept {s next : HealthState} {label : HealthLabel}
    (taken : healthMachine.step s label = some next) {i : Nat} (opened : i < s.opened) :
    i < next.opened ∧ (next.cycles i).kind = (s.cycles i).kind ∧
      (∀ final, (s.cycles i).phase.final = some final →
        (next.cycles i).phase.final = some final) ∧
      ∀ res, (s.cycles i).phase.entry = some res → (next.cycles i).phase.entry = some res := by
  cases label with
  | call c action =>
    have moved : CallMove s c action next := callStep_move taken
    cases moved with
    | lead phase landed =>
      -- The new cycle has a number of its own.
      have other : i ≠ s.opened := by omega
      simpa [HealthState.setCall, HealthState.openCycle, HealthState.setCycle, other]
        using Nat.lt_succ_of_lt opened
    | _ phase => exact ⟨opened, rfl, fun _ known => known, fun _ known => known⟩
  | cycle k action =>
    have moved : CycleMove s k action next := cycleStep_move taken
    by_cases same : i = k
    · subst same
      cases moved <;>
        simp_all [HealthState.setCycle, CyclePhase.final, CyclePhase.entry]
    · have kept : next.cycles i = s.cycles i := by
        cases moved <;> simp [HealthState.setCycle, same]
      have bound : next.opened = s.opened := by
        cases moved <;> rfl
      rw [kept, bound]
      exact ⟨opened, rfl, fun _ known => known, fun _ known => known⟩
  | _ =>
    cases taken
    exact ⟨opened, rfl, fun _ known => known, fun _ known => known⟩

/-- A known outcome stays known. -/
theorem HealthState.Answers.step {s next : HealthState} {i : Nat} {kind : Kind} {err : Option Err}
    (answers : s.Answers i kind err) {label : HealthLabel}
    (taken : healthMachine.step s label = some next) : next.Answers i kind err := by
  -- What a cycle has settled stays settled.
  obtain ⟨opened, own, final, -⟩ := cycle_kept taken answers.opened
  exact ⟨opened, own.trans answers.own, final err answers.final⟩

/-- A call was answered by the cache with a result that was fresh when the call began. -/
structure CacheAnswer (aggregator : Aggregator) (labels : List HealthLabel) (s : HealthState)
    (c start i : Nat) : Prop where
  source : FromCache aggregator labels c i
  enabled : 0 < aggregator.cacheTTL
  fresh : ∃ res, (s.cycles i).phase.entry = some res ∧
    (start : Int) - aggregator.cacheTTL < res.at_

/-- What the schedule so far says about one call. -/
structure CallHistory (aggregator : Aggregator) (labels : List HealthLabel) (s : HealthState)
    (c : Nat) : Prop where
  waiting : ∀ kind start i, s.calls c = .waiting kind start i →
    FromFlight aggregator labels c i ∧ i < s.opened ∧ (s.cycles i).kind = kind
  received : ∀ kind start duration err, s.calls c = .received kind start duration err →
    ∃ i, s.Answers i kind err ∧ FromFlight aggregator labels c i
  returned : ∀ kind start err, s.calls c = .returned kind start err →
    ∃ i, s.Answers i kind err ∧
      (FromFlight aggregator labels c i ∨ CacheAnswer aggregator labels s c start i)

/-- A call that was answered by the flight stays so. -/
theorem FromFlight.extend {aggregator : Aggregator} {labels : List HealthLabel} {c i : Nat}
    (source : FromFlight aggregator labels c i) (label : HealthLabel) :
    FromFlight aggregator (labels ++ [label]) c i := by
  -- The entry was made at the same place in the run.
  obtain ⟨s, took, joins⟩ := source
  exact ⟨s, took.extend label, joins⟩

/-- A call that was answered by the cache stays so. -/
theorem CacheAnswer.step {aggregator : Aggregator} {labels : List HealthLabel}
    {s next : HealthState} {c start i : Nat} (answer : CacheAnswer aggregator labels s c start i)
    {label : HealthLabel} (taken : healthMachine.step s label = some next) (opened : i < s.opened) :
    CacheAnswer aggregator (labels ++ [label]) next c start i := by
  -- The lookup is in the past, and the entry that it found stays.
  obtain ⟨t, took, looks⟩ := answer.source
  obtain ⟨res, entry, fresh⟩ := answer.fresh
  obtain ⟨-, -, -, entries⟩ := cycle_kept taken opened
  exact ⟨⟨t, took.extend label, looks⟩, answer.enabled, res, entries res entry, fresh⟩

/-- A call that does not move keeps its history. -/
theorem CallHistory.keep {aggregator : Aggregator} {labels : List HealthLabel}
    {s next : HealthState} {c : Nat} (holds : CallHistory aggregator labels s c)
    {label : HealthLabel} (taken : healthMachine.step s label = some next)
    (still : next.calls c = s.calls c) : CallHistory aggregator (labels ++ [label]) next c := by
  -- The call has not moved, and what is known of the cycles is kept by every step.
  refine ⟨?_, ?_, ?_⟩ <;> rw [still]
  · intro kind start i phase
    obtain ⟨source, opened, own⟩ := holds.waiting kind start i phase
    obtain ⟨bound, kept, -⟩ := cycle_kept taken opened
    exact ⟨source.extend label, bound, kept.trans own⟩
  · intro kind start duration err phase
    obtain ⟨i, answers, source⟩ := holds.received kind start duration err phase
    exact ⟨i, answers.step taken, source.extend label⟩
  · intro kind start err phase
    obtain ⟨i, answers, source | cached⟩ := holds.returned kind start err phase
    · exact ⟨i, answers.step taken, .inl (source.extend label)⟩
    · exact ⟨i, answers.step taken, .inr (cached.step taken answers.opened)⟩

/-- What a hit of the cache says. -/
theorem cached_eq {s : HealthState} {kind : Kind} {start : Nat} {err : Option Err}
    (fresh : s.cached kind start = some err) : 0 < s.aggregator.cacheTTL ∧
      ∃ res, s.cache kind = some res ∧ res.err = err ∧
        (start : Int) - res.at_ < s.aggregator.cacheTTL := by
  -- The lookup has three ways to miss: no caching, no entry, and an entry that is too old.
  unfold HealthState.cached at fresh
  split at fresh
  · rename_i enabled
    cases stored : s.cache kind with
    | none => simp [stored] at fresh
    | some res =>
      simp only [stored] at fresh
      split at fresh
      · rename_i young
        exact ⟨enabled, res, rfl, Option.some.inj fresh, young⟩
      · cases fresh
  · cases fresh

/-- Where the call that just moved stands is told by the history. -/
theorem callHistory_own {cacheTTL : Int} {labels : List HealthLabel} {s next : HealthState}
    {c : Nat} {action : CallAction}
    (prior : healthMachine.run (HealthState.init (newAggregator cacheTTL)) labels = some s)
    (taken : healthMachine.step s (.call c action) = some next)
    (holds : CallHistory (newAggregator cacheTTL) labels s c) :
    CallHistory (newAggregator cacheTTL) (labels ++ [.call c action]) next c := by
  have flights := flights_run prior
  have lifetime := (registered_run prior).cacheTTL
  have moved : CallMove s c action next := callStep_move taken
  cases moved with
  | arrive phase => constructor <;> simp [HealthState.setCall]
  | miss phase stale => constructor <;> simp [HealthState.setCall]
  | @hit kind start err phase fresh =>
    -- The cache holds the result of the last cycle of this kind.
    obtain ⟨enabled, res, stored, same, young⟩ := cached_eq fresh
    obtain ⟨i, latest⟩ := flights.cached kind res stored
    have answers : s.Answers i kind err := ⟨flights.opened_of_entry latest.entry, latest.own,
      (CyclePhase.final_of_entry latest.entry).trans (by rw [same])⟩
    have looks : s.LooksUp c i := ⟨kind, start, res, phase, by rw [same]; exact fresh, latest⟩
    rw [lifetime] at enabled young
    refine ⟨by simp [HealthState.setCall], by simp [HealthState.setCall], ?_⟩
    intro other begun given returned
    obtain ⟨rfl, rfl, rfl⟩ : kind = other ∧ start = begun ∧ err = given := by
      simpa [HealthState.setCall] using returned
    exact ⟨i, ⟨answers.opened, answers.own, answers.final⟩,
      .inr ⟨⟨s, .last prior _, looks⟩, enabled, res, latest.entry, by omega⟩⟩
  | @follow kind start i phase flying =>
    obtain ⟨own, open_⟩ := (flights.flight kind i).mp flying
    refine ⟨?_, by simp [HealthState.setCall], by simp [HealthState.setCall]⟩
    intro other begun k waits
    obtain ⟨rfl, rfl, rfl⟩ : kind = other ∧ start = begun ∧ i = k := by
      simpa [HealthState.setCall] using waits
    exact ⟨⟨s, .last prior _, by simp [HealthState.joins, phase, flying]⟩,
      flights.opened_of_flying open_, own⟩
  | @lead kind start phase landed =>
    refine ⟨?_, by simp [HealthState.setCall], by simp [HealthState.setCall]⟩
    intro other begun k waits
    obtain ⟨rfl, rfl, rfl⟩ : kind = other ∧ start = begun ∧ s.opened = k := by
      simpa [HealthState.setCall] using waits
    exact ⟨⟨s, .last prior _, by simp [HealthState.joins, phase, landed]⟩, Nat.lt_succ_self _,
      by simp [HealthState.setCall, HealthState.openCycle, HealthState.setCycle]⟩
  | @receive kind start i since final phase retired =>
    obtain ⟨source, opened, own⟩ := holds.waiting kind start i phase
    refine ⟨by simp [HealthState.setCall], ?_, by simp [HealthState.setCall]⟩
    intro other begun duration given received
    obtain ⟨rfl, rfl, -, rfl⟩ : kind = other ∧ start = begun ∧ s.now - start = duration ∧
        final = given := by
      simpa [HealthState.setCall] using received
    exact ⟨i, ⟨opened, own, by
      show (s.cycles i).phase.final = _
      rw [retired]
      rfl⟩, source.extend _⟩
  | @report kind start duration err phase =>
    obtain ⟨i, answers, source⟩ := holds.received kind start duration err phase
    refine ⟨by simp [HealthState.setCall], by simp [HealthState.setCall], ?_⟩
    intro other begun given returned
    obtain ⟨rfl, rfl, rfl⟩ : kind = other ∧ start = begun ∧ err = given := by
      simpa [HealthState.setCall] using returned
    exact ⟨i, ⟨answers.opened, answers.own, answers.final⟩, .inl (source.extend _)⟩

/-- In every run each call has the history that its phase shows. -/
theorem callHistory_run {cacheTTL : Int} {labels : List HealthLabel} {s : HealthState}
    (reached : healthMachine.run (HealthState.init (newAggregator cacheTTL)) labels = some s)
    (c : Nat) : CallHistory (newAggregator cacheTTL) labels s c := by
  refine healthMachine.run_history
    (fun labels s => CallHistory (newAggregator cacheTTL) labels s c) ?_ ?_ labels s reached
  · refine ⟨?_, ?_, ?_⟩ <;> simp [HealthState.init]
  · intro labels s label next prior holds taken
    by_cases moves : ∃ action, label = .call c action
    · obtain ⟨action, rfl⟩ := moves
      exact callHistory_own prior taken holds
    · -- A call that does not take the step is where it was.
      refine holds.keep taken ?_
      by_cases calls : ∃ d action, label = .call d action
      · obtain ⟨d, action, rfl⟩ := calls
        have moved : CallMove s d action next := callStep_move taken
        exact moved.others fun same => moves ⟨action, by rw [same]⟩
      · rw [calls_frame taken fun d action same => calls ⟨d, action, same⟩]

/-- A cycle that ran every check it should have, once, and whose outcome is all they returned. -/
structure CompleteCycle (labels : List HealthLabel) (i : Nat) (cycle : Cycle) (kind : Kind)
    (err : Option Err) : Prop where
  own : cycle.kind = kind
  -- The checks are those registered under the kind before the one copy that was taken.
  snapshot : SnapshotOf labels i kind cycle.checks
  proper : ∀ check ∈ cycle.checks, check.kind = kind ∧ 0 < check.timeout
  ran : ∃ results : Nat → Option Err,
    -- Each of them was started once and returned once, and nothing else was.
    (∀ j, labels.filterMap (launchOf i j) = if j < cycle.checks.length then [()] else []) ∧
    (∀ j, labels.filterMap (finishOf i j) =
      if j < cycle.checks.length then [results j] else []) ∧
    -- The outcome is nil when all of them returned nil, and else the join of the failures.
    (err = none ↔ ∀ j, j < cycle.checks.length → results j = none) ∧
    ∃ failures : List Err, err = Err.join failures ∧
      (failures ≠ [] →
        err = some (.wrap ("\n".intercalate (failures.map Err.text)) failures)) ∧
      -- They came in any order, each behind the name of its check.
      failures.Perm (cycle.checks.zipIdx.flatMap fun sample => ((results sample.2).map
        fun cause => Err.wrap (sample.1.name ++ ": " ++ cause.text) [cause]).toList)

/-- What a check returned, and nil while it has not. -/
def Cycle.resultOf (cycle : Cycle) (j : Nat) : Option Err :=
  (cycle.progress j).result.getD none

/-- In a finished cycle every check has returned. -/
theorem Cycle.done_of_finished {cycle : Cycle} (all : cycle.finished = true) {j : Nat}
    (inside : j < cycle.checks.length) : cycle.progress j = .done (cycle.resultOf j) := by
  -- None of the checks is pending or running.
  have returned := List.all_eq_true.mp all j (List.mem_range.mpr inside)
  cases phase : cycle.progress j with
  | done err => simp [Cycle.resultOf, phase, CheckPhase.result]
  | pending => simp [phase] at returned
  | running since => simp [phase] at returned

/-- The failures of a finished cycle are those of the results of its checks. -/
theorem Cycle.failures_of_finished {cycle : Cycle} (all : cycle.finished = true) :
    cycle.failures = cycle.checks.zipIdx.flatMap fun sample =>
      checkFailure sample.1 (cycle.resultOf sample.2) := by
  -- The checks of a finished cycle all have a result.
  apply List.flatMap_congr
  intro sample member
  have present := List.mem_zipIdx_iff_getElem?.mp member
  rw [Cycle.done_of_finished all (List.getElem?_eq_some_iff.mp present).1]

/-- There is no failure exactly when every check returned nil. -/
theorem no_failures_iff (checks : List Check) (results : Nat → Option Err) :
    (checks.zipIdx.flatMap fun sample => checkFailure sample.1 (results sample.2)) = [] ↔
      ∀ j, j < checks.length → results j = none := by
  -- A check fails with exactly one error or with none.
  have silent : ∀ check err, checkFailure check err = [] ↔ err = none := by
    intro check err
    cases err <;> simp [checkFailure]
  simp only [List.flatMap_eq_nil_iff, silent]
  constructor
  · intro clear j inside
    exact clear (checks[j], j) (List.mem_zipIdx_iff_getElem?.mpr (by simp))
  · intro clear sample member
    have present := List.mem_zipIdx_iff_getElem?.mp member
    exact clear sample.2 (List.getElem?_eq_some_iff.mp present).1

/-- A cycle whose outcome is known has run completely. -/
theorem CycleHistory.complete {labels : List HealthLabel} {i : Nat} {cycle : Cycle}
    {err : Option Err} (holds : CycleHistory labels i cycle)
    (final : cycle.phase.final = some err) : CompleteCycle labels i cycle cycle.kind err := by
  obtain ⟨all, joined⟩ := holds.final err final
  have copied : SnapshotOf labels i cycle.kind cycle.checks := by
    apply holds.sampled
    cases phase : cycle.phase <;> simp_all [CyclePhase.final, CyclePhase.sampled]
  have failures := holds.failures
  rw [Cycle.failures_of_finished all] at failures
  refine ⟨rfl, copied, ?_, cycle.resultOf, ?_, ?_, ?_, cycle.errCh, joined, ?_, failures⟩
  · obtain ⟨before, after, -, -, -, checks⟩ := copied
    intro check member
    rw [checks] at member
    exact registered_proper member
  · intro j
    rw [holds.launches j]
    split
    · rename_i inside
      rw [Cycle.done_of_finished all inside]
      rfl
    · rw [holds.beyond j (by omega)]
      rfl
  · intro j
    rw [holds.returns j]
    split
    · rename_i inside
      rw [Cycle.done_of_finished all inside]
      rfl
    · rw [holds.beyond j (by omega)]
      rfl
  · -- The channel is empty exactly when the results show no failure.
    rw [joined, Err.join_eq_none, ← no_failures_iff]
    constructor
    · intro empty
      rw [empty] at failures
      exact failures.nil_eq.symm
    · intro empty
      rw [empty] at failures
      exact failures.eq_nil
  · intro some
    rw [joined]
    exact Err.join_of_ne_nil some

/-- A flight is joined or led before it is retired. -/
theorem unretired_of_joins {s : HealthState} (flights : Flights s) {c i : Nat}
    (joins : s.joins c = some i) (final : Option Err) (since : Nat) :
    (s.cycles i).phase ≠ .retired final since := by
  intro retired
  unfold HealthState.joins at joins
  split at joins
  · rename_i kind _ _
    cases flying : s.flight kind with
    | some k =>
      obtain rfl : k = i := by simpa [flying] using joins
      have open_ := ((flights.flight kind k).mp flying).2
      simp [retired, CyclePhase.flying] at open_
    | none =>
      -- A cycle that is led has not been opened yet.
      obtain rfl : s.opened = i := by simpa [flying] using joins
      have unopened := (flights.unopened s.opened).mp (Nat.le_refl _)
      simp [retired] at unopened
  · cases joins

/--
Every answer is the outcome of exactly one cycle of its kind, complete and fresh.

A call gets it from the cache, or from the flight that it joined or led.
-/
theorem answer_justified (cacheTTL : Int) (labels : List HealthLabel) (s : HealthState)
    (c start : Nat) (kind : Kind) (err : Option Err)
    (reached : healthMachine.run (HealthState.init (newAggregator cacheTTL)) labels = some s)
    (returned : s.calls c = .returned kind start err) :
    ∃ i,
      -- Exactly one cycle answers the call.
      (∀ k, FromCache (newAggregator cacheTTL) labels c k ∨
        FromFlight (newAggregator cacheTTL) labels c k ↔ k = i) ∧
      CompleteCycle labels i (s.cycles i) kind err ∧
      -- Its result was stored recently enough when the call began, with the cache enabled.
      ((FromCache (newAggregator cacheTTL) labels c i ∧ 0 < (newAggregator cacheTTL).cacheTTL ∧
          ∃ res, (s.cycles i).phase.entry = some res ∧
            (start : Int) - (newAggregator cacheTTL).cacheTTL < res.at_) ∨
        -- Or its flight was not retired when the call entered it.
        ∃ t, healthMachine.Took (HealthState.init (newAggregator cacheTTL)) labels
            (.call c .enter) t ∧ t.joins c = some i ∧
          ∀ final since, (t.cycles i).phase ≠ .retired final since) := by
  obtain ⟨i, answers, source⟩ := (callHistory_run reached c).returned kind start err returned
  have complete : CompleteCycle labels i (s.cycles i) kind err := by
    rw [← answers.own]
    exact (cycleHistory_run reached i).complete answers.final
  refine ⟨i, ?_, complete, ?_⟩
  · -- A call was answered from one place and from one cycle.
    intro k
    constructor
    · intro other
      rcases source with flight | cached
      · rcases other with cache | again
        · exact absurd flight cache.not_flight
        · exact again.unique flight
      · rcases other with again | flight
        · exact again.unique cached.source
        · exact absurd flight cached.source.not_flight
    · rintro rfl
      exact source.symm.imp CacheAnswer.source id
  · -- The flight that a call joins is not retired, and an entry that answers it is fresh.
    rcases source with ⟨t, took, joins⟩ | cached
    · refine .inr ⟨t, took, joins, ?_⟩
      obtain ⟨before, after, -, prior⟩ := took
      exact unretired_of_joins (flights_run prior) joins
    · exact .inl ⟨cached.source, cached.enabled, cached.fresh⟩

/-- A probe answered from the cache by the cycle that another probe led. -/
theorem answer_justified_cached : ∃ s err i,
    healthMachine.run (HealthState.init (newAggregator 0))
      (sharedCycleLabels ++ landingLabels none) = some s ∧
    s.calls 2 = .returned .readiness 0 err ∧
    CompleteCycle (sharedCycleLabels ++ landingLabels none) i (s.cycles i) .readiness err := by
  -- The third call is answered from the entry that the shared cycle has stored.
  obtain ⟨s, reached, returned⟩ := healthMachine.run_observe (HealthState.init (newAggregator 0))
    (sharedCycleLabels ++ landingLabels none)
    (fun s => s.calls 2 = .returned .readiness 0 none) (by decide +kernel)
  obtain ⟨i, -, complete, -⟩ := answer_justified 0 _ s 2 0 .readiness none reached returned
  exact ⟨s, none, i, reached, returned, complete⟩

end Bootkit

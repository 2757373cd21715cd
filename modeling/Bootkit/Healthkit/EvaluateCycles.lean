import Mathlib.Data.List.Sigma
import Bootkit.Go.Trace
import Bootkit.Healthkit.EvaluateFlights
import Bootkit.Healthkit.EvaluateIsolation

/-! What the schedule so far says about each cycle: its checks, their runs, and its outcome. -/

namespace Bootkit

open Go

/-- The checks that one step hands over. -/
def registrations : HealthLabel → List Check
  | .register checks => checks
  | _ => []

/-- The checks of a kind that a schedule registered, as the aggregator stores them. -/
def registered (labels : List HealthLabel) (kind : Kind) : List Check :=
  ((labels.flatMap registrations).filter fun check => check.kind = kind).map Check.normalize

/-- The start of one check of one cycle. -/
def launchOf (i j : Nat) : HealthLabel → Option Unit
  | .cycle other (.launch k) => if other = i ∧ k = j then some () else none
  | _ => none

/-- The return of one check of one cycle, with what it returned. -/
def finishOf (i j : Nat) : HealthLabel → Option (Option Err)
  | .cycle other (.finish k err) => if other = i ∧ k = j then some err else none
  | _ => none

/-- What a check shows of having been started. -/
def CheckPhase.launched : CheckPhase → Option Unit
  | .pending => none
  | .running _ | .done _ => some ()

/-- What a check has returned, once it has. -/
def CheckPhase.result : CheckPhase → Option (Option Err)
  | .done err => some err
  | .pending | .running _ => none

/-- Whether the checks of a cycle have been copied. -/
def CyclePhase.sampled : CyclePhase → Bool
  | .unopened | .opened => false
  | _ => true

/-- The failures a cycle has seen, by the position of their checks. -/
def Cycle.failures (cycle : Cycle) : List Err :=
  cycle.checks.zipIdx.flatMap fun sample =>
    match cycle.progress sample.2 with
    | .done err => checkFailure sample.1 err
    | _ => []

/-- A longer schedule has registered what its last step adds. -/
theorem registered_concat (labels : List HealthLabel) (label : HealthLabel) (kind : Kind) :
    registered (labels ++ [label]) kind = registered labels kind ++
      ((registrations label).filter fun check => check.kind = kind).map Check.normalize := by
  simp [registered]

/-- What was registered under a kind is of that kind, and has a positive timeout. -/
theorem registered_proper {labels : List HealthLabel} {kind : Kind} {check : Check}
    (member : check ∈ registered labels kind) : check.kind = kind ∧ 0 < check.timeout := by
  -- Registration files a check under its own kind, with a positive timeout.
  obtain ⟨given, chosen, rfl⟩ := List.mem_map.mp member
  have own := (List.mem_filter.mp chosen).2
  exact ⟨by simpa using own, normalize_timeout_pos given⟩

/-- The aggregator holds what the schedule registered, and keeps its cache lifetime. -/
structure Registered (cacheTTL : Int) (labels : List HealthLabel) (aggregator : Aggregator) :
    Prop where
  checks : ∀ kind, aggregator.checks kind = registered labels kind
  cacheTTL : aggregator.cacheTTL = (newAggregator cacheTTL).cacheTTL

/-- A step of a call or of a cycle registers nothing. -/
theorem aggregator_frame {s next : HealthState} {label : HealthLabel}
    (taken : healthMachine.step s label = some next)
    (quiet : ∀ checks, label ≠ .register checks) : next.aggregator.checks = s.aggregator.checks ∧
      next.aggregator.cacheTTL = s.aggregator.cacheTTL := by
  -- Only a registration changes the checks, and nothing changes the lifetime.
  cases label with
  | call c action => cases callStep_move taken <;> exact ⟨rfl, rfl⟩
  | cycle i action => cases cycleStep_move taken <;> exact ⟨rfl, rfl⟩
  | register checks => exact absurd rfl (quiet checks)
  | _ =>
    cases taken
    exact ⟨rfl, rfl⟩

/-- In every run the aggregator holds what was registered. -/
theorem registered_run {cacheTTL : Int} {labels : List HealthLabel} {s : HealthState}
    (reached : healthMachine.run (HealthState.init (newAggregator cacheTTL)) labels = some s) :
    Registered cacheTTL labels s.aggregator := by
  -- A registration appends to the lists, and the other labels register nothing.
  refine healthMachine.run_history (fun labels s => Registered cacheTTL labels s.aggregator)
    ⟨fun _ => rfl, rfl⟩ ?_ labels s reached
  intro labels s label next _ holds taken
  by_cases registers : ∃ checks, label = .register checks
  · obtain ⟨checks, rfl⟩ := registers
    cases taken
    refine ⟨?_, (register_frame _ checks).1.trans holds.cacheTTL⟩
    intro kind
    rw [registered_concat, ← holds.checks]
    exact register_checks s.aggregator checks kind
  · have quiet : ∀ checks, label ≠ .register checks := fun checks same => registers ⟨checks, same⟩
    obtain ⟨checks, ttl⟩ := aggregator_frame taken quiet
    refine ⟨?_, ttl.trans holds.cacheTTL⟩
    intro kind
    have nothing : registrations label = [] := by
      cases label <;> first | rfl | exact absurd rfl (quiet _)
    rw [registered_concat, nothing, checks, holds.checks]
    simp

/-- The one copy that a cycle took, and the checks that were registered at that moment. -/
def SnapshotOf (labels : List HealthLabel) (i : Nat) (kind : Kind) (checks : List Check) : Prop :=
  ∃ before after, labels = before ++ .cycle i .snapshot :: after ∧
    HealthLabel.cycle i .snapshot ∉ before ∧ HealthLabel.cycle i .snapshot ∉ after ∧
    checks = registered before kind

/-- What was copied once is not copied again. -/
theorem SnapshotOf.extend {labels : List HealthLabel} {i : Nat} {kind : Kind} {checks : List Check}
    (copied : SnapshotOf labels i kind checks) {label : HealthLabel}
    (other : label ≠ .cycle i .snapshot) : SnapshotOf (labels ++ [label]) i kind checks := by
  -- The snapshot is still the only one.
  obtain ⟨before, after, split, first, last, same⟩ := copied
  exact ⟨before, after ++ [label], by simp [split], first, by simp [last, other.symm], same⟩

/-- What the schedule so far says about one cycle. -/
structure CycleHistory (labels : List HealthLabel) (i : Nat) (cycle : Cycle) : Prop where
  -- Every check was started and has returned as often as its phase shows.
  launches : Tracks (launchOf i) (fun _ => CheckPhase.launched) cycle.progress labels
  returns : Tracks (finishOf i) (fun _ => CheckPhase.result) cycle.progress labels
  beyond : ∀ j, cycle.checks.length ≤ j → cycle.progress j = .pending
  -- The channel holds the failures in the order in which they came.
  failures : cycle.errCh.Perm cycle.failures
  unsampled : cycle.phase.sampled = false →
    cycle.checks = [] ∧ HealthLabel.cycle i .snapshot ∉ labels
  sampled : cycle.phase.sampled = true → SnapshotOf labels i cycle.kind cycle.checks
  final : ∀ final, cycle.phase.final = some final →
    cycle.finished = true ∧ final = Err.join cycle.errCh

section CycleHistory

variable {labels : List HealthLabel} {i : Nat} {cycle : Cycle}

/-- A step that concerns no check of the cycle leaves its history as it was. -/
theorem CycleHistory.extend (holds : CycleHistory labels i cycle) {label : HealthLabel}
    (noLaunch : ∀ j, launchOf i j label = none) (noFinish : ∀ j, finishOf i j label = none)
    (noSnapshot : label ≠ .cycle i .snapshot) : CycleHistory (labels ++ [label]) i cycle := by
  -- The label is of no concern to this cycle.
  refine ⟨holds.launches.silent noLaunch, holds.returns.silent noFinish, holds.beyond,
    holds.failures, ?_, ?_, holds.final⟩
  · intro fresh
    obtain ⟨empty, unseen⟩ := holds.unsampled fresh
    exact ⟨empty, by simp [unseen, noSnapshot.symm]⟩
  · exact fun copied => (holds.sampled copied).extend noSnapshot

/-- Until its checks are copied, nothing has happened in a cycle. -/
theorem CycleHistory.untouched (holds : CycleHistory labels i cycle)
    (fresh : cycle.phase.sampled = false) :
    cycle.checks = [] ∧ cycle.progress = (fun _ => .pending) ∧ cycle.errCh = [] := by
  -- A cycle that has not copied its checks has none to run.
  obtain ⟨empty, -⟩ := holds.unsampled fresh
  have failures := holds.failures
  rw [Cycle.failures, empty] at failures
  exact ⟨empty, funext fun j => holds.beyond j (by simp [empty]), failures.eq_nil⟩

/-- A cycle whose phase moves on keeps its history. -/
theorem CycleHistory.advance (holds : CycleHistory labels i cycle) (phase : CyclePhase)
    (sampled : phase.sampled = cycle.phase.sampled)
    (final : ∀ final, phase.final = some final → cycle.phase.final = some final) :
    CycleHistory labels i { cycle with phase } := by
  -- The phase is the only thing that changes, and it means the same.
  refine ⟨holds.launches, holds.returns, holds.beyond, holds.failures, ?_, ?_, ?_⟩
  · exact fun fresh => holds.unsampled (sampled ▸ fresh)
  · exact fun copied => holds.sampled (sampled ▸ copied)
  · exact fun result known => holds.final result (final result known)

/-- Opening a cycle resets what was untouched anyway. -/
theorem CycleHistory.opened (holds : CycleHistory labels i cycle)
    (fresh : cycle.phase.sampled = false) (kind : Kind) (leader : Nat) :
    CycleHistory labels i { Cycle.blank with kind, leader, phase := .opened } := by
  -- A cycle without a snapshot is as good as a new one.
  obtain ⟨empty, pending, silent⟩ := holds.untouched fresh
  have launches := holds.launches
  have returns := holds.returns
  rw [pending] at launches returns
  refine ⟨launches, returns, fun _ _ => rfl, List.Perm.refl _, ?_, ?_, ?_⟩
  · exact fun _ => ⟨rfl, (holds.unsampled fresh).2⟩
  · simp [CyclePhase.sampled]
  · simp [CyclePhase.final]

/-- Copying the checks begins the run of exactly those that are registered. -/
theorem CycleHistory.snapshot (holds : CycleHistory labels i cycle)
    (phase : cycle.phase = .opened) {checks : List Check}
    (current : checks = registered labels cycle.kind) :
    CycleHistory (labels ++ [.cycle i .snapshot]) i { cycle with checks, phase := .running } := by
  have fresh : cycle.phase.sampled = false := by
    rw [phase]
    rfl
  obtain ⟨-, pending, silent⟩ := holds.untouched fresh
  refine ⟨holds.launches.silent fun _ => rfl, holds.returns.silent fun _ => rfl, ?_, ?_, ?_, ?_, ?_⟩
  · intro j _
    exact congrFun pending j
  · -- No check has been started, so there is no failure under the new checks either.
    simp [Cycle.failures, pending, silent]
  · simp [CyclePhase.sampled]
  · intro _
    exact ⟨labels, [], rfl, (holds.unsampled fresh).2, by simp, current⟩
  · simp [CyclePhase.final]

/-- A check at its own position is the only one there. -/
theorem zipIdx_unique {Value : Type} {values : List Value} {value : Value} {j : Nat}
    (present : values[j]? = some value) {sample : Value × Nat} (member : sample ∈ values.zipIdx)
    (here : sample.2 = j) : sample = (value, j) := by
  -- A place holds one value.
  obtain ⟨other, k⟩ := sample
  obtain rfl : k = j := here
  have found := List.mem_zipIdx_iff_getElem?.mp member
  rw [present] at found
  exact Prod.ext (Option.some.inj found).symm rfl

/-- A started check shows that it was started. -/
theorem CycleHistory.launch (holds : CycleHistory labels i cycle) {j : Nat} {check : Check}
    (present : cycle.checks[j]? = some check) (waiting : cycle.progress j = .pending)
    (phase : cycle.phase = .running) (now : Nat) :
    CycleHistory (labels ++ [.cycle i (.launch j)]) i
      { cycle with progress := update cycle.progress j (.running now) } := by
  have inside : j < cycle.checks.length := (List.getElem?_eq_some_iff.mp present).1
  refine ⟨?_, ?_, ?_, ?_, ?_, ?_, ?_⟩
  · apply holds.launches.move
    · intro k other
      simp [launchOf, Ne.symm other]
    · simp [launchOf, waiting, CheckPhase.launched]
  · exact (holds.returns.shift (by rw [waiting]; rfl)).silent fun _ => rfl
  · intro k above
    have other : k ≠ j := by
      have above : cycle.checks.length ≤ k := above
      omega
    simpa [other] using holds.beyond k above
  · -- A check that has just started has no failure yet, as before.
    have same : ({ cycle with progress := update cycle.progress j (.running now) } :
        Cycle).failures = cycle.failures := by
      apply List.flatMap_congr
      intro sample member
      by_cases here : sample.2 = j
      · simp [here, waiting]
      · simp [here]
    rw [same]
    exact holds.failures
  · simp [phase, CyclePhase.sampled]
  · exact fun copied => (holds.sampled copied).extend (by simp)
  · simp [phase, CyclePhase.final]

/-- A check that returns adds its failure, if it has one. -/
theorem CycleHistory.finish (holds : CycleHistory labels i cycle) {j since : Nat} {check : Check}
    (present : cycle.checks[j]? = some check) (running : cycle.progress j = .running since)
    (phase : cycle.phase = .running) (err : Option Err) :
    CycleHistory (labels ++ [.cycle i (.finish j err)]) i
      { cycle with
        progress := update cycle.progress j (.done err)
        errCh := cycle.errCh ++ checkFailure check err } := by
  have inside : j < cycle.checks.length := (List.getElem?_eq_some_iff.mp present).1
  refine ⟨?_, ?_, ?_, ?_, ?_, ?_, ?_⟩
  · exact (holds.launches.shift (by rw [running]; rfl)).silent fun _ => rfl
  · apply holds.returns.move
    · intro k other
      simp [finishOf, Ne.symm other]
    · simp [finishOf, running, CheckPhase.result]
  · intro k above
    have other : k ≠ j := by
      have above : cycle.checks.length ≤ k := above
      omega
    simpa [other] using holds.beyond k above
  · -- The failure is new at its own position and last in the channel.
    have grown : ({ cycle with
        progress := update cycle.progress j (.done err)
        errCh := cycle.errCh ++ checkFailure check err } : Cycle).failures.Perm
        (cycle.failures ++ checkFailure check err) := by
      apply flatMap_grow (List.Nodup.of_map _ (List.nodup_zipIdx_map_snd cycle.checks))
        (List.mem_zipIdx_iff_getElem?.mpr present : (check, j) ∈ cycle.checks.zipIdx)
      · simp [running]
      · intro sample member other
        have elsewhere : sample.2 ≠ j := fun here => other (zipIdx_unique present member here)
        simp [elsewhere]
    exact (holds.failures.append_right _).trans grown.symm
  · simp [phase, CyclePhase.sampled]
  · exact fun copied => (holds.sampled copied).extend (by simp)
  · simp [phase, CyclePhase.final]

/-- A cycle whose checks have all returned joins what is in the channel. -/
theorem CycleHistory.collect (holds : CycleHistory labels i cycle)
    (phase : cycle.phase = .running) (all : cycle.finished = true) :
    CycleHistory labels i { cycle with phase := .collected (Err.join cycle.errCh) } := by
  -- The checks are all done, and what is joined is what their channel holds.
  refine ⟨holds.launches, holds.returns, holds.beyond, holds.failures, ?_, ?_, ?_⟩
  · simp [CyclePhase.sampled]
  · intro _
    exact holds.sampled (by rw [phase]; rfl)
  · rintro final ⟨⟩
    exact ⟨all, rfl⟩

/-- A step of another cycle is silent about this one. -/
theorem CycleHistory.other (holds : CycleHistory labels i cycle) {k : Nat} {action : CycleAction}
    (other : i ≠ k) : CycleHistory (labels ++ [.cycle k action]) i cycle := by
  -- Another cycle launches and finishes its own checks only.
  apply holds.extend
  · intro j
    cases action <;> simp [launchOf, Ne.symm other]
  · intro j
    cases action <;> simp [finishOf, Ne.symm other]
  · simp [Ne.symm other]

end CycleHistory

/-- A step of a cycle keeps the histories of all cycles. -/
theorem cycleHistory_cycle {labels : List HealthLabel} {s next : HealthState} {k : Nat}
    {action : CycleAction} (moved : CycleMove s k action next)
    (registered : ∀ kind, s.aggregator.checks kind = registered labels kind)
    (holds : ∀ i, CycleHistory labels i (s.cycles i)) (i : Nat) :
    CycleHistory (labels ++ [.cycle k action]) i (next.cycles i) := by
  by_cases same : i = k
  · subst same
    -- Three moves concern the checks, and three only the phase.
    cases moved with
    | snapshot phase =>
      simpa [HealthState.setCycle] using (holds i).snapshot phase (registered _)
    | launch phase present waiting =>
      simpa [HealthState.setCycle] using (holds i).launch present waiting phase s.now
    | finish phase present running =>
      simpa [HealthState.setCycle] using (holds i).finish present running phase _
    | collect phase all =>
      have collected := (holds i).collect phase all
      simpa [HealthState.setCycle] using
        collected.extend (fun _ => rfl) (fun _ => rfl) (by simp)
    | @store final phase =>
      have stored := (holds i).advance (.stored final s.now) (by rw [phase]; rfl)
        (by simp [phase, CyclePhase.final])
      simpa [HealthState.setCycle] using stored.extend (fun _ => rfl) (fun _ => rfl) (by simp)
    | @retire final since phase =>
      have retired := (holds i).advance (.retired final since) (by rw [phase]; rfl)
        (by simp [phase, CyclePhase.final])
      simpa [HealthState.setCycle] using retired.extend (fun _ => rfl) (fun _ => rfl) (by simp)
  · have kept : next.cycles i = s.cycles i := by
      cases moved <;> simp [HealthState.setCycle, same]
    rw [kept]
    exact (holds i).other same

/-- A step of a call keeps the histories of all cycles. -/
theorem cycleHistory_call {labels : List HealthLabel} {s next : HealthState} {c : Nat}
    {action : CallAction} (moved : CallMove s c action next) (flights : Flights s)
    (holds : ∀ i, CycleHistory labels i (s.cycles i)) (i : Nat) :
    CycleHistory (labels ++ [.call c action]) i (next.cycles i) := by
  have quiet : ∀ cycle, CycleHistory labels i cycle →
      CycleHistory (labels ++ [.call c action]) i cycle :=
    fun _ history => history.extend (fun _ => rfl) (fun _ => rfl) (by simp)
  cases moved with
  | @lead kind start phase landed =>
    by_cases same : i = s.opened
    · -- The new cycle takes a place where nothing has happened.
      subst same
      have empty := (flights.unopened s.opened).mp (Nat.le_refl _)
      have opened := (holds s.opened).opened (by rw [empty]; rfl) kind c
      simpa [HealthState.setCall, HealthState.openCycle, HealthState.setCycle]
        using quiet _ opened
    · simpa [HealthState.setCall, HealthState.openCycle, HealthState.setCycle, same]
        using quiet _ (holds i)
  | _ phase => exact quiet _ (holds i)

/-- In every run each cycle has the history that its fields show. -/
theorem cycleHistory_run {cacheTTL : Int} {labels : List HealthLabel} {s : HealthState}
    (reached : healthMachine.run (HealthState.init (newAggregator cacheTTL)) labels = some s)
    (i : Nat) : CycleHistory labels i (s.cycles i) := by
  refine healthMachine.run_history
    (fun labels s => ∀ i, CycleHistory labels i (s.cycles i)) ?_ ?_ labels s reached i
  · intro i
    refine ⟨fun _ => rfl, fun _ => rfl, fun _ _ => rfl, List.Perm.refl _, ?_, ?_, ?_⟩ <;>
      simp [HealthState.init, Cycle.blank, CyclePhase.sampled, CyclePhase.final]
  · intro labels s label next prior holds taken
    -- Cycles and calls were considered on their own, and the other labels do nothing to a cycle.
    cases label with
    | cycle k action =>
      exact cycleHistory_cycle (cycleStep_move taken) (registered_run prior).checks holds
    | call c action => exact cycleHistory_call (callStep_move taken) (flights_run prior) holds
    | _ =>
      cases taken
      exact fun i => (holds i).extend (fun _ => rfl) (fun _ => rfl) (by simp)

end Bootkit

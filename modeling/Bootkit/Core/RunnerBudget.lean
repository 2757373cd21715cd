import Mathlib.Algebra.GroupWithZero.Nat
import Bootkit.Core.RunnerContexts

/-! How the shutdown timeout is shared out among the services. -/

namespace Bootkit

open Go

/-- What one turn of the shutdown loop computes with. -/
structure StopRound where
  service : Nat
  -- The number of services still to be stopped, this one included.
  divisor : Int
  -- The timeout that is left when the turn begins.
  remaining : Int
  budget : Int
  -- How long the turn took, its `Stop` included.
  elapsed : Nat
  deriving Repr, DecidableEq

/-- The timeout that is left after a turn, never below zero. -/
def spend (remaining : Int) (elapsed : Nat) : Int :=
  -- The difference stays within 64 bits, as the timeout is not negative.
  if remaining - elapsed < 0 then 0 else remaining - elapsed

/-- The turns of the loop in `shutdownOrchestrator`, given how long each of them takes. -/
def shutdownRounds (remaining : Int) : Nat → List Nat → List StopRound
  | i + 1, elapsed :: later =>
    { service := i, divisor := i + 1, remaining, budget := remaining.tdiv (i + 1), elapsed } ::
      shutdownRounds (spend remaining elapsed) i later
  | _, _ => []

/-- How far past its budget a turn went is bounded by an allowance for its service. -/
def StopRound.overrunsBy (allowance : Nat → Nat) (round : StopRound) : Prop :=
  (round.elapsed : Int) ≤ round.budget + allowance round.service

/-- A turn is over within its budget. -/
def StopRound.honours (round : StopRound) : Prop :=
  (round.elapsed : Int) ≤ round.budget

/-- Spending keeps the timeout between zero and what it was. -/
theorem spend_bounds {remaining : Int} (positive : 0 ≤ remaining) (elapsed : Nat) :
    0 ≤ spend remaining elapsed ∧ spend remaining elapsed ≤ remaining := by
  -- What is left is cut off at zero.
  unfold spend
  split <;> omega

/-- The budget is the largest share that all services still to be stopped could have. -/
theorem le_budget_iff {remaining share : Int} (positive : 0 ≤ remaining) (left : Nat) :
    share ≤ remaining.tdiv (left + 1) ↔ share * (left + 1) ≤ remaining := by
  -- For what is not negative, the division of the source rounds down.
  rw [Int.tdiv_eq_ediv_of_nonneg positive]
  exact Int.le_ediv_iff_mul_le (by omega)

/-- A budget is not negative and within the timeout that is left. -/
theorem budget_bounds {remaining : Int} (positive : 0 ≤ remaining) (left : Nat) :
    0 ≤ remaining.tdiv (left + 1) ∧ remaining.tdiv (left + 1) ≤ remaining := by
  -- A share is part of what is left.
  refine ⟨(le_budget_iff positive left).mpr (by omega), ?_⟩
  rw [Int.tdiv_eq_ediv_of_nonneg positive]
  exact Int.ediv_le_self _ positive

/-- No turn divides by zero, and the timeout stays between zero and what it was at first. -/
theorem rounds_bounded {remaining : Int} (positive : 0 ≤ remaining) (services : Nat)
    (elapsed : List Nat) :
    ∀ round ∈ shutdownRounds remaining services elapsed, round.divisor ≠ 0 ∧
      0 ≤ round.remaining ∧ round.remaining ≤ remaining ∧
      0 ≤ spend round.remaining round.elapsed ∧
      spend round.remaining round.elapsed ≤ remaining := by
  -- The later turns start from what the first one leaves.
  induction remaining, services, elapsed using shutdownRounds.induct with
  | case1 remaining i elapsed later ih =>
    intro round member
    have bounds := spend_bounds positive elapsed
    rcases List.mem_cons.mp member with rfl | member
    · refine ⟨?_, positive, Int.le_refl _, bounds⟩
      show (i : Int) + 1 ≠ 0
      omega
    · obtain ⟨divides, low, high, lowAfter, highAfter⟩ := ih bounds.1 round member
      exact ⟨divides, low, by omega, lowAfter, by omega⟩
  | case2 remaining services elapsed ended => simp [shutdownRounds]

/-- A turn within its budget leaves the services after it at least that budget each. -/
theorem share_kept {remaining : Int} (positive : 0 ≤ remaining) {left elapsed : Nat}
    (honoured : (elapsed : Int) ≤ remaining.tdiv (left + 1)) :
    remaining.tdiv (left + 1) * left ≤ spend remaining elapsed := by
  -- All shares together fit into what is left, and a service that keeps to its own leaves the
  -- others'.
  generalize share : remaining.tdiv (left + 1) = budget at honoured ⊢
  have whole : budget * (left + 1) ≤ remaining := by
    rw [← share]
    exact (le_budget_iff positive left).mp (Int.le_refl _)
  rw [Int.mul_add, Int.mul_one] at whole
  unfold spend
  split <;> omega

/-- After turns within their budgets, no budget is below theirs or below the first share. -/
theorem budgets_grow {remaining : Int} {services : Nat} {elapsed : List Nat}
    (positive : 0 ≤ remaining) {share : Int} (shared : share * services ≤ remaining)
    {before after : List StopRound} {round : StopRound}
    (split : shutdownRounds remaining services elapsed = before ++ round :: after)
    (honoured : ∀ earlier ∈ before, earlier.honours) :
    share ≤ round.budget ∧ ∀ earlier ∈ before, earlier.budget ≤ round.budget := by
  -- The first budget is a share that the turns after it can have, so it takes the share's place.
  induction remaining, services, elapsed using shutdownRounds.induct generalizing share before with
  | case1 remaining i elapsed later ih =>
    have first : share ≤ remaining.tdiv (i + 1) :=
      (le_budget_iff positive i).mpr (by exact_mod_cast shared)
    cases before with
    | nil =>
      obtain ⟨rfl, -⟩ := List.cons.inj split
      exact ⟨first, by simp⟩
    | cons head rest =>
      obtain ⟨rfl, tail⟩ := List.cons.inj split
      have within := honoured _ List.mem_cons_self
      have grown := ih (spend_bounds positive elapsed).1 (share_kept positive within) tail
        fun earlier member => honoured earlier (List.mem_cons_of_mem _ member)
      refine ⟨Int.le_trans first grown.1, ?_⟩
      intro earlier member
      rcases List.mem_cons.mp member with rfl | member
      · exact grown.1
      · exact grown.2 earlier member
  | case2 remaining services elapsed ended => simp [shutdownRounds] at split

/-- The turns take no longer than the timeout and the allowances together. -/
theorem rounds_total {remaining : Int} {services : Nat} {elapsed : List Nat}
    (positive : 0 ≤ remaining) {allowance : Nat → Nat}
    (bounded : ∀ round ∈ shutdownRounds remaining services elapsed,
      round.overrunsBy allowance) :
    (((shutdownRounds remaining services elapsed).map StopRound.elapsed).sum : Int) ≤
      remaining + ((shutdownRounds remaining services elapsed).map fun round =>
        allowance round.service).sum := by
  induction remaining, services, elapsed using shutdownRounds.induct with
  | case1 remaining i elapsed later ih =>
    have first : (elapsed : Int) ≤ remaining.tdiv (i + 1) + allowance i :=
      bounded _ List.mem_cons_self
    have rest := ih (spend_bounds positive elapsed).1
      fun round member => bounded round (List.mem_cons_of_mem _ member)
    have within := (budget_bounds positive i).2
    -- A turn that empties the timeout has overrun it by no more than its own allowance.
    have spent : spend remaining elapsed ≤ remaining - elapsed + allowance i := by
      unfold spend
      split <;> omega
    simp only [shutdownRounds, List.map_cons, List.sum_cons]
    omega
  | case2 remaining services elapsed ended =>
    simpa [shutdownRounds, ended] using positive

/--
The shutdown timeout is divided safely and fairly, and shutdown does not outlast it by much.

The budgets do not shrink while every service keeps to its own, and each is then at least an even
share.  All turns together exceed the timeout by no more than what single services overran.
-/
theorem shutdown_budgets_fair (timeout : Int) (positive : 0 < timeout) (services : Nat)
    (elapsed : List Nat) :
    (∀ round ∈ shutdownRounds timeout services elapsed, round.divisor ≠ 0 ∧
      0 ≤ round.remaining ∧ round.remaining ≤ timeout ∧
      0 ≤ spend round.remaining round.elapsed ∧
      spend round.remaining round.elapsed ≤ timeout) ∧
    (∀ before round after,
      shutdownRounds timeout services elapsed = before ++ round :: after →
      (∀ earlier ∈ before, earlier.honours) →
      timeout.tdiv services ≤ round.budget ∧
        ∀ earlier ∈ before, earlier.budget ≤ round.budget) ∧
    (∀ allowance : Nat → Nat,
      (∀ round ∈ shutdownRounds timeout services elapsed, round.overrunsBy allowance) →
      (((shutdownRounds timeout services elapsed).map StopRound.elapsed).sum : Int) ≤
        timeout + ((shutdownRounds timeout services elapsed).map fun round =>
          allowance round.service).sum) ∧
    ((∀ round ∈ shutdownRounds timeout services elapsed, round.honours) →
      (((shutdownRounds timeout services elapsed).map StopRound.elapsed).sum : Int) ≤ timeout) := by
  have nonneg : 0 ≤ timeout := Int.le_of_lt positive
  refine ⟨rounds_bounded nonneg services elapsed, ?_, fun _ => rounds_total nonneg, ?_⟩
  · intro before round after split honoured
    cases services with
    | zero => simp [shutdownRounds] at split
    | succ left =>
      have shared := (le_budget_iff nonneg left).mp (Int.le_refl _)
      exact budgets_grow nonneg (by exact_mod_cast shared) split honoured
  · intro honoured
    -- Keeping to every budget is overrunning it by nothing.
    have bounded : ∀ round ∈ shutdownRounds timeout services elapsed,
        round.overrunsBy fun _ => 0 := by
      intro round member
      simpa [StopRound.overrunsBy, StopRound.honours] using honoured round member
    simpa using rounds_total nonneg bounded

/-- Three services: one is quick, one overruns its budget by two, and one has little left. -/
theorem shutdown_budgets_fair_three :
    (shutdownRounds 15 3 [2, 8, 5]).map StopRound.budget = [5, 6, 5] ∧
    (((shutdownRounds 15 3 [2, 8, 5]).map StopRound.elapsed).sum : Int) ≤ 15 + 2 := by
  -- The second service overruns its six by two, and the others keep to theirs.
  refine ⟨by decide, ?_⟩
  have bounded : ∀ round ∈ shutdownRounds 15 3 [2, 8, 5],
      round.overrunsBy fun i => if i = 1 then 2 else 0 := by
    unfold StopRound.overrunsBy
    decide
  exact (shutdown_budgets_fair 15 (by decide) 3 [2, 8, 5]).2.2.1 _ bounded

/-- The turn of the shutdown loop that a step ends. -/
def roundEnded (s : RunState) : RunLabel → List StopRound
  | .main .cancel =>
    match s.main with
    | .stopCollected i start budget => [{
        service := i
        divisor := i + 1
        remaining := s.remainingTimeout
        budget
        elapsed := s.now - start }]
    | _ => []
  | _ => []

/-- How many services a phase of the shutdown still has to stop, the current one included. -/
def MainPhase.stopsLeft : MainPhase → Option Nat
  | .stopping i => some i
  | .inStop i _ _ | .stopReturned i _ _ _ | .stopReported i _ _ _ | .stopCollected i _ _ =>
    some (i + 1)
  | .finished _ => some 0
  | _ => none

/-- One more turn is the next one of the loop. -/
theorem shutdownRounds_concat (remaining : Int) {services : Nat} {elapsed : List Nat} {i : Nat}
    (left : elapsed.length + (i + 1) = services) (last : Nat) :
    shutdownRounds remaining services (elapsed ++ [last]) =
      shutdownRounds remaining services elapsed ++ [{
        service := i
        divisor := i + 1
        remaining := elapsed.foldl spend remaining
        budget := (elapsed.foldl spend remaining).tdiv (i + 1)
        elapsed := last }] := by
  -- By induction on the turns before, each of which takes one service from the end.
  induction elapsed generalizing remaining services with
  | nil =>
    obtain rfl : services = i + 1 := by simpa using left.symm
    simp [shutdownRounds]
  | cons first rest ih =>
    obtain ⟨fewer, rfl⟩ : ∃ fewer, services = fewer + 1 := ⟨rest.length + (i + 1), by
      simp only [List.length_cons] at left
      omega⟩
    have left : rest.length + (i + 1) = fewer := by
      simp only [List.length_cons] at left
      omega
    simp [shutdownRounds, ih _ left]

/-- How the state of a run relates to the turns it has gone through. -/
structure Budgeted (runner : ApplicationRunner) (rounds : List StopRound) (s : RunState) :
    Prop where
  -- The turns so far are those of the loop.
  loop : rounds = shutdownRounds runner.shutdownTimeout runner.services.length
    (rounds.map StopRound.elapsed)
  before : s.main.stopsLeft = none → rounds = []
  -- The loop goes on with what the turns have left of the timeout.
  left : ∀ i, s.main.stopsLeft = some i → rounds.length + i = runner.services.length ∧
    s.remainingTimeout = (rounds.map StopRound.elapsed).foldl spend runner.shutdownTimeout
  flying : ∀ i start budget, s.main.inFlight = some (i, start, budget) →
    start ≤ s.now ∧ budget = s.remainingTimeout.tdiv (i + 1)

/-- A step that ends no turn and leaves the loop where it is keeps the relation. -/
theorem Budgeted.frame {runner : ApplicationRunner} {rounds : List StopRound} {s next : RunState}
    (holds : Budgeted runner rounds s) (stops : next.main.stopsLeft = s.main.stopsLeft)
    (running : next.main.inFlight = s.main.inFlight)
    (remaining : next.remainingTimeout = s.remainingTimeout) (later : s.now ≤ next.now) :
    Budgeted runner rounds next := by
  -- Time only passes, and the rest is the same.
  constructor
  · exact holds.loop
  · rw [stops]
    exact holds.before
  · rw [stops, remaining]
    exact holds.left
  · intro i start budget flying
    rw [running] at flying
    obtain ⟨began, share⟩ := holds.flying i start budget flying
    exact ⟨Nat.le_trans began later, by rw [remaining]; exact share⟩

/-- A step of the goroutine that called `Run` moves the loop on or leaves it. -/
theorem budgeted_main {runner : ApplicationRunner} {rounds : List StopRound} {s next : RunState}
    {action : MainAction} (moved : MainMove runner s action next)
    (holds : Budgeted runner rounds s) :
    Budgeted runner (rounds ++ roundEnded s (.main action)) next := by
  cases moved with
  | waitReturns phase all =>
    -- The loop begins with the whole timeout and all services.
    have none : rounds = [] := holds.before (by simp [phase, MainPhase.stopsLeft])
    subst none
    constructor <;> simp [roundEnded, MainPhase.stopsLeft, shutdownRounds]
  | @callStop i phase =>
    -- The timer of the new context changes neither the phase nor the timeout.
    have left := holds.left (i + 1) (by simp [phase, MainPhase.stopsLeft])
    rw [RunState.expire_eq]
    constructor
    · simpa [roundEnded] using holds.loop
    · simp [RunState.emit, MainPhase.stopsLeft]
    · intro j stops
      obtain rfl : i + 1 = j := by simpa [RunState.emit, MainPhase.stopsLeft] using stops
      simpa [roundEnded, RunState.emit] using left
    · intro j start budget flying
      obtain ⟨rfl, rfl, rfl⟩ := by simpa [RunState.emit] using flying
      simp [RunState.emit]
  | @cancel i start budget phase =>
    -- The turn that ends here is the next one of the loop.
    obtain ⟨length, remaining⟩ := holds.left (i + 1) (by simp [phase, MainPhase.stopsLeft])
    obtain ⟨began, share⟩ := holds.flying i start budget (by simp [phase])
    have ended : roundEnded s (.main .cancel) = [{
        service := i, divisor := i + 1, remaining := s.remainingTimeout
        budget, elapsed := s.now - start }] := by
      simp [roundEnded, phase]
    have elapsed : ((s.now - start : Nat) : Int) = s.now - start := by omega
    rw [ended]
    constructor
    · rw [List.map_append, List.map_singleton, shutdownRounds_concat _ (by simpa using length),
        ← holds.loop, ← remaining, ← share]
    · simp [MainPhase.stopsLeft]
    · intro j stops
      obtain rfl : i = j := by simpa [MainPhase.stopsLeft] using stops
      refine ⟨by simp only [List.length_append, List.length_singleton]; omega, ?_⟩
      rw [List.map_append, List.foldl_append, ← remaining]
      simp [spend, elapsed]
    · simp
  | _ phase =>
    refine (by simpa [roundEnded] using holds : Budgeted runner (rounds ++ _) s).frame ?_ ?_ rfl
      (Nat.le_refl _)
    · simp [phase, RunState.emit, MainPhase.stopsLeft]
    · simp [phase, RunState.emit]

/-- The goroutines of the start phase leave the shutdown loop alone. -/
theorem Budgeted.group {runner : ApplicationRunner} {rounds : List StopRound} {s next : RunState}
    {i : Nat} (holds : Budgeted runner rounds s) (moved : GroupMove s i next) :
    Budgeted runner rounds next := by
  -- The members of the group do not touch the loop of the main goroutine.
  obtain ⟨main, now⟩ := moved.main_now
  have remaining : next.remainingTimeout = s.remainingTimeout := by
    cases moved with
    | hands inner =>
      rw [RunState.record_eq]
      rfl
    | _ => rfl
  exact holds.frame (by rw [main]) (by rw [main]) remaining (Nat.le_of_eq now.symm)

/-- In every run the turns that have ended are the first ones of the loop. -/
theorem budgeted_run {runner : ApplicationRunner} {labels : List RunLabel} {s : RunState}
    (reached : (runMachine runner).run (RunState.init runner) labels = some s) :
    Budgeted runner ((runMachine runner).observed roundEnded (RunState.init runner) labels) s := by
  refine (runMachine runner).run_history (fun labels s =>
    Budgeted runner ((runMachine runner).observed roundEnded (RunState.init runner) labels) s)
    ?_ ?_ labels s reached
  · constructor <;> simp [Machine.observed, RunState.init, MainPhase.stopsLeft, shutdownRounds]
  · intro labels s label next prior holds taken
    -- Only a return from a stop ends a turn, and only the main goroutine returns from one.
    rw [(runMachine runner).observed_concat roundEnded prior]
    cases label with
    | main action => exact budgeted_main (mainStep_move taken) holds
    | start i action =>
      simpa only [roundEnded, List.append_nil] using holds.group (startStep_move taken).group
    | watch i action =>
      simpa only [roundEnded, List.append_nil] using holds.group (watchStep_move taken).group
    | tick d =>
      cases taken
      rw [RunState.expire_eq]
      simp only [roundEnded, List.append_nil]
      exact holds.frame rfl rfl rfl (Nat.le_add_right _ _)
    | cancelCaller cause =>
      cases taken
      simp only [roundEnded, List.append_nil]
      exact holds.frame rfl rfl rfl (Nat.le_refl _)
    | signal =>
      simp only [runMachine, runStep] at taken
      split at taken <;> cases taken
      simp only [roundEnded, List.append_nil]
      exact holds.frame rfl rfl rfl (Nat.le_refl _)
    | becomeReady i =>
      cases taken
      simp only [roundEnded, List.append_nil]
      exact holds.frame rfl rfl rfl (Nat.le_refl _)

/--
The runs of a runner go through the turns of the shutdown loop, each with the loop's budget.

The times are the ones that passed on the clock of the run.
-/
theorem run_follows_rounds {runner : ApplicationRunner} {labels : List RunLabel} {s : RunState}
    (reached : (runMachine runner).run (RunState.init runner) labels = some s)
    {elapsed : List Nat}
    (times : ((runMachine runner).observed roundEnded (RunState.init runner) labels).map
      StopRound.elapsed = elapsed) :
    (runMachine runner).observed roundEnded (RunState.init runner) labels =
      shutdownRounds runner.shutdownTimeout runner.services.length elapsed ∧
    (∀ i start budget, s.main.inFlight = some (i, start, budget) →
      budget = (elapsed.foldl spend runner.shutdownTimeout).tdiv (i + 1)) ∧
    ∀ result, s.main = .finished result → elapsed.length = runner.services.length := by
  -- The invariant at the end of the run, with its budgets read in the loop's own terms.
  subst times
  have holds := budgeted_run reached
  refine ⟨holds.loop, ?_, ?_⟩
  · intro i start budget flying
    obtain ⟨-, share⟩ := holds.flying i start budget flying
    have running : s.main.stopsLeft = some (i + 1) := by
      cases phase : s.main <;> simp_all [MainPhase.stopsLeft]
    rw [share, (holds.left (i + 1) running).2]
  · intro result finished
    have none := (holds.left 0 (by simp [finished, MainPhase.stopsLeft])).1
    simpa using none

end Bootkit

import Bootkit.Core.ApplicationReleases
import Bootkit.Core.RunnerContexts
import Mathlib.Algebra.Order.BigOperators.Group.Finset

/-! What an application still has to do is bounded, whatever its schedule. -/

namespace Bootkit

open Go

/-- How many steps a start goroutine has left. -/
def StartPhase.left : StartPhase → Nat
  | .unlaunched => 6
  | .launched => 5
  | .running _ => 4
  | .returned _ _ => 3
  | .reported _ => 2
  | .leaving _ => 1
  | .done _ => 0

/-- How many steps a watcher has left. -/
def WatchPhase.left : WatchPhase → Nat
  | .unlaunched => 5
  | .launched => 4
  | .selecting _ => 3
  | .expired => 2
  | .leaving _ _ => 1
  | .done _ _ => 0

/-- How many steps the goroutine that called `Run` has left. -/
def MainPhase.left (services : Nat) : MainPhase → Nat
  | .wiring => 7 * services + 5
  | .crashed => 0
  | .entering => 7 * services + 4
  -- Two steps for each service still to launch, and five for each one to stop.
  | .launching i => 2 * (services - i) + 5 * services + 3
  | .guarding i => 2 * (services - i) + 5 * services + 2
  | .waiting => 5 * services + 2
  | .stopping left => 5 * left + 1
  | .inStop i _ _ => 5 * i + 5
  | .stopReturned i _ _ _ => 5 * i + 4
  | .stopReported i _ _ _ => 5 * i + 3
  | .stopCollected i _ _ => 5 * i + 2
  | .finished _ => 0

/-- How many steps a call of `Start` has left. -/
def StarterPhase.left : StarterPhase → Nat
  | .idle => 6
  | .connecting => 5
  | .connected _ => 4
  | .locked _ => 3
  | .spurned _ | .stored => 2
  | .cleaning _ | .blocked => 1
  | .returned _ | .panicked => 0

/-- How many steps a call of `Stop` has left. -/
def StopperPhase.left : StopperPhase → Nat
  | .idle => 5
  | .called => 4
  | .locked => 3
  | .releasing _ => 2
  | .returning _ => 1
  | .returned _ => 0

/-- How many steps the two calls on a lifecycle have left, with the news about the context. -/
def LifecycleState.left (s : LifecycleState) : Nat :=
  (s.starters 0).left + (s.stoppers 0).left + (s.contexts 0).isNone.toNat

/-- How many steps everything about one service has left. -/
def ApplicationState.leftAt (s : ApplicationState) (i : Nat) : Nat :=
  (s.main.starter i).left + (s.main.watcher i).left + (s.parts i).left

/-- How many steps an application has left. -/
def ApplicationState.left (runner : ApplicationRunner) (s : ApplicationState) : Nat :=
  s.main.main.left runner.services.length +
    (Finset.range runner.services.length).sum s.leftAt

/--
Whether a step does part of the application's work, and does not merely happen to it.

The return of code that the application was given is such a step, too.
-/
def ApplicationLabel.works : ApplicationLabel → Bool
  | .runner (.tick _) | .runner (.cancelCaller _) | .runner .signal | .runner (.becomeReady _)
  | .service _ .ready => false
  | _ => true

section Left

variable {runner : ApplicationRunner} {s next : ApplicationState}

/-- A step that leaves no part with more to do, and one part of a service with less. -/
theorem left_at {i : Nat} (within : i < runner.services.length)
    (main : next.main.main.left runner.services.length ≤ s.main.main.left runner.services.length)
    (others : ∀ j, j ≠ i → next.leftAt j = s.leftAt j) (less : next.leftAt i < s.leftAt i) :
    next.left runner + 1 ≤ s.left runner := by
  -- One summand became smaller, and the others are the same.
  have sum : (Finset.range runner.services.length).sum next.leftAt <
      (Finset.range runner.services.length).sum s.leftAt := by
    refine Finset.sum_lt_sum ?_ ⟨i, Finset.mem_range.mpr within, less⟩
    intro j _
    by_cases same : j = i
    · subst same
      exact Nat.le_of_lt less
    · exact Nat.le_of_eq (others j same)
  unfold ApplicationState.left
  omega

/-- A step of the main goroutine that leaves no service with more to do. -/
theorem left_main
    (main : next.main.main.left runner.services.length < s.main.main.left runner.services.length)
    (services : ∀ j, next.leftAt j ≤ s.leftAt j) : next.left runner + 1 ≤ s.left runner := by
  -- The summand of the main goroutine became smaller, and none of the others larger.
  have sum : (Finset.range runner.services.length).sum next.leftAt ≤
      (Finset.range runner.services.length).sum s.leftAt :=
    Finset.sum_le_sum fun j _ => services j
  unfold ApplicationState.left
  omega

end Left

/-- Every step of the main goroutine leaves it with less to do. -/
theorem MainMove.left {runner : ApplicationRunner} {s next : RunState} {action : MainAction}
    (moved : MainMove runner s action next) (fresh : Launched runner s) :
    next.main.left runner.services.length < s.main.left runner.services.length := by
  -- Every move leads to a phase with fewer steps ahead, the loops by their counters.
  have bound := fresh.bound
  cases moved with
  | callStop phase =>
    rw [RunState.expire_eq]
    simp only [RunState.emit, MainPhase.left, phase]
    omega
  | _ phase =>
    simp only [phase, RunState.emit, MainPhase.left, MainPhase.launched] at bound ⊢
    omega

/-- A step of a start goroutine leaves it with less to do, and the others as they are. -/
theorem StartMove.left {runner : ApplicationRunner} {s next : RunState} {i : Nat}
    {action : StartAction} (moved : StartMove runner s i action next) :
    (next.starter i).left < (s.starter i).left ∧
      (∀ j, j ≠ i → next.starter j = s.starter j) ∧ next.watcher = s.watcher := by
  -- The phases of a starter are in a line, and each move is one step along it.
  cases moved with
  | leave phase =>
    rw [RunState.record_eq]
    exact ⟨by simp [RunState.emit, StartPhase.left, phase],
      fun j other => update_other _ _ other, rfl⟩
  | _ phase =>
    exact ⟨by simp [RunState.emit, RunState.cancel, StartPhase.left, phase],
      fun j other => update_other _ _ other, rfl⟩

/-- A step of a watcher leaves it with less to do, and the others as they are. -/
theorem WatchMove.left {runner : ApplicationRunner} {s next : RunState} {i : Nat}
    {action : WatchAction} (moved : WatchMove runner s i action next) :
    (next.watcher i).left < (s.watcher i).left ∧
      (∀ j, j ≠ i → next.watcher j = s.watcher j) ∧ next.starter = s.starter := by
  -- The same for the phases of a watcher.
  cases moved with
  | leave phase =>
    rw [RunState.record_eq]
    exact ⟨by simp [RunState.emit, WatchPhase.left, phase],
      fun j other => update_other _ _ other, rfl⟩
  | _ phase =>
    exact ⟨by simp [RunState.cancel, WatchPhase.left, phase],
      fun j other => update_other _ _ other, rfl⟩

/-- A step of `Start` leaves the lifecycle with less to do. -/
theorem StarterMove.left {s next : LifecycleState} {action : StarterAction}
    (moved : StarterMove true s 0 action next) : next.left < s.left := by
  -- Only the phase of the start changes, and it moves along its line.
  obtain ⟨stoppers, -⟩ := moved.frame
  have contexts : next.contexts = s.contexts := by
    cases moved <;> simp [LifecycleState.setStarter, LifecycleState.invoke]
  have starter : (next.starters 0).left < (s.starters 0).left := by
    cases moved with
    | unset phase missing => cases missing
    | _ phase => simp [LifecycleState.setStarter, LifecycleState.invoke, phase, StarterPhase.left]
  unfold LifecycleState.left
  rw [stoppers, contexts]
  omega

/-- A step of `Stop` leaves the lifecycle with less to do. -/
theorem StopperMove.left {s next : LifecycleState} {action : StopperAction}
    (moved : StopperMove s 0 action next) : next.left < s.left := by
  -- Only the phase of the stop changes, and it moves along its line.
  obtain ⟨starters, -⟩ := moved.frame
  have contexts : next.contexts = s.contexts := by
    cases moved <;> simp [LifecycleState.setStopper, LifecycleState.invoke]
  have stopper : (next.stoppers 0).left < (s.stoppers 0).left := by
    cases moved with
    | _ phase => simp [LifecycleState.setStopper, LifecycleState.invoke, phase, StopperPhase.left]
  unfold LifecycleState.left
  rw [starters, contexts]
  omega

/-- Only a step of the main goroutine that launches a goroutine changes one, and lowers it. -/
theorem MainMove.left_services {runner : ApplicationRunner} {s next : RunState}
    {action : MainAction} (moved : MainMove runner s action next) (fresh : Launched runner s)
    (j : Nat) : (next.starter j).left ≤ (s.starter j).left ∧
      (next.watcher j).left ≤ (s.watcher j).left := by
  -- A goroutine that is launched had all its steps ahead, and no other move touches one.
  cases moved with
  | @launch i phase within =>
    have new : s.starter i = .unlaunched := by
      rw [fresh.starters i, phase]
      exact Nat.le_refl i
    refine ⟨?_, Nat.le_refl _⟩
    by_cases same : j = i
    · subst same
      simp [new, StartPhase.left]
    · simp [same]
  | @guard i phase =>
    have new : s.watcher i = .unlaunched := by
      rw [fresh.watchers i, phase]
      exact .inl (Nat.le_refl i)
    refine ⟨Nat.le_refl _, ?_⟩
    dsimp only
    split
    · by_cases same : j = i
      · subst same
        simp [new, WatchPhase.left]
      · simp [same]
    · exact Nat.le_refl _
  | callStop phase =>
    rw [RunState.expire_eq]
    exact ⟨Nat.le_refl _, Nat.le_refl _⟩
  | _ phase => exact ⟨Nat.le_refl _, Nat.le_refl _⟩

/-- A goroutine that exists belongs to a service. -/
theorem Launched.starter_within {runner : ApplicationRunner} {s : RunState} {i : Nat}
    (fresh : Launched runner s) (launched : s.starter i ≠ .unlaunched) :
    i < runner.services.length := by
  -- Starters are launched in order, and there are as many as services.
  rw [Ne, fresh.starters i] at launched
  have bound := fresh.bound
  omega

/-- A watcher that exists belongs to a service. -/
theorem Launched.watcher_within {runner : ApplicationRunner} {s : RunState} {i : Nat}
    (fresh : Launched runner s) (launched : s.watcher i ≠ .unlaunched) :
    i < runner.services.length := by
  -- A watcher is launched behind its starter.
  rw [Ne, fresh.watchers i, not_or] at launched
  have bound := fresh.bound
  have below : s.main.guarded runner.services.length ≤
      s.main.launched runner.services.length := by
    cases s.main <;> simp [MainPhase.guarded, MainPhase.launched]
  omega

/-- The runner's work leaves the application less to do, and what happens to it no more. -/
theorem left_runner {runner : ApplicationRunner} {s : ApplicationState} {label : RunLabel}
    {main : RunState} (fresh : Launched runner s.main) (own : label.shared = false)
    (taken : runStep runner s.main label = some main) :
    ApplicationState.left runner ⟨main, s.parts⟩ + (ApplicationLabel.runner label).works.toNat ≤
      s.left runner := by
  -- What happens outside is not paid for; the others pay with the goroutine that moves.
  by_cases outside : label.outer = true
  · have unpaid : (ApplicationLabel.runner label).works = false := by
      cases label <;> simp_all [RunLabel.outer, ApplicationLabel.works]
    rw [runStep_outer outside taken, unpaid]
    exact Nat.le_refl _
  · cases label with
    | main action =>
      have moved : MainMove runner s.main action main := mainStep_move taken
      refine left_main (moved.left fresh) ?_
      intro j
      obtain ⟨starter, watcher⟩ := moved.left_services fresh j
      simp only [ApplicationState.leftAt]
      omega
    | start i action =>
      have moved : StartMove runner s.main i action main := startStep_move taken
      have launched : s.main.starter i ≠ .unlaunched := by cases moved <;> simp_all
      obtain ⟨less, others, watcher⟩ := moved.left
      refine left_at (fresh.starter_within launched)
        (Nat.le_of_eq (by rw [moved.group.main_now.1])) ?_ ?_
      · intro j other
        simp only [ApplicationState.leftAt, others j other, watcher]
      · simp only [ApplicationState.leftAt, watcher]
        omega
    | watch i action =>
      have moved : WatchMove runner s.main i action main := watchStep_move taken
      have launched : s.main.watcher i ≠ .unlaunched := by cases moved <;> simp_all
      obtain ⟨less, others, starter⟩ := moved.left
      refine left_at (fresh.watcher_within launched)
        (Nat.le_of_eq (by rw [moved.group.main_now.1])) ?_ ?_
      · intro j other
        simp only [ApplicationState.leftAt, others j other, starter]
      · simp only [ApplicationState.leftAt, starter]
        omega
    | _ => simp [RunLabel.outer] at outside

/-- A service that does something exists. -/
theorem Synced.within {runner : ApplicationRunner} {s : ApplicationState} {i : Nat}
    (synced : Synced runner s) (fresh : Launched runner s.main)
    (busy : (s.parts i).starters 0 ≠ .idle ∨ (s.parts i).stoppers 0 ≠ .idle) :
    i < runner.services.length := by
  -- Beyond the services no starter is launched and no stop is called.
  by_contra past
  have starter : s.main.starter i = .unlaunched := by
    rw [fresh.starters i]
    exact Nat.le_trans fresh.bound (Nat.not_lt.mp past)
  rcases busy with started | stopped
  · exact started ((synced i).uncalled (by simp [starter]))
  · exact stopped ((synced i).absent (Nat.not_lt.mp past))

/-- A step of one service leaves the application with less to do. -/
theorem left_service {runner : ApplicationRunner} {s : ApplicationState} {i : Nat}
    {service : LifecycleState} (synced : Synced runner s) (fresh : Launched runner s.main)
    (busy : (s.parts i).starters 0 ≠ .idle ∨ (s.parts i).stoppers 0 ≠ .idle)
    {ready : Nat → Bool} (less : service.left < (s.parts i).left) :
    ApplicationState.left runner ⟨{ s.main with ready }, update s.parts i service⟩ + 1 ≤
      s.left runner := by
  -- The service that moves pays, and the runner does not move.
  refine left_at (synced.within fresh busy) (Nat.le_refl _) ?_ ?_
  · intro j other
    simp [ApplicationState.leftAt, other]
  · simp only [ApplicationState.leftAt, update_self]
    omega

/-- What a lifecycle does on its own leaves it with less to do, apart from showing its channel. -/
theorem ServiceAction.left {s next : LifecycleState} {action : ServiceAction}
    (taken : lifecycleStep true s action.label = some next) (other : action ≠ .ready) :
    (s.starters 0 ≠ .idle ∨ s.stoppers 0 ≠ .idle) ∧ next.left < s.left := by
  -- By the call that the action belongs to, which is past its entry.
  generalize same : action.label = label at taken
  cases label with
  | start k starter =>
    obtain ⟨rfl, entered, -⟩ := action.label_start same
    have moved : StarterMove true s 0 starter next := starterStep_move taken
    refine ⟨.inl ?_, moved.left⟩
    cases moved with
    | enter | unset => exact absurd rfl entered
    | _ phase => simp [phase]
  | stop k stopper =>
    obtain ⟨rfl, called⟩ := action.label_stop same
    have moved : StopperMove s 0 stopper next := stopperStep_move taken
    refine ⟨.inr ?_, moved.left⟩
    cases moved with
    | call => exact absurd rfl called
    | _ phase => simp [phase]
  | cancel k cause => cases action <;> simp [label] at same
  | ready => cases action <;> simp_all [label]

/-- Every step of the work leaves an application with less to do, and every other with no more. -/
theorem left_move {runner : ApplicationRunner} {s next : ApplicationState}
    {label : ApplicationLabel} (moved : ApplicationMove runner s label next)
    (fresh : Launched runner s.main) (synced : Synced runner s) :
    next.left runner + label.works.toNat ≤ s.left runner := by
  cases moved with
  | runner own taken => exact left_runner fresh own taken
  | @callStart i main service called entered =>
    have launched : s.main.starter i ≠ .unlaunched := by cases called; simp_all
    obtain ⟨less, others, watcher⟩ := called.left
    refine left_at (fresh.starter_within launched)
      (Nat.le_of_eq (by rw [called.group.main_now.1])) ?_ ?_
    · intro j other
      simp [ApplicationState.leftAt, others j other, watcher, other]
    · have entered := entered.left
      simp only [ApplicationState.leftAt, watcher, update_self]
      omega
  | @startReturns i err main returned moved =>
    have launched : s.main.starter i ≠ .unlaunched := by cases moved; simp_all
    obtain ⟨less, others, watcher⟩ := moved.left
    refine left_at (fresh.starter_within launched)
      (Nat.le_of_eq (by rw [moved.group.main_now.1])) ?_ ?_
    · intro j other
      simp only [ApplicationState.leftAt, others j other, watcher]
    · simp only [ApplicationState.leftAt, watcher]
      omega
  | @callStop i main service phase moved called =>
    refine left_main (moved.left fresh) ?_
    intro j
    obtain ⟨starter, watcher⟩ := moved.left_services fresh j
    have stopped := called.left
    by_cases same : j = i
    · subst same
      simp only [ApplicationState.leftAt, update_self]
      omega
    · simp only [ApplicationState.leftAt, update_other s.parts service same]
      omega
  | stopReturns phase returned moved =>
    refine left_main (moved.left fresh) ?_
    intro j
    obtain ⟨starter, watcher⟩ := moved.left_services fresh j
    simp only [ApplicationState.leftAt]
    omega
  | announce announced =>
    refine left_service synced fresh (.inl ?_) announced.left
    cases announced with
    | _ phase => simp [phase]
  | @deliver i cause service done phase live told =>
    cases told
    refine left_service synced fresh (.inl (by simp [phase])) ?_
    simp [LifecycleState.left, live]
  | @service i action service taken =>
    by_cases shows : action = .ready
    · -- Asking for the channel moves nobody.
      subst shows
      cases taken
      refine Nat.add_le_add_left (Finset.sum_le_sum fun j _ => ?_) _
      by_cases same : j = i
      · subst same
        simp [ApplicationState.leftAt, LifecycleState.left]
      · simp [ApplicationState.leftAt, same]
    · obtain ⟨busy, less⟩ := ServiceAction.left taken shows
      have paid : (ApplicationLabel.service i action).works = true := by
        cases action <;> simp_all [ApplicationLabel.works]
      rw [paid]
      exact left_service synced fresh busy less

end Bootkit

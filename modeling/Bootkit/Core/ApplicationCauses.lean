import Bootkit.Core.ApplicationReleases
import Bootkit.Core.RunnerContexts

/-! What makes an application shut down, and where the errors that `Run` returns come from. -/

namespace Bootkit

open Go

/-- Whether a step gives the application a reason to shut down. -/
def ApplicationLabel.disturbs : ApplicationLabel → Bool
  | .runner (.cancelCaller _) | .runner .signal | .runner (.watch _ .expire)
  | .service _ (.connect (some _)) => true
  | _ => false

/-- Whether a watcher has found nothing wrong so far. -/
def WatchPhase.content : WatchPhase → Bool
  | .unlaunched | .launched | .selecting _ | .leaving _ none | .done _ none => true
  | _ => false

/-- A runner with no reason to shut down. -/
structure Calm (s : RunState) : Prop where
  contexts : ∀ scope, s.contexts scope = none
  starters : ∀ i, (s.starter i).result = none
  watchers : ∀ i, (s.watcher i).content = true
  running : s.main.shutting = false

/-- While no `Start` has returned, the group of at least one service is not done. -/
theorem Calm.waits {runner : ApplicationRunner} {s : RunState} (calm : Calm s)
    (populated : runner.services ≠ []) : s.groupDone runner = false := by
  -- The group is done only if the first service's start has returned, and none has.
  by_contra all
  have all : s.groupDone runner = true := by simpa using all
  obtain ⟨starters, -⟩ := quiet_of_groupDone all
  obtain ⟨err, done⟩ := starters 0 (List.length_pos_iff.mpr populated)
  have unreturned := calm.starters 0
  simp [done] at unreturned

/-- Nothing that a calm runner does on its own gives it a reason to shut down. -/
theorem calm_main {runner : ApplicationRunner} {s next : RunState} {action : MainAction}
    (populated : runner.services ≠ []) (fresh : Launched runner s)
    (moved : MainMove runner s action next) (calm : Calm s) : Calm next := by
  -- The main goroutine of a calm run has come no further than to wait for its group.
  have ⟨contexts, starters, watchers, running⟩ := calm
  cases moved with
  | wire phase | crash phase | wait phase => exact ⟨contexts, starters, watchers, rfl⟩
  | enter phase =>
    refine ⟨?_, starters, watchers, rfl⟩
    intro scope
    simp [derive, update, contexts]
  -- The starter that is launched has no result, as it had none before.
  | @launch i phase within =>
    have new : s.starter i = .unlaunched := by
      rw [fresh.starters i, phase]
      exact Nat.le_refl i
    refine ⟨?_, ?_, watchers, rfl⟩
    · intro scope
      simp [derive, update, contexts]
    · intro j
      exact (update_seen StartPhase.result (by rw [new]; rfl) j).trans (starters j)
  | @guard i phase =>
    refine ⟨contexts, starters, ?_, rfl⟩
    intro j
    dsimp only
    split
    · by_cases same : j = i
      · simp [same, WatchPhase.content]
      · simpa [same] using watchers j
    · exact watchers j
  -- The wait does not return while a start has not.
  | waitReturns phase all => simp [calm.waits populated] at all
  | _ phase => simp [phase, MainPhase.shutting] at running

/-- A start goroutine of a calm runner is inside `Start` or before it. -/
theorem calm_start {runner : ApplicationRunner} {s next : RunState} {i : Nat}
    {action : StartAction} (moved : StartMove runner s i action next)
    (inside : ∀ err, action ≠ .returns err) (calm : Calm s) : Calm next := by
  -- Short of a return, a starter can only call `Start`.
  have unreturned := calm.starters i
  cases moved with
  | call phase =>
    refine ⟨calm.contexts, ?_, calm.watchers, calm.running⟩
    intro j
    exact (update_seen StartPhase.result (by rw [phase]; rfl) j).trans (calm.starters j)
  | returns phase => exact absurd rfl (inside _)
  | _ phase => simp [phase] at unreturned

/-- A watcher of a calm runner leaves with nothing to report. -/
theorem calm_watch {runner : ApplicationRunner} {s next : RunState} {i : Nat}
    {action : WatchAction} (moved : WatchMove runner s i action next)
    (inTime : action ≠ .expire) (calm : Calm s) : Calm next := by
  have content := calm.watchers i
  -- A watcher that moves to a content phase keeps the runner calm.
  have shift : ∀ phase : WatchPhase, phase.content = true →
      ∀ j, (update s.watcher i phase j).content = true := by
    intro phase fine j
    by_cases same : j = i
    · simpa [same] using fine
    · simpa [same] using calm.watchers j
  cases moved with
  | arm phase => exact ⟨calm.contexts, calm.starters, shift _ rfl, calm.running⟩
  | ready phase closed => exact ⟨calm.contexts, calm.starters, shift _ rfl, calm.running⟩
  | expire phase passed => exact absurd rfl inTime
  | interrupt phase done => simp [calm.contexts] at done
  | cancel phase => simp [phase, WatchPhase.content] at content
  | @leave late result phase =>
    cases result with
    | none => exact ⟨calm.contexts, calm.starters, shift _ rfl, calm.running⟩
    | some err => simp [phase, WatchPhase.content] at content

/-- A calm runner stays calm as long as nothing disturbs it and no `Start` returns. -/
theorem calm_step {runner : ApplicationRunner} {s next : RunState} {label : RunLabel}
    (populated : runner.services ≠ []) (fresh : Launched runner s)
    (taken : runStep runner s label = some next)
    (undisturbed : (ApplicationLabel.runner label).disturbs = false)
    (inside : ∀ i err, label ≠ .start i (.returns err)) (calm : Calm s) : Calm next := by
  cases label with
  | tick d =>
    cases taken
    -- No `Stop` is running, so there is no timer to fire.
    have idle : s.main.inFlight = none := by
      have running := calm.running
      cases phase : s.main <;> simp_all [MainPhase.shutting]
    rw [expire_idle (s := { s with now := s.now + d }) idle]
    exact ⟨calm.contexts, calm.starters, calm.watchers, calm.running⟩
  | cancelCaller cause | signal => cases undisturbed
  | becomeReady i =>
    cases taken
    exact ⟨calm.contexts, calm.starters, calm.watchers, calm.running⟩
  | main action => exact calm_main populated fresh (mainStep_move taken) calm
  | start i action =>
    exact calm_start (startStep_move taken) (fun err same => inside i err (by rw [same])) calm
  | watch i action =>
    refine calm_watch (watchStep_move taken) ?_ calm
    rintro rfl
    cases undisturbed

/-- Whether a `Start` is on its way to blocking on its context, or there. -/
def StarterPhase.serving : StarterPhase → Bool
  | .idle | .connecting | .connected _ | .locked _ | .stored | .blocked | .panicked => true
  | _ => false

/-- A service that nobody has told to stop. -/
structure Undisturbed (s : LifecycleState) : Prop where
  serving : (s.starters 0).serving = true
  context : s.contexts 0 = none
  unstopped : s.stoppers 0 = .idle
  clear : s.stopped = false

/-- The `Start` of an undisturbed service goes on serving unless its `Connect` fails. -/
theorem undisturbed_starter {s next : LifecycleState} {action : StarterAction}
    (moved : StarterMove true s 0 action next) (connects : ∀ err, action ≠ .connect (.error err))
    (holds : Undisturbed s) : Undisturbed next := by
  obtain ⟨serving, context, unstopped, clear⟩ := holds
  obtain ⟨stoppers, flag⟩ := moved.frame
  have untold : next.contexts 0 = none := by
    cases moved <;> simp [LifecycleState.setStarter, LifecycleState.invoke, context]
  refine ⟨?_, untold, by rw [stoppers, unstopped], by rw [flag, clear]⟩
  -- Only a failed `Connect`, a set flag, or a done context would lead out of service.
  cases moved with
  | unset phase missing => cases missing
  | connectFails phase => exact absurd rfl (connects _)
  | spurn phase late => simp [clear] at late
  | skip phase | clean phase | cleaned phase => simp [phase, StarterPhase.serving] at serving
  | finish phase done => simp [context] at done
  | _ phase => simp [LifecycleState.setStarter, StarterPhase.serving]

/-- What an undisturbed service does on its own leaves it undisturbed. -/
theorem undisturbed_service {s next : LifecycleState} {action : ServiceAction}
    (taken : lifecycleStep true s action.label = some next)
    (connects : ∀ err, action ≠ .connect (some err)) (holds : Undisturbed s) :
    Undisturbed next := by
  generalize same : action.label = label at taken
  cases label with
  | start k starter =>
    obtain ⟨rfl, -, -⟩ := action.label_start same
    refine undisturbed_starter (starterStep_move taken) ?_ holds
    rintro err rfl
    cases action with
    | connect failure =>
      cases failure with
      | none => simp [ServiceAction.label, connectResult] at same
      | some failure => exact connects failure rfl
    | _ => simp [ServiceAction.label] at same
  | stop k stopper =>
    -- Nobody has called `Stop`, so there is no such call to take a step.
    obtain ⟨rfl, other⟩ := action.label_stop same
    have moved : StopperMove s 0 stopper next := stopperStep_move taken
    cases moved with
    | call phase => exact absurd rfl other
    | _ phase => simp [holds.unstopped] at phase
  | cancel k cause => cases action <;> simp [ServiceAction.label] at same
  | ready =>
    cases taken
    obtain ⟨-, -, flag, starters, stoppers, -⟩ := initReady_frame s
    exact ⟨by rw [starters]; exact holds.serving, by rw [initReady_contexts]; exact holds.context,
      by rw [stoppers]; exact holds.unstopped, by rw [flag]; exact holds.clear⟩

/-- An application that nothing has disturbed. -/
structure InService (s : ApplicationState) : Prop where
  calm : Calm s.main
  services : ∀ i, Undisturbed (s.parts i)

/-- An application with a service goes on serving as long as nothing disturbs it. -/
theorem inService_move {runner : ApplicationRunner} {s next : ApplicationState}
    {label : ApplicationLabel} (populated : runner.services ≠ [])
    (moved : ApplicationMove runner s label next) (fresh : Launched runner s.main)
    (undisturbed : label.disturbs = false) (holds : InService s) : InService next := by
  have ⟨calm, services⟩ := holds
  -- A step of one service leaves the others as they are.
  have only : ∀ {i : Nat} {service : LifecycleState}, Undisturbed service →
      ∀ j, Undisturbed (update s.parts i service j) := by
    intro i service fine j
    by_cases same : j = i
    · simpa [same] using fine
    · simpa [same] using services j
  cases moved with
  | runner own taken =>
    refine ⟨calm_step populated fresh taken undisturbed ?_ calm, services⟩
    rintro i err rfl
    cases own
  | callStart called entered =>
    exact ⟨calm_start called (by simp) calm,
      only (undisturbed_starter entered (by simp) (services _))⟩
  | @startReturns i err main returned moved =>
    -- A service that is still serving has not returned.
    have serving := (services i).serving
    simp [returned, StarterPhase.serving] at serving
  | callStop phase moved called =>
    have running := calm.running
    simp [phase, MainPhase.shutting] at running
  | stopReturns phase returned moved =>
    have running := calm.running
    simp [phase, MainPhase.shutting] at running
  | announce announced =>
    exact ⟨⟨calm.contexts, calm.starters, calm.watchers, calm.running⟩,
      only (undisturbed_starter announced (by simp) (services _))⟩
  | deliver done phase live told => simp [calm.contexts] at done
  | @service i action service taken =>
    refine ⟨calm, only (undisturbed_service taken ?_ (services i))⟩
    rintro err rfl
    cases undisturbed

/--
An application with at least one service serves until something disturbs it: as long as no signal,
no cancellation, no failed `Connect`, and no missed start deadline has occurred, `Run` stays out of
its shutdown phase, every context is live, no `Start` has returned, and nothing was released.
-/
theorem application_serves (runner : ApplicationRunner) (labels : List ApplicationLabel)
    (s : ApplicationState) (populated : runner.services ≠ [])
    (reached : (applicationMachine runner).run (.init runner) labels = some s)
    (undisturbed : ∀ label ∈ labels, label.disturbs = false) :
    s.main.main.shutting = false ∧ (∀ scope, s.main.contexts scope = none) ∧
      ∀ i, (∀ err, (s.parts i).starters 0 ≠ .returned err) ∧ (s.parts i).invoked 0 = 0 := by
  have serving : InService s := by
    refine (applicationMachine runner).run_history
      (fun labels s => (∀ label ∈ labels, label.disturbs = false) → InService s) ?_ ?_
      labels s reached undisturbed
    · intro _
      exact ⟨⟨fun _ => rfl, fun _ => rfl, fun _ => rfl, rfl⟩, fun _ => ⟨rfl, rfl, rfl, rfl⟩⟩
    · -- No step of a run without disturbances ends the calm.
      intro labels s label next prior before taken calm
      exact inService_move populated (applicationStep_move taken)
        (application_runInvariant prior).fresh
        (calm label (by simp)) (before fun earlier member => calm earlier (by simp [member]))
  refine ⟨serving.calm.running, serving.calm.contexts, ?_⟩
  intro i
  obtain ⟨busy, -, -, clear⟩ := serving.services i
  constructor
  · -- A start that serves has not returned, and what was connected is in custody.
    intro err returned
    simp [returned, StarterPhase.serving] at busy
  · have custody := (application_lifecycleInvariant reached i).custody
    rw [clear] at custody
    exact custody.kept

/-- Two services that have both announced readiness are left alone. -/
theorem application_serves_two : ∃ s,
    (applicationMachine twoServices).run (.init twoServices)
      (applicationLaunch 2 ++ serviceStarts 0 ++ serviceStarts 1) = some s ∧
    s.main.main = .waiting ∧ s.main.contexts (.service 1) = none := by
  -- Both services are started and nothing disturbs them.
  obtain ⟨s, reached, waiting⟩ := (applicationMachine twoServices).run_observe
    (.init twoServices) (applicationLaunch 2 ++ serviceStarts 0 ++ serviceStarts 1)
    (fun s => s.main.main = .waiting) (by decide +kernel)
  have law := application_serves twoServices _ s (by decide) reached (by decide)
  exact ⟨s, reached, waiting, law.2.1 _⟩

end Bootkit

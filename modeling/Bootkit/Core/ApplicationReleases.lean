import Bootkit.Core.ApplicationMoves

/-! Under the runner every service is released once, dependents before what they depend on. -/

namespace Bootkit

open Go

/-- Once the flag of a lifecycle is set, some `Stop` has dealt with it. -/
theorem decided_of_stopped {connectSet : Bool} {labels : List LifecycleLabel} {s : LifecycleState}
    (reached : (lifecycleMachine connectSet).run newLifecycle labels = some s) :
    s.stopped = true → ∃ k, (s.stoppers k).decided = true := by
  refine (lifecycleMachine connectSet).run_history
    (fun _ s => s.stopped = true → ∃ k, (s.stoppers k).decided = true) (by simp [newLifecycle]) ?_
    labels s reached
  intro _ s label next _ holds taken set
  cases label with
  | start k action =>
    have moved : StarterMove connectSet s k action next := starterStep_move taken
    obtain ⟨stoppers, flag⟩ := moved.frame
    rw [flag] at set
    simpa [stoppers] using holds set
  | stop k action =>
    have moved : StopperMove s k action next := stopperStep_move taken
    -- Whoever sets the flag has dealt with it, and a decision is not taken back.
    cases moved with
    | again phase | bare phase | release phase =>
      exact ⟨k, by simp [LifecycleState.setStopper, LifecycleState.invoke, StopperPhase.decided]⟩
    | _ phase =>
      obtain ⟨j, decided⟩ := holds set
      by_cases same : j = k
      · subst same
        exact ⟨j, by simp_all [LifecycleState.setStopper, StopperPhase.decided]⟩
      · exact ⟨j, by simpa [LifecycleState.setStopper, same] using decided⟩
  | cancel k cause =>
    cases taken
    exact holds set
  | ready =>
    cases taken
    obtain ⟨-, -, flag, -, stoppers, -⟩ := initReady_frame s
    rw [flag] at set
    simpa [stoppers] using holds set

/-- A service connected when its `Connect` returned no error. -/
theorem connected_iff {labels : List ApplicationLabel} {i : Nat} :
    Connected (labels.filterMap (ApplicationLabel.at i)) ↔
      ApplicationLabel.service i (.connect none) ∈ labels := by
  unfold Connected
  rw [List.mem_filterMap]
  constructor
  · rintro ⟨label, member, erased⟩
    have concerns : label.toService = some (i, .start 0 (.connect (.ok true))) :=
      Wiring.partAt_eq_some.mp erased
    -- No other label of a service is a successful `Connect`.
    cases label with
    | service j action =>
      cases action with
      | connect failure =>
        cases failure <;> simp_all [ApplicationLabel.toService, ServiceAction.label, connectResult]
      | _ => simp [ApplicationLabel.toService, ServiceAction.label] at concerns
    | _ => simp [ApplicationLabel.toService] at concerns
  · intro member
    exact ⟨_, member, Wiring.partAt_eq_some.mpr rfl⟩

/-- A `Start` that has to give its resource back found the flag set. -/
theorem Custody.late {labels : List LifecycleLabel} {stop stopFunc : Option Nat}
    {stopped shown : Bool} {count : Nat}
    (custody : Custody labels (.spurned stop) stopFunc stopped shown count) : stopped = true := by
  -- A client is spurned only after the stop.
  cases custody
  rfl

/-- A `Start` that is giving its resource back found the flag set. -/
theorem Custody.tidying {labels : List LifecycleLabel} {stopFunc : Option Nat}
    {stopped shown : Bool} {stop count : Nat}
    (custody : Custody labels (.cleaning stop) stopFunc stopped shown count) : stopped = true := by
  -- A start cleans up only after the stop.
  cases custody
  rfl

section Reached

variable {runner : ApplicationRunner} {labels : List ApplicationLabel} {s : ApplicationState}
  {i : Nat}

/-- A service whose flag is set was reached by the shutdown loop. -/
theorem reached_by_loop (reached : (applicationMachine runner).run (.init runner) labels = some s)
    (set : (s.parts i).stopped = true) :
    s.main.main.stopsCalled runner.services.length ≤ i := by
  have synced := synced_run reached i
  obtain ⟨k, decided⟩ := decided_of_stopped (application_service_run reached i) set
  by_contra below
  -- Above the loop's position no `Stop` has been called at all.
  have idle : (s.parts i).stoppers k = .idle := by
    by_cases first : k = 0
    · subst first
      exact synced.unstopped (by omega)
    · exact synced.lone k first
  simp [idle, StopperPhase.decided] at decided

/-- Once the loop has reached a service, the shutdown phase has begun. -/
theorem shutting_of_reached {main : MainPhase} {services : Nat} (within : i < services)
    (below : main.stopsCalled services ≤ i) : main.shutting = true := by
  -- The stops are called in the shutdown loop and nowhere before it.
  cases main <;> simp_all [MainPhase.stopsCalled, MainPhase.shutting]
  all_goals omega

/-- In the shutdown phase every `Start` has returned. -/
theorem starts_returned_of_shutting
    (reached : (applicationMachine runner).run (.init runner) labels = some s)
    (shutting : s.main.main.shutting = true) (within : i < runner.services.length) :
    ∃ err, (s.parts i).starters 0 = .returned err := by
  -- The loop begins once the group is done, and then every starter has its service's result.
  obtain ⟨err, done⟩ := ((application_runInvariant reached).quiet shutting).starters i within
  exact ⟨err, (synced_run reached i).returned err (by simp [done])⟩

/-- A service whose two calls have returned was released if it had connected, and only then. -/
theorem released_of_returned
    (reached : (applicationMachine runner).run (.init runner) labels = some s)
    (started : ∃ err, (s.parts i).starters 0 = .returned err)
    (stopped : ∃ err, (s.parts i).stoppers 0 = .returned err) :
    (s.parts i).invoked 0 =
      if ApplicationLabel.service i (.connect none) ∈ labels then 1 else 0 := by
  -- After both calls custody of the client is settled by whether there was a client.
  have holds := application_lifecycleInvariant reached i
  have custody := holds.custody
  obtain ⟨startErr, started⟩ := started
  obtain ⟨stopErr, stopped⟩ := stopped
  rw [holds.stops.decided 0 (by rw [stopped]; rfl)] at custody
  split
  · rename_i made
    exact custody.released (connected_iff.mpr made) (by rw [started]; rfl)
  · rename_i fresh
    exact custody.fresh (mt connected_iff.mp fresh)

/-- By the time a service's flag is set its `Start` has returned. -/
theorem returned_of_stopped
    (reached : (applicationMachine runner).run (.init runner) labels = some s)
    (within : i < runner.services.length) (set : (s.parts i).stopped = true) :
    ∃ err, (s.parts i).starters 0 = .returned err :=
  -- The loop has come by, and it begins only when every `Start` is back.
  starts_returned_of_shutting reached
    (shutting_of_reached within (reached_by_loop reached set)) within

/-- No `Start` finds its lifecycle stopped, so none gives its resource back. -/
theorem never_overtaken (reached : (applicationMachine runner).run (.init runner) labels = some s)
    (within : i < runner.services.length) :
    (∀ stop, (s.parts i).starters 0 ≠ .cleaning stop) ∧
      ∀ stop, (s.parts i).starters 0 ≠ .spurned stop := by
  -- The service was stopped, so that its start had returned before; it cannot be inside.
  have custody := (application_lifecycleInvariant reached i).custody
  constructor
  · intro stop phase
    rw [phase] at custody
    obtain ⟨err, returned⟩ := returned_of_stopped reached within custody.tidying
    simp [phase] at returned
  · intro stop phase
    rw [phase] at custody
    obtain ⟨err, returned⟩ := returned_of_stopped reached within custody.late
    simp [phase] at returned

end Reached

/--
When `Run` has returned, every service that connected has been released exactly once, and no other
service has; the release is always the work of `Stop`.
-/
theorem application_releases (runner : ApplicationRunner) (labels : List ApplicationLabel)
    (s : ApplicationState) (result : Option Err)
    (reached : (applicationMachine runner).run (.init runner) labels = some s)
    (finished : s.main.main = .finished result) (i : Nat) (within : i < runner.services.length) :
    (s.parts i).invoked 0 =
        (if ApplicationLabel.service i (.connect none) ∈ labels then 1 else 0) ∧
      ApplicationLabel.service i .clean ∉ labels := by
  have shutting : s.main.main.shutting = true := by rw [finished]; rfl
  constructor
  · apply released_of_returned reached (starts_returned_of_shutting reached shutting within)
    exact (synced_run reached i).stopped (by simp [finished, MainPhase.stopsThrough]) within
  · -- The cleanup branch of `Start` would be taken in a state where the flag beat it.
    intro cleaned
    obtain ⟨before, after, rfl⟩ := List.append_of_mem cleaned
    obtain ⟨state, next, prior, taken, -⟩ := (applicationMachine runner).run_split reached
    have moved := applicationStep_move taken
    cases moved with
    | service stepped =>
      have cleans : StarterMove true (state.parts i) 0 .clean _ := starterStep_move stepped
      cases cleans with
      | skip phase => exact (never_overtaken prior within).2 _ phase
      | clean phase => exact (never_overtaken prior within).2 _ phase

/-- The main goroutine of an application up to its wait for this many services. -/
def applicationLaunch (services : Nat) : List ApplicationLabel :=
  (launchLabels services).map .runner

/-- A service from the call of its `Start` to its announcement. -/
def serviceStarts (i : Nat) : List ApplicationLabel :=
  [.callStart i, .service i (.connect none), .service i .lockStart, .service i .decideStart,
    .announce i]

/-- A service whose context is done leaves `Start`, and its goroutine returns. -/
def serviceLeaves (i : Nat) : List ApplicationLabel :=
  [.deliver i canceled, .service i .finish, .startReturns i (some (.new canceled)),
    .runner (.start i .report), .runner (.start i .cancel), .runner (.start i .leave)]

/-- One round of the shutdown loop, in which the closure of the service is called. -/
def serviceStops (i : Nat) (err : Option Err) : List ApplicationLabel :=
  [.callStop i, .service i .lockStop, .service i .decideStop, .service i (.released err),
    .service i .unlock, .stopReturns i err, .runner (.main .report), .runner (.main .collect),
    .runner (.main .cancel)]

/-- Two services started, interrupted by a signal, and stopped. -/
def interruptedRun : List ApplicationLabel :=
  applicationLaunch 2 ++ serviceStarts 0 ++ serviceStarts 1 ++ [.runner .signal] ++
    serviceLeaves 0 ++ serviceLeaves 1 ++ [.runner (.main .waitReturns)] ++
    serviceStops 1 none ++ serviceStops 0 none ++ [.runner (.main .finish)]

/-- After a signal both services have been released once. -/
theorem application_releases_two : ∃ s,
    (applicationMachine twoServices).run (.init twoServices) interruptedRun = some s ∧
      (s.parts 0).invoked 0 = 1 ∧ (s.parts 1).invoked 0 = 1 := by
  -- The run is computed to its end, and the law is read for both services.
  obtain ⟨s, reached, finished⟩ := (applicationMachine twoServices).run_observe
    (.init twoServices) interruptedRun (fun s => s.main.main = .finished none)
    (by decide +kernel)
  have law := application_releases twoServices _ s none reached finished
  exact ⟨s, reached, (law 0 (by decide)).1, (law 1 (by decide)).1⟩

/--
A service is released only after every `Start` has returned and after everything registered later
was stopped and, if it had connected, released.
-/
theorem application_release_order (runner : ApplicationRunner) (labels : List ApplicationLabel)
    (s : ApplicationState)
    (reached : (applicationMachine runner).run (.init runner) labels = some s) (i : Nat)
    (within : i < runner.services.length) (touched : (s.parts i).invoked 0 ≠ 0) :
    (∀ j, j < runner.services.length → ∃ err, (s.parts j).starters 0 = .returned err) ∧
      ∀ j, i < j → j < runner.services.length →
        (∃ err, (s.parts j).stoppers 0 = .returned err) ∧
        (s.parts j).invoked 0 =
          if ApplicationLabel.service j (.connect none) ∈ labels then 1 else 0 := by
  -- An invoked closure means a set flag, and a set flag that the loop has come down to here.
  have set : (s.parts i).stopped = true := by
    by_contra clear
    have custody := (application_lifecycleInvariant reached i).custody
    rw [Bool.eq_false_iff.mpr clear] at custody
    exact touched custody.kept
  have below := reached_by_loop reached set
  have shutting := shutting_of_reached within below
  have started : ∀ j, j < runner.services.length →
      ∃ err, (s.parts j).starters 0 = .returned err :=
    fun j inside => starts_returned_of_shutting reached shutting inside
  refine ⟨started, ?_⟩
  intro j later inside
  -- The loop comes to a service only after the `Stop` of the one above has returned.
  have passed : s.main.main.stopsThrough runner.services.length ≤ j := by
    cases phase : s.main.main <;>
      simp_all [MainPhase.stopsCalled, MainPhase.stopsThrough, MainPhase.shutting] <;> omega
  have stopped := (synced_run reached j).stopped passed inside
  exact ⟨stopped, released_of_returned reached (started j inside) stopped⟩

/-- While the first service is being released the second one has been. -/
theorem application_release_order_first : ∃ s,
    (applicationMachine twoServices).run (.init twoServices) (applicationLaunch 2 ++
      serviceStarts 0 ++ serviceStarts 1 ++ [.runner .signal] ++ serviceLeaves 0 ++
      serviceLeaves 1 ++ [.runner (.main .waitReturns)] ++ serviceStops 1 none ++
      [.callStop 0, .service 0 .lockStop, .service 0 .decideStop]) = some s ∧
    (s.parts 0).stoppers 0 = .releasing 0 ∧ (s.parts 1).invoked 0 = 1 := by
  -- The first service is released, so that the second had been released before.
  obtain ⟨s, reached, releasing, touched⟩ := (applicationMachine twoServices).run_observe
    (.init twoServices) (applicationLaunch 2 ++ serviceStarts 0 ++ serviceStarts 1 ++
      [.runner .signal] ++ serviceLeaves 0 ++ serviceLeaves 1 ++
      [.runner (.main .waitReturns)] ++ serviceStops 1 none ++
      [.callStop 0, .service 0 .lockStop, .service 0 .decideStop])
    (fun s => (s.parts 0).stoppers 0 = .releasing 0 ∧ (s.parts 0).invoked 0 ≠ 0)
    (by decide +kernel)
  have law := application_release_order twoServices _ s reached 0 (by decide) touched
  exact ⟨s, reached, releasing, (law.2 1 (by decide) (by decide)).2⟩

end Bootkit

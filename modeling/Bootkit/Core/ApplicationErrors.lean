import Bootkit.Core.ApplicationReleases
import Bootkit.Core.RunnerContexts

/-! Where every error that `Run` returns comes from. -/

namespace Bootkit

open Go

/-- Where what the calls on a lifecycle return comes from. -/
structure Origins (labels : List LifecycleLabel) (s : LifecycleState) : Prop where
  contexts : ∀ k err, s.contexts k = some err →
    ∃ cause, err = .new cause ∧ LifecycleLabel.cancel k cause ∈ labels
  -- `Start` returns what `Connect` or the cleanup returned, or the error of its context.
  starts : ∀ k err, s.starters k = .returned (some err) →
    LifecycleLabel.start k (.connect (.error err)) ∈ labels ∨
      LifecycleLabel.start k (.cleaned (some err)) ∈ labels ∨ s.contexts k = some err
  -- `Stop` returns what the closure returned.
  stops : ∀ k err, s.stoppers k = .returning (some err) ∨ s.stoppers k = .returned (some err) →
    LifecycleLabel.stop k (.released (some err)) ∈ labels

/-- A step of `Start` leaves every context as it was. -/
theorem StarterMove.contexts {connectSet : Bool} {s next : LifecycleState} {k : Nat}
    {action : StarterAction} (moved : StarterMove connectSet s k action next) :
    next.contexts = s.contexts := by
  cases moved <;> simp [LifecycleState.setStarter, LifecycleState.invoke]

/-- What has been explained stays so as the run goes on. -/
theorem Origins.extend {labels : List LifecycleLabel} {s : LifecycleState}
    (holds : Origins labels s) (label : LifecycleLabel) : Origins (labels ++ [label]) s := by
  -- What was told stays told.
  refine ⟨?_, ?_, ?_⟩
  · intro k err done
    obtain ⟨cause, same, told⟩ := holds.contexts k err done
    exact ⟨cause, same, List.mem_append_left _ told⟩
  · intro k err returned
    rcases holds.starts k err returned with connect | cleaned | context
    · exact .inl (List.mem_append_left _ connect)
    · exact .inr (.inl (List.mem_append_left _ cleaned))
    · exact .inr (.inr context)
  · exact fun k err returned => List.mem_append_left _ (holds.stops k err returned)

/-- What a `Start` returns is known as it returns. -/
theorem origins_starter {labels : List LifecycleLabel} {s next : LifecycleState} {k : Nat}
    {action : StarterAction} (moved : StarterMove true s k action next) (holds : Origins labels s) :
    Origins (labels ++ [.start k action]) next := by
  -- A start returns the error of its connect, of its cleanup, or of its context.
  have before := holds.extend (.start k action)
  obtain ⟨stoppers, -⟩ := moved.frame
  refine ⟨by rw [moved.contexts]; exact before.contexts, ?_, by rw [stoppers]; exact before.stops⟩
  intro j err returned
  rw [moved.contexts]
  by_cases same : j = k
  · subst same
    cases moved with
    | unset phase missing => cases missing
    | connectFails phase =>
      obtain rfl : _ = err := by simpa [LifecycleState.setStarter] using returned
      exact .inl (by simp)
    | cleaned phase =>
      obtain rfl : _ = some err := by simpa [LifecycleState.setStarter] using returned
      exact .inr (.inl (by simp))
    | finish phase done =>
      obtain rfl : _ = err := by simpa [LifecycleState.setStarter] using returned
      exact .inr (.inr done)
    | _ phase => simp [LifecycleState.setStarter, LifecycleState.invoke] at returned
  · rw [moved.others same] at returned
    exact before.starts j err returned

/-- What a `Stop` returns is known as its closure returns. -/
theorem origins_stopper {labels : List LifecycleLabel} {s next : LifecycleState} {k : Nat}
    {action : StopperAction} (moved : StopperMove s k action next) (holds : Origins labels s) :
    Origins (labels ++ [.stop k action]) next := by
  -- A stop returns what the release returned, first with the lock held and then without.
  have before := holds.extend (.stop k action)
  obtain ⟨starters, -⟩ := moved.frame
  have contexts : next.contexts = s.contexts := by
    cases moved <;> simp [LifecycleState.setStopper, LifecycleState.invoke]
  refine ⟨by rw [contexts]; exact before.contexts,
    by rw [contexts, starters]; exact before.starts, ?_⟩
  intro j err returned
  by_cases same : j = k
  · subst same
    cases moved with
    | released phase =>
      obtain rfl : _ = some err := by simpa [LifecycleState.setStopper] using returned
      simp
    | unlock phase =>
      obtain rfl : _ = some err := by simpa [LifecycleState.setStopper] using returned
      exact before.stops j err (.inl phase)
    | _ phase => simp [LifecycleState.setStopper, LifecycleState.invoke] at returned
  · rw [moved.others same] at returned
    exact before.stops j err returned

/-- A context that becomes done has the cause it is given, unless it was done before. -/
theorem origins_cancel {labels : List LifecycleLabel} {s : LifecycleState} {k : Nat}
    {cause : Sentinel} (holds : Origins labels s) : Origins (labels ++ [.cancel k cause])
      { s with contexts := update s.contexts k ((s.contexts k).or (some (.new cause))) } := by
  -- The first cause of a cancelled context is its error for good.
  have before := holds.extend (.cancel k cause)
  refine ⟨?_, ?_, before.stops⟩
  · intro j err done
    by_cases same : j = k
    · subst same
      cases known : s.contexts j with
      | some earlier => exact before.contexts j err (by simpa [known] using done)
      | none =>
        obtain rfl : Err.new cause = err := by simpa [known] using done
        exact ⟨cause, rfl, by simp⟩
    · exact before.contexts j err (by simpa [same] using done)
  · -- An error that the context had before is still the error it has.
    intro j err returned
    rcases before.starts j err returned with connect | cleaned | context
    · exact .inl connect
    · exact .inr (.inl cleaned)
    · refine .inr (.inr ?_)
      by_cases same : j = k
      · subst same
        simp [context]
      · simp [same, context]

/-- Everything that a call on a lifecycle returns is explained by the run. -/
theorem origins_run {labels : List LifecycleLabel} {s : LifecycleState}
    (reached : (lifecycleMachine true).run newLifecycle labels = some s) : Origins labels s := by
  -- The steps of starts and stops, and then the two that only write to a context or to the channel.
  refine (lifecycleMachine true).run_history Origins ?_ ?_ labels s reached
  · constructor <;> simp [newLifecycle]
  · intro labels s label next _ holds taken
    cases label with
    | start k action => exact origins_starter (starterStep_move taken) holds
    | stop k action => exact origins_stopper (stopperStep_move taken) holds
    | cancel k cause =>
      cases taken
      exact origins_cancel holds
    | ready =>
      cases taken
      have before := holds.extend .ready
      obtain ⟨-, -, -, starters, stoppers, -⟩ := initReady_frame s
      exact ⟨by rw [initReady_contexts]; exact before.contexts,
        by rw [initReady_contexts, starters]; exact before.starts,
        by rw [stoppers]; exact before.stops⟩

/-- The runner was told by every `Stop` what that `Stop` returned. -/
def StopResults (s : ApplicationState) : Prop :=
  ∀ i err, (i, err) ∈ s.main.trace.filterMap RunEvent.stopReturn →
    (s.parts i).stoppers 0 = .returned err

/-- A `Stop` that has returned stays so, whatever a service does later. -/
theorem StopResults.inner {s : ApplicationState} (holds : StopResults s) {main : RunState} {i : Nat}
    {service : LifecycleState}
    (returns : main.trace.filterMap RunEvent.stopReturn =
      s.main.trace.filterMap RunEvent.stopReturn)
    (kept : ∀ err, (s.parts i).stoppers 0 = .returned err → service.stoppers 0 = .returned err) :
    StopResults ⟨main, update s.parts i service⟩ := by
  -- The service that moves keeps its result, and the others did not move.
  intro j err told
  have before := holds j err (returns ▸ told)
  by_cases same : j = i
  · subst same
    simpa using kept err before
  · simpa [same] using before

/-- The runner hears from a `Stop` only what it returned. -/
theorem stopResults_run {runner : ApplicationRunner} {labels : List ApplicationLabel}
    {s : ApplicationState}
    (reached : (applicationMachine runner).run (.init runner) labels = some s) :
    StopResults s := by
  refine (applicationMachine runner).run_history (fun _ s => StopResults s)
    (by simp [StopResults, ApplicationState.init, RunState.init]) ?_ labels s reached
  intro labels s label next prior holds taken
  have fresh := (application_runInvariant prior).fresh
  have moved := applicationStep_move taken
  -- Only one kind of step returns from a `Stop`, and there the service has just returned the same.
  cases moved with
  | runner own stepped =>
    intro i err told
    rw [(runStep_unshared fresh own stepped).returns] at told
    exact holds i err told
  | callStart called entered =>
    obtain ⟨stoppers, -⟩ := entered.frame
    refine holds.inner ?_ (by simp [stoppers])
    cases called
    simp [RunState.emit]
  | startReturns returned moved =>
    cases moved
    intro i err told
    exact holds i err (by simpa [RunState.emit] using told)
  | callStop phase moved called =>
    refine holds.inner ?_ ?_
    · cases moved
      rw [RunState.expire_eq]
      simp [RunState.emit]
    · intro err returned
      cases called with
      | call idle => simp [idle] at returned
  | @stopReturns i start budget err main phase returned moved =>
    cases moved with
    | @stopReturns j _ _ _ known =>
      obtain ⟨rfl, -⟩ : i = j ∧ _ := by simpa [phase] using known
      intro j other told
      rw [RunState.emit, filterMap_concat, List.mem_append] at told
      rcases told with earlier | now
      · exact holds j other earlier
      · obtain ⟨rfl, rfl⟩ : j = i ∧ other = err := by simpa using now
        exact returned
  | announce announced => exact holds.inner rfl (announced.inner (by simp)).stopReturned
  | deliver done phase live told =>
    cases told
    exact holds.inner rfl fun _ same => same
  | service stepped => exact holds.inner rfl (ServiceAction.inner stepped).stopReturned

/-- What an error that `Run` returns can be, and what must have happened for it. -/
inductive Explained (runner : ApplicationRunner) (labels : List ApplicationLabel) : Err → Prop
  -- A `Connect` failed for another reason than a cancellation.
  | connect {i : Nat} {err : Err}
      (failed : ApplicationLabel.service i (.connect (some err)) ∈ labels)
      (real : err.is canceled = false) :
    Explained runner labels (.wrap (runner.nameOf i ++ ": " ++ err.text) [err])
  -- The caller's context ended in another way than by cancellation.
  | caller {i : Nat} {cause : Sentinel}
      (ended : ApplicationLabel.runner (.cancelCaller cause) ∈ labels)
      (other : cause ≠ canceled) :
    Explained runner labels (.wrap (runner.nameOf i ++ ": " ++ cause.text) [.new cause])
  | deadline {i : Nat} (expired : ApplicationLabel.runner (.watch i .expire) ∈ labels) :
    Explained runner labels (.wrap (runner.nameOf i ++ ": start deadline exceeded (" ++
      formatDuration runner.startDeadline ++ ")") [])
  -- A watcher was still waiting as the group context ended.
  | interrupted {i : Nat} {cause : Sentinel}
      (gaveUp : ApplicationLabel.runner (.watch i .interrupt) ∈ labels)
      (known : cause = canceled ∨ ApplicationLabel.runner (.cancelCaller cause) ∈ labels) :
    Explained runner labels (.new cause)
  | release {i : Nat} {err : Err}
      (failed : ApplicationLabel.service i (.released (some err)) ∈ labels) :
    Explained runner labels (.wrap (runner.nameOf i ++ ": shutdown error: " ++ err.text) [err])

section Explained

variable {runner : ApplicationRunner} {labels : List ApplicationLabel} {s : ApplicationState}

/-- The runner takes a step of its own only as a step of the application. -/
theorem mem_of_toRunner {label : RunLabel} (own : label.shared = false)
    (member : label ∈ labels.filterMap ApplicationLabel.toRunner) :
    ApplicationLabel.runner label ∈ labels := by
  obtain ⟨joint, present, erased⟩ := List.mem_filterMap.mp member
  cases joint with
  | runner inner =>
    obtain rfl : inner = label := by simpa [ApplicationLabel.toRunner] using erased
    exact present
  | deliver i cause | service i action => simp [ApplicationLabel.toRunner] at erased
  | _ =>
    -- What the runner does with a service is not its own step.
    obtain rfl : _ = label := by simpa [ApplicationLabel.toRunner] using erased
    cases own

/-- What ended a context that the start phase can see happened in the application. -/
theorem Cause.known {cause : Sentinel}
    (caused : Cause (labels.filterMap ApplicationLabel.toRunner) cause) :
    cause = canceled ∨ ApplicationLabel.runner (.cancelCaller cause) ∈ labels :=
  caused.imp_right (mem_of_toRunner rfl)

/-- What a service was told is what ended its context. -/
theorem told_caused (reached : (applicationMachine runner).run (.init runner) labels = some s)
    {i : Nat} {err : Err} (told : (s.parts i).contexts 0 = some err) :
    ∃ cause, err = .new cause ∧
      (cause = canceled ∨ ApplicationLabel.runner (.cancelCaller cause) ∈ labels) := by
  obtain ⟨cause, same, cancelled⟩ :=
    (origins_run (application_service_run reached i)).contexts 0 err told
  obtain ⟨joint, present, erased⟩ := List.mem_filterMap.mp cancelled
  have concerns : joint.toService = some (i, .cancel 0 cause) := Wiring.partAt_eq_some.mp erased
  refine ⟨cause, same, ?_⟩
  -- Only a delivery tells a service anything, and it tells what it found in the runner.
  cases joint with
  | deliver j given =>
    obtain ⟨rfl, rfl⟩ : j = i ∧ given = cause := by
      simpa [ApplicationLabel.toService] using concerns
    obtain ⟨before, after, rfl⟩ := List.append_of_mem present
    obtain ⟨state, next, prior, taken, -⟩ := (applicationMachine runner).run_split reached
    have moved := applicationStep_move taken
    cases moved with
    | deliver done phase live step =>
      obtain ⟨found, equal, caused⟩ :=
        contexts_caused (application_runner_run prior) (.service j) _ rfl done
      obtain rfl : given = found := by simpa using equal
      exact caused.known.imp_right (List.mem_append_left _)
  | service j action => cases action <;> simp [ApplicationLabel.toService, ServiceAction.label]
      at concerns
  | _ => simp [ApplicationLabel.toService] at concerns

/-- A `Start` of a service returns what its `Connect` returned or what ended its context. -/
theorem start_caused (reached : (applicationMachine runner).run (.init runner) labels = some s)
    {i : Nat} {err : Err} (within : i < runner.services.length)
    (returned : (s.parts i).starters 0 = .returned (some err)) :
    ApplicationLabel.service i (.connect (some err)) ∈ labels ∨ ∃ cause, err = .new cause ∧
      (cause = canceled ∨ ApplicationLabel.runner (.cancelCaller cause) ∈ labels) := by
  have back : ∀ {moved : LifecycleLabel}, moved ∈ labels.filterMap (ApplicationLabel.at i) →
      ∃ joint ∈ labels, joint.toService = some (i, moved) := by
    intro moved member
    obtain ⟨joint, present, erased⟩ := List.mem_filterMap.mp member
    exact ⟨joint, present, Wiring.partAt_eq_some.mp erased⟩
  rcases (origins_run (application_service_run reached i)).starts 0 err returned with
    connect | cleaned | context
  · obtain ⟨joint, present, concerns⟩ := back connect
    left
    cases joint with
    | service j action =>
      cases action with
      | connect failure =>
        cases failure <;> simp_all [ApplicationLabel.toService, ServiceAction.label, connectResult]
      | _ => simp [ApplicationLabel.toService, ServiceAction.label] at concerns
    | _ => simp [ApplicationLabel.toService] at concerns
  · -- Under the runner no `Start` has to clean up after itself.
    obtain ⟨joint, present, concerns⟩ := back cleaned
    exfalso
    obtain ⟨before, after, rfl⟩ := List.append_of_mem present
    obtain ⟨state, next, prior, taken, -⟩ := (applicationMachine runner).run_split reached
    have moved := (Wiring.composed_step taken).2.2
    obtain ⟨service, stepped, -⟩ := Wiring.advanceParts_concerned concerns moved
    have cleans : StarterMove true (state.parts i) 0 (.cleaned (some err)) service :=
      starterStep_move stepped
    cases cleans with
    | cleaned phase => exact (never_overtaken prior within).1 _ phase
  · exact .inr (told_caused reached context)

/-- What a start goroutine hands to the group is explained. -/
theorem explained_starter
    (reached : (applicationMachine runner).run (.init runner) labels = some s) {i : Nat}
    {result : Option Err} {failure : Err} (done : s.main.starter i = .done result)
    (failed : startResult (runner.nameOf i) result = some failure) :
    Explained runner labels failure := by
  have fresh := (application_runInvariant reached).fresh
  -- A starter that is done was launched, so that it belongs to a service.
  have within : i < runner.services.length := by
    have launched : ¬ s.main.main.launched runner.services.length ≤ i := by
      rw [← fresh.starters i, done]
      simp
    have bound := fresh.bound
    omega
  -- A cancelled context is no failure, so that only a connect or another cause is left.
  cases result with
  | none => simp [startResult] at failed
  | some err =>
    have real : err.is canceled = false := by
      by_contra cancelled
      simp [startResult, cancelled] at failed
    obtain rfl : err.annotate (runner.nameOf i) = failure := by
      simpa [startResult, real] using failed
    have returned := (synced_run reached i).returned (some err) (by simp [done])
    rcases start_caused reached within returned with connect | ⟨cause, rfl, known⟩
    · exact .connect connect real
    · have other : cause ≠ canceled := by
        rintro rfl
        simp [Err.is] at real
      exact .caller (known.resolve_left other) other

/-- What a watcher hands to the group is explained. -/
theorem explained_watcher
    (reached : (applicationMachine runner).run (.init runner) labels = some s) {i : Nat}
    {late : Bool} {failure : Err} (done : s.main.watcher i = .done late (some failure)) :
    Explained runner labels failure := by
  -- A watcher fails late with the deadline, or before it with the error of the stop's context.
  have ran := application_runner_run reached
  obtain ⟨deadline, context⟩ := watch_failure_caused ran i late failure (by simp [done])
  have history := watchHistory_run ran
  cases late with
  | true =>
    rw [deadline rfl]
    exact .deadline (mem_of_toRunner rfl ((history.expiries i).mpr (by simp [done])))
  | false =>
    obtain ⟨cause, rfl, caused⟩ := context rfl
    exact .interrupted (mem_of_toRunner rfl ((history.interrupts i).mpr (by simp [done])))
      caused.known

/-- What the shutdown loop collects is explained. -/
theorem explained_stop (reached : (applicationMachine runner).run (.init runner) labels = some s)
    {i : Nat} {err : Err}
    (returned : (i, some err) ∈ s.main.trace.filterMap RunEvent.stopReturn) :
    Explained runner labels (shutdownErr (runner.nameOf i) err) := by
  -- The error of a stop was released in the service's own history, and there it is one step of the
  -- run.
  have stopped := stopResults_run reached i (some err) returned
  have released := (origins_run (application_service_run reached i)).stops 0 err (.inr stopped)
  obtain ⟨joint, present, erased⟩ := List.mem_filterMap.mp released
  have concerns : joint.toService = some (i, .stop 0 (.released (some err))) :=
    Wiring.partAt_eq_some.mp erased
  cases joint with
  | service j action =>
    cases action with
    | released given =>
      obtain ⟨rfl, rfl⟩ : j = i ∧ given = some err := by
        simpa [ApplicationLabel.toService, ServiceAction.label] using concerns
      exact .release present
    | _ => simp [ApplicationLabel.toService, ServiceAction.label] at concerns
  | _ => simp [ApplicationLabel.toService] at concerns

end Explained

/--
Every error that `Run` returns is explained by something that happened: a `Connect` that failed, a
release that failed, a start deadline that passed, a watcher that was still waiting, or a caller's
context that ended otherwise than by cancellation. When none of these happened `Run` returns nil.
-/
theorem application_result_explained (runner : ApplicationRunner)
    (labels : List ApplicationLabel) (s : ApplicationState) (result : Option Err)
    (reached : (applicationMachine runner).run (.init runner) labels = some s)
    (finished : s.main.main = .finished result) :
    (∀ err ∈ Err.members result, Explained runner labels err) ∧
      ((∀ err, ¬ Explained runner labels err) → result = none) := by
  have invariant := application_runInvariant reached
  have quiet := invariant.quiet (shutting_of_finished finished)
  have joined := invariant.joins result finished
  have explained : ∀ err ∈ Err.members result, Explained runner labels err := by
    intro err member
    rw [joined, Err.members_join, List.mem_append, Option.mem_toList, quiet.outcome] at member
    rcases member with group | stop
    · -- The group kept what a start goroutine or a watcher handed over.
      rcases groupSource_run (application_runner_run reached) err group with
        ⟨i, handed, done, failed⟩ | ⟨i, late, done⟩
      · exact explained_starter reached done failed
      · exact explained_watcher reached done
    · rw [shutdownErrs_of_finished invariant.stops finished, List.mem_filterMap] at stop
      obtain ⟨⟨i, returned⟩, present, failed⟩ := stop
      obtain ⟨cause, rfl, rfl⟩ := Option.map_eq_some_iff.mp failed
      exact explained_stop reached present
  refine ⟨explained, ?_⟩
  intro unexplained
  rw [joined, Err.join_eq_none]
  rw [joined, Err.members_join] at explained
  exact List.eq_nil_iff_forall_not_mem.mpr fun err member => unexplained err (explained err member)

/-- One service whose `Connect` is refused, and the shutdown that follows. -/
def refusedRun : List ApplicationLabel :=
  applicationLaunch 1 ++
    [.callStart 0, .service 0 (.connect (some refused)), .startReturns 0 (some refused),
      .runner (.start 0 .report), .runner (.start 0 .cancel), .runner (.start 0 .leave),
      .runner (.main .waitReturns), .callStop 0, .service 0 .lockStop, .service 0 .decideStop,
      .service 0 .unlock, .stopReturns 0 none, .runner (.main .report), .runner (.main .collect),
      .runner (.main .cancel), .runner (.main .finish)]

/-- A `Connect` that is refused explains the error that `Run` returns. -/
theorem application_result_refused : ∃ s result,
    (applicationMachine oneService).run (.init oneService) refusedRun = some s ∧
    s.main.main = .finished result ∧ refused.annotate "db" ∈ Err.members result ∧
    ∀ err ∈ Err.members result, Explained oneService refusedRun err := by
  -- The run is computed, and its one error is explained by the law.
  obtain ⟨s, reached, finished⟩ := (applicationMachine oneService).run_observe
    (.init oneService) refusedRun
    (fun s => s.main.main = .finished (Err.join [refused.annotate "db"])) (by decide +kernel)
  exact ⟨s, _, reached, finished, by simp,
    (application_result_explained oneService _ s _ reached finished).1⟩

end Bootkit

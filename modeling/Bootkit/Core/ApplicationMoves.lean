import Bootkit.Core.Application

/-! What one step of an application can do, and how far a service and the runner are apart. -/

namespace Bootkit

open Go

/-- The steps of an application, as a relation between states. -/
inductive ApplicationMove (runner : ApplicationRunner) (s : ApplicationState) :
    ApplicationLabel → ApplicationState → Prop
  | runner {label : RunLabel} {main : RunState} (own : label.shared = false)
      (taken : runStep runner s.main label = some main) :
    ApplicationMove runner s (.runner label) ⟨main, s.parts⟩
  | callStart {i : Nat} {main : RunState} {service : LifecycleState}
      (called : StartMove runner s.main i .call main)
      (entered : StarterMove true (s.parts i) 0 .enter service) :
    ApplicationMove runner s (.callStart i) ⟨main, update s.parts i service⟩
  | startReturns {i : Nat} {err : Option Err} {main : RunState}
      (returned : (s.parts i).starters 0 = .returned err)
      (moved : StartMove runner s.main i (.returns err) main) :
    ApplicationMove runner s (.startReturns i err) ⟨main, s.parts⟩
  | callStop {i : Nat} {main : RunState} {service : LifecycleState}
      (phase : s.main.main = .stopping (i + 1)) (moved : MainMove runner s.main .callStop main)
      (called : StopperMove (s.parts i) 0 .call service) :
    ApplicationMove runner s (.callStop i) ⟨main, update s.parts i service⟩
  | stopReturns {i start : Nat} {budget : Int} {err : Option Err} {main : RunState}
      (phase : s.main.main = .inStop i start budget)
      (returned : (s.parts i).stoppers 0 = .returned err)
      (moved : MainMove runner s.main (.stopReturns err) main) :
    ApplicationMove runner s (.stopReturns i err) ⟨main, s.parts⟩
  | announce {i : Nat} {service : LifecycleState}
      (announced : StarterMove true (s.parts i) 0 .announce service) :
    ApplicationMove runner s (.announce i)
      ⟨{ s.main with ready := update s.main.ready i true }, update s.parts i service⟩
  | deliver {i : Nat} {cause : Sentinel} {service : LifecycleState}
      (done : s.main.contexts (.service i) = some (.new cause))
      (phase : (s.parts i).starters 0 = .blocked) (live : (s.parts i).contexts 0 = none)
      (told : lifecycleStep true (s.parts i) (.cancel 0 cause) = some service) :
    ApplicationMove runner s (.deliver i cause) ⟨s.main, update s.parts i service⟩
  | service {i : Nat} {action : ServiceAction} {service : LifecycleState}
      (taken : lifecycleStep true (s.parts i) action.label = some service) :
    ApplicationMove runner s (.service i action) ⟨s.main, update s.parts i service⟩

/-- Every step of an application is one of its moves. -/
theorem applicationStep_move {runner : ApplicationRunner} {s next : ApplicationState}
    {label : ApplicationLabel} (taken : (applicationMachine runner).step s label = some next) :
    ApplicationMove runner s label next := by
  obtain ⟨agreed, main, parts⟩ := Wiring.composed_step taken
  obtain ⟨after, services⟩ := next
  -- Each label says who moves: the runner, one service, or both.
  cases label with
  | runner label =>
    obtain rfl := Wiring.advanceParts_unconcerned rfl parts
    exact .runner (by simpa [applicationWiring, ApplicationState.agree] using agreed) main
  | callStart i =>
    obtain ⟨service, entered, rfl⟩ := Wiring.advanceParts_concerned rfl parts
    exact .callStart (startStep_move main) (starterStep_move entered)
  | startReturns i err =>
    obtain rfl := Wiring.advanceParts_unconcerned rfl parts
    exact .startReturns (by simpa [applicationWiring, ApplicationState.agree] using agreed)
      (startStep_move main)
  | callStop i =>
    obtain ⟨service, called, rfl⟩ := Wiring.advanceParts_concerned rfl parts
    exact .callStop (by simpa [applicationWiring, ApplicationState.agree] using agreed)
      (mainStep_move main) (stopperStep_move called)
  | stopReturns i err =>
    obtain rfl := Wiring.advanceParts_unconcerned rfl parts
    simp only [applicationWiring, ApplicationState.agree, Bool.and_eq_true, decide_eq_true_eq]
      at agreed
    obtain ⟨inside, returned⟩ := agreed
    split at inside
    · rename_i j start budget phase
      obtain rfl : i = j := by simpa using inside
      exact .stopReturns phase returned (mainStep_move main)
    · cases inside
  | announce i =>
    obtain ⟨service, announced, rfl⟩ := Wiring.advanceParts_concerned rfl parts
    cases main
    exact .announce (starterStep_move announced)
  | deliver i cause =>
    obtain ⟨service, told, rfl⟩ := Wiring.advanceParts_concerned rfl parts
    cases main
    simp only [applicationWiring, ApplicationState.agree, Bool.and_eq_true, decide_eq_true_eq]
      at agreed
    exact .deliver agreed.1.1 agreed.1.2 agreed.2 told
  | service i action =>
    obtain ⟨service, stepped, rfl⟩ := Wiring.advanceParts_concerned rfl parts
    cases main
    exact .service stepped

/-- The lowest service whose `Stop` has returned to the runner. -/
def MainPhase.stopsThrough (services : Nat) : MainPhase → Nat
  | .stopping left => left
  | .inStop i _ _ => i + 1
  | .stopReturned i _ _ _ | .stopReported i _ _ _ | .stopCollected i _ _ => i
  | .finished _ => 0
  | _ => services

/-- What the runner knows of a service is where the calls on its lifecycle are. -/
structure SyncedAt (services : Nat) (main : RunState) (i : Nat) (service : LifecycleState) :
    Prop where
  uncalled : (main.starter i).called = none → service.starters 0 = .idle
  called : (main.starter i).called = some () → service.starters 0 ≠ .idle
  returned : ∀ err, (main.starter i).result = some err → service.starters 0 = .returned err
  unstopped : i < main.main.stopsCalled services → service.stoppers 0 = .idle
  stopping : main.main.stopsCalled services ≤ i → i < services → service.stoppers 0 ≠ .idle
  stopped : main.main.stopsThrough services ≤ i → i < services →
    ∃ err, service.stoppers 0 = .returned err
  -- The runner makes one call of `Stop` on each service it has.
  lone : ∀ k, k ≠ 0 → service.stoppers k = .idle
  absent : services ≤ i → service.stoppers 0 = .idle

/-- The runner is in step with every service. -/
def Synced (runner : ApplicationRunner) (s : ApplicationState) : Prop :=
  ∀ i, SyncedAt runner.services.length s.main i (s.parts i)

/-- Creating the readiness channel tells no call anything. -/
@[simp] theorem initReady_contexts (s : LifecycleState) : s.initReady.contexts = s.contexts := by
  -- The channel is made or it is there already.
  unfold LifecycleState.initReady
  split <;> rfl

/-- A step of a lifecycle that neither enters nor leaves a call as far as the runner can tell. -/
structure Inner (s next : LifecycleState) : Prop where
  startIdle : next.starters 0 = .idle ↔ s.starters 0 = .idle
  startReturned : ∀ err, s.starters 0 = .returned err → next.starters 0 = .returned err
  stopIdle : next.stoppers 0 = .idle ↔ s.stoppers 0 = .idle
  stopReturned : ∀ err, s.stoppers 0 = .returned err → next.stoppers 0 = .returned err
  lone : ∀ k, k ≠ 0 → next.stoppers k = s.stoppers k

/-- A call of `Start` that has been entered and not returned takes its steps inside. -/
theorem StarterMove.inner {s next : LifecycleState} {action : StarterAction}
    (moved : StarterMove true s 0 action next) (other : action ≠ .enter) : Inner s next := by
  -- Between its entry and its return a start neither becomes idle nor changes a result.
  obtain ⟨stoppers, -⟩ := moved.frame
  refine ⟨?_, ?_, by rw [stoppers], by simp [stoppers], by simp [stoppers]⟩
  · cases moved with
    | enter | unset => exact absurd rfl other
    | _ phase => simp [LifecycleState.setStarter, LifecycleState.invoke, phase]
  · intro err
    cases moved with
    | enter | unset => exact absurd rfl other
    | _ phase => simp [phase]

/-- A call of `Stop` that has been made and not returned takes its steps inside. -/
theorem StopperMove.inner {s next : LifecycleState} {action : StopperAction}
    (moved : StopperMove s 0 action next) (other : action ≠ .call) : Inner s next := by
  -- The same for a stop, between its call and its return.
  obtain ⟨starters, -⟩ := moved.frame
  refine ⟨by rw [starters], by simp [starters], ?_, ?_, fun k away => moved.others away⟩
  · cases moved with
    | call => exact absurd rfl other
    | _ phase => simp [LifecycleState.setStopper, LifecycleState.invoke, phase]
  · intro err
    cases moved with
    | call => exact absurd rfl other
    | _ phase => simp [phase]

/-- What a lifecycle does on its own is invisible to the runner. -/
theorem ServiceAction.inner {s next : LifecycleState} {action : ServiceAction}
    (taken : lifecycleStep true s action.label = some next) : Inner s next := by
  -- An action of a service is one of its first start, of its first stop, or the channel's.
  generalize same : action.label = label at taken
  cases label with
  | start k starter =>
    obtain ⟨rfl, other, -⟩ := action.label_start same
    exact (starterStep_move taken).inner other
  | stop k stopper =>
    obtain ⟨rfl, other⟩ := action.label_stop same
    exact (stopperStep_move taken).inner other
  | cancel k cause => cases action <;> simp [label] at same
  | ready =>
    cases taken
    obtain ⟨-, -, -, starters, stoppers, -⟩ := initReady_frame s
    exact ⟨by rw [starters], by simp, by rw [stoppers], by simp, by simp⟩

/-- A step of the runner that is no call on a service and no return keeps what it knows of it. -/
theorem SyncedAt.frame {services : Nat} {main next : RunState} {i : Nat}
    {service : LifecycleState} (synced : SyncedAt services main i service)
    (called : (next.starter i).called = (main.starter i).called)
    (result : (next.starter i).result = (main.starter i).result)
    (stopping : next.main.stopsCalled services ≤ i ↔ main.main.stopsCalled services ≤ i)
    (stopped : next.main.stopsThrough services ≤ i ↔ main.main.stopsThrough services ≤ i) :
    SyncedAt services next i service := by
  -- Each field depends on the runner through one of the four quantities that are the same.
  constructor
  · rw [called]; exact synced.uncalled
  · rw [called]; exact synced.called
  · rw [result]; exact synced.returned
  · rw [← Nat.not_le, stopping, Nat.not_le]; exact synced.unstopped
  · rw [stopping]; exact synced.stopping
  · rw [stopped]; exact synced.stopped
  · exact synced.lone
  · exact synced.absent

/-- A service's inner steps keep what the runner knows of it. -/
theorem SyncedAt.inner {services : Nat} {main : RunState} {i : Nat}
    {service next : LifecycleState} (synced : SyncedAt services main i service)
    (inner : Inner service next) : SyncedAt services main i next := by
  -- What the runner has seen of a service is kept by every step inside of it.
  constructor
  · exact fun none => inner.startIdle.mpr (synced.uncalled none)
  · exact fun some => mt inner.startIdle.mp (synced.called some)
  · exact fun err result => inner.startReturned err (synced.returned err result)
  · exact fun below => inner.stopIdle.mpr (synced.unstopped below)
  · exact fun above within => mt inner.stopIdle.mp (synced.stopping above within)
  · intro above within
    obtain ⟨err, returned⟩ := synced.stopped above within
    exact ⟨err, inner.stopReturned err returned⟩
  · exact fun k away => (inner.lone k away).trans (synced.lone k away)
  · exact fun past => inner.stopIdle.mpr (synced.absent past)

/-- A step of one service keeps the runner in step with all of them, if it does with that one. -/
theorem Synced.update {runner : ApplicationRunner} {s : ApplicationState} {main : RunState}
    {i : Nat} {service : LifecycleState}
    (moved : SyncedAt runner.services.length main i service)
    (others : ∀ j, j ≠ i → SyncedAt runner.services.length main j (s.parts j)) :
    Synced runner ⟨main, update s.parts i service⟩ := by
  -- One service is considered on its own, and the runner still agrees with the others.
  intro j
  by_cases same : j = i
  · subst same
    simpa using moved
  · simpa [same] using others j same

/-- A step of the runner in which no call on a service is made or returns. -/
structure Unshared (runner : ApplicationRunner) (s next : RunState) : Prop where
  called : ∀ i, (next.starter i).called = (s.starter i).called
  result : ∀ i, (next.starter i).result = (s.starter i).result
  stopsCalled : next.main.stopsCalled runner.services.length =
    s.main.stopsCalled runner.services.length
  stopsThrough : next.main.stopsThrough runner.services.length =
    s.main.stopsThrough runner.services.length
  returns : next.trace.filterMap RunEvent.stopReturn = s.trace.filterMap RunEvent.stopReturn

/-- A start goroutine outside its call of `Start` neither calls a service nor returns from one. -/
theorem StartMove.unshared {runner : ApplicationRunner} {s next : RunState} {i : Nat}
    {action : StartAction} (moved : StartMove runner s i action next)
    (own : (RunLabel.start i action).shared = false) : Unshared runner s next := by
  -- Neither step of a starter that is its own alone touches what the services see.
  cases moved with
  | call phase | returns phase => cases own
  | leave phase =>
    rw [RunState.record_eq]
    refine ⟨update_seen StartPhase.called (by rw [phase]; rfl),
      update_seen StartPhase.result (by rw [phase]; rfl), rfl, rfl, ?_⟩
    simp [RunState.emit]
  | report phase =>
    refine ⟨update_seen StartPhase.called (by rw [phase]; rfl),
      update_seen StartPhase.result (by rw [phase]; rfl), rfl, rfl, ?_⟩
    simp [RunState.emit]
  | cancel phase =>
    exact ⟨update_seen StartPhase.called (by rw [phase]; rfl),
      update_seen StartPhase.result (by rw [phase]; rfl), rfl, rfl, rfl⟩

/-- A readiness watcher neither calls a service nor returns from one. -/
theorem WatchMove.unshared {runner : ApplicationRunner} {s next : RunState} {i : Nat}
    {action : WatchAction} (moved : WatchMove runner s i action next) : Unshared runner s next := by
  -- A watcher writes to itself, to the group's error and to the trace.
  cases moved with
  | leave phase =>
    rw [RunState.record_eq]
    refine ⟨fun _ => rfl, fun _ => rfl, rfl, rfl, ?_⟩
    simp [RunState.emit]
  | _ phase => exact ⟨fun _ => rfl, fun _ => rfl, rfl, rfl, rfl⟩

/-- The main goroutine outside its calls of `Stop` neither calls a service nor returns from one. -/
theorem MainMove.unshared {runner : ApplicationRunner} {s next : RunState} {action : MainAction}
    (moved : MainMove runner s action next) (fresh : Launched runner s)
    (own : (RunLabel.main action).shared = false) : Unshared runner s next := by
  cases moved with
  | callStop phase | stopReturns phase => cases own
  | @launch i phase within =>
    -- The goroutine that the loop launches did not exist before.
    have new : s.starter i = .unlaunched := by
      rw [fresh.starters i, phase]
      exact Nat.le_refl i
    exact ⟨update_seen StartPhase.called (by rw [new]; rfl),
      update_seen StartPhase.result (by rw [new]; rfl), by rw [phase]; rfl, by rw [phase]; rfl, rfl⟩
  | report phase | collectLogged phase =>
    refine ⟨fun _ => rfl, fun _ => rfl, by rw [phase]; rfl, by rw [phase]; rfl, ?_⟩
    simp [RunState.emit]
  | _ phase =>
    exact ⟨fun _ => rfl, fun _ => rfl, by rw [phase]; rfl, by rw [phase]; rfl, rfl⟩

/-- The runner's own steps neither call a service nor return from one. -/
theorem runStep_unshared {runner : ApplicationRunner} {s next : RunState} {label : RunLabel}
    (fresh : Launched runner s) (own : label.shared = false)
    (taken : runStep runner s label = some next) : Unshared runner s next := by
  -- By whoever takes the step; what happens outside of the goroutines changes none of this.
  by_cases outside : label.outer = true
  · rw [runStep_outer outside taken]
    exact ⟨fun _ => rfl, fun _ => rfl, rfl, rfl, rfl⟩
  · cases label with
    | main action => exact (mainStep_move taken).unshared fresh own
    | start i action => exact (startStep_move taken).unshared own
    | watch i action => exact (watchStep_move taken).unshared
    | _ => simp [RunLabel.outer] at outside

/-- A new application has called nobody. -/
theorem synced_init (runner : ApplicationRunner) : Synced runner (.init runner) := by
  -- No service has been called.
  intro i
  constructor <;> simp [ApplicationState.init, RunState.init, newLifecycle,
    MainPhase.stopsCalled, MainPhase.stopsThrough]

/-- Calling `Start` puts the runner and the service inside that call together. -/
theorem synced_callStart {runner : ApplicationRunner} {s : ApplicationState} {i : Nat}
    {main : RunState} {service : LifecycleState}
    (called : StartMove runner s.main i .call main)
    (entered : StarterMove true (s.parts i) 0 .enter service) (synced : Synced runner s) :
    Synced runner ⟨main, update s.parts i service⟩ := by
  -- The starter and the service enter `Start` together, and no stop is touched.
  obtain ⟨stoppers, -⟩ := entered.frame
  cases called with
  | call phase =>
    apply Synced.update
    · have before := synced i
      refine ⟨?_, ?_, ?_, ?_, ?_, ?_, ?_, ?_⟩
      · simp [RunState.emit]
      · intro _
        cases entered with
        | enter idle set => simp [LifecycleState.setStarter]
        | unset idle missing => cases missing
      · simp [RunState.emit]
      · rw [stoppers]; exact before.unstopped
      · rw [stoppers]; exact before.stopping
      · rw [stoppers]; exact before.stopped
      · rw [stoppers]; exact before.lone
      · rw [stoppers]; exact before.absent
    · intro j other
      refine (synced j).frame ?_ ?_ Iff.rfl Iff.rfl <;> simp [RunState.emit, other]

/-- A `Start` returns to the runner what it returned. -/
theorem synced_startReturns {runner : ApplicationRunner} {s : ApplicationState} {i : Nat}
    {err : Option Err} {main : RunState} (returned : (s.parts i).starters 0 = .returned err)
    (moved : StartMove runner s.main i (.returns err) main) (synced : Synced runner s) :
    Synced runner ⟨main, s.parts⟩ := by
  -- The starter takes the result that its service has returned.
  cases moved with
  | @returns since _ phase =>
    intro j
    by_cases same : j = i
    · subst same
      have before := synced j
      refine ⟨by simp [RunState.emit], ?_, ?_, before.unstopped, before.stopping,
        before.stopped, before.lone, before.absent⟩
      · intro _
        simp [returned]
      · intro given known
        obtain rfl : err = given := by simpa [RunState.emit] using known
        exact returned
    · refine (synced j).frame ?_ ?_ Iff.rfl Iff.rfl <;> simp [RunState.emit, same]

/-- Calling `Stop` puts the runner and the service inside that call together. -/
theorem synced_callStop {runner : ApplicationRunner} {s : ApplicationState} {i : Nat}
    {main : RunState} {service : LifecycleState} (phase : s.main.main = .stopping (i + 1))
    (within : i < runner.services.length) (moved : MainMove runner s.main .callStop main)
    (called : StopperMove (s.parts i) 0 .call service) (synced : Synced runner s) :
    Synced runner ⟨main, update s.parts i service⟩ := by
  obtain ⟨starters, -⟩ := called.frame
  cases moved with
  | @callStop j known =>
    obtain rfl : i = j := by simpa [phase] using known
    rw [RunState.expire_eq]
    apply Synced.update
    · have before := synced i
      refine ⟨?_, ?_, ?_, ?_, ?_, ?_, ?_, fun past => absurd within (Nat.not_lt.mpr past)⟩
      · rw [starters]; exact before.uncalled
      · rw [starters]; exact before.called
      · rw [starters]; exact before.returned
      · simp [RunState.emit, MainPhase.stopsCalled]
      · intro _ _
        cases called
        simp [LifecycleState.setStopper]
      · intro above
        simp only [RunState.emit, MainPhase.stopsThrough] at above
        omega
      · intro k away
        rw [called.others away]
        exact before.lone k away
    · -- The loop has passed the services above, and has yet to reach those below.
      intro j other
      refine (synced j).frame rfl rfl ?_ ?_
      · simp only [RunState.emit, phase, MainPhase.stopsCalled]
        omega
      · simp only [RunState.emit, phase, MainPhase.stopsThrough]

/-- A `Stop` returns to the runner after it returned. -/
theorem synced_stopReturns {runner : ApplicationRunner} {s : ApplicationState} {i start : Nat}
    {budget : Int} {err : Option Err} {main : RunState}
    (phase : s.main.main = .inStop i start budget)
    (returned : (s.parts i).stoppers 0 = .returned err)
    (moved : MainMove runner s.main (.stopReturns err) main) (synced : Synced runner s) :
    Synced runner ⟨main, s.parts⟩ := by
  -- One more stop is through, the one whose service has returned.
  cases moved with
  | @stopReturns j _ _ _ known =>
    obtain ⟨rfl, rfl, rfl⟩ : i = j ∧ start = _ ∧ budget = _ := by simpa [phase] using known
    intro j
    have before := synced j
    refine ⟨before.uncalled, before.called, before.returned, ?_, ?_, ?_, before.lone,
      before.absent⟩
    · have unstopped := before.unstopped
      rw [phase] at unstopped
      exact unstopped
    · have stopping := before.stopping
      rw [phase] at stopping
      exact stopping
    · intro above within
      by_cases same : j = i
      · subst same
        exact ⟨err, returned⟩
      · refine before.stopped ?_ within
        simp only [RunState.emit, MainPhase.stopsThrough, phase] at above ⊢
        omega

/-- Every move of an application keeps the runner in step with its services. -/
theorem synced_move {runner : ApplicationRunner} {s next : ApplicationState}
    {label : ApplicationLabel} (moved : ApplicationMove runner s label next)
    (holds : RunInvariant runner s.main) (synced : Synced runner s) : Synced runner next := by
  cases moved with
  | runner own taken =>
    have quiet := runStep_unshared holds.fresh own taken
    intro i
    refine (synced i).frame (quiet.called i) (quiet.result i) ?_ ?_
    · rw [quiet.stopsCalled]
    · rw [quiet.stopsThrough]
  | callStart called entered => exact synced_callStart called entered synced
  | startReturns returned moved => exact synced_startReturns returned moved synced
  | callStop phase moved called =>
    have bound := holds.stops.bound
    rw [phase] at bound
    exact synced_callStop phase bound moved called synced
  | stopReturns phase returned moved => exact synced_stopReturns phase returned moved synced
  | @announce i service announced =>
    -- Announcing is an inner step, and the runner reads the channel in its watcher only.
    have quiet : ∀ j, SyncedAt runner.services.length
        { s.main with ready := update s.main.ready i true } j (s.parts j) :=
      fun j => (synced j).frame rfl rfl Iff.rfl Iff.rfl
    exact Synced.update ((quiet i).inner (announced.inner (by simp))) fun j other => quiet j
  | @deliver i cause service done phase live told =>
    cases told
    refine Synced.update ((synced i).inner ?_) fun j other => synced j
    exact ⟨Iff.rfl, fun _ same => same, Iff.rfl, fun _ same => same, fun _ _ => rfl⟩
  | @service i action service taken =>
    exact Synced.update ((synced i).inner (ServiceAction.inner taken)) fun j other => synced j

/-- In every state of an application the runner is in step with its services. -/
theorem synced_run {runner : ApplicationRunner} {labels : List ApplicationLabel}
    {s : ApplicationState}
    (reached : (applicationMachine runner).run (.init runner) labels = some s) :
    Synced runner s := by
  -- A new application is in step, and every step keeps it so.
  refine (applicationMachine runner).run_history (fun _ s => Synced runner s)
    (synced_init runner) ?_ labels s reached
  intro labels s label next prior synced taken
  exact synced_move (applicationStep_move taken) (application_runInvariant prior) synced

end Bootkit

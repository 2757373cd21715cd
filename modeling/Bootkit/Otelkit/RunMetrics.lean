import Bootkit.Otelkit.Hooks

/-! What the start and stop measurements of a whole run account for. -/

namespace Bootkit

open Go

/-- Whether an event is a call of one of the runner's hooks. -/
def RunEvent.hook : RunEvent → Bool
  | .onComponentStart _ _ _ _ | .onComponentStop _ _ _ _ => true
  | _ => false

/-- What a step shows to an observer, in detail where a hook is called. -/
inductive Shows (runner : ApplicationRunner) (s : RunState) : RunLabel → RunEvent → Prop
  | start {i since : Nat} {err : Option Err} (phase : s.starter i = .returned since err) :
    Shows runner s (.start i .report)
      (.onComponentStart i (runner.nameOf i) (s.now - since) err)
  | stop {i start : Nat} {budget : Int} {err : Option Err}
      (phase : s.main = .stopReturned i start budget err) :
    Shows runner s (.main .report) (.onComponentStop i (runner.nameOf i) (s.now - start) err)
  | other {label : RunLabel} {event : RunEvent} (silent : event.hook = false) :
    Shows runner s label event

/-- A step of a run shows at most one event. -/
theorem runStep_shows {runner : ApplicationRunner} {s next : RunState} {label : RunLabel}
    (taken : runStep runner s label = some next) :
    next.trace = s.trace ∨
      ∃ event, next.trace = s.trace ++ [event] ∧ Shows runner s label event := by
  -- By whoever takes the step; only the two reports show a measurement.
  by_cases outside : label.outer = true
  · rw [runStep_outer outside taken]
    exact .inl rfl
  · cases label with
    | main action =>
      have moved : MainMove runner s action next := mainStep_move taken
      cases moved with
      | callStop phase =>
        rw [RunState.expire_eq]
        exact .inr ⟨_, rfl, .other rfl⟩
      | stopReturns phase => exact .inr ⟨_, rfl, .other rfl⟩
      | report phase => exact .inr ⟨_, rfl, .stop phase⟩
      | collectLogged phase logs => exact .inr ⟨_, rfl, .other rfl⟩
      | _ => exact .inl rfl
    | start i action =>
      have moved : StartMove runner s i action next := startStep_move taken
      cases moved with
      | call phase | returns phase => exact .inr ⟨_, rfl, .other rfl⟩
      | report phase => exact .inr ⟨_, rfl, .start phase⟩
      | cancel phase => exact .inl rfl
      | leave phase =>
        rw [RunState.record_eq]
        exact .inr ⟨_, rfl, .other rfl⟩
    | watch i action =>
      have moved : WatchMove runner s i action next := watchStep_move taken
      cases moved with
      | leave phase =>
        rw [RunState.record_eq]
        exact .inr ⟨_, rfl, .other rfl⟩
      | _ => exact .inl rfl
    | _ => simp [RunLabel.outer] at outside

/-- A hook is told the name of the service that it is about. -/
def RunEvent.Named (runner : ApplicationRunner) : RunEvent → Prop
  | .onComponentStart i name _ _ | .onComponentStop i name _ _ => name = runner.nameOf i
  | _ => True

/-- Every hook of a run was told the name of the service that it is about. -/
theorem named_run {runner : ApplicationRunner} {labels : List RunLabel} {s : RunState}
    (reached : (runMachine runner).run (RunState.init runner) labels = some s) :
    ∀ event ∈ s.trace, event.Named runner := by
  -- An event is named when it is shown, by the step that shows it.
  have initial : ∀ event ∈ (RunState.init runner).trace, event.Named runner := by
    simp [RunState.init]
  have keeps : ∀ s label next, (∀ event ∈ s.trace, RunEvent.Named runner event) →
      (runMachine runner).step s label = some next →
      ∀ event ∈ next.trace, RunEvent.Named runner event := by
    intro s label next holds taken
    rcases runStep_shows taken with same | ⟨event, grown, shows⟩
    · rw [same]
      exact holds
    · rw [grown]
      intro other member
      rcases List.mem_append.mp member with old | new
      · exact holds other old
      · rw [List.mem_singleton.mp new]
        cases shows with
        | start phase | stop phase => rfl
        | other silent => cases event <;> trivial
  exact (runMachine runner).run_invariant initial keeps reached

/-- The service whose start was reported. -/
@[simp] def RunEvent.startHook : RunEvent → Option Nat
  | .onComponentStart i _ _ _ => some i
  | _ => none

/-- How often the start of a service was reported is how many reports are its own. -/
theorem count_startHook (i : Nat) (trace : List RunEvent) :
    (trace.filterMap RunEvent.startHook).count i =
      (trace.filterMap (RunEvent.startHookOf i)).length := by
  -- The two projections agree event by event.
  induction trace with
  | nil => rfl
  | cons event rest ih =>
    cases event with
    | onComponentStart j name duration err =>
      by_cases same : i = j
      · subst same
        simp [ih]
      · simp [ih, same, Ne.symm same]
    | _ => exact ih

/-- When `Run` has returned, the start of every service was reported once. -/
theorem starts_reported {runner : ApplicationRunner} {s : RunState} {result : Option Err}
    (invariant : RunInvariant runner s) (finished : s.main = .finished result) :
    (s.trace.filterMap RunEvent.startHook).Perm (List.range runner.services.length) := by
  rw [List.perm_iff_count]
  intro i
  rw [count_startHook, invariant.starts.hooks i, List.nodup_range.count]
  -- A goroutine of a registered service is done, and there is no other goroutine.
  by_cases within : i < runner.services.length
  · obtain ⟨err, done⟩ :=
      (invariant.quiet (shutting_of_finished finished)).starters i within
    simp [done, within]
  · have absent : s.starter i = .unlaunched := by
      rw [invariant.fresh.starters i, finished]
      exact Nat.le_of_not_lt within
    simp [absent, within]

/-- The names of the services in registration order. -/
theorem range_nameOf (runner : ApplicationRunner) :
    (List.range runner.services.length).map runner.nameOf =
      runner.services.map Component.name := by
  -- A service's number is its place in the list.
  apply List.ext_getElem (by simp)
  intro i left right
  have within : i < runner.services.length := by simpa using left
  simp [ApplicationRunner.nameOf, within]

section Recorded

variable {runner : ApplicationRunner} {trace : List RunEvent}

/-- The start measurements carry the names of the services whose starts were reported. -/
theorem startMeasurements_component (named : ∀ event ∈ trace, event.Named runner) :
    (trace.filterMap RunEvent.startMeasurement).map Measurement.component =
      (trace.filterMap RunEvent.startHook).map fun i => some (.string (runner.nameOf i)) := by
  -- Each measurement has the name of its event, which is the service's.
  rw [List.map_filterMap, List.map_filterMap]
  apply List.filterMap_congr
  intro event member
  have named := named event member
  cases event with
  | onComponentStart i name duration err =>
    obtain rfl : name = runner.nameOf i := named
    simp
  | _ => rfl

/-- The stop measurements carry the names of the services whose stops were reported. -/
theorem stopMeasurements_component (named : ∀ event ∈ trace, event.Named runner) :
    (trace.filterMap RunEvent.stopMeasurement).map Measurement.component =
      ((trace.filterMap RunEvent.stopHook).map Prod.fst).map
        fun i => some (.string (runner.nameOf i)) := by
  -- Each measurement has the name of its event, which is the service's.
  rw [List.map_filterMap, List.map_filterMap, List.map_filterMap]
  apply List.filterMap_congr
  intro event member
  have named := named event member
  cases event with
  | onComponentStop i name duration err =>
    obtain rfl : name = runner.nameOf i := named
    simp
  | _ => rfl

/-- A measurement and an error tell of the same failed stop: the error says the same name. -/
def SameStop (measurement : Measurement) (err : Err) : Prop :=
  ∃ name cause, measurement.component = some (.string name) ∧
    err = .wrap (name ++ ": shutdown error: " ++ cause.text) [cause]

/-- The failed stops that were recorded are, one by one, the ones that were collected. -/
theorem failedStops_collected (named : ∀ event ∈ trace, event.Named runner) :
    List.Forall₂ SameStop
      ((trace.filterMap RunEvent.stopMeasurement).filter Measurement.failed)
      ((trace.filterMap RunEvent.stopHook).filterMap (stopFailure runner)) := by
  induction trace with
  | nil => exact .nil
  | cons event rest ih =>
    have later := ih fun other member => named other (List.mem_cons_of_mem _ member)
    cases event with
    | onComponentStop i name duration err =>
      obtain rfl : name = runner.nameOf i := named _ List.mem_cons_self
      -- A stop that succeeded is neither recorded as failed nor collected.
      cases err with
      | none => simpa [List.filterMap_cons, stopFailure] using later
      | some cause =>
        have both := List.Forall₂.cons
          (⟨runner.nameOf i, cause, rfl, rfl⟩ : SameStop
            (componentMeasurement (runner.nameOf i) duration (some cause))
            (shutdownErr (runner.nameOf i) cause)) later
        simpa [List.filterMap_cons, stopFailure] using both
    | _ => exact later

end Recorded

/--
When `Run` has returned, every service has one start measurement and one stop measurement, the stop
measurements stand in reverse registration order, and the failed ones among them are one by one the
shutdown errors in what `Run` returned.
-/
theorem metrics_account_for_run (runner : ApplicationRunner) (labels : List RunLabel)
    (s : RunState) (result : Option Err) (refuses : String → Option Err) (hooks : OTelHooks)
    (created : newHooks refuses = .ok hooks)
    (reached : (runMachine runner).run (RunState.init runner) labels = some s)
    (finished : s.main = .finished result) :
    ((s.trace.foldl OTelHooks.observe hooks).startDuration.map Measurement.component).Perm
        (runner.services.map fun service => some (.string service.name)) ∧
      (s.trace.foldl OTelHooks.observe hooks).stopDuration.map Measurement.component =
        (runner.services.map fun service => some (.string service.name)).reverse ∧
      ∃ (startErr : Option Err) (shutdownErrs : List Err),
        Err.members result = startErr.toList ++ shutdownErrs ∧
        List.Forall₂ SameStop
          ((s.trace.foldl OTelHooks.observe hooks).stopDuration.filter Measurement.failed)
          shutdownErrs := by
  have invariant := runInvariant_run reached
  have named := named_run reached
  have names : (runner.services.map fun service => some (AttributeValue.string service.name)) =
      (List.range runner.services.length).map fun i => some (.string (runner.nameOf i)) := by
    have listed := congrArg (List.map fun name => some (AttributeValue.string name))
      (range_nameOf runner)
    simpa [List.map_map, Function.comp_def] using listed.symm
  obtain rfl := newHooks_unused created
  rw [observe_starts, observe_stops, names, OTelHooks.unused, List.nil_append, List.nil_append]
  refine ⟨?_, ?_, s.startErr, s.shutdownErrs, ?_, ?_⟩
  · rw [startMeasurements_component named]
    exact (starts_reported invariant finished).map _
  · -- At the end the loop has come all the way down.
    rw [stopMeasurements_component named, invariant.stops.hooks, finished, MainPhase.stopsHooked,
      descending_zero, List.map_reverse]
  · rw [invariant.joins result finished, Err.members_join]
  · have errors := invariant.stops.errors
    simp only [finished, MainPhase.uncollected, List.append_nil] at errors
    rw [errors]
    exact failedStops_collected named

/-- A failed stop is recorded under the name of its service, and every service is recorded. -/
theorem metrics_account_for_two : ∃ s,
    (runMachine twoServices).run (RunState.init twoServices) (launchLabels 2 ++
      startLabels 0 none ++ startLabels 1 none ++ stopLabels [some refused, none]) = some s ∧
    s.main = .finished (some cacheNotStopped) ∧
    (s.trace.foldl OTelHooks.observe .unused).stopDuration.map Measurement.component =
      [some (.string "cache"), some (.string "db")] ∧
    ∃ (startErr : Option Err) (shutdownErrs : List Err),
      [.wrap "cache: shutdown error: connection refused" [refused]] =
        startErr.toList ++ shutdownErrs ∧
      List.Forall₂ SameStop
        ((s.trace.foldl OTelHooks.observe .unused).stopDuration.filter Measurement.failed)
        shutdownErrs := by
  -- The run is computed to its end, and the law is read there.
  obtain ⟨s, reached, finished⟩ := (runMachine twoServices).run_observe (RunState.init twoServices)
    (launchLabels 2 ++ startLabels 0 none ++ startLabels 1 none ++ stopLabels [some refused, none])
    (fun s => s.main = .finished (some cacheNotStopped)) (by decide +kernel)
  have law := metrics_account_for_run twoServices _ s _ (fun _ => none) .unused rfl
    reached finished
  exact ⟨s, reached, finished, law.2⟩

end Bootkit

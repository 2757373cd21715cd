import Bootkit.Core.ApplicationReleases
import Bootkit.Core.RunnerContexts
import Bootkit.Otelkit.RunMetrics
import Mathlib.Algebra.GroupWithZero.Nat

/-! What the start measurements of an application measure: not a startup, but a whole service. -/

namespace Bootkit

open Go

/-- The time that passes with a label of a run. -/
def RunLabel.time : RunLabel → Nat
  | .tick d => d
  | _ => 0

/-- The time that passes with a label of an application. -/
def ApplicationLabel.time : ApplicationLabel → Nat
  | .runner label => label.time
  | _ => 0

/-- The time that passes along the steps of an application. -/
def elapsed (labels : List ApplicationLabel) : Nat :=
  (labels.map ApplicationLabel.time).sum

/-- Time adds up along a run. -/
@[simp] theorem elapsed_append (first second : List ApplicationLabel) :
    elapsed (first ++ second) = elapsed first + elapsed second := by
  simp [elapsed]

/-- One label takes its time before the rest. -/
@[simp] theorem elapsed_cons (label : ApplicationLabel) (rest : List ApplicationLabel) :
    elapsed (label :: rest) = label.time + elapsed rest := by
  simp [elapsed]

/-- When `Start` was called, until the hook is told about it. -/
def StartPhase.since : StartPhase → Option Nat
  | .running since | .returned since _ => some since
  | _ => none

/-- What a step of a run does to the times at which services were started. -/
structure RunClock (s : RunState) (label : RunLabel) (next : RunState) : Prop where
  now : next.now = s.now + label.time
  since : ∀ i since, (next.starter i).since = some since →
    (s.starter i).since = some since ∨ (since = s.now ∧ label = .start i .call)
  -- A report tells how long ago the call was.
  hooked : ∀ i, (next.starter i).hooked ≠ none → (s.starter i).hooked ≠ none ∨
    (label = .start i .report ∧ ∃ since name err, (s.starter i).since = some since ∧
      RunEvent.onComponentStart i name (s.now - since) err ∈ next.trace)
  trace : ∀ event ∈ s.trace, event ∈ next.trace

/-- A step that moves no start goroutine leaves their times alone. -/
theorem RunClock.still {s next : RunState} {label : RunLabel}
    (now : next.now = s.now + label.time) (trace : ∀ event ∈ s.trace, event ∈ next.trace)
    (starter : next.starter = s.starter) : RunClock s label next where
  -- No starter has moved.
  now := now
  since := fun _ _ known => .inl (starter ▸ known)
  hooked := fun _ told => .inl (starter ▸ told)
  trace := trace

/-- A start goroutine keeps the time of its call until it reports. -/
theorem StartMove.clock {runner : ApplicationRunner} {s next : RunState} {i : Nat}
    {action : StartAction} (moved : StartMove runner s i action next)
    (trace : ∀ event ∈ s.trace, event ∈ next.trace) : RunClock s (.start i action) next := by
  -- A starter notes the time at its call and tells the hook at its report.
  have others : ∀ j, j ≠ i → next.starter j = s.starter j := by
    intro j other
    cases moved with
    | leave phase =>
      rw [RunState.record_eq]
      simp [RunState.emit, other]
    | _ phase => simp [RunState.emit, RunState.cancel, other]
  have now : next.now = s.now := by
    cases moved with
    | leave phase => rw [RunState.record_eq]; rfl
    | _ => rfl
  refine ⟨now, ?_, ?_, trace⟩
  · intro j since known
    by_cases same : j = i
    · subst same
      cases moved with
      | call phase =>
        obtain rfl : s.now = since := by simpa [RunState.emit, StartPhase.since] using known
        exact .inr ⟨rfl, rfl⟩
      | returns phase =>
        left
        simpa [RunState.emit, StartPhase.since, phase] using known
      | leave phase =>
        rw [RunState.record_eq] at known
        simp [RunState.emit, StartPhase.since] at known
      | _ phase => simp [RunState.emit, RunState.cancel, StartPhase.since] at known
    · exact .inl (others j same ▸ known)
  · -- Only the report puts a starter among those that have told.
    intro j told
    by_cases same : j = i
    · subst same
      cases moved with
      | call phase | returns phase => simp [RunState.emit] at told
      | report phase =>
        exact .inr ⟨rfl, _, _, _, by rw [phase]; rfl,
          List.mem_append_right _ (List.mem_singleton_self _)⟩
      | cancel phase | leave phase => simp [phase]
    · exact .inl (others j same ▸ told)

/-- What the main goroutine does to the others is to launch them. -/
theorem MainMove.starters {runner : ApplicationRunner} {s next : RunState} {action : MainAction}
    (moved : MainMove runner s action next) :
    next.now = s.now ∧ ∀ i, next.starter i = s.starter i ∨ next.starter i = .launched := by
  -- The main goroutine touches a starter only to launch it.
  cases moved with
  | @launch i phase within =>
    refine ⟨rfl, ?_⟩
    intro j
    by_cases same : j = i
    · subst same
      exact .inr (update_self _ _ _)
    · exact .inl (update_other _ _ same)
  | callStop phase =>
    rw [RunState.expire_eq]
    exact ⟨rfl, fun i => .inl rfl⟩
  | _ => exact ⟨rfl, fun i => .inl rfl⟩

/-- Every step of a run keeps the times at which services were started. -/
theorem runStep_clock {runner : ApplicationRunner} {s next : RunState} {label : RunLabel}
    (taken : runStep runner s label = some next) : RunClock s label next := by
  -- Time passes outside of the goroutines; only the starters note it.
  have trace : ∀ event ∈ s.trace, event ∈ next.trace := by
    intro event member
    rcases runStep_shows taken with same | ⟨added, grown, -⟩
    · rwa [same]
    · rw [grown]
      exact List.mem_append_left _ member
  by_cases outside : label.outer = true
  · refine .still ?_ trace (by rw [runStep_outer outside taken])
    cases label with
    | tick d =>
      cases taken
      rw [RunState.expire_eq]
      rfl
    | cancelCaller cause | becomeReady i =>
      cases taken
      rfl
    | signal =>
      simp only [runStep] at taken
      split at taken <;> cases taken
      rfl
    | _ => simp [RunLabel.outer] at outside
  · cases label with
    | main action =>
      obtain ⟨now, launched⟩ := (mainStep_move taken).starters
      refine ⟨now, ?_, ?_, trace⟩
      · intro i since known
        rcases launched i with same | new
        · exact .inl (same ▸ known)
        · simp [new, StartPhase.since] at known
      · intro i told
        rcases launched i with same | new
        · exact .inl (same ▸ told)
        · simp [new] at told
    | start i action => exact (startStep_move taken).clock trace
    | watch i action =>
      have moved : WatchMove runner s i action next := watchStep_move taken
      refine .still ?_ trace ?_
      · exact moved.group.main_now.2
      · cases moved with
        | leave phase => rw [RunState.record_eq]; rfl
        | _ => rfl
    | _ => simp [RunLabel.outer] at outside

/-- What a step of an application does to the times at which its services were started. -/
structure ApplicationClock (s : ApplicationState) (label : ApplicationLabel)
    (next : ApplicationState) : Prop where
  now : next.main.now = s.main.now + label.time
  since : ∀ i since, (next.main.starter i).since = some since →
    (s.main.starter i).since = some since ∨
      (since = s.main.now ∧ (s.parts i).starters 0 = .idle)
  hooked : ∀ i, (next.main.starter i).hooked ≠ none → (s.main.starter i).hooked ≠ none ∨
    (label = .runner (.start i .report) ∧ ∃ since name err,
      (s.main.starter i).since = some since ∧
      RunEvent.onComponentStart i name (s.main.now - since) err ∈ next.main.trace)
  trace : ∀ event ∈ s.main.trace, event ∈ next.main.trace
  entered : ∀ i, (s.parts i).starters 0 ≠ .idle → (next.parts i).starters 0 ≠ .idle

/-- A call of `Start` that was entered never becomes one that was not. -/
theorem lifecycleStep_entered {s next : LifecycleState} {label : LifecycleLabel} {k : Nat}
    (taken : lifecycleStep true s label = some next) (entered : s.starters k ≠ .idle) :
    next.starters k ≠ .idle := by
  -- No step leads back to the idle phase.
  cases label with
  | start j action =>
    have moved : StarterMove true s j action next := starterStep_move taken
    by_cases same : k = j
    · subst same
      cases moved <;> simp_all [LifecycleState.setStarter, LifecycleState.invoke]
    · rw [moved.others same]
      exact entered
  | stop j action =>
    have moved : StopperMove s j action next := stopperStep_move taken
    obtain ⟨starters, -⟩ := moved.frame
    rw [starters]
    exact entered
  | cancel j cause =>
    cases taken
    exact entered
  | ready =>
    cases taken
    obtain ⟨-, -, -, starters, -⟩ := initReady_frame s
    rw [starters]
    exact entered

/-- Every step of an application keeps the times at which its services were started. -/
theorem applicationStep_clock {runner : ApplicationRunner} {s next : ApplicationState}
    {label : ApplicationLabel} (taken : (applicationMachine runner).step s label = some next) :
    ApplicationClock s label next := by
  obtain ⟨agreed, main, parts⟩ := Wiring.composed_step taken
  have entered : ∀ i, (s.parts i).starters 0 ≠ .idle → (next.parts i).starters 0 ≠ .idle := by
    intro i entered
    have advanced := Wiring.advanceParts_at parts i
    cases concerns : applicationWiring.partAt i label with
    | none =>
      have same : s.parts i = next.parts i := by simpa [concerns] using advanced
      rw [← same]
      exact entered
    | some inner =>
      rw [concerns] at advanced
      exact lifecycleStep_entered advanced entered
  cases own : label.toRunner with
  | none =>
    -- What is no step of the runner leaves its clock and its goroutines alone.
    have still : s.main = next.main := by simpa [applicationWiring, own] using main
    have untimed : label.time = 0 := by
      cases label <;> first | rfl | cases own
    refine ⟨by rw [untimed, still]; rfl, ?_, ?_, ?_, entered⟩
    · exact fun _ _ known => .inl (still ▸ known)
    · exact fun _ told => .inl (still ▸ told)
    · exact fun _ member => still ▸ member
  | some inner =>
    have stepped : runStep runner s.main inner = some next.main := by
      simpa [applicationWiring, own, runMachine] using main
    have clock := runStep_clock stepped
    have timed : label.time = inner.time := by
      cases label <;> cases own <;> rfl
    refine ⟨by rw [timed]; exact clock.now, ?_, ?_, clock.trace, entered⟩
    · intro i since known
      rcases clock.since i since known with same | ⟨same, rfl⟩
      · exact .inl same
      · -- The runner calls `Start` only together with the service.
        refine .inr ⟨same, ?_⟩
        have moved := applicationStep_move taken
        cases moved with
        | runner unshared => cases own; cases unshared
        | callStart called enters =>
          cases own
          cases enters <;> assumption
        | _ => cases own
    · intro i told
      rcases clock.hooked i told with earlier | ⟨rfl, reported⟩
      · exact .inl earlier
      · refine .inr ⟨?_, reported⟩
        cases label <;> cases own
        rfl

/-- How long the services of an application have been up, as far as its runner has told. -/
structure Uptime (labels : List ApplicationLabel) (s : ApplicationState) : Prop where
  clock : s.main.now = elapsed labels
  past : ∀ i since, (s.main.starter i).since = some since → since ≤ s.main.now
  entered : ∀ i, ApplicationLabel.announce i ∈ labels → (s.parts i).starters 0 ≠ .idle
  -- A service is ready only after its `Start` was called.
  called : ∀ i before rest since, labels = before ++ .announce i :: rest →
    (s.main.starter i).since = some since → since ≤ elapsed before
  -- The hook is told no less than the time from readiness to the end of the context.
  told : ∀ i before middle after cause,
    labels = before ++ .announce i :: (middle ++ .deliver i cause :: after) →
    (s.main.starter i).hooked ≠ none → ∃ name duration err,
      RunEvent.onComponentStart i name duration err ∈ s.main.trace ∧ elapsed middle ≤ duration

/-- Every step of an application keeps account of the time its services are up. -/
theorem uptime_step {runner : ApplicationRunner} {labels : List ApplicationLabel}
    {s next : ApplicationState} {label : ApplicationLabel} (synced : Synced runner s)
    (taken : (applicationMachine runner).step s label = some next) (holds : Uptime labels s) :
    Uptime (labels ++ [label]) next := by
  have step := applicationStep_clock taken
  have moved := applicationStep_move taken
  refine ⟨?_, ?_, ?_, ?_, ?_⟩
  · rw [step.now, holds.clock]
    simp [elapsed]
  · intro i since known
    rw [step.now]
    rcases step.since i since known with earlier | ⟨rfl, -⟩
    · have bound := holds.past i since earlier
      omega
    · omega
  · intro i announced
    rcases List.mem_append.mp announced with old | new
    · exact step.entered i (holds.entered i old)
    · obtain rfl := (List.mem_singleton.mp new).symm
      apply step.entered i
      cases moved with
      | announce announces => cases announces <;> simp_all
  · intro i before rest since split known
    rcases step.since i since known with earlier | ⟨-, idle⟩
    · rcases split_concat split with ⟨rfl, -, -⟩ | ⟨shorter, -, old⟩
      · rw [← holds.clock]
        exact holds.past i since earlier
      · exact holds.called i before shorter since old earlier
    · -- A service that was only now called has not announced anything.
      exfalso
      rcases split_concat split with ⟨-, rfl, -⟩ | ⟨shorter, -, rfl⟩
      · cases moved with
        | announce announces => cases announces <;> simp_all
      · exact holds.entered i (by simp) idle
  · intro i before middle after cause split told
    rcases split_concat split with ⟨-, -, empty⟩ | ⟨shorter, ends, old⟩
    · simp at empty
    rcases split_concat ends.symm with ⟨rfl, rfl, rfl⟩ | ⟨later, rfl, rfl⟩
    · -- The context ends while `Start` is blocked, so that nothing was reported yet.
      exfalso
      rcases step.hooked i told with earlier | ⟨other, -⟩
      · cases moved with
        | deliver done phase live tells =>
          obtain ⟨err, hooked⟩ := Option.ne_none_iff_exists'.mp earlier
          have returned := (synced i).returned err (by cases h : s.main.starter i <;> simp_all)
          simp [phase] at returned
      · cases other
    · rcases step.hooked i told with earlier | ⟨-, since, name, err, known, reported⟩
      · obtain ⟨name, duration, err, member, bound⟩ :=
          holds.told i before middle later cause old earlier
        exact ⟨name, duration, err, step.trace _ member, bound⟩
      · refine ⟨name, _, err, reported, ?_⟩
        have called := holds.called i before _ since old known
        have clock := holds.clock
        rw [old] at clock
        simp only [elapsed_append, elapsed_cons] at clock
        omega

/-- Along every run of an application account is kept of the time its services are up. -/
theorem uptime_run {runner : ApplicationRunner} {labels : List ApplicationLabel}
    {s : ApplicationState}
    (reached : (applicationMachine runner).run (.init runner) labels = some s) :
    Uptime labels s := by
  -- Nothing has begun, and every step keeps the account.
  refine (applicationMachine runner).run_history Uptime ?_ ?_ labels s reached
  · constructor <;> simp [ApplicationState.init, RunState.init, elapsed, StartPhase.since]
  · intro labels s label next prior holds taken
    exact uptime_step (synced_run prior) taken holds

/-- No `Start` of a service of an application returns nil. -/
theorem start_returns_error {runner : ApplicationRunner} {labels : List ApplicationLabel}
    {s : ApplicationState}
    (reached : (applicationMachine runner).run (.init runner) labels = some s) {i : Nat}
    (within : i < runner.services.length) : (s.parts i).starters 0 ≠ .returned none := by
  refine (applicationMachine runner).run_history
    (fun _ s => (s.parts i).starters 0 ≠ .returned none) (by simp [ApplicationState.init,
      newLifecycle]) ?_ labels s reached
  intro labels s label next prior holds taken
  have parts := Wiring.advanceParts_at (Wiring.composed_step taken).2.2 i
  cases concerns : applicationWiring.partAt i label with
  | none =>
    have same : s.parts i = next.parts i := by simpa [concerns] using parts
    rw [← same]
    exact holds
  | some inner =>
    have stepped : lifecycleStep true (s.parts i) inner = some (next.parts i) := by
      simpa [concerns, lifecycleMachine] using parts
    cases inner with
    | start k action =>
      have moved : StarterMove true (s.parts i) k action (next.parts i) :=
        starterStep_move stepped
      by_cases same : 0 = k
      · subst same
        -- Only the two branches that clean up can return nil, and neither is ever taken.
        obtain ⟨cleaning, spurned⟩ := never_overtaken prior within
        intro returned
        generalize next.parts i = service at moved returned
        cases moved with
        | skip phase => exact spurned _ phase
        | cleaned phase => exact cleaning _ phase
        | _ phase => simp [LifecycleState.setStarter, LifecycleState.invoke] at returned
      · rw [moved.others same]
        exact holds
    | stop k action =>
      obtain ⟨starters, -⟩ := (stopperStep_move stepped).frame
      rw [starters]
      exact holds
    | cancel k cause =>
      have same : (next.parts i).starters = (s.parts i).starters := by
        rw [← Option.some.inj stepped]
      rw [same]
      exact holds
    | ready =>
      obtain ⟨-, -, -, starters, -⟩ := initReady_frame (s.parts i)
      rw [← Option.some.inj stepped, starters]
      exact holds

/--
The start measurements of an application report every service as failed, whatever `Run` returns,
and measure how long the service was up: at least the time from its readiness to the end of its
context.
-/
theorem start_metrics_measure_uptime (runner : ApplicationRunner)
    (labels : List ApplicationLabel) (s : ApplicationState) (result : Option Err)
    (refuses : String → Option Err) (hooks : OTelHooks) (created : newHooks refuses = .ok hooks)
    (reached : (applicationMachine runner).run (.init runner) labels = some s)
    (finished : s.main.main = .finished result) :
    (∀ measurement ∈ (s.main.trace.foldl OTelHooks.observe hooks).startDuration,
        measurement.failed = true) ∧
      ∀ i before middle after cause, i < runner.services.length →
        labels = before ++ .announce i :: (middle ++ .deliver i cause :: after) →
        ∃ measurement ∈ (s.main.trace.foldl OTelHooks.observe hooks).startDuration,
          measurement.component = some (.string (runner.nameOf i)) ∧
          milliseconds (elapsed middle) ≤ measurement.value := by
  have invariant := application_runInvariant reached
  obtain rfl := newHooks_unused created
  rw [observe_starts, OTelHooks.unused, List.nil_append]
  constructor
  · intro measurement member
    obtain ⟨event, shown, measured⟩ := List.mem_filterMap.mp member
    cases event with
    | onComponentStart i name duration err =>
      obtain rfl : componentMeasurement name duration err = measurement := by simpa using measured
      -- What the hook was told is what the service returned.
      have hooked : (s.main.starter i).hooked = some err := by
        have own : err ∈ s.main.trace.filterMap (RunEvent.startHookOf i) :=
          List.mem_filterMap.mpr ⟨_, shown, by simp⟩
        rw [invariant.starts.hooks i] at own
        simpa using own
      have within : i < runner.services.length := by
        by_contra outside
        have absent : s.main.starter i = .unlaunched := by
          rw [invariant.fresh.starters i, finished]
          exact Nat.le_of_not_lt outside
        simp [absent] at hooked
      have returned := (synced_run reached i).returned err
        (by cases h : s.main.starter i <;> simp_all)
      have real := start_returns_error reached within
      cases err with
      | none => exact absurd returned real
      | some cause => simp
    | _ => simp at measured
  · intro i before middle after cause within split
    obtain ⟨err, done⟩ := (invariant.quiet (shutting_of_finished finished)).starters i within
    obtain ⟨name, duration, err, member, bound⟩ :=
      (uptime_run reached).told i before middle after cause split (by simp [done])
    obtain rfl : name = runner.nameOf i := named_run (application_runner_run reached) _ member
    refine ⟨_, List.mem_filterMap.mpr ⟨_, member, rfl⟩, rfl, ?_⟩
    show (elapsed middle : Int).tdiv millisecond ≤ (duration : Int).tdiv millisecond
    exact Int.tdiv_le_tdiv (by decide) (Int.ofNat_le.mpr bound)

/-- One service that serves for an hour until a signal ends it. -/
def servedHour : List ApplicationLabel :=
  applicationLaunch 1 ++ serviceStarts 0 ++ [.runner (.tick 3600000000000), .runner .signal] ++
    serviceLeaves 0 ++ [.runner (.main .waitReturns)] ++ serviceStops 0 none ++
    [.runner (.main .finish)]

/-- A service that served for an hour and ended well is recorded as an hour's failed start. -/
theorem start_metrics_measure_hour : ∃ s,
    (applicationMachine oneService).run (.init oneService) servedHour = some s ∧
    s.main.main = .finished none ∧
    ∃ measurement ∈ (s.main.trace.foldl OTelHooks.observe .unused).startDuration,
      measurement.failed = true ∧ 3600000 ≤ measurement.value := by
  -- An hour passes between the start and the signal, and the law bounds the measurement from below.
  obtain ⟨s, reached, finished⟩ := (applicationMachine oneService).run_observe
    (.init oneService) servedHour (fun s => s.main.main = .finished none) (by decide +kernel)
  have law := start_metrics_measure_uptime oneService _ s _ (fun _ => none) .unused rfl
    reached finished
  obtain ⟨measurement, member, -, long⟩ := law.2 0
    (applicationLaunch 1 ++ (serviceStarts 0).dropLast)
    [.runner (.tick 3600000000000), .runner .signal]
    ((serviceLeaves 0).tail ++ [.runner (.main .waitReturns)] ++ serviceStops 0 none ++
      [.runner (.main .finish)]) canceled (by decide) rfl
  exact ⟨s, reached, finished, measurement, member, law.1 measurement member, long⟩

end Bootkit

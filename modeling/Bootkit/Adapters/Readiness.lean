import Bootkit.Core.LifecycleAvailability

/-! Readiness checks of the adapters that answer from the channel of their lifecycle. -/

namespace Bootkit

open Go

/-- The adapters whose readiness check looks at nothing but their lifecycle. -/
inductive ReadyAdapter where
  | httpServer
  | asynqClient
  | asynqServer
  deriving Repr, DecidableEq

/-- What the check of the HTTP server returns as long as nothing was announced. -/
def serverNotReady : Err := .wrap "server not ready" []

/-- What a readiness check returns through a branch of its select, if the branch can be taken. -/
def ReadyAdapter.check (adapter : ReadyAdapter) (ready : ReadyChannel) (ctx : Option Err)
    (branch : WaitBranch) : Option (Option Err) :=
  match adapter with
  -- The other branch of this select is its default, so the check never waits.
  | .httpServer => if ready = .closed then some none else some (some serverNotReady)
  | .asynqClient | .asynqServer => waitReady ready ctx branch

/-- Where one run of a readiness check is. -/
inductive ProbePhase where
  | idle
  -- In the select, with the error of its context once that is done.
  | running (ctx : Option Err)
  | returned (err : Option Err)
  deriving Repr, DecidableEq

/-- An adapter's lifecycle, and the runs of its readiness check. -/
structure ProbedState where
  lifecycle : LifecycleState
  probes : Nat → ProbePhase

/-- A new adapter whose check has not been run. -/
def newProbed : ProbedState where
  lifecycle := newLifecycle
  probes := fun _ => .idle

/-- The steps of a run of a readiness check. -/
inductive ProbeAction where
  -- The check is called with a live context. The workers ask for the channel earlier, when
  -- their checks are listed, and asking again changes nothing.
  | run
  | cancel (cause : Sentinel)
  | answer (branch : WaitBranch)
  deriving Repr, DecidableEq

/-- Who takes the next step. -/
inductive ProbedLabel where
  | lifecycle (label : LifecycleLabel)
  | probe (j : Nat) (action : ProbeAction)

/-- One run of the check moved to a phase. -/
def ProbedState.setProbe (s : ProbedState) (j : Nat) (phase : ProbePhase) : ProbedState :=
  { s with probes := update s.probes j phase }

/-- One step of a run of the check. -/
def probeStep (adapter : ReadyAdapter) (s : ProbedState) (j : Nat) :
    ProbeAction → Option ProbedState
  | .run =>
    match s.probes j with
    | .idle => some { s.setProbe j (.running none) with lifecycle := s.lifecycle.initReady }
    | _ => none
  | .cancel cause =>
    match s.probes j with
    -- A context that is done keeps its error.
    | .running ctx => some (s.setProbe j (.running (ctx.or (some (.new cause)))))
    | _ => none
  | .answer branch =>
    match s.probes j with
    | .running ctx => (adapter.check s.lifecycle.ready ctx branch).map fun err =>
        s.setProbe j (.returned err)
    | _ => none

/-- One step on the lifecycle or of a run of the check. -/
def probedStep (adapter : ReadyAdapter) (s : ProbedState) : ProbedLabel → Option ProbedState
  | .lifecycle label => (lifecycleStep true s.lifecycle label).map fun lifecycle =>
      { s with lifecycle }
  | .probe j action => probeStep adapter s j action

/-- The machine whose runs interleave starting, stopping, and checking an adapter. -/
def probedMachine (adapter : ReadyAdapter) : Machine ProbedState ProbedLabel where
  step := probedStep adapter

/-- What a step does on the lifecycle. -/
def ProbedLabel.onLifecycle : ProbedLabel → Option LifecycleLabel
  | .lifecycle label => some label
  | .probe _ .run => some .ready
  | .probe _ _ => none

/-- A step that is one of the lifecycle's labels moves it so. -/
theorem probed_moves {adapter : ReadyAdapter} {s next : ProbedState} {label : ProbedLabel}
    {moved : LifecycleLabel} (taken : (probedMachine adapter).step s label = some next)
    (own : label.onLifecycle = some moved) :
    (lifecycleMachine true).step s.lifecycle moved = some next.lifecycle := by
  -- A check that is run asks for the channel, as every caller of `Ready` does.
  cases label with
  | lifecycle same =>
    cases own
    obtain ⟨lifecycle, moves, rfl⟩ := Option.map_eq_some_iff.mp taken
    exact moves
  | probe j action =>
    cases action with
    | run =>
      cases own
      simp only [probedMachine, probedStep, probeStep] at taken
      split at taken <;> cases taken
      rfl
    | cancel cause | answer branch => cases own

/-- Every other step leaves the lifecycle alone. -/
theorem probed_keeps {adapter : ReadyAdapter} {s next : ProbedState} {label : ProbedLabel}
    (taken : (probedMachine adapter).step s label = some next)
    (other : label.onLifecycle = none) : next.lifecycle = s.lifecycle := by
  -- Labels that are not the lifecycle's belong to a probe, and those only write to the probe.
  cases label with
  | lifecycle same => cases other
  | probe j action =>
    cases action with
    | run => cases other
    | cancel cause =>
      simp only [probedMachine, probedStep, probeStep] at taken
      split at taken <;> cases taken
      rfl
    | answer branch =>
      simp only [probedMachine, probedStep, probeStep] at taken
      split at taken
      · obtain ⟨err, -, rfl⟩ := Option.map_eq_some_iff.mp taken
        rfl
      · cases taken

/-- A check returns nil only when readiness was announced. -/
theorem ReadyAdapter.check_nil {adapter : ReadyAdapter} {ready : ReadyChannel} {ctx : Option Err}
    {branch : WaitBranch} (passed : adapter.check ready ctx branch = some none) :
    ready = .closed := by
  -- The other branch of each select returns an error.
  cases adapter with
  | httpServer =>
    simp only [ReadyAdapter.check] at passed
    split at passed
    · assumption
    · cases passed
  | asynqClient | asynqServer =>
    cases branch with
    | ready => simpa [ReadyAdapter.check, waitReady] using passed
    | done => simp [ReadyAdapter.check, waitReady] at passed

/-- Every check can return nil when readiness was announced. -/
theorem ReadyAdapter.check_closed (adapter : ReadyAdapter) (ctx : Option Err) :
    adapter.check .closed ctx .ready = some none := by
  cases adapter <;> rfl

/-- A run of the check that returns nil found the channel closed. -/
theorem answer_nil {adapter : ReadyAdapter} {s next : ProbedState} {j : Nat} {branch : WaitBranch}
    (taken : (probedMachine adapter).step s (.probe j (.answer branch)) = some next)
    (passed : next.probes j = .returned none) : s.lifecycle.ready = .closed := by
  -- The check answers nil on its ready branch only, and that branch needs a closed channel.
  simp only [probedMachine, probedStep, probeStep] at taken
  split at taken
  · obtain ⟨err, checked, rfl⟩ := Option.map_eq_some_iff.mp taken
    obtain rfl : err = none := by simpa [ProbedState.setProbe] using passed
    exact ReadyAdapter.check_nil checked
  · cases taken

/-- The condition on a `Stop`, on the steps of an adapter. -/
def stopsInTime (s : ProbedState) : ProbedLabel → Bool
  | .lifecycle label => stopsBeforeServing s.lifecycle label
  | .probe _ _ => true

/-- The only `Start` of a schedule is the first one. -/
def SingleStart (labels : List ProbedLabel) : Prop :=
  ∀ k action, ProbedLabel.lifecycle (.start k action) ∈ labels → k = 0

/-- The lifecycle of an adapter makes the runs of a lifecycle. -/
theorem probed_lifecycle {adapter : ReadyAdapter} {labels : List ProbedLabel} {s : ProbedState}
    (reached : (probedMachine adapter).run newProbed labels = some s) :
    (lifecycleMachine true).run newLifecycle (labels.filterMap ProbedLabel.onLifecycle) =
      some s.lifecycle := by
  -- A step either is one of the lifecycle or leaves it alone.
  refine (probedMachine adapter).run_project ProbedState.lifecycle ProbedLabel.onLifecycle ?_
    reached
  intro s label next taken
  cases own : label.onLifecycle with
  | some moved => exact probed_moves taken own
  | none => exact probed_keeps taken own

/-- The calls of `Start` in a schedule are those on its lifecycle. -/
theorem start_onLifecycle {labels : List ProbedLabel} {k : Nat} {action : StarterAction} :
    LifecycleLabel.start k action ∈ labels.filterMap ProbedLabel.onLifecycle ↔
      ProbedLabel.lifecycle (.start k action) ∈ labels := by
  -- A probe takes no step of a start.
  rw [List.mem_filterMap]
  constructor
  · rintro ⟨label, member, moved⟩
    cases label with
    | lifecycle own =>
      cases moved
      exact member
    | probe j act => cases act <;> cases moved
  · intro member
    exact ⟨_, member, rfl⟩

/-- The condition on a step is the one on what it does on the lifecycle. -/
theorem stopsInTime_moved {s : ProbedState} {label : ProbedLabel} {moved : LifecycleLabel}
    (own : label.onLifecycle = some moved) (met : stopsInTime s label = true) :
    stopsBeforeServing s.lifecycle moved = true := by
  -- The condition on a step of the adapter is the one on its lifecycle.
  cases label with
  | lifecycle same =>
    cases own
    exact met
  | probe j action =>
    cases action <;> cases own
    rfl

/-- If every `Stop` comes in time, an adapter that serves has not been stopped. -/
theorem serving_live_run {adapter : ReadyAdapter} {labels : List ProbedLabel} {s : ProbedState}
    (reached : (probedMachine adapter).run newProbed labels = some s)
    (single : SingleStart labels)
    (inTime : (probedMachine adapter).Obeys (fun s label => stopsInTime s label = true)
      newProbed labels) :
    s.lifecycle.Serving → s.lifecycle.stopped = false := by
  -- A check never sets the flag, so it takes part only by asking for the channel.
  refine (probedMachine adapter).run_obeying
    (fun labels s => SingleStart labels → s.lifecycle.Serving → s.lifecycle.stopped = false)
    ?_ ?_ labels s inTime reached single
  · intro _ _
    rfl
  · intro labels s label next _ holds met taken single
    have earlier : SingleStart labels :=
      fun k action member => single k action (List.mem_append_left _ member)
    cases own : label.onLifecycle with
    | none =>
      rw [probed_keeps taken own]
      exact holds earlier
    | some moved =>
      have first : ∀ k action, moved = .start k action → k = 0 := by
        rintro k action rfl
        have member : LifecycleLabel.start k action ∈
            (labels ++ [label]).filterMap ProbedLabel.onLifecycle :=
          List.mem_filterMap.mpr ⟨label, by simp, own⟩
        exact single k action (start_onLifecycle.mp member)
      exact serving_live_step (probed_moves taken own) first (stopsInTime_moved own met)
        (holds earlier)

/-- A run that breaks the condition leaves an adapter stopped too late. -/
theorem overdue_run {adapter : ReadyAdapter} {labels : List ProbedLabel} {s : ProbedState}
    (reached : (probedMachine adapter).run newProbed labels = some s)
    (late : ¬ (probedMachine adapter).Obeys (fun s label => stopsInTime s label = true)
      newProbed labels) :
    s.lifecycle.Overdue := by
  -- A step that breaks the condition is the decision of a `Stop` behind a stored closure.
  simp only [Machine.Obeys, not_forall] at late
  obtain ⟨before, label, after, state, rfl, prior, broken⟩ := late
  obtain ⟨state', next, prior', taken, rest⟩ := Machine.run_split _ reached
  obtain rfl : state' = state := by simpa [prior'] using prior
  have begun : next.lifecycle.Overdue := by
    cases label with
    | probe j action => exact absurd rfl broken
    | lifecycle own =>
      cases own with
      | start k action | cancel k cause | ready => exact absurd rfl broken
      | stop k action =>
        cases action with
        | call | lock | released err | unlock => exact absurd rfl broken
        | decide =>
          have serving : state'.lifecycle.Serving := by
            simpa [stopsInTime, stopsBeforeServing] using broken
          have taken := probed_moves taken rfl
          have moved : StopperMove state'.lifecycle k .decide next.lifecycle :=
            stopperStep_move taken
          exact ⟨serving_step taken serving, k, moved.decides⟩
  -- From the late step on, every step keeps what it left behind.
  have keeps : ∀ s label next, s.lifecycle.Overdue →
      (probedMachine adapter).step s label = some next → next.lifecycle.Overdue := by
    intro s label next overdue taken
    cases own : label.onLifecycle with
    | some moved => exact overdue_step overdue (probed_moves taken own)
    | none =>
      rw [probed_keeps taken own]
      exact overdue
  exact (probedMachine adapter).run_invariant begun keeps rest

/-- An adapter announced as ready passes a check that is run to its end. -/
theorem announced_passes (adapter : ReadyAdapter) {s : ProbedState} {j : Nat}
    (closed : s.lifecycle.ready = .closed) (idle : s.probes j = .idle) :
    ∃ t, (probedMachine adapter).run s [.probe j .run, .probe j (.answer .ready)] = some t ∧
      t.probes j = .returned none := by
  -- Asking for the channel does not open it again.
  have known : s.lifecycle.initReady.ready = .closed := (initReady_closed_iff _).mpr closed
  refine ⟨{ (s.setProbe j (.running none)).setProbe j (.returned none) with
    lifecycle := s.lifecycle.initReady }, ?_, by simp [ProbedState.setProbe]⟩
  simp [Machine.run_cons, probedMachine, probedStep, probeStep, idle, ProbedState.setProbe,
    known, ReadyAdapter.check_closed]

/--
A readiness check passes only behind a `Connect` that succeeded. It also passes only before a `Stop`
has completed, if every `Stop` deals with the flag before `Start` has stored its closure. After any
`Stop` that comes later, the check can report an adapter that was shut down.
-/
theorem readiness_until_stopped (adapter : ReadyAdapter) (labels : List ProbedLabel)
    (s : ProbedState) (reached : (probedMachine adapter).run newProbed labels = some s)
    (single : SingleStart labels) :
    (∀ j branch next,
      (probedMachine adapter).step s (.probe j (.answer branch)) = some next →
      next.probes j = .returned none →
        (∃ closure, ProbedLabel.lifecycle (.start 0 (.connect (.ok closure))) ∈ labels) ∧
        ((probedMachine adapter).Obeys (fun s label => stopsInTime s label = true)
            newProbed labels →
          ∀ k err, s.lifecycle.stoppers k ≠ .returned err)) ∧
    (¬ (probedMachine adapter).Obeys (fun s label => stopsInTime s label = true)
        newProbed labels →
      ∀ j, s.probes j = .idle → ∃ more u t,
        (probedMachine adapter).run s more = some u ∧ SingleStart more ∧
        (∃ k err, u.lifecycle.stoppers k = .returned err) ∧
        (probedMachine adapter).run u [.probe j .run, .probe j (.answer .ready)] = some t ∧
        t.probes j = .returned none) := by
  -- A check that passes found the channel closed, which only `Start` does.
  have available : Availability _ s.lifecycle := availability_run (probed_lifecycle reached)
  refine ⟨?_, ?_⟩
  · intro j branch next taken passed
    have closed : s.lifecycle.ready = .closed := answer_nil taken passed
    refine ⟨?_, ?_⟩
    · obtain ⟨k, closure, member⟩ := available.announced closed
      rw [start_onLifecycle] at member
      obtain rfl := single k _ member
      exact ⟨closure, member⟩
    · intro inTime k err returned
      have live : s.lifecycle.stopped = false :=
        serving_live_run reached single inTime (.inr closed)
      have flagged : s.lifecycle.stopped = true :=
        available.decided k (by simp [returned, StopperPhase.decided])
      simp [live] at flagged
  · intro late j idle
    have overdue : s.lifecycle.Overdue := overdue_run reached late
    obtain ⟨own, finish, ran, closed, stopped, first⟩ := overdue_announced true overdue
    have lifted : (probedMachine adapter).run s (own.map .lifecycle) =
        some { s with lifecycle := finish } := by
      refine (probedMachine adapter).run_embed (fun lifecycle => { s with lifecycle })
        ProbedLabel.lifecycle ?_ ran
      intro part label next taken
      exact Option.map_eq_some_iff.mpr ⟨next, taken, rfl⟩
    obtain ⟨t, checked, passed⟩ :=
      announced_passes adapter (s := { s with lifecycle := finish }) (j := j) closed idle
    refine ⟨own.map .lifecycle, _, t, lifted, ?_, stopped, checked, passed⟩
    intro k action member
    exact first k action (by simpa using member)

/-- An adapter that `Start` connects and announces. -/
def startedAdapter : List ProbedLabel :=
  [.lifecycle (.start 0 .enter), .lifecycle (.start 0 (.connect (.ok true))),
    .lifecycle (.start 0 .lock), .lifecycle (.start 0 .decide), .lifecycle (.start 0 .announce)]

/-- A `Stop` that calls the closure, which returns nil. -/
def stoppedAdapter : List ProbedLabel :=
  [.lifecycle (.stop 0 .call), .lifecycle (.stop 0 .lock), .lifecycle (.stop 0 .decide),
    .lifecycle (.stop 0 (.released none)), .lifecycle (.stop 0 .unlock)]

/-- A check that passes while the server is serving. -/
theorem readiness_until_stopped_started :
    ∃ s next, (probedMachine .httpServer).run newProbed
        (startedAdapter ++ [.probe 0 .run]) = some s ∧
      (probedMachine .httpServer).step s (.probe 0 (.answer .ready)) = some next ∧
      next.probes 0 = .returned none ∧
      (∃ closure, ProbedLabel.lifecycle (.start 0 (.connect (.ok closure))) ∈
        startedAdapter ++ [.probe 0 .run]) ∧
      ∀ k err, s.lifecycle.stoppers k ≠ .returned err := by
  obtain ⟨s, reached, known⟩ := (probedMachine .httpServer).run_observe newProbed
    (startedAdapter ++ [.probe 0 .run])
    (fun s => s.lifecycle.ready = .closed ∧ s.probes 0 = .running none) (by decide +kernel)
  -- The channel is closed, so that the check can take its ready branch.
  have taken : (probedMachine .httpServer).step s (.probe 0 (.answer .ready)) =
      some (s.setProbe 0 (.returned none)) := by
    simp [probedMachine, probedStep, probeStep, known, ReadyAdapter.check_closed]
  have passed : (s.setProbe 0 (.returned none)).probes 0 = .returned none := by
    simp [ProbedState.setProbe]
  -- The start is the only one, and no stop comes before it serves.
  have single : SingleStart (startedAdapter ++ [.probe 0 .run]) := by
    intro k action member
    simp only [startedAdapter, List.mem_append, List.mem_cons] at member
    grind
  have inTime : (probedMachine .httpServer).Obeys (fun s label => stopsInTime s label = true)
      newProbed (startedAdapter ++ [.probe 0 .run]) :=
    (Machine.obeys_iff _ _ _ _).mp (by decide +kernel)
  obtain ⟨connected, live⟩ := (readiness_until_stopped .httpServer _ s reached single).1
    0 .ready _ taken passed
  exact ⟨s, _, reached, taken, passed, connected, live inTime⟩

/-- The check of an adapter passes although it is run behind a completed `Stop`. -/
def ReportsStopped (adapter : ReadyAdapter) : Prop :=
  ∃ s t, (probedMachine adapter).run newProbed (startedAdapter ++ stoppedAdapter) = some s ∧
    s.lifecycle.stoppers 0 = .returned none ∧
    (probedMachine adapter).run s [.probe 0 .run, .probe 0 (.answer .ready)] = some t ∧
    t.probes 0 = .returned none

/-- Every adapter is reported ready after it was shut down. -/
theorem readiness_after_stop :
    ReportsStopped .httpServer ∧ ReportsStopped .asynqClient ∧ ReportsStopped .asynqServer := by
  -- The three adapters share one check, which asks the channel and not the lifecycle.
  have reports : ∀ adapter, ReportsStopped adapter := by
    intro adapter
    obtain ⟨s, reached, returned, closed, idle⟩ := (probedMachine adapter).run_observe newProbed
      (startedAdapter ++ stoppedAdapter)
      (fun s => s.lifecycle.stoppers 0 = .returned none ∧ s.lifecycle.ready = .closed ∧
        s.probes 0 = .idle)
      (by cases adapter <;> decide +kernel)
    obtain ⟨t, checked, passed⟩ := announced_passes adapter closed idle
    exact ⟨s, t, reached, returned, checked, passed⟩
  exact ⟨reports _, reports _, reports _⟩

end Bootkit

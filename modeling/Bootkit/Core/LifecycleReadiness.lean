import Bootkit.Core.LifecycleMoves

/-! Whether a lifecycle can still be live when it announces readiness. -/

namespace Bootkit

open Go

/-- No `Stop` deals with the flag between the unlock of `Start` and the end of its announcement. -/
def stopsAround (s : LifecycleState) : LifecycleLabel → Bool
  | .stop _ .decide => s.starters 0 != .stored
  | _ => true

/-- Nothing is released, and no `Start` is turned away, before the flag is set. -/
structure Unstopped (s : LifecycleState) : Prop where
  invoked : s.stopped = false → ∀ k, s.invoked k = 0
  spurned : ∀ k stop, s.starters k = .spurned stop → s.stopped = true

/-- A step of a `Start` releases something only after the flag was set. -/
theorem unstopped_starter {connectSet : Bool} {s next : LifecycleState} {k : Nat}
    {action : StarterAction} (moved : StarterMove connectSet s k action next)
    (holds : Unstopped s) : Unstopped next := by
  have flag : next.stopped = s.stopped := moved.frame.2
  have turned : ∀ stop, next.starters k = .spurned stop → s.stopped = true := by
    intro stop
    cases moved with
    | spurn phase late => exact fun _ => late
    | _ phase => simp [LifecycleState.setStarter, LifecycleState.invoke]
  constructor
  · intro live j
    rw [flag] at live
    have before := holds.invoked live j
    cases moved with
    | clean phase =>
      -- The `Start` that cleans up was turned away by the flag.
      rw [holds.spurned k _ phase] at live
      cases live
    | _ phase => simpa [LifecycleState.setStarter] using before
  · intro j stop phase
    rw [flag]
    by_cases same : j = k
    · subst same
      exact turned stop phase
    · rw [moved.others same] at phase
      exact holds.spurned j stop phase

/-- A step of a `Stop` releases something only as it sets the flag. -/
theorem unstopped_stopper {s next : LifecycleState} {k : Nat} {action : StopperAction}
    (moved : StopperMove s k action next) (holds : Unstopped s) : Unstopped next := by
  -- The two moves that release set the flag with it.
  cases moved with
  | bare phase live empty => exact ⟨by simp, fun _ _ _ => rfl⟩
  | release phase live stored => exact ⟨by simp, fun _ _ _ => rfl⟩
  | _ phase => exact ⟨holds.invoked, holds.spurned⟩

/-- In every run nothing is released before the flag is set. -/
theorem unstopped_run {connectSet : Bool} {labels : List LifecycleLabel} {s : LifecycleState}
    (reached : (lifecycleMachine connectSet).run newLifecycle labels = some s) : Unstopped s := by
  refine (lifecycleMachine connectSet).run_history (fun _ s => Unstopped s) ?_ ?_ labels s reached
  · constructor <;> simp [newLifecycle]
  · intro _ s label next _ holds taken
    cases label with
    | start k action => exact unstopped_starter (starterStep_move taken) holds
    | stop k action => exact unstopped_stopper (stopperStep_move taken) holds
    -- Neither of the last two touches the flag or a release.
    | cancel k cause =>
      cases taken
      exact ⟨holds.invoked, holds.spurned⟩
    | ready =>
      cases taken
      constructor <;> simp only [initReady_frame]
      · exact holds.invoked
      · exact holds.spurned

/-- While `Start` is about to announce readiness, the lifecycle has not been stopped. -/
def LiveUntilAnnounced (s : LifecycleState) : Prop :=
  s.starters 0 = .stored → s.stopped = false

/-- A `Start` stores its closure only while the flag is clear. -/
theorem liveUntilAnnounced_starter {connectSet : Bool} {s next : LifecycleState}
    {action : StarterAction} (moved : StarterMove connectSet s 0 action next) :
    LiveUntilAnnounced next := by
  -- Only one move leads to the phase, and it reads the flag in the same critical section.
  cases moved with
  | store phase live => exact fun _ => live
  | _ phase => simp [LiveUntilAnnounced, LifecycleState.setStarter, LifecycleState.invoke]

/-- A `Stop` that keeps out of the window leaves the lifecycle live in it. -/
theorem liveUntilAnnounced_stopper {s next : LifecycleState} {k : Nat} {action : StopperAction}
    (moved : StopperMove s k action next) (around : stopsAround s (.stop k action) = true)
    (holds : LiveUntilAnnounced s) : LiveUntilAnnounced next := by
  -- A stop decides before the start has stored or after it has announced.
  cases moved with
  | bare phase live | release phase live =>
    intro stored
    have stored : s.starters 0 = .stored := stored
    simp [stopsAround, stored] at around
  | _ phase => exact holds

/--
Readiness is announced only for a live component, if no `Stop` comes right before the announcement.

The state is the one in which the one `Start` closes the readiness channel.
-/
theorem ready_only_while_live (connectSet : Bool) (labels : List LifecycleLabel)
    (s : LifecycleState)
    (reached : (lifecycleMachine connectSet).run newLifecycle labels = some s)
    (single : ∀ k action, LifecycleLabel.start k action ∈ labels → k = 0)
    (obeyed : (lifecycleMachine connectSet).Obeys (fun s label => stopsAround s label = true)
      newLifecycle labels) :
    ∀ t, (lifecycleMachine connectSet).Took newLifecycle labels (.start 0 .announce) t →
      t.stopped = false ∧ t.invoked 0 = 0 := by
  rintro t ⟨before, after, rfl, prior⟩
  have obeyedBefore : (lifecycleMachine connectSet).Obeys
      (fun s label => stopsAround s label = true) newLifecycle before := by
    intro first label rest state split prior
    exact obeyed first label (rest ++ .start 0 .announce :: after) state (by simp [split]) prior
  -- The invariant holds at the end of the part that leads to the announcement.
  have live : LiveUntilAnnounced t := by
    refine (lifecycleMachine connectSet).run_obeying
      (fun labels s => (∀ k action, LifecycleLabel.start k action ∈ labels → k = 0) →
        LiveUntilAnnounced s) ?_ ?_ before t obeyedBefore prior ?_
    · exact fun _ => by simp [LiveUntilAnnounced, newLifecycle]
    · intro labels s label next _ holds around taken single
      have holds := holds fun k action member => single k action (List.mem_append_left _ member)
      cases label with
      | start k action =>
        obtain rfl := single k action (by simp)
        exact liveUntilAnnounced_starter (starterStep_move taken)
      | stop k action => exact liveUntilAnnounced_stopper (stopperStep_move taken) around holds
      | cancel k cause =>
        cases taken
        exact holds
      | ready =>
        cases taken
        simpa only [LiveUntilAnnounced, initReady_frame] using holds
    · exact fun k action member => single k action (List.mem_append_left _ member)
  -- The announcement is enabled in one phase only.
  obtain ⟨state, next, again, taken, -⟩ := (lifecycleMachine connectSet).run_split reached
  obtain rfl : state = t := Option.some.inj (again.symm.trans prior)
  have moved : StarterMove connectSet state 0 .announce next := starterStep_move taken
  have stored : state.starters 0 = .stored := by
    cases moved <;> assumption
  exact ⟨live stored, (unstopped_run prior).invoked (live stored) 0⟩

/-- A `Stop` that waits until readiness was announced. -/
theorem ready_only_while_live_first : ∃ s t, (lifecycleMachine true).run newLifecycle
    [.start 0 .enter, .start 0 (.connect (.ok true)), .start 0 .lock, .start 0 .decide,
      .stop 0 .call, .start 0 .announce, .stop 0 .lock, .stop 0 .decide] = some s ∧
    (lifecycleMachine true).Took newLifecycle
      [.start 0 .enter, .start 0 (.connect (.ok true)), .start 0 .lock, .start 0 .decide,
        .stop 0 .call, .start 0 .announce, .stop 0 .lock, .stop 0 .decide]
      (.start 0 .announce) t ∧ t.stopped = false ∧ t.invoked 0 = 0 := by
  -- The announcement is the sixth step, and the stop that was called before it decides after it.
  obtain ⟨s, reached, -⟩ := (lifecycleMachine true).run_observe newLifecycle
    [.start 0 .enter, .start 0 (.connect (.ok true)), .start 0 .lock, .start 0 .decide,
      .stop 0 .call, .start 0 .announce, .stop 0 .lock, .stop 0 .decide]
    (fun s => s.starters 0 = .blocked) (by decide)
  obtain ⟨t, prior, -⟩ := (lifecycleMachine true).run_observe newLifecycle
    [.start 0 .enter, .start 0 (.connect (.ok true)), .start 0 .lock, .start 0 .decide,
      .stop 0 .call] (fun s => s.starters 0 = .stored) (by decide)
  have took : (lifecycleMachine true).Took newLifecycle _ (.start 0 .announce) t :=
    ⟨[.start 0 .enter, .start 0 (.connect (.ok true)), .start 0 .lock, .start 0 .decide,
      .stop 0 .call], [.stop 0 .lock, .stop 0 .decide], rfl, prior⟩
  have obeyed := ((lifecycleMachine true).obeys_iff (fun s label => stopsAround s label = true)
    newLifecycle [.start 0 .enter, .start 0 (.connect (.ok true)), .start 0 .lock,
      .start 0 .decide, .stop 0 .call, .start 0 .announce, .stop 0 .lock, .stop 0 .decide]).mp
    (by decide)
  refine ⟨s, t, reached, took, ready_only_while_live true _ s reached ?_ obeyed t took⟩
  intro k action member
  simp at member
  omega

/-- A `Stop` between the unlock of `Start` and the announcement: a released resource is ready. -/
theorem ready_after_stop : ∃ labels s t,
    (lifecycleMachine true).run newLifecycle labels = some s ∧
    (∀ k action, LifecycleLabel.start k action ∈ labels → k = 0) ∧
    (lifecycleMachine true).Took newLifecycle labels (.start 0 .announce) t ∧
    t.stopped = true ∧ t.invoked 0 = 1 ∧ t.stoppers 0 = .returned none ∧
    t.ready = .opened ∧ s.ready = .closed := by
  -- The stop takes the mutex between the store and the announcement, and returns first.
  obtain ⟨t, prior, flag, released, stopped, waiting, closed⟩ :=
    (lifecycleMachine true).run_observe newLifecycle
    [.start 0 .enter, .start 0 (.connect (.ok true)), .start 0 .lock, .start 0 .decide,
      .stop 0 .call, .stop 0 .lock, .stop 0 .decide, .stop 0 (.released none), .stop 0 .unlock]
    (fun t => t.stopped = true ∧ t.invoked 0 = 1 ∧ t.stoppers 0 = .returned none ∧
      t.ready = .opened ∧ (((lifecycleMachine true).step t (.start 0 .announce)).any fun s =>
        s.ready = .closed) = true) (by decide)
  obtain ⟨s, taken, closed⟩ := (Option.any_eq_true _ _).mp closed
  refine ⟨_, s, t, ?_, ?_, .last prior _, flag, released, stopped, waiting,
    of_decide_eq_true closed⟩
  · rw [(lifecycleMachine true).run_append, prior]
    simp [Machine.run_cons, taken]
  · intro k action member
    simp at member
    omega

end Bootkit

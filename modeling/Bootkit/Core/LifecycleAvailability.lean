import Bootkit.Core.LifecycleLaws

/-! What the readiness channel says about a lifecycle that is connected and stopped. -/

namespace Bootkit

open Go

/-- The `Connect` of some call of `Start` succeeded. -/
def ConnectSucceeded (labels : List LifecycleLabel) : Prop :=
  ∃ k closure, LifecycleLabel.start k (.connect (.ok closure)) ∈ labels

/-- A longer schedule still has the `Connect` that succeeded. -/
theorem ConnectSucceeded.extend {labels : List LifecycleLabel}
    (succeeded : ConnectSucceeded labels) (label : LifecycleLabel) :
    ConnectSucceeded (labels ++ [label]) := by
  -- The label that says so is still there.
  obtain ⟨k, closure, member⟩ := succeeded
  exact ⟨k, closure, List.mem_append_left _ member⟩

/-- Whether a call of `Start` is behind a `Connect` that succeeded, and has not returned. -/
def StarterPhase.pastConnect : StarterPhase → Bool
  | .connected _ | .locked _ | .spurned _ | .cleaning _ | .stored | .blocked => true
  | _ => false

/-- What is announced was connected, and a `Stop` that has dealt with the flag leaves it set. -/
structure Availability (labels : List LifecycleLabel) (s : LifecycleState) : Prop where
  connected : ∀ k, (s.starters k).pastConnect = true → ConnectSucceeded labels
  announced : s.ready = .closed → ConnectSucceeded labels
  decided : ∀ k, (s.stoppers k).decided = true → s.stopped = true

/-- A step of a `Start` keeps what is known about availability. -/
theorem availability_starter {connectSet : Bool} {labels : List LifecycleLabel}
    {s next : LifecycleState} {k : Nat} {action : StarterAction}
    (moved : StarterMove connectSet s k action next) (holds : Availability labels s) :
    Availability (labels ++ [.start k action]) next := by
  -- A call comes past its `Connect` by the step that makes it succeed.
  have own : (next.starters k).pastConnect = true →
      ConnectSucceeded (labels ++ [.start k action]) := by
    cases moved with
    | connects phase => exact fun _ => ⟨k, _, List.mem_append_right _ (List.mem_singleton_self _)⟩
    | lock phase | spurn phase | store phase | clean phase | announce phase =>
      exact fun _ => (holds.connected k (by simp [phase, StarterPhase.pastConnect])).extend _
    | _ phase => simp [LifecycleState.setStarter, StarterPhase.pastConnect]
  refine ⟨?_, ?_, ?_⟩
  · intro j past
    by_cases same : j = k
    · subst same
      exact own past
    · rw [moved.others same] at past
      exact (holds.connected j past).extend _
  · cases moved with
    | announce phase waiting =>
      exact fun _ => (holds.connected k (by simp [phase, StarterPhase.pastConnect])).extend _
    | enter phase | unset phase =>
      exact fun closed => (holds.announced ((initReady_closed_iff s).mp closed)).extend _
    | _ phase => exact fun closed => (holds.announced closed).extend _
  · rw [moved.frame.1, moved.frame.2]
    exact holds.decided

/-- In every run what is announced was connected. -/
theorem availability_run {connectSet : Bool} {labels : List LifecycleLabel} {s : LifecycleState}
    (reached : (lifecycleMachine connectSet).run newLifecycle labels = some s) :
    Availability labels s := by
  refine (lifecycleMachine connectSet).run_history Availability ?_ ?_ labels s reached
  · constructor <;> simp [newLifecycle, StarterPhase.pastConnect, StopperPhase.decided]
  · intro labels s label next _ holds taken
    cases label with
    -- Only a start brings news; the others keep what is known of the labels before them.
    | start k action => exact availability_starter (starterStep_move taken) holds
    | stop k action =>
      have moved : StopperMove s k action next := stopperStep_move taken
      obtain ⟨starters, ready, -⟩ := moved.frame
      refine ⟨?_, ?_, moved.decided holds.decided⟩
      · rw [starters]
        exact fun j past => (holds.connected j past).extend _
      · rw [ready]
        exact fun closed => (holds.announced closed).extend _
    | cancel k cause =>
      cases taken
      exact ⟨fun j past => (holds.connected j past).extend _,
        fun closed => (holds.announced closed).extend _, holds.decided⟩
    | ready =>
      cases taken
      obtain ⟨-, -, flag, starters, stoppers, -⟩ := initReady_frame s
      refine ⟨?_, ?_, ?_⟩
      · rw [starters]
        exact fun j past => (holds.connected j past).extend _
      · exact fun closed => (holds.announced ((initReady_closed_iff s).mp closed)).extend _
      · rw [stoppers, flag]
        exact holds.decided

/-- The one `Start` has stored its closure, so that it announces readiness or has done so. -/
def LifecycleState.Serving (s : LifecycleState) : Prop :=
  s.starters 0 = .stored ∨ s.ready = .closed

instance (s : LifecycleState) : Decidable s.Serving :=
  inferInstanceAs (Decidable (_ ∨ _))

/-- A `Stop` deals with the flag only before `Start` has stored its closure. -/
def stopsBeforeServing (s : LifecycleState) : LifecycleLabel → Bool
  | .stop _ .decide => !decide s.Serving
  | _ => true

/-- Once the closure is stored, the channel is closed or is about to be, for good. -/
theorem serving_step {connectSet : Bool} {s next : LifecycleState} {label : LifecycleLabel}
    (taken : (lifecycleMachine connectSet).step s label = some next) (serving : s.Serving) :
    next.Serving := by
  -- The announcement is the only way out of the phase, and the channel stays closed.
  cases label with
  | start k action =>
    have moved : StarterMove connectSet s k action next := starterStep_move taken
    rcases serving with stored | closed
    · by_cases same : k = 0
      · subst same
        cases moved with
        | announce phase waiting => exact .inr rfl
        | panic phase closed => exact .inr closed
        | _ phase => simp [stored] at phase
      · exact .inl ((moved.others (Ne.symm same)).trans stored)
    · cases moved with
      | enter phase | unset phase => exact .inr ((initReady_closed_iff s).mpr closed)
      | announce phase => exact .inr rfl
      | _ phase => exact .inr closed
  | stop k action =>
    have moved : StopperMove s k action next := stopperStep_move taken
    obtain ⟨starters, ready, -⟩ := moved.frame
    unfold LifecycleState.Serving
    rw [starters, ready]
    exact serving
  | cancel k cause =>
    cases taken
    exact serving
  | ready =>
    cases taken
    rcases serving with stored | closed
    · exact .inl (by rw [(initReady_frame s).2.2.2.1, stored])
    · exact .inr ((initReady_closed_iff s).mpr closed)

/-- As long as no `Stop` comes too late, a lifecycle that serves has not been stopped. -/
theorem serving_live_step {connectSet : Bool} {s next : LifecycleState} {label : LifecycleLabel}
    (taken : (lifecycleMachine connectSet).step s label = some next)
    (single : ∀ k action, label = .start k action → k = 0)
    (met : stopsBeforeServing s label = true) (holds : s.Serving → s.stopped = false) :
    next.Serving → next.stopped = false := by
  -- The closure is stored under the mutex, after a look at the flag.
  cases label with
  | start k action =>
    obtain rfl := single k action rfl
    have moved : StarterMove connectSet s 0 action next := starterStep_move taken
    rw [moved.frame.2]
    intro serving
    cases moved with
    | store phase live => exact live
    | announce phase waiting => exact holds (.inl phase)
    | enter phase | unset phase =>
      rcases serving with stored | closed
      · simp [LifecycleState.setStarter] at stored
      · exact holds (.inr ((initReady_closed_iff s).mp closed))
    | _ phase =>
      rcases serving with stored | closed
      · simp [LifecycleState.setStarter, LifecycleState.invoke] at stored
      · exact holds (.inr closed)
  | stop k action =>
    have moved : StopperMove s k action next := stopperStep_move taken
    obtain ⟨starters, ready, -⟩ := moved.frame
    intro serving
    unfold LifecycleState.Serving at serving
    rw [starters, ready] at serving
    cases moved with
    | bare phase | release phase =>
      simp only [stopsBeforeServing, Bool.not_eq_true', decide_eq_false_iff_not] at met
      exact absurd serving met
    | _ phase => exact holds serving
  | cancel k cause =>
    cases taken
    exact holds
  | ready =>
    cases taken
    obtain ⟨-, -, flag, starters, -, -⟩ := initReady_frame s
    intro serving
    rw [flag]
    rcases serving with stored | closed
    · exact holds (.inl (by rw [← starters, stored]))
    · exact holds (.inr ((initReady_closed_iff s).mp closed))

/-- A `Stop` has dealt with the flag once it has decided. -/
theorem StopperMove.decides {s next : LifecycleState} {k : Nat}
    (moved : StopperMove s k .decide next) : (next.stoppers k).decided = true := by
  cases moved <;> simp [LifecycleState.setStopper, LifecycleState.invoke, StopperPhase.decided]

/-- A `Stop` that has dealt with the flag stays behind that. -/
theorem decided_step {connectSet : Bool} {s next : LifecycleState} {label : LifecycleLabel}
    (taken : (lifecycleMachine connectSet).step s label = some next) {j : Nat}
    (decided : (s.stoppers j).decided = true) : (next.stoppers j).decided = true := by
  -- The phases behind the decision lead to each other only.
  cases label with
  | start k action =>
    have moved : StarterMove connectSet s k action next := starterStep_move taken
    rw [moved.frame.1]
    exact decided
  | stop k action =>
    have moved : StopperMove s k action next := stopperStep_move taken
    by_cases same : j = k
    · subst same
      cases moved <;>
        simp_all [LifecycleState.setStopper, StopperPhase.decided]
    · rw [moved.others same]
      exact decided
  | cancel k cause =>
    cases taken
    exact decided
  | ready =>
    cases taken
    rw [(initReady_frame s).2.2.2.2.1]
    exact decided

/-- A `Stop` that has dealt with the flag can return, whatever the others do. -/
theorem stop_returns (connectSet : Bool) {s : LifecycleState} {k : Nat}
    (decided : (s.stoppers k).decided = true) :
    ∃ (actions : List StopperAction) (t : LifecycleState) (err : Option Err),
      (lifecycleMachine connectSet).run s (actions.map (.stop k)) = some t ∧
      t.stoppers k = .returned err ∧ t.starters = s.starters ∧ t.ready = s.ready := by
  -- The closure returns at some time, and nothing stands between that and the return.
  cases phase : s.stoppers k with
  | releasing stop =>
    refine ⟨[.released none, .unlock],
      { (s.setStopper k (.returning none)).setStopper k (.returned none) with mu := none },
      none, ?_, by simp [LifecycleState.setStopper], rfl, rfl⟩
    simp [Machine.run_cons, lifecycleMachine, lifecycleStep, stopperStep, phase,
      LifecycleState.setStopper]
  | returning err =>
    refine ⟨[.unlock], { s.setStopper k (.returned err) with mu := none }, err, ?_,
      by simp [LifecycleState.setStopper], rfl, rfl⟩
    simp [Machine.run_cons, lifecycleMachine, lifecycleStep, stopperStep, phase]
  | returned err => exact ⟨[], s, err, rfl, phase, rfl, rfl⟩
  | idle | called | locked => simp [phase, StopperPhase.decided] at decided

/-- A `Stop` dealt with the flag, and readiness is announced or about to be. -/
def LifecycleState.Overdue (s : LifecycleState) : Prop :=
  s.Serving ∧ ∃ k, (s.stoppers k).decided = true

/-- A lifecycle stopped too late stays so. -/
theorem overdue_step {connectSet : Bool} {s next : LifecycleState} {label : LifecycleLabel}
    (overdue : s.Overdue) (taken : (lifecycleMachine connectSet).step s label = some next) :
    next.Overdue := by
  -- Both halves are final.
  obtain ⟨serving, k, decided⟩ := overdue
  exact ⟨serving_step taken serving, k, decided_step taken decided⟩

/-- A lifecycle that was stopped too late can be announced behind a completed `Stop`. -/
theorem overdue_announced (connectSet : Bool) {s : LifecycleState} (overdue : s.Overdue) :
    ∃ labels t, (lifecycleMachine connectSet).run s labels = some t ∧ t.ready = .closed ∧
      (∃ k err, t.stoppers k = .returned err) ∧
      ∀ k action, LifecycleLabel.start k action ∈ labels → k = 0 := by
  obtain ⟨serving, k, decided⟩ := overdue
  obtain ⟨actions, t, err, ran, returned, starters, ready⟩ :=
    stop_returns connectSet decided
  by_cases closed : s.ready = .closed
  · exact ⟨actions.map (.stop k), t, ran, ready.trans closed, ⟨k, err, returned⟩, by simp⟩
  · -- The `Start` that stored its closure announces it, since nothing looks at the flag again.
    have stored : t.starters 0 = .stored := by
      rw [starters]
      exact serving.resolve_right closed
    refine ⟨actions.map (.stop k) ++ [.start 0 .announce],
      { t.setStarter 0 .blocked with ready := .closed }, ?_, rfl, ⟨k, err, returned⟩, by simp⟩
    rw [Machine.run_append, ran]
    simp [Machine.run_cons, lifecycleMachine, lifecycleStep, starterStep, stored, ready, closed]

end Bootkit

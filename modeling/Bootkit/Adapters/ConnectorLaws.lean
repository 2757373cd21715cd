import Bootkit.Adapters.ConnectorMoves

/-! The field of an adapter is set before anybody can rely on it. -/

namespace Bootkit

open Go

/-- Whether a call of `Start` has come back from a `Connect` that succeeded. -/
def StarterPhase.past : StarterPhase → Bool
  | .connected _ | .locked _ | .spurned _ | .cleaning _ | .stored | .blocked | .panicked => true
  | _ => false

/-- Whatever a lifecycle shows of a resource rests on a call that assigned the field. -/
structure Backed (assigned : Nat → Prop) (s : LifecycleState) : Prop where
  past : ∀ k, (s.starters k).past = true → assigned k
  stored : s.stopFunc ≠ none → ∃ k, assigned k
  ready : s.ready = .closed → ∃ k, assigned k
  releasing : ∀ j stop, s.stoppers j = .releasing stop → ∃ k, assigned k

/-- A step of `Start` is backed, if its `Connect` assigned the field before it succeeded. -/
theorem backed_starter {assigned : Nat → Prop} {s next : LifecycleState} {k : Nat}
    {action : StarterAction} (moved : StarterMove true s k action next)
    (connects : ∀ closure, action = .connect (.ok closure) → assigned k)
    (holds : Backed assigned s) : Backed assigned next := by
  -- Only a call whose `Connect` has returned an unbound closure gets past it, and it assigned
  -- first.
  have own : (next.starters k).past = true → assigned k := by
    intro past
    cases moved with
    | connects phase => exact connects _ rfl
    | enter phase => simp [LifecycleState.setStarter, StarterPhase.past] at past
    | unset phase => simp [LifecycleState.setStarter, StarterPhase.past] at past
    | connectFails phase => simp [LifecycleState.setStarter, StarterPhase.past] at past
    | _ phase => exact holds.past k (by rw [phase]; rfl)
  constructor
  · intro j past
    by_cases same : j = k
    · subst same
      exact own past
    · rw [moved.others same] at past
      exact holds.past j past
  · -- The release closure is stored by a call that is past `Connect`.
    intro found
    cases moved with
    | store phase live => exact ⟨k, holds.past k (by rw [phase]; rfl)⟩
    | _ phase => exact holds.stored (by
        simpa [LifecycleState.setStarter, LifecycleState.invoke] using found)
  · -- So is the channel closed by one.
    intro closed
    cases moved with
    | announce phase waiting => exact ⟨k, holds.past k (by rw [phase]; rfl)⟩
    | enter phase => exact holds.ready (by
        simpa [LifecycleState.setStarter, initReady_closed_iff] using closed)
    | unset phase => exact holds.ready (by
        simpa [LifecycleState.setStarter, initReady_closed_iff] using closed)
    | _ phase => exact holds.ready closed
  · rw [moved.frame.1]
    exact holds.releasing

/-- A step of `Stop` is backed by what backs the stored closure. -/
theorem backed_stopper {assigned : Nat → Prop} {s next : LifecycleState} {k : Nat}
    {action : StopperAction} (moved : StopperMove s k action next) (holds : Backed assigned s) :
    Backed assigned next := by
  -- A call of `Stop` releases what was stored, and whoever stored it had assigned.
  obtain ⟨starters, ready, stopFunc⟩ := moved.frame
  constructor
  · rw [starters]
    exact holds.past
  · rw [stopFunc]
    exact holds.stored
  · rw [ready]
    exact holds.ready
  · intro j stop releasing
    by_cases same : j = k
    · subst same
      cases moved with
      | release phase live stored => exact holds.stored (by simp [stored])
      | _ phase => simp [LifecycleState.setStopper] at releasing
    · rw [moved.others same] at releasing
      exact holds.releasing j stop releasing

/-- More assignments back what fewer did. -/
theorem Backed.mono {first second : Nat → Prop} {s : LifecycleState} (holds : Backed first s)
    (more : ∀ k, first k → second k) : Backed second s := by
  -- Every field speaks of some call that has assigned, and there are more of those.
  have some : (∃ k, first k) → ∃ k, second k := fun ⟨k, done⟩ => ⟨k, more k done⟩
  exact ⟨fun k past => more k (holds.past k past), fun found => some (holds.stored found),
    fun closed => some (holds.ready closed), fun j stop busy => some (holds.releasing j stop busy)⟩

/-- What holds of an adapter, however often it is started and stopped. -/
structure ConnectorInvariant (connector : Connector) (s : ConnectorState) : Prop where
  bounded : ∀ k, (s.connects k).retry.Bounded connector.policy
  attempting : ∀ k, Attempting (s.connects k)
  backed : Backed (fun k => (s.connects k).assigned = true) s.lifecycle
  -- Once it is assigned, the field stays set.
  assigned : ∀ k, (s.connects k).assigned = true → s.field ≠ none
  -- Only clients that answered are handed on.
  captured : ∀ k client, (s.connects k).captured = some client → s.pinged client = true
  -- The field holds what some call has captured.
  field : ∀ client, s.field = some client → ∃ k, (s.connects k).captured = some client
  alive : s.crashed = false

/-- The field is assigned from a variable that a successful attempt has set. -/
theorem Attempting.captured {call : ConnectCall} (holds : Attempting call)
    (assigned : call.assigned = true) : call.captured ≠ none := by
  -- The last phase of the closure is the only one in which the client is assigned.
  cases holds with
  | connected => simp
  | _ => cases assigned

/-- What a call has assigned or captured, it keeps. -/
theorem ClosureMove.kept {connector : Connector} {s next : ConnectorState} {k : Nat}
    {action : ConnectAction} (moved : ClosureMove connector s k action next)
    (shape : Attempting (s.connects k)) (j : Nat) :
    ((s.connects j).assigned = true → (next.connects j).assigned = true) ∧
      ∀ client, (s.connects j).captured = some client →
        (next.connects j).captured = some client := by
  by_cases own : j = k
  · subst own
    cases moved with
    | ping phase =>
      -- A call that is still pinging has captured nothing.
      generalize known : s.connects j = call at phase shape
      cases shape <;> cases phase
      simp
    | assign ended first => simp [ConnectorState.setConnect]
    | _ => simp [ConnectorState.setConnect]
  · rw [moved.frame.2.2 j own]
    exact ⟨id, fun _ => id⟩

/-- A step of the connect closure keeps what holds of the adapter. -/
theorem connectorInvariant_closure {connector : Connector} {s next : ConnectorState} {k : Nat}
    {action : ConnectAction} (moved : ClosureMove connector s k action next)
    (holds : ConnectorInvariant connector s) : ConnectorInvariant connector next := by
  obtain ⟨lifecycle, crashed, others⟩ := moved.frame
  have shape := (moved.attempting (holds.bounded k) (holds.attempting k)).1
  have loop : (next.connects k).retry.Bounded connector.policy := by
    cases moved with
    | retry allowed moved =>
      simpa [ConnectorState.setConnect] using moved.bounded (holds.bounded k)
    | _ => simpa [ConnectorState.setConnect] using holds.bounded k
  have pinged : ∀ client, s.pinged client = true → next.pinged client = true := by
    intro client known
    cases moved with
    | @ping answered phase =>
      by_cases same : client = answered <;> simp [same, known]
    | _ => exact known
  -- What the call has captured is new, or was captured before.
  have captured : ∀ client, (next.connects k).captured = some client →
      next.pinged client = true := by
    intro client known
    cases moved with
    | @ping answered phase =>
      obtain rfl : answered = client := by simpa [ConnectorState.setConnect] using known
      simp
    | _ =>
      simp only [ConnectorState.setConnect, update_self] at known
      exact holds.captured k client known
  -- An assignment of the field is the only step that a call is marked by.
  have field : next.field = s.field ∧ (next.connects k).assigned = (s.connects k).assigned ∨
      next.field = (next.connects k).captured ∧ (next.connects k).assigned = true := by
    cases moved with
    | assign ended first => exact .inr (by simp [ConnectorState.setConnect])
    | _ => exact .inl (by simp [ConnectorState.setConnect, ConnectorState.close])
  have marked : ∀ j, (s.connects j).assigned = true → (next.connects j).assigned = true :=
    fun j => (moved.kept (holds.attempting k) j).1
  constructor
  · intro j
    by_cases same : j = k
    · exact same ▸ loop
    · rw [others j same]
      exact holds.bounded j
  · intro j
    by_cases same : j = k
    · exact same ▸ shape
    · rw [others j same]
      exact holds.attempting j
  · rw [lifecycle]
    exact holds.backed.mono marked
  · intro j now
    rcases field with ⟨kept, unmarked⟩ | ⟨set, done⟩
    · rw [kept]
      by_cases same : j = k
      · subst same
        exact holds.assigned j (unmarked ▸ now)
      · rw [others j same] at now
        exact holds.assigned j now
    · rw [set]
      exact shape.captured done
  · intro j client known
    by_cases same : j = k
    · subst same
      exact captured client known
    · rw [others j same] at known
      exact pinged client (holds.captured j client known)
  · intro client known
    rcases field with ⟨kept, -⟩ | ⟨set, -⟩
    · rw [kept] at known
      obtain ⟨j, held⟩ := holds.field client known
      exact ⟨j, (moved.kept (holds.attempting k) j).2 client held⟩
    · exact ⟨k, set ▸ known⟩
  · rw [crashed]
    exact holds.alive

/-- A stop closure changes nothing but which clients are open. -/
theorem closeField_frame (s : ConnectorState) :
    s.closeField.connects = s.connects ∧ s.closeField.field = s.field ∧
      s.closeField.pinged = s.pinged ∧ (s.field ≠ none → s.closeField.crashed = s.crashed) := by
  -- Closing a nil client is the only effect besides the closed client itself.
  unfold ConnectorState.closeField
  cases found : s.field <;> simp [ConnectorState.close, found]

/-- A step on the lifecycle changes clients only through a stop closure. -/
theorem affected_frame (s : ConnectorState) (label : LifecycleLabel) :
    (s.affected label).connects = s.connects ∧ (s.affected label).field = s.field ∧
      (s.affected label).pinged = s.pinged := by
  -- Two labels run a closure that closes the client, and the others do nothing here.
  obtain ⟨connects, field, pinged, -⟩ := closeField_frame s
  unfold ConnectorState.affected
  split <;> first | exact ⟨connects, field, pinged⟩ | exact ⟨rfl, rfl, rfl⟩

/-- A stop closure always finds the field set. -/
theorem affected_alive {connector : Connector} {s : ConnectorState} {label : LifecycleLabel}
    {lifecycle : LifecycleState} (moved : lifecycleStep true s.lifecycle label = some lifecycle)
    (holds : ConnectorInvariant connector s) : (s.affected label).crashed = false := by
  -- Both closures run only after some call has assigned the client, so it is not nil.
  have set : (∃ k, (s.connects k).assigned = true) → s.closeField.crashed = false := by
    rintro ⟨k, assigned⟩
    exact ((closeField_frame s).2.2.2 (holds.assigned k assigned)).trans holds.alive
  unfold ConnectorState.affected
  split
  · rename_i k err
    have moved : StarterMove true s.lifecycle k (.cleaned err) lifecycle := starterStep_move moved
    cases moved with
    | cleaned phase => exact set ⟨k, holds.backed.past k (by rw [phase]; rfl)⟩
  · rename_i k err
    have moved : StopperMove s.lifecycle k (.released err) lifecycle := stopperStep_move moved
    cases moved with
    | released phase => exact set (holds.backed.releasing k _ phase)
  · exact holds.alive

/-- A step on the lifecycle keeps what holds of the adapter. -/
theorem connectorInvariant_lifecycle {connector : Connector} {s next : ConnectorState}
    {label : LifecycleLabel} (taken : connectorStep connector s (.lifecycle label) = some next)
    (holds : ConnectorInvariant connector s) : ConnectorInvariant connector next := by
  obtain ⟨permitted, lifecycle, moved, rfl⟩ := lifecycleStep_permitted taken
  obtain ⟨connects, field, pinged⟩ := affected_frame s label
  have alive := affected_alive moved holds
  have backed : Backed (fun k => (s.connects k).assigned = true) lifecycle := by
    cases label with
    | start k action =>
      refine backed_starter (starterStep_move moved) ?_ holds.backed
      -- The adapter lets `Connect` succeed only after the assignment.
      rintro closure rfl
      simp only [Connector.permits, Bool.and_eq_true] at permitted
      exact permitted.2
    | stop k action => exact backed_stopper (stopperStep_move moved) holds.backed
    | cancel k cause =>
      cases moved
      exact ⟨holds.backed.past, holds.backed.stored, holds.backed.ready, holds.backed.releasing⟩
    | ready =>
      cases moved
      constructor <;> simp only [initReady_frame, initReady_closed_iff]
      · exact holds.backed.past
      · exact holds.backed.stored
      · exact holds.backed.ready
      · exact holds.backed.releasing
  constructor <;> simp only [connects, field, pinged]
  · exact holds.bounded
  · exact holds.attempting
  · exact backed
  · exact holds.assigned
  · exact holds.captured
  · exact holds.field
  · exact alive

/-- Everything holds in every state of an adapter. -/
theorem connectorInvariant_run {connector : Connector} {labels : List ConnectorLabel}
    {s : ConnectorState}
    (reached : (connectorMachine connector).run newConnector labels = some s) :
    ConnectorInvariant connector s := by
  refine (connectorMachine connector).run_history (fun _ s => ConnectorInvariant connector s)
    ?_ ?_ labels s reached
  · -- Nobody has connected on a new adapter.
    refine ⟨fun _ => trivial, fun _ => .waiting rfl, ⟨?_, ?_, ?_, ?_⟩, ?_, ?_, ?_, rfl⟩ <;>
      simp [newConnector, newLifecycle, ConnectCall.init, StarterPhase.past]
  · -- Time changes nothing, and the two other kinds of steps were considered on their own.
    intro _ s label next _ holds taken
    cases label with
    | tick d =>
      cases taken
      exact ⟨holds.bounded, holds.attempting, holds.backed, holds.assigned, holds.captured,
        holds.field, holds.alive⟩
    | lifecycle label => exact connectorInvariant_lifecycle taken holds
    | connect k action => exact connectorInvariant_closure (connectStep_move taken).2 holds

/-- What a call of the connect closure has assigned or captured stays so. -/
theorem connects_kept {connector : Connector} {s next : ConnectorState} {label : ConnectorLabel}
    (taken : connectorStep connector s label = some next)
    (holds : ConnectorInvariant connector s) (j : Nat) :
    ((s.connects j).assigned = true → (next.connects j).assigned = true) ∧
      ∀ client, (s.connects j).captured = some client →
        (next.connects j).captured = some client := by
  -- Only a step inside `Connect` touches what its calls have done.
  cases label with
  | tick d =>
    cases taken
    exact ⟨id, fun _ => id⟩
  | lifecycle label =>
    obtain ⟨-, lifecycle, -, rfl⟩ := lifecycleStep_permitted taken
    rw [(affected_frame s label).1]
    exact ⟨id, fun _ => id⟩
  | connect k action => exact (connectStep_move taken).2.kept (holds.attempting k) j

/-- The field is set exactly by the assignments that the schedule makes. -/
structure AssignHistory (labels : List ConnectorLabel) (s : ConnectorState) : Prop where
  marked : ∀ k, ConnectorLabel.connect k .assign ∈ labels → (s.connects k).assigned = true
  caused : s.field ≠ none → ∃ k, ConnectorLabel.connect k .assign ∈ labels

/-- In every run the field tells whether it was assigned. -/
theorem assignHistory_run {connector : Connector} {labels : List ConnectorLabel}
    {s : ConnectorState}
    (reached : (connectorMachine connector).run newConnector labels = some s) :
    AssignHistory labels s := by
  refine (connectorMachine connector).run_history AssignHistory ?_ ?_ labels s reached
  · constructor <;> simp [newConnector]
  · intro labels s label next prior holds taken
    have kept := connects_kept taken (connectorInvariant_run prior)
    constructor
    · intro k member
      rcases List.mem_append.mp member with earlier | last
      · exact (kept k).1 (holds.marked k earlier)
      · obtain rfl := List.mem_singleton.mp last
        cases (connectStep_move taken).2
        simp [ConnectorState.setConnect]
    · intro found
      -- Only an assignment changes the field.
      by_cases assigns : ∃ k, label = .connect k .assign
      · obtain ⟨k, rfl⟩ := assigns
        exact ⟨k, by simp⟩
      · have same : next.field = s.field := by
          cases label with
          | tick d =>
            cases taken
            rfl
          | lifecycle label =>
            obtain ⟨-, lifecycle, -, rfl⟩ := lifecycleStep_permitted taken
            exact (affected_frame s label).2.1
          | connect k action =>
            cases (connectStep_move taken).2 with
            | assign ended first => exact absurd ⟨k, rfl⟩ assigns
            | _ => rfl
        rw [same] at found
        obtain ⟨k, member⟩ := holds.caused found
        exact ⟨k, List.mem_append_left _ member⟩

/-- The steps of a call of `Start` up to its first attempt. -/
def firstAttempt : List ConnectorLabel :=
  [.lifecycle (.start 0 .enter), .connect 0 (.retry .enter), .connect 0 (.retry .check),
    .connect 0 (.retry .call), .connect 0 (.create none)]

/-- The steps from an attempt that succeeds to the return of `Connect`. -/
def connectsNow : List ConnectorLabel :=
  [.connect 0 (.ping none), .connect 0 (.retry (.answer none)), .connect 0 .assign,
    .lifecycle (.start 0 (.connect (.ok true)))]

/-- A first attempt connects, and `Start` announces readiness. -/
def announcedLabels : List ConnectorLabel :=
  firstAttempt ++ connectsNow ++ [.lifecycle (.start 0 .lock), .lifecycle (.start 0 .decide),
    .lifecycle (.start 0 .announce)]

end Bootkit

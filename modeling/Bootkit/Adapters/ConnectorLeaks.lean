import Bootkit.Adapters.ConnectorLaws
import Bootkit.Cachekit.Redis
import Bootkit.Core.LifecycleReleases
import Bootkit.Databasekit.Postgres

/-! Connecting with retries leaves no client open behind. -/

namespace Bootkit

open Go

/-- Whether a stop closure is running. -/
def Releasing (s : LifecycleState) : Prop :=
  (∃ stop, s.starters 0 = .cleaning stop) ∨ ∃ j stop, s.stoppers j = .releasing stop

/-- Who has the open client of an adapter that is started once. -/
structure Tenure (s : ConnectorState) : Prop where
  -- The field holds what the one call of the connect closure assigned.
  field : s.field = if (s.connects 0).assigned then (s.connects 0).captured else none
  idle : s.lifecycle.starters 0 = .idle → s.connects 0 = .init
  connecting : s.lifecycle.starters 0 = .connecting → Owns s.live (s.connects 0).current
  held : s.lifecycle.starters 0 ≠ .connecting →
    s.lifecycle.invoked 0 = 0 ∨ Releasing s.lifecycle → Owns s.live s.field
  freed : s.lifecycle.starters 0 ≠ .connecting → s.lifecycle.invoked 0 ≠ 0 →
    ¬ Releasing s.lifecycle → Owns s.live none
  -- A `Start` that returned without a release, and left no closure, had nothing to release.
  unheld : ∀ err, s.lifecycle.starters 0 = .returned err → s.lifecycle.stopFunc = none →
    s.lifecycle.invoked 0 = 0 → s.field = none

/-- A step of the connect closure keeps the client in its hands. -/
theorem tenure_closure {connector : Connector} {s next : ConnectorState} {action : ConnectAction}
    (inside : s.lifecycle.starters 0 = .connecting)
    (moved : ClosureMove connector s 0 action next) (sound : ConnectorInvariant connector s)
    (holds : Tenure s) : Tenure next := by
  obtain ⟨lifecycle, -, -⟩ := moved.frame
  have owned := (moved.attempting (sound.bounded 0) (sound.attempting 0)).2
  have field : next.field =
      if (next.connects 0).assigned then (next.connects 0).captured else none := by
    have before := holds.field
    cases moved with
    | ping phase =>
      -- A call that is still pinging has assigned nothing.
      have unassigned : (s.connects 0).assigned = false := by
        have shape := sound.attempting 0
        generalize s.connects 0 = call at phase shape
        cases shape <;> first | rfl | cases phase
      simpa [ConnectorState.setConnect, unassigned] using before
    | assign ended first => simp [ConnectorState.setConnect]
    | _ => simpa [ConnectorState.setConnect, ConnectorState.close] using before
  constructor
  · exact field
  · rw [lifecycle, inside]
    simp
  · intro _
    exact owned (holds.connecting inside)
  · rw [lifecycle]
    exact fun outside => absurd inside outside
  · rw [lifecycle]
    exact fun outside => absurd inside outside
  · rw [lifecycle, inside]
    simp

/-- A step that neither enters nor leaves `Connect` or a closure keeps the client where it is. -/
theorem Tenure.frame {s next : ConnectorState} (holds : Tenure s)
    (connects : next.connects = s.connects) (field : next.field = s.field)
    (live : next.live = s.live)
    (idle : next.lifecycle.starters 0 = .idle → s.lifecycle.starters 0 = .idle)
    (inside : next.lifecycle.starters 0 = .connecting ↔ s.lifecycle.starters 0 = .connecting)
    (invoked : next.lifecycle.invoked 0 = s.lifecycle.invoked 0)
    (releasing : Releasing next.lifecycle ↔ Releasing s.lifecycle)
    (done : ∀ err, next.lifecycle.starters 0 = .returned err → next.lifecycle.stopFunc = none →
      s.lifecycle.starters 0 = .returned err ∧ s.lifecycle.stopFunc = none) : Tenure next := by
  -- Each field is read off the parts of the state that are the same.
  constructor
  · rw [connects, field]
    exact holds.field
  · rw [connects]
    exact fun now => holds.idle (idle now)
  · rw [inside, live, connects]
    exact holds.connecting
  · rw [Ne, inside, invoked, releasing, live, field]
    exact holds.held
  · rw [Ne, inside, invoked, releasing, live]
    exact holds.freed
  · intro err returned nothing
    rw [invoked, field]
    obtain ⟨before, none⟩ := done err returned nothing
    exact holds.unheld err before none

/-- A stop closure that runs while the field's client is open leaves none. -/
theorem closeField_owns {s : ConnectorState} (owned : Owns s.live s.field) :
    Owns s.closeField.live none := by
  -- A client that is the only open one leaves none open when it is closed.
  unfold ConnectorState.closeField
  cases found : s.field with
  | none =>
    rw [found] at owned
    exact owned
  | some client =>
    rw [found] at owned
    exact owned.closed

/-- After the one call of a stop closure nobody has a client. -/
theorem Tenure.released {s next : ConnectorState} (holds : Tenure s)
    (connects : next.connects = s.connects) (field : next.field = s.field)
    (idle : next.lifecycle.starters 0 = .idle → s.lifecycle.starters 0 = .idle)
    (outside : next.lifecycle.starters 0 ≠ .connecting) (once : next.lifecycle.invoked 0 = 1)
    (ended : ¬ Releasing next.lifecycle) (owned : Owns next.live none) : Tenure next := by
  -- After the release nothing is open, and the fields about an open client do not apply.
  constructor
  · rw [connects, field]
    exact holds.field
  · rw [connects]
    exact fun now => holds.idle (idle now)
  · exact fun inside => absurd inside outside
  · rintro _ (never | running)
    · omega
    · exact absurd running ended
  · exact fun _ _ _ => owned
  · intro _ _ _ never
    omega

/-- A call of the connect closure whose `retry.Do` failed has no client in hand. -/
theorem Attempting.failed_empty {call : ConnectCall} (holds : Attempting call) {err : Err}
    (failed : call.retry.result = some (some err)) :
    call.current = none ∧ call.assigned = false := by
  -- The retries have a result of failure only while the closure waits between its attempts.
  cases holds with
  | waiting => exact ⟨rfl, rfl⟩
  | _ => simp [RetryPhase.result] at failed

/-- What was assigned to the field is the client in hand. -/
theorem Attempting.assigned_current {call : ConnectCall} (holds : Attempting call)
    (assigned : call.assigned = true) : call.current = call.captured := by
  cases holds <;> first | rfl | cases assigned

/-- A `Start` that enters `Connect` has no client in hand, and there is none. -/
theorem Tenure.enter {s : ConnectorState} (holds : Tenure s)
    (phase : s.lifecycle.starters 0 = .idle) (unused : s.lifecycle.invoked 0 = 0) :
    Tenure { s with lifecycle := s.lifecycle.initReady.setStarter 0 .connecting } := by
  -- Before the first call the field is nil, so that nothing is open.
  have fresh := holds.idle phase
  have none : s.field = none := by
    rw [holds.field, fresh]
    rfl
  have owned := holds.held (by simp [phase]) (.inl unused)
  rw [none] at owned
  constructor
  · exact holds.field
  · simp [LifecycleState.setStarter]
  · intro _
    show Owns s.live (s.connects 0).current
    rw [fresh]
    exact owned
  · simp [LifecycleState.setStarter]
  · simp [LifecycleState.setStarter]
  · simp [LifecycleState.setStarter]

/-- A `Start` whose `retry.Do` failed returns with nothing open. -/
theorem Tenure.connectFails {s : ConnectorState} (holds : Tenure s)
    (shape : Attempting (s.connects 0)) (phase : s.lifecycle.starters 0 = .connecting)
    {cause err : Err} (failed : (s.connects 0).retry.result = some (some cause)) :
    Tenure { s with lifecycle := s.lifecycle.setStarter 0 (.returned (some err)) } := by
  -- A failed `retry.Do` has captured no client.
  obtain ⟨empty, unassigned⟩ := shape.failed_empty failed
  have owned := holds.connecting phase
  have none : s.field = none := by
    rw [holds.field, unassigned]
    rfl
  rw [empty] at owned
  constructor
  · exact holds.field
  · simp [LifecycleState.setStarter]
  · simp [LifecycleState.setStarter]
  · intro _ _
    show Owns s.live s.field
    rw [none]
    exact owned
  · exact fun _ _ _ => owned
  · exact fun _ _ _ _ => none

/-- A `Start` whose `Connect` succeeded leaves the open client to the field. -/
theorem Tenure.connects {s : ConnectorState} (holds : Tenure s)
    (shape : Attempting (s.connects 0)) (phase : s.lifecycle.starters 0 = .connecting)
    (unused : s.lifecycle.invoked 0 = 0) (assigned : (s.connects 0).assigned = true)
    (stop : Option Nat) :
    Tenure { s with lifecycle := s.lifecycle.setStarter 0 (.connected stop) } := by
  -- What was assigned is the client that the call had in hand.
  have owned := holds.connecting phase
  have same : s.field = (s.connects 0).current := by
    rw [holds.field, assigned]
    exact (shape.assigned_current assigned).symm
  constructor
  · exact holds.field
  · simp [LifecycleState.setStarter]
  · simp [LifecycleState.setStarter]
  · intro _ _
    show Owns s.live s.field
    rw [same]
    exact owned
  · exact fun _ invoked => absurd unused invoked
  · simp [LifecycleState.setStarter]

/-- A `Start` that calls the closure it was handed back still has the client to close. -/
theorem Tenure.clean {s : ConnectorState} (holds : Tenure s) {stop : Nat}
    (phase : s.lifecycle.starters 0 = .spurned (some stop)) (unused : s.lifecycle.invoked 0 = 0) :
    Tenure { s with lifecycle := (s.lifecycle.setStarter 0 (.cleaning stop)).invoke stop } := by
  have owned := holds.held (by simp [phase]) (.inl unused)
  -- The call counts at once, but the closure is still running.
  have running : Releasing ((s.lifecycle.setStarter 0 (.cleaning stop)).invoke stop) :=
    .inl ⟨stop, by simp [LifecycleState.setStarter, LifecycleState.invoke]⟩
  constructor
  · exact holds.field
  · simp [LifecycleState.setStarter, LifecycleState.invoke]
  · simp [LifecycleState.setStarter, LifecycleState.invoke]
  · exact fun _ _ => owned
  · exact fun _ _ ended => absurd running ended
  · simp [LifecycleState.setStarter, LifecycleState.invoke]

/-- A `Start` whose cleanup has returned has closed the client. -/
theorem Tenure.cleaned {s : ConnectorState} (holds : Tenure s) {stop : Nat}
    (phase : s.lifecycle.starters 0 = .cleaning stop) (once : s.lifecycle.invoked 0 = 1)
    (alone : ∀ j stop, s.lifecycle.stoppers j ≠ .releasing stop) (err : Option Err) :
    Tenure { s.closeField with lifecycle := s.lifecycle.setStarter 0 (.returned err) } := by
  -- The client was open while the closure ran, and now no closure runs.
  obtain ⟨connects, field, -⟩ := closeField_frame s
  have owned := closeField_owns (holds.held (by simp [phase]) (.inr (.inl ⟨stop, phase⟩)))
  have ended : ¬ Releasing (s.lifecycle.setStarter 0 (.returned err)) := by
    rintro (⟨stop, cleaning⟩ | ⟨j, stop, releasing⟩)
    · simp [LifecycleState.setStarter] at cleaning
    · exact alone j stop releasing
  refine holds.released connects field ?_ ?_ once ended owned <;>
    simp [LifecycleState.setStarter]

/-- A step of the one `Start` hands the client on, or closes it. -/
theorem tenure_starter {connector : Connector} {labels : List LifecycleLabel} {s : ConnectorState}
    {action : StarterAction} {lifecycle : LifecycleState}
    (moved : StarterMove true s.lifecycle 0 action lifecycle)
    (permitted : connector.permits s (.start 0 action) = true)
    (law : LifecycleInvariant labels s.lifecycle) (releases : Releases labels s.lifecycle)
    (sound : ConnectorInvariant connector s) (holds : Tenure s) :
    Tenure { s.affected (.start 0 action) with lifecycle } := by
  have custody := law.custody
  have shape := sound.attempting 0
  cases moved with
  | unset phase missing => cases missing
  | enter phase set =>
    rw [phase] at custody
    exact holds.enter phase (custody.untouched rfl (by simp)).2
  | connectFails phase =>
    obtain ⟨cause, failed⟩ : ∃ cause, (s.connects 0).retry.result = some (some cause) := by
      simp only [Connector.permits] at permitted
      split at permitted
      · exact ⟨_, by assumption⟩
      · cases permitted
    exact holds.connectFails shape phase failed
  | connects phase =>
    rw [phase] at custody
    simp only [Connector.permits, Bool.and_eq_true] at permitted
    exact holds.connects shape phase (custody.untouched rfl (by simp)).2 permitted.2 _
  | clean phase =>
    rw [phase] at custody
    exact holds.clean phase (custody.untouched rfl (by simp)).2
  | cleaned phase =>
    rw [phase] at custody
    obtain ⟨nothing, once⟩ := custody.cleans
    -- No `Stop` is inside the closure, as none was stored for it.
    refine holds.cleaned phase once ?_ _
    exact fun j stop releasing => (releases.source j stop releasing).2 nothing
  | skip phase =>
    -- The adapter's `Connect` never succeeds without a closure.
    rw [phase] at custody
    exact custody.unskipped.elim
  | finish phase done =>
    refine holds.frame rfl rfl rfl ?_ ?_ rfl ?_ ?_
    · simp [LifecycleState.setStarter]
    · simp [LifecycleState.setStarter, phase]
    · simp [Releasing, LifecycleState.setStarter, phase]
    · rw [phase] at custody
      exact fun _ _ nothing => absurd nothing custody.stores
  | _ phase =>
    refine holds.frame rfl rfl rfl ?_ ?_ rfl ?_ ?_
    · simp [LifecycleState.setStarter]
    · simp [LifecycleState.setStarter, phase]
    · simp [Releasing, LifecycleState.setStarter, phase]
    · simp [LifecycleState.setStarter]

/-- A step of a `Stop` closes the client, or leaves it where it is. -/
theorem tenure_stopper {labels : List LifecycleLabel} {s : ConnectorState} {k : Nat}
    {action : StopperAction} {lifecycle : LifecycleState}
    (moved : StopperMove s.lifecycle k action lifecycle)
    (law : LifecycleInvariant labels s.lifecycle) (releases : Releases labels s.lifecycle)
    (holds : Tenure s) : Tenure { s.affected (.stop k action) with lifecycle } := by
  have custody := law.custody
  have unaffected : (∀ stop, s.lifecycle.stoppers k ≠ .releasing stop) →
      (∀ stop, lifecycle.stoppers k ≠ .releasing stop) →
      (Releasing lifecycle ↔ Releasing s.lifecycle) := by
    intro before after
    simp only [Releasing, moved.releasing_iff before after, moved.frame.1]
  cases moved with
  | @release stop phase live stored =>
    rw [live] at custody
    have running : Releasing { (s.lifecycle.setStopper k (.releasing stop)).invoke stop with
        stopped := true } := .inr ⟨k, stop, update_self s.lifecycle.stoppers k _⟩
    constructor
    · exact holds.field
    · exact holds.idle
    · exact holds.connecting
    · exact fun outside _ => holds.held outside (.inl custody.kept)
    · exact fun _ _ ended => absurd running ended
    · intro _ _ nothing
      exact absurd nothing (by simp [LifecycleState.invoke, LifecycleState.setStopper, stored])
  | @released stop err phase =>
    obtain ⟨set, found⟩ := releases.source k stop phase
    rw [set] at custody
    obtain ⟨once, outside, clean⟩ := custody.invoked found
    obtain ⟨connects, field, -⟩ := closeField_frame s
    have owned := closeField_owns (holds.held outside (.inr (.inr ⟨k, stop, phase⟩)))
    -- This call was alone inside the closure.
    have ended : ¬ Releasing (s.lifecycle.setStopper k (.returning err)) := by
      rintro (⟨stop, cleaning⟩ | ⟨j, other, releasing⟩)
      · exact clean stop cleaning
      · by_cases own : j = k
        · subst own
          simp [LifecycleState.setStopper] at releasing
        · simp only [LifecycleState.setStopper, update_other _ _ own] at releasing
          exact own (releases.alone j other k releasing (by rw [phase]; rfl)).symm
    exact holds.released connects field id outside once ended owned
  | _ phase =>
    refine holds.frame rfl rfl rfl id Iff.rfl rfl (unaffected ?_ ?_) fun _ => And.intro
    · simp [phase]
    · simp [LifecycleState.setStopper]

/-- An adapter is started once. -/
def StartedOnce (labels : List ConnectorLabel) : Prop :=
  ∀ k action, ConnectorLabel.lifecycle (.start k action) ∈ labels → k = 0

/-- An adapter that is started once is a lifecycle that is, and its closures are not nil. -/
theorem StartedOnce.single {connector : Connector} {labels : List ConnectorLabel}
    {s : ConnectorState} (once : StartedOnce labels)
    (reached : (connectorMachine connector).run newConnector labels = some s) :
    ∀ k action, LifecycleLabel.start k action ∈ labels.filterMap ConnectorLabel.onLifecycle →
      k = 0 ∧ action ≠ .connect (.ok false) := by
  intro k action member
  obtain ⟨label, taken, same⟩ := List.mem_filterMap.mp member
  obtain rfl : label = .lifecycle (.start k action) := by
    cases label <;> simp_all [ConnectorLabel.onLifecycle]
  refine ⟨once k action taken, ?_⟩
  -- Such a step is never permitted, so it was never taken.
  rintro rfl
  obtain ⟨before, after, rfl⟩ := List.append_of_mem taken
  obtain ⟨t, next, -, step, -⟩ := (connectorMachine connector).run_split reached
  have step : connectorStep connector t (.lifecycle (.start k (.connect (.ok false)))) =
    some next := step
  have permitted := (lifecycleStep_permitted step).1
  simp [Connector.permits] at permitted

/-- In every run with one `Start`, somebody has the open client. -/
theorem tenure_run {connector : Connector} {labels : List ConnectorLabel} {s : ConnectorState}
    (reached : (connectorMachine connector).run newConnector labels = some s)
    (once : StartedOnce labels) : Tenure s := by
  refine (connectorMachine connector).run_history
    (fun labels s => StartedOnce labels → Tenure s) ?_ ?_ labels s reached once
  · intro _
    have none : Owns newConnector.live none := by simp [Owns, newConnector]
    refine ⟨rfl, fun _ => rfl, ?_, fun _ _ => none, fun _ _ _ => none, ?_⟩ <;>
      simp [newConnector, newLifecycle]
  · intro labels s label next prior before taken once
    have earlier : StartedOnce labels :=
      fun k action member => once k action (List.mem_append_left _ member)
    have holds := before earlier
    have sound := connectorInvariant_run prior
    have single := earlier.single prior
    have law := lifecycleInvariant_run (lifecycle_run prior) single
    have releases := releases_run (lifecycle_run prior) single
    cases label with
    | tick d =>
      cases taken
      exact holds.frame rfl rfl rfl id Iff.rfl rfl Iff.rfl fun _ => And.intro
    | connect k action =>
      obtain ⟨inside, moved⟩ := connectStep_move taken
      -- Only the one `Start` can be inside `Connect`.
      have own : k = 0 := by
        by_contra other
        rw [law.alone k other] at inside
        cases inside
      subst own
      exact tenure_closure inside moved sound holds
    | lifecycle label =>
      obtain ⟨permitted, lifecycle, moved, rfl⟩ := lifecycleStep_permitted taken
      cases label with
      | start k action =>
        obtain rfl := once k action (by simp)
        exact tenure_starter (starterStep_move moved) permitted law releases sound holds
      | stop k action => exact tenure_stopper (stopperStep_move moved) law releases holds
      | cancel k cause =>
        cases moved
        exact holds.frame rfl rfl rfl id Iff.rfl rfl Iff.rfl fun _ => And.intro
      | ready =>
        cases moved
        obtain ⟨-, stopFunc, -, starters, stoppers, invoked⟩ := initReady_frame s.lifecycle
        refine holds.frame rfl rfl rfl ?_ ?_ ?_ ?_ ?_ <;>
          simp only [Releasing, stopFunc, starters, stoppers, invoked]
        · exact id
        · exact fun _ => And.intro

/-- When nobody has an open client, every client is closed. -/
theorem Owns.none {live : Nat → Bool} (owned : Owns live none) : ∀ client, live client = false := by
  -- No client is the one of nobody.
  intro client
  simpa using owned client

/-- The open client is in the hands of the connect closure or in the field, or there is none. -/
theorem Tenure.owner {s : ConnectorState} (holds : Tenure s) :
    (s.lifecycle.starters 0 = .connecting ∧ Owns s.live (s.connects 0).current) ∨
      Owns s.live s.field ∨ Owns s.live none := by
  -- The client is in the hand of `Connect`, in the field, or released.
  by_cases inside : s.lifecycle.starters 0 = .connecting
  · exact .inl ⟨inside, holds.connecting inside⟩
  · by_cases held : s.lifecycle.invoked 0 = 0 ∨ Releasing s.lifecycle
    · exact .inr (.inl (holds.held inside held))
    · obtain ⟨invoked, ended⟩ := not_or.mp held
      exact .inr (.inr (holds.freed inside invoked ended))

/-- With nothing in the field and nothing in hand, no client is open. -/
theorem Tenure.closed {s : ConnectorState} (holds : Tenure s) (field : s.field = none)
    (hand : s.lifecycle.starters 0 = .connecting → (s.connects 0).current = none) :
    Owns s.live none := by
  -- Whoever owns the clients, the owner has none.
  rcases holds.owner with ⟨inside, owned⟩ | owned | owned
  · exact hand inside ▸ owned
  · exact field ▸ owned
  · exact owned

/-- Whoever has the open client, there is at most one. -/
theorem Owns.unique {live : Nat → Bool} {owner : Option Nat} (owned : Owns live owner)
    {first second : Nat} (one : live first = true) (two : live second = true) : first = second :=
  Option.some.inj (((owned first).mp one).symm.trans ((owned second).mp two))

/--
Connecting with retries leaks no client, for an adapter that is started once.

The connector stands for either adapter with any retry policy.
-/
theorem connector_leaks_nothing (connector : Connector) (labels : List ConnectorLabel)
    (s : ConnectorState)
    (reached : (connectorMachine connector).run newConnector labels = some s)
    (once : StartedOnce labels) :
    -- At most one client is open.
    (∀ first second, s.live first = true → s.live second = true → first = second) ∧
    -- None is open once `Connect` has failed, which it does with `retry.Do`.
    (∀ err, (s.connects 0).retry.result = some (some err) → ∀ client, s.live client = false) ∧
    -- While `Start` blocks and no `Stop` has released it, the one in the field is open.
    (s.lifecycle.starters 0 = .blocked →
      (∀ j err, ConnectorLabel.lifecycle (.stop j (.released err)) ∉ labels) →
      ∃ stored, s.field = some stored ∧ ∀ client, s.live client = true ↔ client = stored) ∧
    -- None is open once `Start` and a `Stop` have returned.
    (∀ j result stopped, s.lifecycle.starters 0 = .returned result →
      s.lifecycle.stoppers j = .returned stopped → ∀ client, s.live client = false) := by
  have holds := tenure_run reached once
  have sound := connectorInvariant_run reached
  have single := once.single reached
  have law := lifecycleInvariant_run (lifecycle_run reached) single
  have releases := releases_run (lifecycle_run reached) single
  have custody := law.custody
  refine ⟨?_, ?_, ?_, ?_⟩
  · intro first second one two
    rcases holds.owner with ⟨-, owned⟩ | owned | owned <;> exact owned.unique one two
  · intro err failed
    obtain ⟨empty, unassigned⟩ := (sound.attempting 0).failed_empty failed
    refine (holds.closed ?_ fun _ => empty).none
    rw [holds.field, unassigned]
    rfl
  · intro blocked unreleased
    have assigned := sound.backed.past 0 (by rw [blocked]; rfl)
    obtain ⟨stored, field⟩ := Option.ne_none_iff_exists'.mp (sound.assigned 0 assigned)
    have open_ : s.lifecycle.invoked 0 = 0 ∨ Releasing s.lifecycle := by
      cases flag : s.lifecycle.stopped with
      | false =>
        rw [flag] at custody
        exact .inl custody.kept
      | true =>
        -- Whoever set the flag is still inside the closure.
        rw [blocked] at custody
        rcases releases.ended flag custody.stores with running | ⟨j, err, gone⟩
        · exact .inr (.inr running)
        · obtain ⟨label, member, same⟩ := List.mem_filterMap.mp gone
          obtain rfl : label = .lifecycle (.stop j (.released err)) := by
            cases label <;> simp_all [ConnectorLabel.onLifecycle]
          exact absurd member (unreleased j err)
    have owned := holds.held (by simp [blocked]) open_
    refine ⟨stored, field, fun client => (owned client).trans ?_⟩
    rw [field, Option.some.injEq]
    exact eq_comm
  · intro j result stopped returned ended
    have outside : s.lifecycle.starters 0 ≠ .connecting := by simp [returned]
    have flag := law.stops.decided j (by rw [ended]; rfl)
    -- A `Stop` inside the closure would be the only one that has dealt with the flag.
    have idle : ¬ Releasing s.lifecycle := by
      rintro (⟨stop, cleaning⟩ | ⟨i, stop, releasing⟩)
      · simp [returned] at cleaning
      · obtain rfl := releases.alone i stop j releasing (by rw [ended]; rfl)
        simp [ended] at releasing
    rw [flag] at custody
    by_cases nothing : s.lifecycle.stopFunc = none
    · by_cases never : s.lifecycle.invoked 0 = 0
      · exact (holds.closed (holds.unheld result returned nothing never)
          fun inside => absurd inside outside).none
      · exact (holds.freed outside never idle).none
    · have invoked := (custody.invoked nothing).1
      exact (holds.freed outside (by omega) idle).none

/-- A first ping fails, and a `Stop` arrives before the second attempt connects. -/
def overtakenLabels : List ConnectorLabel :=
  firstAttempt ++ [.connect 0 (.ping (some (.new canceled))), .connect 0 .close,
    .connect 0 (.retry (.answer (some (.new canceled)))), .connect 0 (.retry (.sleep 0)),
    .lifecycle (.stop 0 .call), .lifecycle (.stop 0 .lock), .lifecycle (.stop 0 .decide),
    .lifecycle (.stop 0 .unlock), .tick 10, .connect 0 (.retry .wake),
    .connect 0 (.retry .check), .connect 0 (.retry .call), .connect 0 (.create none)] ++
  connectsNow ++ [.lifecycle (.start 0 .lock), .lifecycle (.start 0 .decide),
    .lifecycle (.start 0 .clean), .lifecycle (.start 0 (.cleaned none))]

/-- A database that is stopped while it connects, and a cache that is serving. -/
theorem connector_leaks_nothing_late :
    (∃ s, (connectorMachine (postgresConnector 2 10)).run newConnector overtakenLabels = some s ∧
      s.created = 2 ∧ ∀ client, s.live client = false) ∧
    ∃ s, (connectorMachine (redisConnector 0 0)).run newConnector announcedLabels = some s ∧
      ∃ stored, s.field = some stored ∧ ∀ client, s.live client = true ↔ client = stored := by
  constructor
  · -- The stop overtakes the first attempt, and the second client is closed on the way out.
    obtain ⟨s, reached, made, returned, stopped⟩ :=
      (connectorMachine (postgresConnector 2 10)).run_observe newConnector overtakenLabels
      (fun s => s.created = 2 ∧ s.lifecycle.starters 0 = .returned none ∧
        s.lifecycle.stoppers 0 = .returned none) (by decide +kernel)
    have once : StartedOnce overtakenLabels := by
      intro k action member
      simp [overtakenLabels, firstAttempt, connectsNow] at member
      omega
    have law := connector_leaks_nothing (postgresConnector 2 10) _ s reached once
    exact ⟨s, reached, made, law.2.2.2 0 none none returned stopped⟩
  · -- The start is announced and waits, with the one client in the field.
    obtain ⟨s, reached, blocked⟩ :=
      (connectorMachine (redisConnector 0 0)).run_observe newConnector announcedLabels
      (fun s => s.lifecycle.starters 0 = .blocked) (by decide +kernel)
    have once : StartedOnce announcedLabels := by
      intro k action member
      simp [announcedLabels, firstAttempt, connectsNow] at member
      omega
    have law := connector_leaks_nothing (redisConnector 0 0) _ s reached once
    exact ⟨s, reached, law.2.2.1 blocked (by simp [announcedLabels, firstAttempt, connectsNow])⟩

end Bootkit

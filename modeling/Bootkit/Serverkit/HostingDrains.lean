import Bootkit.Core.ApplicationReleases
import Bootkit.Serverkit.Hosting

/-! What the servers have not finished when `Run` has returned is told by the error it returned. -/

namespace Bootkit

open Go

namespace Resource

/-- What holds on a resource whatever its clients do. -/
def Sound : Resource → Prop
  | .http server => HttpInvariant server
  | .worker server => AsynqInvariant server
  | .other => True

/-- Whether no connect closure has opened a resource. -/
def unopened : Resource → Bool
  | .http server => server.loop = .unlaunched
  | .worker server => !server.started
  | .other => true

/-- Whether a connection is open, or the workers have started and are not shut down. -/
def occupied (conn : Nat) : Resource → Bool
  | .http server => !(server.conns conn).gone
  | .worker server => server.started && server.drain ≠ .done
  | .other => false

/-- The error of the context at which a stop closure gave up. -/
def abandoned : Resource → Option Err
  | .http server => server.shutdown.abandoned
  | .worker server => server.stop.abandoned
  | .other => none

/-- What a stop closure that gave up makes of the error of its context. -/
def timedOut : Resource → Err → Err
  | .worker _, err => shutdownTimedOut err
  | _, err => err

end Resource

/-- Whether an action opens a resource. -/
def ResourceAction.opens : ResourceAction → Bool
  | .http .launch | .worker .start => true
  | _ => false

/-- The error with which an action gives up. -/
def ResourceAction.givesUp : ResourceAction → Option Err
  | .http (.giveUp err) | .worker (.giveUp err) => some err
  | _ => none

section Step

variable {resource next : Resource} {action : ResourceAction}

/-- A step on a resource is a move of the server that it is. -/
theorem Resource.step_cases (taken : resource.step action = some next) :
    (∃ server after inner, resource = .http server ∧ next = .http after ∧
      action = .http inner ∧ HttpMove server inner after) ∨
    ∃ server after inner, resource = .worker server ∧ next = .worker after ∧
      action = .worker inner ∧ AsynqMove server inner after := by
  -- The action is of the resource's own kind, and the step one of its moves.
  cases resource with
  | http server =>
    cases action with
    | http inner =>
      obtain ⟨after, moved, rfl⟩ := Option.map_eq_some_iff.mp taken
      exact .inl ⟨server, after, inner, rfl, rfl, rfl, httpStep_move moved⟩
    | worker inner => cases taken
  | worker server =>
    cases action with
    | http inner => cases taken
    | worker inner =>
      obtain ⟨after, moved, rfl⟩ := Option.map_eq_some_iff.mp taken
      exact .inr ⟨server, after, inner, rfl, rfl, rfl, asynqStep_move moved⟩
  | other => cases action <;> cases taken

/-- A step on a resource keeps what holds on it. -/
theorem Resource.Sound.step (sound : resource.Sound) (taken : resource.step action = some next) :
    next.Sound := by
  -- Each kind keeps its own invariant.
  rcases Resource.step_cases taken with ⟨_, _, _, rfl, rfl, rfl, moved⟩ |
    ⟨_, _, _, rfl, rfl, rfl, moved⟩
  · exact httpInvariant_move moved sound
  · exact asynqInvariant_move moved sound

/-- What a stop closure has returned does not change. -/
theorem Resource.returns_step (taken : resource.step action = some next) {result : Option Err}
    (returned : resource.returns result = true) : next.returns result = true := by
  -- A result is final, for both kinds.
  rcases Resource.step_cases taken with ⟨_, _, _, rfl, rfl, rfl, moved⟩ |
    ⟨_, _, _, rfl, rfl, rfl, moved⟩
  · exact decide_eq_true (moved.result (of_decide_eq_true returned))
  · exact decide_eq_true (moved.result (of_decide_eq_true returned))

/-- A stop closure has given up because it did so now or before. -/
theorem Resource.abandoned_step (taken : resource.step action = some next) {err : Err}
    (gaveUp : next.abandoned = some err) :
    resource.abandoned = some err ∨ action.givesUp = some err := by
  -- Only giving up leads there, for both kinds.
  rcases Resource.step_cases taken with ⟨_, _, _, rfl, rfl, rfl, moved⟩ |
    ⟨_, _, _, rfl, rfl, rfl, moved⟩
  · rcases moved.abandoned gaveUp with before | rfl
    · exact .inl before
    · exact .inr rfl
  · rcases moved.abandoned gaveUp with before | rfl
    · exact .inl before
    · exact .inr rfl

/-- A resource is opened by nothing but opening it. -/
theorem Resource.unopened_step (taken : resource.step action = some next)
    (fresh : resource.unopened = true) (other : action.opens = false) : next.unopened = true := by
  -- Only the opening action of its kind opens a resource.
  rcases Resource.step_cases taken with ⟨_, _, inner, rfl, rfl, rfl, moved⟩ |
    ⟨_, _, inner, rfl, rfl, rfl, moved⟩
  · have different : inner ≠ .launch := fun same => by simp [same, ResourceAction.opens] at other
    exact decide_eq_true (moved.unlaunched (of_decide_eq_true fresh) different)
  · have different : inner ≠ .start := fun same => by simp [same, ResourceAction.opens] at other
    have new := moved.unstarted (by simpa [unopened] using fresh) different
    simp [unopened, new]

end Step

section Rest

variable {resource : Resource}

/-- Behind a result with something still in progress is a closure that gave up. -/
theorem Resource.Sound.abandoned (sound : resource.Sound) {result : Option Err} {conn : Nat}
    (returned : resource.returns result = true) (busy : resource.occupied conn = true) :
    ∃ err, resource.abandoned = some err ∧ result = some (resource.timedOut err) := by
  -- The other way to return is after everything has left.
  cases resource with
  | http server =>
    have holds : HttpInvariant server := sound
    have ended : server.shutdown.result = some result := of_decide_eq_true returned
    cases phase : server.shutdown with
    | drained lnerr => simp [occupied, holds.drained lnerr phase conn] at busy
    | gaveUp err =>
      rw [phase] at ended
      cases ended
      exact ⟨err, by simp [Resource.abandoned, phase, HttpShutdown.abandoned], rfl⟩
    | _ => simp [phase, HttpShutdown.result] at ended
  | worker server =>
    have holds : AsynqInvariant server := sound
    have ended : server.stop.result = some result := of_decide_eq_true returned
    cases phase : server.stop with
    | drained => simp [occupied, holds.returned phase] at busy
    | forced err =>
      rw [phase] at ended
      cases ended
      exact ⟨err, by simp [Resource.abandoned, phase, AsynqStop.abandoned], rfl⟩
    | _ => simp [phase, AsynqStop.result] at ended
  | other => cases busy

end Rest

/-- What a call of `Stop` has decided to return. -/
def StopperPhase.outcome : StopperPhase → Option (Option Err)
  | .returning err | .returned err => some err
  | _ => none

/-- A `Start` that has nothing to give back invokes no closure. -/
theorem StarterMove.invoked {s next : LifecycleState} {action : StarterAction}
    (moved : StarterMove true s 0 action next)
    (untouched : ∀ stop, s.starters 0 ≠ .spurned stop) : next.invoked = s.invoked := by
  -- The one step that invokes a closure gives a resource back.
  cases moved with
  | clean phase => exact absurd phase (untouched _)
  | enter phase | unset phase => exact (initReady_frame s).2.2.2.2.2
  | _ => rfl

/-- The one `Stop` of a lifecycle returns what the closure returns, if it calls it. -/
theorem StopperMove.outcome {s next : LifecycleState} {action : StopperAction}
    (moved : StopperMove s 0 action next)
    (inTime : s.stoppers 0 = .locked → s.stopped = false)
    (kept : s.stopped = false → s.invoked 0 = 0) {result : Option Err}
    (touched : next.invoked 0 ≠ 0) (ended : (next.stoppers 0).outcome = some result) :
    s.invoked 0 ≠ 0 ∧ (s.stoppers 0).outcome = some result ∨ action = .released result := by
  -- A `Stop` that does not call the closure would have found the flag set, or nothing stored.
  cases moved with
  | again phase late => simp [inTime phase] at late
  | bare phase live empty => exact absurd (kept live) touched
  | released phase =>
    obtain rfl : _ = result := by
      simpa [LifecycleState.setStopper, StopperPhase.outcome] using ended
    exact .inr rfl
  | unlock phase =>
    refine .inl ⟨touched, ?_⟩
    simpa [LifecycleState.setStopper, StopperPhase.outcome, phase] using ended
  | call phase | lock phase | release phase =>
    simp [LifecycleState.setStopper, LifecycleState.invoke, StopperPhase.outcome] at ended

/-- What a lifecycle does on its own decides the outcome only as its closure returns. -/
theorem ServiceAction.outcome {s next : LifecycleState} {action : ServiceAction}
    (taken : lifecycleStep true s action.label = some next)
    (untouched : ∀ stop, s.starters 0 ≠ .spurned stop)
    (inTime : s.stoppers 0 = .locked → s.stopped = false)
    (kept : s.stopped = false → s.invoked 0 = 0) {result : Option Err}
    (touched : next.invoked 0 ≠ 0) (ended : (next.stoppers 0).outcome = some result) :
    s.invoked 0 ≠ 0 ∧ (s.stoppers 0).outcome = some result ∨ action = .released result := by
  -- By the call that the action belongs to: a `Start` leaves the stops and the count alone.
  generalize known : action.label = label at taken
  cases label with
  | start k starter =>
    obtain ⟨rfl, -, -⟩ := action.label_start known
    have starts : StarterMove true s 0 starter next := starterStep_move taken
    rw [starts.invoked untouched] at touched
    rw [starts.frame.1] at ended
    exact .inl ⟨touched, ended⟩
  | stop k stopper =>
    obtain ⟨rfl, -⟩ := action.label_stop known
    have stops : StopperMove s 0 stopper next := stopperStep_move taken
    rcases stops.outcome inTime kept touched ended with before | rfl
    · exact .inl before
    · cases action <;> simp_all [ServiceAction.label]
  | cancel k cause => cases action <;> simp [ServiceAction.label] at known
  | ready =>
    cases taken
    obtain ⟨-, -, -, -, stoppers, invoked⟩ := initReady_frame s
    rw [invoked] at touched
    rw [stoppers] at ended
    exact .inl ⟨touched, ended⟩

section Application

variable {runner : ApplicationRunner} {labels : List ApplicationLabel} {s next : ApplicationState}
  {i : Nat}

end Application

section Host

variable (runner : ApplicationRunner) (kinds : Nat → ServiceKind)

/-- A stop closure gave up in a state in which its context was done with an error. -/
def GaveUp (labels : List HostLabel) (i : Nat) (err : Err) : Prop :=
  ∃ action before, action.givesUp = some err ∧
    (hostMachine runner).Took (.init runner kinds) labels (.resource i action) before ∧
    before.application.main.contexts (.stop i) = some err

/-- What is known of the resource of a service, and of what its closures did. -/
structure HostedAt (labels : List HostLabel) (s : HostState) (i : Nat) : Prop where
  sound : (s.resources i).Sound
  opened : (s.resources i).unopened = false →
    HostLabel.application (.service i (.connect none)) ∈ labels
  settled : ∀ result, (s.application.parts i).invoked 0 ≠ 0 →
    ((s.application.parts i).stoppers 0).outcome = some result →
    (s.resources i).returns result = true
  abandoned : ∀ err, (s.resources i).abandoned = some err → GaveUp runner kinds labels i err

variable {runner kinds} {labels : List HostLabel} {s : HostState} {i : Nat}

/-- What a closure gave up on is not forgotten. -/
theorem GaveUp.extend {err : Err} (gaveUp : GaveUp runner kinds labels i err) (label : HostLabel) :
    GaveUp runner kinds (labels ++ [label]) i err := by
  -- The step was taken at the same place in the run.
  obtain ⟨action, before, gives, took, done⟩ := gaveUp
  exact ⟨action, before, gives, took.extend label, done⟩

/-- Opening or closing a resource is not giving up. -/
theorem Resource.effect_givesUp {resource : Resource} {service : LifecycleState}
    {action : ServiceAction} {inner : ResourceAction}
    (known : resource.effect service action = some inner) : inner.givesUp = none := by
  -- The two actions that a service can cause are fixed by the kind of the resource.
  have opening : ∀ made, resource.opening = some made → made.givesUp = none := by
    intro made same
    cases resource <;> cases same <;> rfl
  have closing : ∀ made, resource.closing = some made → made.givesUp = none := by
    intro made same
    cases resource <;> cases same <;> rfl
  unfold effect at known
  split at known
  · exact opening inner known
  · split at known
    · exact closing inner known
    · cases known
  · split at known
    · exact closing inner known
    · cases known
  · cases known

/-- Only a successful connect closure opens a resource. -/
theorem Resource.effect_opens {resource : Resource} {service : LifecycleState}
    {action : ServiceAction} {inner : ResourceAction}
    (known : resource.effect service action = some inner) (opens : inner.opens = true) :
    action = .connect none := by
  -- What a stop or a cleanup does to a resource never opens it.
  have closing : ∀ made, resource.closing = some made → made.opens = false := by
    intro made same
    cases resource <;> cases same <;> rfl
  unfold effect at known
  split at known
  · rfl
  · split at known
    · simp [closing inner known] at opens
    · cases known
  · split at known
    · simp [closing inner known] at opens
    · cases known
  · cases known

/-- A step on the resource keeps what is known of it, if the label accounts for the step. -/
theorem HostedAt.step {label : HostLabel} {application : ApplicationState}
    {inner : ResourceAction} {resource : Resource} (holds : HostedAt runner kinds labels s i)
    (stepped : (s.resources i).step inner = some resource)
    (opens : inner.opens = true → label = .application (.service i (.connect none)))
    (gives : ∀ err, inner.givesUp = some err → GaveUp runner kinds (labels ++ [label]) i err)
    (settled : ∀ result, (application.parts i).invoked 0 ≠ 0 →
      ((application.parts i).stoppers 0).outcome = some result →
      (s.resources i).returns result = true) :
    HostedAt runner kinds (labels ++ [label]) ⟨application, update s.resources i resource⟩ i := by
  -- Each field speaks of the resource after the step, which keeps or accounts for it.
  refine ⟨?_, ?_, ?_, ?_⟩ <;> simp only [update_self]
  · exact holds.sound.step stepped
  · intro open_
    by_cases opening : inner.opens = true
    · simp [opens opening]
    · refine List.mem_append_left _ (holds.opened ?_)
      by_contra fresh
      have still := Resource.unopened_step stepped (by simpa using fresh) (by simpa using opening)
      simp [still] at open_
  · intro result touched ended
    exact Resource.returns_step stepped (settled result touched ended)
  · intro err gaveUp
    rcases Resource.abandoned_step stepped gaveUp with before | now
    · exact (holds.abandoned err before).extend label
    · exact gives err now

/-- Without a step on the resource what is known of it stays. -/
theorem HostedAt.keep {next : HostState} (holds : HostedAt runner kinds labels s i)
    (label : HostLabel) (same : next.resources i = s.resources i)
    (settled : ∀ result, (next.application.parts i).invoked 0 ≠ 0 →
      ((next.application.parts i).stoppers 0).outcome = some result →
      (s.resources i).returns result = true) :
    HostedAt runner kinds (labels ++ [label]) next i := by
  -- The resource did not move, and what was in the run before is still there.
  refine ⟨?_, ?_, ?_, ?_⟩ <;> rw [same]
  · exact holds.sound
  · intro open_
    exact List.mem_append_left _ (holds.opened open_)
  · exact settled
  · intro err gaveUp
    exact (holds.abandoned err gaveUp).extend label

/-- A step of the service keeps what is known of its resource. -/
theorem HostedAt.service {action : ServiceAction} {application : ApplicationState}
    {resource : Resource} (holds : HostedAt runner kinds labels s i)
    (settled : ∀ result, (application.parts i).invoked 0 ≠ 0 →
      ((application.parts i).stoppers 0).outcome = some result →
      (s.resources i).returns result = true)
    (followed : (s.resources i).take ((s.resources i).effect (s.application.parts i) action) =
      some resource) :
    HostedAt runner kinds (labels ++ [.application (.service i action)])
      ⟨application, update s.resources i resource⟩ i := by
  -- Without an effect the resource is the same, and with one it took a step that is known.
  cases known : (s.resources i).effect (s.application.parts i) action with
  | none =>
    rw [known] at followed
    obtain rfl : s.resources i = resource := Option.some.inj followed
    exact holds.keep _ (update_self _ _ _) settled
  | some inner =>
    rw [known] at followed
    refine holds.step followed ?_ ?_ settled
    · intro opens
      rw [Resource.effect_opens known opens]
    · intro err gives
      simp [Resource.effect_givesUp known] at gives

end Host

end Bootkit

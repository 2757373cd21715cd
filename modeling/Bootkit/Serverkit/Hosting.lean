import Bootkit.Core.ApplicationErrors
import Bootkit.Go.Http
import Bootkit.Workerkit.Server

/-! An application that hosts servers: what the closures of its services do to them. -/

namespace Bootkit

open Go

/-- What the closures of a service open and close. -/
inductive Resource where
  | http (server : HttpServer)
  | worker (server : AsynqServer)
  -- Anything else, such as a pool or a client.
  | other

/-- What can happen on a resource. -/
inductive ResourceAction where
  | http (action : HttpAction)
  | worker (action : AsynqAction)
  deriving Repr, DecidableEq

/-- The constructors of services. -/
inductive ServiceKind where
  | newHTTPServer
  | newAsynqServer
  | other
  deriving Repr, DecidableEq

/-- The resource that a constructor makes. -/
def ServiceKind.resource : ServiceKind → Resource
  | .newHTTPServer => .http newHttpServer
  | .newAsynqServer => .worker Bootkit.newAsynqServer
  | .other => .other

/-- Whether an error was wrapped behind a label. -/
def annotatedBy (label : String) : Err → Bool
  | .wrap text [cause] => Err.wrap text [cause] = cause.annotate label
  | _ => false

namespace Resource

/-- One step on a resource. -/
def step : Resource → ResourceAction → Option Resource
  | .http server, .http action => (httpStep server action).map .http
  | .worker server, .worker action => (asynqStep server action).map .worker
  | _, _ => none

/-- One optional step on a resource. -/
def take (resource : Resource) : Option ResourceAction → Option Resource
  | none => some resource
  | some action => resource.step action

/-- What a successful connect closure does: the listener is served, or the workers are started. -/
def opening : Resource → Option ResourceAction
  | .http _ => some (.http .launch)
  | .worker _ => some (.worker .start)
  | .other => none

/-- What calling the stop closure does. -/
def closing : Resource → Option ResourceAction
  | .http _ => some (.http .call)
  | .worker _ => some (.worker .call)
  | .other => none

/-- Whether the connect closure can fail with an error. -/
def refuses (err : Err) : Resource → Bool
  | .http _ => annotatedBy "failed to create listener" err
  | .worker _ => annotatedBy "failed to start asynq server" err
  | .other => true

/-- Whether the stop closure returns a result. -/
def returns (result : Option Err) : Resource → Bool
  | .http server => server.shutdown.result = some result
  | .worker server => server.stop.result = some result
  | .other => true

/-- What a step of its service does to a resource. -/
def effect (resource : Resource) (service : LifecycleState) : ServiceAction → Option ResourceAction
  | .connect none => resource.opening
  | .decideStop =>
    -- The first `Stop` calls the closure that `Start` has stored.
    if service.stopped = false ∧ service.stopFunc.isSome then resource.closing else none
  | .clean =>
    match service.starters 0 with
    | .spurned (some _) => resource.closing
    | _ => none
  | _ => none

/-- What a service can do as far as its closures decide it. -/
def permits (resource : Resource) : ServiceAction → Bool
  | .connect (some err) => resource.refuses err
  | .released result | .cleaned result => resource.returns result
  | _ => true

end Resource

/-- Whether a resource takes a step without its service, given the context of its stop closure. -/
def ResourceAction.free (stopCtx : Option Err) : ResourceAction → Bool
  | .http .launch | .http .call | .worker .start | .worker .call => false
  -- A closure gives up with the error of its context.
  | .http (.giveUp err) | .worker (.giveUp err) => stopCtx = some err
  | _ => true

/-- An application with the resources of its services. -/
structure HostState where
  application : ApplicationState
  resources : Nat → Resource

namespace HostState

/-- The state in which `Run` is called on new services. -/
def init (runner : ApplicationRunner) (kinds : Nat → ServiceKind) : HostState where
  application := .init runner
  resources := fun i => (kinds i).resource

/-- The context that the stop closure of a service was given. -/
def stopCtx (s : HostState) (i : Nat) : Option Err :=
  match (s.application.parts i).starters 0 with
  -- A `Start` that finds its lifecycle stopped hands on its own context.
  | .cleaning _ => s.application.main.contexts (.service i)
  | _ => s.application.main.contexts (.stop i)

end HostState

/-- Who takes the next step of an application that hosts servers. -/
inductive HostLabel where
  | application (label : ApplicationLabel)
  | resource (i : Nat) (action : ResourceAction)
  deriving Repr, DecidableEq

/-- One step of an application that hosts servers. -/
def hostStep (runner : ApplicationRunner) (s : HostState) : HostLabel → Option HostState
  | .application (.service i action) =>
    if (s.resources i).permits action then
      ((applicationMachine runner).step s.application (.service i action)).bind fun application =>
        ((s.resources i).take ((s.resources i).effect (s.application.parts i) action)).map
          fun resource => ⟨application, update s.resources i resource⟩
    else none
  | .application label =>
    ((applicationMachine runner).step s.application label).map fun application =>
      { s with application }
  | .resource i action =>
    if action.free (s.stopCtx i) then
      ((s.resources i).step action).map fun resource =>
        { s with resources := update s.resources i resource }
    else none

/-- The machine whose runs interleave an application with the clients of its servers. -/
def hostMachine (runner : ApplicationRunner) : Machine HostState HostLabel where
  step := hostStep runner

end Bootkit

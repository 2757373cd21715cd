import Bootkit.Core.Lifecycle

/-! Enqueueing tasks: the options, the client of the job queue, and its stand-in for tests. -/

namespace Bootkit

open Go

/-- A point in time, and the location in which it is shown. -/
structure Time where
  -- Nanoseconds since the first instant of the year one.
  sinceZero : Int
  location : String
  deriving Repr, DecidableEq

/-- The zero value of a time. -/
def zeroTime : Time where
  sinceZero := 0
  location := "UTC"

/-- Whether a time is the zero instant, wherever it is shown. -/
def Time.isZero (t : Time) : Bool :=
  t.sinceZero == 0

/-- A unit of work. -/
structure Task where
  type : String
  payload : List UInt8
  deriving Repr, DecidableEq

/-- What is known about a task that was enqueued. -/
structure TaskInfo where
  id : String
  type : String
  queue : String
  state : String
  nextProcessAt : Time
  retention : Int
  completedAt : Time
  result : List UInt8
  lastErr : String
  lastFailedAt : Time
  deriving Repr, DecidableEq

/-- The evaluated configuration of a task; durations are in nanoseconds. -/
structure EnqueueOptions where
  queue : String
  maxRetry : Option Int
  deadline : Time
  processIn : Int
  processAt : Time
  unique : Int
  timeout : Int
  retention : Int
  group : String
  deriving Repr, DecidableEq

/-- The zero value: nothing is configured. -/
def zeroOptions : EnqueueOptions where
  queue := ""
  maxRetry := none
  deadline := zeroTime
  processIn := 0
  processAt := zeroTime
  unique := 0
  timeout := 0
  retention := 0
  group := ""

/-- The constructors of options. -/
inductive EnqueueOption where
  | withQueue (name : String)
  | withMaxRetry (n : Int)
  | withDeadline (t : Time)
  | withProcessIn (d : Int)
  | withProcessAt (t : Time)
  | withUnique (ttl : Int)
  | withTimeout (d : Int)
  | withRetention (d : Int)
  | withGroup (name : String)
  deriving Repr, DecidableEq

/-- What an option does to a configuration. -/
def EnqueueOption.apply (o : EnqueueOptions) : EnqueueOption → EnqueueOptions
  | .withQueue name => { o with queue := name }
  | .withMaxRetry n => { o with maxRetry := some n }
  | .withDeadline t => { o with deadline := t }
  -- The two ways to schedule a task clear each other.
  | .withProcessIn d => { o with processIn := d, processAt := zeroTime }
  | .withProcessAt t => { o with processAt := t, processIn := 0 }
  | .withUnique ttl => { o with unique := ttl }
  | .withTimeout d => { o with timeout := d }
  | .withRetention d => { o with retention := d }
  | .withGroup name => { o with group := name }

/-- The configuration that a list of options leads to. -/
def evaluated (opts : List EnqueueOption) : EnqueueOptions :=
  opts.foldl EnqueueOption.apply zeroOptions

/-- The fields of a configuration, which are also the kinds of options of the job queue. -/
inductive EnqueueField where
  | queue
  | maxRetry
  | deadline
  | processIn
  | processAt
  | unique
  | timeout
  | retention
  | group
  deriving Repr, DecidableEq

/-- A call of one of the job queue's constructors of options, with its argument. -/
inductive AsynqCall where
  | queue (name : String)
  | maxRetry (n : Int)
  | deadline (t : Time)
  | processIn (d : Int)
  | processAt (t : Time)
  | unique (ttl : Int)
  | timeout (d : Int)
  | retention (d : Int)
  | group (name : String)
  deriving Repr, DecidableEq

/-- The kind of option that a constructor makes. -/
def AsynqCall.kind : AsynqCall → EnqueueField
  | .queue _ => .queue
  | .maxRetry _ => .maxRetry
  | .deadline _ => .deadline
  | .processIn _ => .processIn
  | .processAt _ => .processAt
  | .unique _ => .unique
  | .timeout _ => .timeout
  | .retention _ => .retention
  | .group _ => .group

/--
The library of the job queue, as far as its options go.

The options are of a type of its own: what a constructor makes, and what an option tells about
itself by its `Type` and its `Value`.
-/
structure AsynqLibrary (Opt : Type) where
  make : AsynqCall → Opt
  tells : Opt → AsynqCall
  -- An option tells which constructor made it. The value need not be the argument.
  kind_kept : ∀ call, (tells (make call)).kind = call.kind

/-- What the library makes of an argument: a negative number of retries becomes zero. -/
def AsynqCall.normalized : AsynqCall → AsynqCall
  | .maxRetry n => .maxRetry (if n < 0 then 0 else n)
  | call => call

/-- The library that the client is built with, its options taken for what they tell. -/
def asynqLibrary : AsynqLibrary AsynqCall where
  make := AsynqCall.normalized
  tells := id
  kind_kept := by
    intro call
    cases call <;> rfl

/-- An option that is appended under a condition. -/
def appendIf {Opt : Type} (condition : Bool) (option : Opt) : List Opt :=
  if condition then [option] else []

/-- The number of retries is passed on if there is one. -/
def appendRetry {Opt : Type} (asynq : AsynqLibrary Opt) : Option Int → List Opt
  | some n => [asynq.make (.maxRetry n)]
  | none => []

/-- The options of the job queue that a configuration is turned into. -/
def EnqueueOptions.asynqOpts {Opt : Type} (asynq : AsynqLibrary Opt) (o : EnqueueOptions) :
    List Opt :=
  appendIf (o.queue != "") (asynq.make (.queue o.queue)) ++
  appendRetry asynq o.maxRetry ++
  appendIf (!o.deadline.isZero) (asynq.make (.deadline o.deadline)) ++
  appendIf (o.processIn > 0) (asynq.make (.processIn o.processIn)) ++
  appendIf (!o.processAt.isZero) (asynq.make (.processAt o.processAt)) ++
  appendIf (o.unique > 0) (asynq.make (.unique o.unique)) ++
  appendIf (o.timeout > 0) (asynq.make (.timeout o.timeout)) ++
  appendIf (o.retention > 0) (asynq.make (.retention o.retention)) ++
  appendIf (o.group != "") (asynq.make (.group o.group))

/-- The options of the job queue for a list of options. -/
def toAsynqOpts {Opt : Type} (asynq : AsynqLibrary Opt) (opts : List EnqueueOption) : List Opt :=
  (evaluated opts).asynqOpts asynq

/-- The states of a task in the job queue. -/
inductive AsynqState where
  | active
  | pending
  | scheduled
  | retry
  | archived
  | completed
  | aggregating
  deriving Repr, DecidableEq

/-- How the job queue writes a state. -/
def AsynqState.text : AsynqState → String
  | .active => "active"
  | .pending => "pending"
  | .scheduled => "scheduled"
  | .retry => "retry"
  | .archived => "archived"
  | .completed => "completed"
  | .aggregating => "aggregating"

/-- What the job queue knows about a task, as far as it is passed on. -/
structure AsynqInfo where
  id : String
  type : String
  queue : String
  state : AsynqState
  nextProcessAt : Time
  retention : Int
  completedAt : Time
  result : List UInt8
  lastErr : String
  lastFailedAt : Time
  deriving Repr, DecidableEq

/-- What is passed on of that. -/
def fromAsynqInfo (info : AsynqInfo) : TaskInfo where
  id := info.id
  type := info.type
  queue := info.queue
  state := info.state.text
  nextProcessAt := info.nextProcessAt
  retention := info.retention
  completedAt := info.completedAt
  result := info.result
  lastErr := info.lastErr
  lastFailedAt := info.lastFailedAt

/-- A task as it is sent to the job queue. -/
structure AsynqRequest (Opt : Type) where
  type : String
  payload : List UInt8
  options : List Opt
  deriving Repr, DecidableEq

/-- A call of an enqueuer, where a context that is done has an error. -/
inductive EnqueueCall where
  | enqueue (task : Task) (opts : List EnqueueOption)
  | enqueueContext (ctx : Option Err) (task : Task) (opts : List EnqueueOption)
  deriving Repr, DecidableEq

namespace AsynqClient

variable {Opt : Type} (asynq : AsynqLibrary Opt)

/-- What a call does when its request is answered: the request, and what is returned. -/
def send (client : AsynqRequest Opt → Except Err AsynqInfo) (task : Task)
    (opts : List EnqueueOption) : List (AsynqRequest Opt) × Except Err TaskInfo :=
  let request := { type := task.type, payload := task.payload, options := toAsynqOpts asynq opts }
  ([request], (client request).map fromAsynqInfo)

/--
A call on the client: what is sent to the job queue, and what is returned.

A call with a context waits for readiness, and there is no value if the given branch of that wait
cannot be taken.
-/
def call (client : AsynqRequest Opt → Except Err AsynqInfo) (ready : ReadyChannel)
    (branch : WaitBranch) : EnqueueCall → Option (List (AsynqRequest Opt) × Except Err TaskInfo)
  | .enqueue task opts =>
    if ready = .closed then some (send asynq client task opts)
    else some ([], .error (.wrap "client not ready" []))
  | .enqueueContext ctx task opts =>
    (waitReady ready ctx branch).map fun
      | none => send asynq client task opts
      | some err => ([], .error (err.annotate "client not ready"))

end AsynqClient

/-- A task as the stand-in records it. -/
structure EnqueuedTask where
  task : Task
  options : EnqueueOptions
  -- When it was enqueued.
  enqueuedAt : Time
  deriving Repr, DecidableEq

/-- The stand-in for tests. -/
structure InMemoryClient where
  tasks : List EnqueuedTask
  deriving Repr, DecidableEq

namespace InMemoryClient

/-- A new stand-in has recorded nothing. -/
def new : InMemoryClient where
  tasks := []

/-- A task is recorded under the mutex. -/
def record (c : InMemoryClient) (now : Time) (task : Task) (options : EnqueueOptions) :
    InMemoryClient × TaskInfo :=
  let tasks := c.tasks ++ [{ task, options, enqueuedAt := now }]
  ({ tasks }, {
    id := "mem-" ++ toString tasks.length
    type := task.type
    queue := ""
    state := "pending"
    nextProcessAt := zeroTime
    retention := 0
    completedAt := zeroTime
    result := []
    lastErr := ""
    lastFailedAt := zeroTime })

/-- A call on the stand-in: only a context that is done makes it fail. -/
def call (c : InMemoryClient) (now : Time) :
    EnqueueCall → InMemoryClient × Except Err TaskInfo
  | .enqueue task opts =>
    let (c, info) := c.record now task (evaluated opts)
    (c, .ok info)
  | .enqueueContext (some err) _ _ => (c, .error err)
  | .enqueueContext none task opts =>
    let (c, info) := c.record now task (evaluated opts)
    (c, .ok info)

/-- The stand-in after a sequence of calls, each at its own time. -/
def callAll (c : InMemoryClient) (calls : List (Time × EnqueueCall)) : InMemoryClient :=
  calls.foldl (fun c (now, call) => (c.call now call).1) c

end InMemoryClient

end Bootkit

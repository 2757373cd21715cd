import Bootkit.Go.Context
import Bootkit.Healthkit.Aggregator

/-! Evaluation: probes answered from the cache, from a shared cycle, or by leading a new one. -/

namespace Bootkit

open Go

/-- A result kept for later probes. -/
structure CachedResult where
  err : Option Err
  -- When the result was stored.
  at_ : Nat
  deriving Repr, DecidableEq

/-- Where one check of a cycle is. -/
inductive CheckPhase where
  | pending
  -- Inside the check's function, with its timeout started at the given time.
  | running (since : Nat)
  | done (err : Option Err)
  deriving Repr, DecidableEq

/-- Where a cycle is. -/
inductive CyclePhase where
  | unopened
  -- The flight is open, and the checks have not been copied.
  | opened
  -- The checks are running.
  | running
  -- Every check has returned, and their errors are joined.
  | collected (final : Option Err)
  -- The result is in the cache since the given time, and the flight is still open.
  | stored (final : Option Err) (since : Nat)
  -- The flight is closed, and everybody who waited gets the result.
  | retired (final : Option Err) (since : Nat)
  deriving Repr, DecidableEq

/-- One run of all checks of a kind, shared by every caller that waits for it. -/
structure Cycle where
  kind : Kind
  -- The call whose request the checks run under.
  leader : Nat
  phase : CyclePhase
  -- The checks copied when the cycle began.
  checks : List Check
  progress : Nat → CheckPhase
  -- The failures in the order in which they were sent.
  errCh : List Err

/-- Where one call of `evaluate` is; every phase keeps the time at which the call began. -/
inductive CallPhase where
  | idle
  | arrived (kind : Kind) (start : Nat)
  -- The cache had no answer, and the flight has not been entered.
  | missed (kind : Kind) (start : Nat)
  -- Inside the flight, as its leader or behind it.
  | waiting (kind : Kind) (start : Nat) (cycle : Nat)
  -- Back from the flight, and the hook has not been called.
  | received (kind : Kind) (start : Nat) (duration : Nat) (err : Option Err)
  | returned (kind : Kind) (start : Nat) (err : Option Err)
  deriving Repr, DecidableEq

/-- The state of one aggregator and of every call on it. -/
structure HealthState where
  now : Nat
  aggregator : Aggregator
  cache : Kind → Option CachedResult
  -- The cycle in flight for each kind.
  flight : Kind → Option Nat
  cycles : Nat → Cycle
  -- How many cycles were ever opened.
  opened : Nat
  calls : Nat → CallPhase
  -- The error of each request's context, and none while it is live.
  requests : Nat → Option Err
  -- What the hook was told, in order.
  hooked : List (Kind × Nat × Option Err)

/-- A cycle that nobody has opened. -/
def Cycle.blank : Cycle where
  kind := .liveness
  leader := 0
  phase := .unopened
  checks := []
  progress := fun _ => .pending
  errCh := []

/-- An aggregator that nobody has called. -/
def HealthState.init (aggregator : Aggregator) : HealthState where
  now := 0
  aggregator := aggregator
  cache := fun _ => none
  flight := fun _ => none
  cycles := fun _ => Cycle.blank
  opened := 0
  calls := fun _ => .idle
  requests := fun _ => none
  hooked := []

namespace HealthState

/-- The answer of the cache to a call that began at the given time. -/
def cached (s : HealthState) (kind : Kind) (start : Nat) : Option (Option Err) :=
  if 0 < s.aggregator.cacheTTL then
    match s.cache kind with
    -- A result stored after the call began counts as fresh.
    | some res => if (start : Int) - res.at_ < s.aggregator.cacheTTL then some res.err else none
    | none => none
  else none

/-- One call moved to a phase. -/
def setCall (s : HealthState) (c : Nat) (phase : CallPhase) : HealthState :=
  { s with calls := update s.calls c phase }

/-- One cycle replaced. -/
def setCycle (s : HealthState) (i : Nat) (cycle : Cycle) : HealthState :=
  { s with cycles := update s.cycles i cycle }

/-- A new cycle opened for a kind, led by the given call. -/
def openCycle (s : HealthState) (kind : Kind) (leader : Nat) : HealthState :=
  { s.setCycle s.opened { Cycle.blank with kind, leader, phase := .opened } with
    flight := update s.flight kind (some s.opened)
    opened := s.opened + 1 }

/-- Whether the context of a check is done: its leader's request is, or its timeout has passed. -/
def checkDone (s : HealthState) (cycle : Cycle) (since : Nat) (check : Check) : Bool :=
  (s.requests cycle.leader).isSome || decide (since + check.timeout ≤ s.now)

end HealthState

/-- The steps of a call of `evaluate`. -/
inductive CallAction where
  | arrive (kind : Kind)
  | lookup
  | enter
  | receive
  | report
  deriving Repr, DecidableEq

/-- The steps of a cycle. -/
inductive CycleAction where
  | snapshot
  | launch (j : Nat)
  | finish (j : Nat) (err : Option Err)
  | collect
  | store
  | retire
  deriving Repr, DecidableEq

/-- Who takes the next step on an aggregator. -/
inductive HealthLabel where
  | tick (d : Nat)
  -- A request's context becomes done.
  | cancelRequest (c : Nat) (cause : Sentinel)
  | register (checks : List Check)
  | setHook
  | call (c : Nat) (action : CallAction)
  | cycle (i : Nat) (action : CycleAction)
  deriving Repr, DecidableEq

/-- One step of a call of `evaluate`. -/
def callStep (s : HealthState) (c : Nat) : CallAction → Option HealthState
  | .arrive kind =>
    match s.calls c with
    | .idle => some (s.setCall c (.arrived kind s.now))
    | _ => none
  | .lookup =>
    match s.calls c with
    | .arrived kind start =>
      match s.cached kind start with
      -- An answer from the cache calls no hook.
      | some err => some (s.setCall c (.returned kind start err))
      | none => some (s.setCall c (.missed kind start))
    | _ => none
  | .enter =>
    match s.calls c with
    | .missed kind start =>
      match s.flight kind with
      | some i => some (s.setCall c (.waiting kind start i))
      | none => some ((s.openCycle kind c).setCall c (.waiting kind start s.opened))
    | _ => none
  | .receive =>
    match s.calls c with
    | .waiting kind start i =>
      match (s.cycles i).phase with
      | .retired final _ => some (s.setCall c (.received kind start (s.now - start) final))
      | _ => none
    | _ => none
  | .report =>
    match s.calls c with
    | .received kind start duration err =>
      -- The hook, when there is one, is told by every caller that went through a flight.
      some { s.setCall c (.returned kind start err) with
        hooked := if s.aggregator.hook then s.hooked ++ [(kind, duration, err)] else s.hooked }
    | _ => none

/-- Whether every check of a cycle has returned. -/
def Cycle.finished (cycle : Cycle) : Bool :=
  (List.range cycle.checks.length).all fun j =>
    match cycle.progress j with | .done _ => true | _ => false

/-- What a check sends when it returns: nothing, or its error under its name. -/
def checkFailure (check : Check) (err : Option Err) : List Err :=
  (err.map fun failure => failure.annotate check.name).toList

/-- One step of a cycle. -/
def cycleStep (s : HealthState) (i : Nat) : CycleAction → Option HealthState
  | .snapshot =>
    match (s.cycles i).phase with
    | .opened => some (s.setCycle i { s.cycles i with
        checks := s.aggregator.checks (s.cycles i).kind, phase := .running })
    | _ => none
  | .launch j =>
    match (s.cycles i).phase, (s.cycles i).checks[j]?, (s.cycles i).progress j with
    | .running, some _, .pending => some (s.setCycle i { s.cycles i with
        progress := update (s.cycles i).progress j (.running s.now) })
    | _, _, _ => none
  | .finish j err =>
    match (s.cycles i).phase, (s.cycles i).checks[j]?, (s.cycles i).progress j with
    | .running, some check, .running _ => some (s.setCycle i { s.cycles i with
        progress := update (s.cycles i).progress j (.done err)
        errCh := (s.cycles i).errCh ++ checkFailure check err })
    | _, _, _ => none
  | .collect =>
    match (s.cycles i).phase with
    | .running =>
      if (s.cycles i).finished then
        some (s.setCycle i { s.cycles i with phase := .collected (Err.join (s.cycles i).errCh) })
      else none
    | _ => none
  | .store =>
    match (s.cycles i).phase with
    | .collected final => some { s.setCycle i { s.cycles i with phase := .stored final s.now } with
        cache := update s.cache (s.cycles i).kind (some ⟨final, s.now⟩) }
    | _ => none
  | .retire =>
    match (s.cycles i).phase with
    | .stored final since =>
      some { s.setCycle i { s.cycles i with phase := .retired final since } with
        flight := update s.flight (s.cycles i).kind none }
    | _ => none

/-- One step on an aggregator. -/
def healthStep (s : HealthState) : HealthLabel → Option HealthState
  | .tick d => some { s with now := s.now + d }
  -- A context that is done keeps its error.
  | .cancelRequest c cause => some { s with
      requests := update s.requests c ((s.requests c).or (some (.new cause))) }
  | .register checks => some { s with aggregator := s.aggregator.register checks }
  | .setHook => some { s with aggregator := s.aggregator.setHook }
  | .call c action => callStep s c action
  | .cycle i action => cycleStep s i action

/-- The machine whose runs interleave every call on one aggregator. -/
def healthMachine : Machine HealthState HealthLabel where
  step := healthStep

/-- What a probe is answered with, by its status and its body. -/
def probeResponse : Option Err → Nat × String
  | none => (200, "ok")
  | some err => (503, err.text)

end Bootkit

import Bootkit.Go.Duration
import Bootkit.Go.Machine

/-! The health aggregator's configuration: kinds, checks, and registration. -/

namespace Bootkit

open Go

/-- The kinds of health checks the aggregator can evaluate. -/
inductive Kind where
  | liveness
  | readiness
  | startup
  deriving Repr, DecidableEq

/-- The stable label of a kind. -/
def Kind.toString : Kind → String
  | .liveness => "liveness"
  | .readiness => "readiness"
  | .startup => "startup"

/-- The labels of the kinds are distinct. -/
theorem Kind.toString_inj {kind other : Kind} (same : kind.toString = other.toString) :
    kind = other := by
  -- No two of the three labels are the same text.
  cases kind <;> cases other <;> first | rfl | exact absurd same (by decide)

/-- A single health check. What its function returns is left to the environment. -/
structure Check where
  name : String
  kind : Kind
  timeout : Int
  deriving Repr, DecidableEq

/-- The part of an aggregator that registration and construction decide. -/
structure Aggregator where
  -- The registered checks of each kind, in registration order.
  checks : Kind → List Check
  -- How long a stored result answers later probes, with zero for never.
  cacheTTL : Int
  -- Whether a hook is installed.
  hook : Bool

/-- The lifetime applied when none was asked for. -/
def defaultCacheTTLFloor : Int := second

/-- An aggregator with no checks and the given cache lifetime. -/
def newAggregator (cacheTTL : Int) : Aggregator where
  checks := fun _ => []
  -- Zero asks for the floor, and a negative value opts out of caching.
  cacheTTL := if cacheTTL = 0 then defaultCacheTTLFloor else if cacheTTL < 0 then 0 else cacheTTL
  hook := false

/-- The timeout a check without one is given. -/
def defaultCheckTimeout : Int := 300 * millisecond

/-- A check as the aggregator stores it. -/
def Check.normalize (check : Check) : Check :=
  if check.timeout ≤ 0 then { check with timeout := defaultCheckTimeout } else check

/-- One check appended under its own kind. -/
def Aggregator.registerOne (aggregator : Aggregator) (check : Check) : Aggregator :=
  { aggregator with
    checks := update aggregator.checks check.kind
      (aggregator.checks check.kind ++ [check.normalize]) }

/-- Several checks appended in order. -/
def Aggregator.register (aggregator : Aggregator) (checks : List Check) : Aggregator :=
  checks.foldl Aggregator.registerOne aggregator

/-- A hook called after each evaluation. -/
def Aggregator.setHook (aggregator : Aggregator) : Aggregator :=
  { aggregator with hook := true }

/-- The liveness and readiness pair shared by infrastructure components. -/
def standardChecks (name : String) : List Check :=
  [{ name := name ++ "-liveness", kind := .liveness, timeout := 0 },
   { name := name ++ "-readiness", kind := .readiness, timeout := 2 * second }]

/-- A stored check always runs under a positive timeout. -/
theorem normalize_timeout_pos (check : Check) : 0 < check.normalize.timeout := by
  -- A timeout that is not positive is replaced by the default, which is.
  unfold Check.normalize
  split
  · show 0 < defaultCheckTimeout
    decide
  · omega

/-- Storing a check leaves its kind alone. -/
@[simp] theorem normalize_kind (check : Check) : check.normalize.kind = check.kind := by
  -- Only the timeout is replaced.
  unfold Check.normalize
  split <;> rfl

/-- A check is appended to its own kind and to no other. -/
theorem registerOne_checks (aggregator : Aggregator) (check : Check) (kind : Kind) :
    (aggregator.registerOne check).checks kind =
      aggregator.checks kind ++ ([check].filter fun c => c.kind = kind).map Check.normalize := by
  -- Whether the check belongs to the kind decides both sides.
  by_cases same : check.kind = kind
  · subst same
    simp [Aggregator.registerOne]
  · simp [Aggregator.registerOne, same, Ne.symm same]

/-- Registration appends the checks of each kind in the order they were given. -/
theorem register_checks (aggregator : Aggregator) (checks : List Check) (kind : Kind) :
    (aggregator.register checks).checks kind =
      aggregator.checks kind ++ (checks.filter fun c => c.kind = kind).map Check.normalize := by
  -- Each registered check extends the list the previous ones left behind.
  induction checks generalizing aggregator with
  | nil => simp [Aggregator.register]
  | cons check rest ih =>
    have split : aggregator.register (check :: rest) =
        (aggregator.registerOne check).register rest := rfl
    rw [split, ih, registerOne_checks, List.append_assoc, ← List.map_append, ← List.filter_append]
    rfl

/-- Registration changes neither the cache lifetime nor the hook. -/
theorem register_frame (aggregator : Aggregator) (checks : List Check) :
    (aggregator.register checks).cacheTTL = aggregator.cacheTTL ∧
      (aggregator.register checks).hook = aggregator.hook := by
  -- Every single registration leaves both alone.
  induction checks generalizing aggregator with
  | nil => exact ⟨rfl, rfl⟩
  | cons check rest ih => exact ih (aggregator.registerOne check)

end Bootkit

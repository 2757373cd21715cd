import Bootkit.Core.RunnerShape
import Bootkit.Healthkit.EvaluateHooks

/-! The hooks that record what a runner and its aggregator report as measurements. -/

namespace Bootkit

open Go

/-- The value of an attribute. -/
inductive AttributeValue where
  | string (value : String)
  | bool (value : Bool)
  deriving Repr, DecidableEq

/-- A number given to an instrument, with the attributes it is recorded under. -/
structure Measurement where
  value : Int
  attributes : List (String × AttributeValue)
  deriving Repr, DecidableEq

/-- Whether a measurement is recorded as that of a failure. -/
def Measurement.failed (measurement : Measurement) : Bool :=
  measurement.attributes.lookup "error" = some (.bool true)

/-- The component that a measurement is recorded for. -/
def Measurement.component (measurement : Measurement) : Option AttributeValue :=
  measurement.attributes.lookup "component"

/-- The metrics of health evaluations. -/
structure HealthMetrics where
  -- The recorded milliseconds, each with the kind and whether there was an error.
  healthDuration : List (String × Bool × Int)
  -- The counter of failed evaluations, by the kind and whether there was an error.
  healthErrorsTotal : String × Bool → Nat

/-- Nothing was measured yet. -/
def HealthMetrics.empty : HealthMetrics where
  healthDuration := []
  healthErrorsTotal := fun _ => 0

/-- An evaluation is recorded, and counted if it failed. -/
def HealthMetrics.onHealthEvaluated (metrics : HealthMetrics) (kind : String) (duration : Int)
    (err : Option Err) : HealthMetrics where
  healthDuration :=
    metrics.healthDuration ++ [(kind, err.isSome, duration.tdiv millisecond)]
  healthErrorsTotal :=
    if err.isSome then
      update metrics.healthErrorsTotal (kind, err.isSome)
        (metrics.healthErrorsTotal (kind, err.isSome) + 1)
    else metrics.healthErrorsTotal

/-- The metrics after the hook was told all of this, under the label of each kind. -/
def measured (hooked : List (Kind × Nat × Option Err)) : HealthMetrics :=
  hooked.foldl (fun metrics (kind, duration, err) =>
    metrics.onHealthEvaluated kind.toString duration err) .empty

/-- The instruments of the hooks, each with everything that it was given. -/
structure OTelHooks where
  startDuration : List Measurement
  stopDuration : List Measurement
  -- The two instruments of health evaluations.
  health : HealthMetrics

/-- Hooks that have recorded nothing. -/
def OTelHooks.unused : OTelHooks where
  startDuration := []
  stopDuration := []
  health := .empty

/-- The refusal of a meter to make an instrument of this name, if it refuses. -/
def newInstrument (refuses : String → Option Err) (name : String) : Except Err Unit :=
  match refuses name with
  | some err => .error err
  | none => .ok ()

/-- The hooks on the instruments of a meter, or the first refusal. -/
def newHooks (refuses : String → Option Err) : Except Err OTelHooks := do
  newInstrument refuses "bootkit.component.start.duration"
  newInstrument refuses "bootkit.component.stop.duration"
  newInstrument refuses "bootkit.health.duration"
  newInstrument refuses "bootkit.health.errors.total"
  return .unused

/-- New hooks have recorded nothing. -/
theorem newHooks_unused {refuses : String → Option Err} {hooks : OTelHooks}
    (created : newHooks refuses = .ok hooks) : hooks = .unused := by
  -- An instrument that the meter refuses ends the construction.
  cases start : refuses "bootkit.component.start.duration" <;>
    cases stop : refuses "bootkit.component.stop.duration" <;>
    cases health : refuses "bootkit.health.duration" <;>
    cases errors : refuses "bootkit.health.errors.total" <;>
    simp_all [newHooks, newInstrument, bind, Except.bind, pure, Except.pure]

/-- The whole milliseconds of a duration. -/
def milliseconds (duration : Int) : Int := duration.tdiv millisecond

/-- What is recorded about a call on a component. -/
def componentMeasurement (name : String) (duration : Nat) (err : Option Err) : Measurement where
  value := milliseconds duration
  attributes := [("component", .string name), ("error", .bool err.isSome)]

namespace OTelHooks

/-- The start of a component, recorded. -/
def onComponentStart (hooks : OTelHooks) (name : String) (duration : Nat) (err : Option Err) :
    OTelHooks :=
  { hooks with startDuration := hooks.startDuration ++ [componentMeasurement name duration err] }

/-- The stop of a component, recorded. -/
def onComponentStop (hooks : OTelHooks) (name : String) (duration : Nat) (err : Option Err) :
    OTelHooks :=
  { hooks with stopDuration := hooks.stopDuration ++ [componentMeasurement name duration err] }

/-- An evaluation of health checks, recorded. -/
def onHealthEvaluated (hooks : OTelHooks) (kind : String) (duration : Nat) (err : Option Err) :
    OTelHooks :=
  { hooks with health := hooks.health.onHealthEvaluated kind duration err }

/-- What the hooks record of one event of a run. -/
def observe (hooks : OTelHooks) : RunEvent → OTelHooks
  | .onComponentStart _ name duration err => hooks.onComponentStart name duration err
  | .onComponentStop _ name duration err => hooks.onComponentStop name duration err
  | _ => hooks

/-- What the hooks record of one call of the aggregator's hook, which the runner wires to them. -/
def evaluated (hooks : OTelHooks) (told : Kind × Nat × Option Err) : OTelHooks :=
  hooks.onHealthEvaluated told.1.toString told.2.1 told.2.2

end OTelHooks

/-- The measurement of a start, as an event of a run. -/
@[simp] def RunEvent.startMeasurement : RunEvent → Option Measurement
  | .onComponentStart _ name duration err => some (componentMeasurement name duration err)
  | _ => none

/-- The measurement of a stop, as an event of a run. -/
@[simp] def RunEvent.stopMeasurement : RunEvent → Option Measurement
  | .onComponentStop _ name duration err => some (componentMeasurement name duration err)
  | _ => none

/-- The starts that a run reported are the starts that were recorded, in order. -/
theorem observe_starts (hooks : OTelHooks) (trace : List RunEvent) :
    (trace.foldl OTelHooks.observe hooks).startDuration =
      hooks.startDuration ++ trace.filterMap RunEvent.startMeasurement := by
  -- Each event adds its measurement or nothing.
  apply foldl_appends
  intro hooks event
  cases event <;> simp [OTelHooks.observe, OTelHooks.onComponentStart, OTelHooks.onComponentStop]

/-- The stops that a run reported are the stops that were recorded, in order. -/
theorem observe_stops (hooks : OTelHooks) (trace : List RunEvent) :
    (trace.foldl OTelHooks.observe hooks).stopDuration =
      hooks.stopDuration ++ trace.filterMap RunEvent.stopMeasurement := by
  -- Each event adds its measurement or nothing.
  apply foldl_appends
  intro hooks event
  cases event <;> simp [OTelHooks.observe, OTelHooks.onComponentStart, OTelHooks.onComponentStop]

/-- The counter of a kind has counted what was told of it with an error. -/
theorem measured_errors (hooked : List (Kind × Nat × Option Err)) (kind : Kind) :
    (measured hooked).healthErrorsTotal (kind.toString, true) =
      hooked.countP fun told => told.1 = kind ∧ told.2.2.isSome := by
  -- From the last report backwards: a nil error counts nothing, and an error counts for its own
  -- kind only.
  induction hooked using List.reverseRecOn with
  | nil => rfl
  | append_singleton hooked last ih =>
    obtain ⟨other, duration, err⟩ := last
    rw [List.countP_append, ← ih]
    simp only [measured, List.foldl_append, List.foldl_cons, List.foldl_nil,
      HealthMetrics.onHealthEvaluated]
    cases err with
    | none => simp
    | some err =>
      by_cases same : other = kind
      · subst same
        simp
      · have apart : (kind.toString, true) ≠ (other.toString, true) := by
          intro equal
          exact same (Kind.toString_inj (congrArg Prod.fst equal)).symm
        simp [apart, same]

/-- What the aggregator told its hook is what was measured of it. -/
theorem evaluated_health (told : List (Kind × Nat × Option Err)) :
    (told.foldl OTelHooks.evaluated .unused).health = measured told := by
  -- Both fold the same reports, one of them into a part of the hooks.
  unfold measured
  exact (List.foldl_hom OTelHooks.health fun _ _ => rfl).symm

@[simp] theorem componentMeasurement_component (name : String) (duration : Nat)
    (err : Option Err) :
    (componentMeasurement name duration err).component = some (.string name) := rfl

@[simp] theorem componentMeasurement_failed (name : String) (duration : Nat) (err : Option Err) :
    (componentMeasurement name duration err).failed = err.isSome := by
  cases err <;> rfl

end Bootkit

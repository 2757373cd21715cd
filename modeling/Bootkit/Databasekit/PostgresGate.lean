import Bootkit.Adapters.ConnectorLaws
import Bootkit.Databasekit.Postgres

/-! Behind the readiness gate an operation always finds the pool that was connected. -/

namespace Bootkit

open Go

/-- The steps of an operation, as a relation between states. -/
inductive DatabaseMove (s : DatabaseState) (j : Nat) : DatabaseAction → DatabaseState → Prop
  | issue {op : DatabaseOperation} (phase : s.operations j = .idle) :
    DatabaseMove s j (.issue op) { s.setOperation j (.gated op) with
      adapter := { s.adapter with lifecycle := s.adapter.lifecycle.initReady } }
  | cancel {cause : Sentinel} : DatabaseMove s j (.cancel cause) { s with
      contexts := update s.contexts j ((s.contexts j).or (some (.new cause))) }
  | pass {op : DatabaseOperation} (phase : s.operations j = .gated op)
      (ready : s.adapter.lifecycle.ready = .closed) :
    DatabaseMove s j .pass (s.setOperation j (.admitted op))
  | giveUp {op : DatabaseOperation} {err : Err} (phase : s.operations j = .gated op)
      (done : s.contexts j = some err) :
    DatabaseMove s j .giveUp (s.setOperation j (.refused (poolNotReady err)))
  | delegate {op : DatabaseOperation} {pool : Nat} (phase : s.operations j = .admitted op)
      (found : s.adapter.field = some pool) :
    DatabaseMove s j .resolve (s.setOperation j (.delegated op pool))
  | fail {op : DatabaseOperation} (phase : s.operations j = .admitted op)
      (absent : s.adapter.field = none) :
    DatabaseMove s j .resolve (s.setOperation j (.failed op.uninitialized))

/-- What a schedule is for the adapter: an operation that is issued asks for its readiness. -/
def DatabaseLabel.onAdapter : DatabaseLabel → Option ConnectorLabel
  | .adapter label => some label
  | .operation _ (.issue _) => some (.lifecycle .ready)
  | _ => none

/-- Only issuing an operation touches the adapter, and it does so through its lifecycle. -/
theorem DatabaseMove.adapter {s next : DatabaseState} {j : Nat} {action : DatabaseAction}
    (moved : DatabaseMove s j action next) :
    next.adapter.connects = s.adapter.connects ∧
      ∀ i, i ≠ j → next.operations i = s.operations i ∧ next.contexts i = s.contexts i := by
  -- An operation writes to its own phase and to its own context.
  cases moved with
  | cancel =>
    refine ⟨rfl, fun i other => ⟨rfl, ?_⟩⟩
    exact update_other s.contexts _ other
  | _ =>
    refine ⟨rfl, fun i other => ⟨?_, rfl⟩⟩
    exact update_other s.operations _ other

/-- What a phase of an operation rests on. -/
def OperationSound (labels : List DatabaseLabel) (s : DatabaseState) (j : Nat) :
    DatabasePhase → Prop
  | .idle | .gated _ => DatabaseLabel.operation j .resolve ∉ labels
  -- Readiness was announced by a call of `Start` that had assigned the pool.
  | .admitted _ => DatabaseLabel.operation j .resolve ∉ labels ∧
      ∃ k, (s.adapter.connects k).assigned = true
  | .refused err => DatabaseLabel.operation j .resolve ∉ labels ∧
      ∃ cause, s.contexts j = some cause ∧ err = poolNotReady cause
  | .delegated _ pool => ∃ k, (s.adapter.connects k).captured = some pool
  | .failed _ => False

/-- What an operation rests on stays, as long as its own context does. -/
theorem OperationSound.keep {labels : List DatabaseLabel} {s next : DatabaseState} {j : Nat}
    {phase : DatabasePhase} (holds : OperationSound labels s j phase) {label : DatabaseLabel}
    (silent : label ≠ .operation j .resolve)
    (connects : ∀ k, ((s.adapter.connects k).assigned = true →
        (next.adapter.connects k).assigned = true) ∧
      ∀ pool, (s.adapter.connects k).captured = some pool →
        (next.adapter.connects k).captured = some pool)
    (context : ∀ cause, s.contexts j = some cause → next.contexts j = some cause) :
    OperationSound (labels ++ [label]) next j phase := by
  -- Each phase relies on what other steps keep: what was assigned and captured, the error of its
  -- context, and that it has not looked at the pool itself.
  have untouched : DatabaseLabel.operation j .resolve ∉ labels →
      DatabaseLabel.operation j .resolve ∉ labels ++ [label] := by
    intro before member
    rcases List.mem_append.mp member with earlier | last
    · exact before earlier
    · exact silent (List.mem_singleton.mp last).symm
  cases phase with
  | idle => exact untouched holds
  | gated op => exact untouched holds
  | admitted op =>
    obtain ⟨before, k, assigned⟩ := holds
    exact ⟨untouched before, k, (connects k).1 assigned⟩
  | refused err =>
    obtain ⟨before, cause, done, text⟩ := holds
    exact ⟨untouched before, cause, context cause done, text⟩
  | delegated op pool =>
    obtain ⟨k, captured⟩ := holds
    exact ⟨k, (connects k).2 pool captured⟩
  | failed err => exact holds

end Bootkit

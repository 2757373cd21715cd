import Bootkit.Healthkit.Evaluate

/-! What one step on an aggregator can do, stated once for every later argument. -/

namespace Bootkit

open Go

/-- The steps of a call of `evaluate`, as a relation between states. -/
inductive CallMove (s : HealthState) (c : Nat) : CallAction → HealthState → Prop
  | arrive {kind : Kind} (phase : s.calls c = .idle) :
    CallMove s c (.arrive kind) (s.setCall c (.arrived kind s.now))
  | hit {kind : Kind} {start : Nat} {err : Option Err} (phase : s.calls c = .arrived kind start)
      (fresh : s.cached kind start = some err) :
    CallMove s c .lookup (s.setCall c (.returned kind start err))
  | miss {kind : Kind} {start : Nat} (phase : s.calls c = .arrived kind start)
      (stale : s.cached kind start = none) :
    CallMove s c .lookup (s.setCall c (.missed kind start))
  | follow {kind : Kind} {start i : Nat} (phase : s.calls c = .missed kind start)
      (flying : s.flight kind = some i) :
    CallMove s c .enter (s.setCall c (.waiting kind start i))
  | lead {kind : Kind} {start : Nat} (phase : s.calls c = .missed kind start)
      (landed : s.flight kind = none) :
    CallMove s c .enter ((s.openCycle kind c).setCall c (.waiting kind start s.opened))
  | receive {kind : Kind} {start i since : Nat} {final : Option Err}
      (phase : s.calls c = .waiting kind start i)
      (retired : (s.cycles i).phase = .retired final since) :
    CallMove s c .receive (s.setCall c (.received kind start (s.now - start) final))
  | report {kind : Kind} {start duration : Nat} {err : Option Err}
      (phase : s.calls c = .received kind start duration err) :
    CallMove s c .report { s.setCall c (.returned kind start err) with
      hooked := if s.aggregator.hook then s.hooked ++ [(kind, duration, err)] else s.hooked }

/-- Every step of a call is one of its moves. -/
theorem callStep_move {s next : HealthState} {c : Nat} {action : CallAction}
    (taken : callStep s c action = some next) : CallMove s c action next := by
  -- Each action is enabled in one phase, and two of them then look at the shared state.
  cases action with
  | arrive kind =>
    simp only [callStep] at taken
    split at taken <;> cases taken
    exact .arrive (by assumption)
  | lookup =>
    simp only [callStep] at taken
    split at taken
    · split at taken <;> cases taken
      · exact .hit (by assumption) (by assumption)
      · exact .miss (by assumption) (by assumption)
    · cases taken
  | enter =>
    simp only [callStep] at taken
    split at taken
    · split at taken <;> cases taken
      · exact .follow (by assumption) (by assumption)
      · exact .lead (by assumption) (by assumption)
    · cases taken
  | receive =>
    simp only [callStep] at taken
    split at taken
    · split at taken <;> cases taken
      exact .receive (by assumption) (by assumption)
    · cases taken
  | report =>
    simp only [callStep] at taken
    split at taken <;> cases taken
    exact .report (by assumption)

/-- The steps of a cycle, as a relation between states. -/
inductive CycleMove (s : HealthState) (i : Nat) : CycleAction → HealthState → Prop
  | snapshot (phase : (s.cycles i).phase = .opened) :
    CycleMove s i .snapshot (s.setCycle i { s.cycles i with
      checks := s.aggregator.checks (s.cycles i).kind, phase := .running })
  | launch {j : Nat} {check : Check} (phase : (s.cycles i).phase = .running)
      (present : (s.cycles i).checks[j]? = some check)
      (waiting : (s.cycles i).progress j = .pending) :
    CycleMove s i (.launch j) (s.setCycle i { s.cycles i with
      progress := update (s.cycles i).progress j (.running s.now) })
  | finish {j since : Nat} {check : Check} {err : Option Err}
      (phase : (s.cycles i).phase = .running)
      (present : (s.cycles i).checks[j]? = some check)
      (running : (s.cycles i).progress j = .running since) :
    CycleMove s i (.finish j err) (s.setCycle i { s.cycles i with
      progress := update (s.cycles i).progress j (.done err)
      errCh := (s.cycles i).errCh ++ checkFailure check err })
  | collect (phase : (s.cycles i).phase = .running) (all : (s.cycles i).finished = true) :
    CycleMove s i .collect (s.setCycle i { s.cycles i with
      phase := .collected (Err.join (s.cycles i).errCh) })
  | store {final : Option Err} (phase : (s.cycles i).phase = .collected final) :
    CycleMove s i .store { s.setCycle i { s.cycles i with phase := .stored final s.now } with
      cache := update s.cache (s.cycles i).kind (some ⟨final, s.now⟩) }
  | retire {final : Option Err} {since : Nat} (phase : (s.cycles i).phase = .stored final since) :
    CycleMove s i .retire { s.setCycle i { s.cycles i with phase := .retired final since } with
      flight := update s.flight (s.cycles i).kind none }

/-- Every step of a cycle is one of its moves. -/
theorem cycleStep_move {s next : HealthState} {i : Nat} {action : CycleAction}
    (taken : cycleStep s i action = some next) : CycleMove s i action next := by
  -- A cycle moves only in the phase that the action belongs to.
  cases action with
  | snapshot =>
    simp only [cycleStep] at taken
    split at taken <;> cases taken
    exact .snapshot (by assumption)
  | launch j =>
    simp only [cycleStep] at taken
    split at taken <;> cases taken
    exact .launch (by assumption) (by assumption) (by assumption)
  | finish j err =>
    simp only [cycleStep] at taken
    split at taken <;> cases taken
    exact .finish (by assumption) (by assumption) (by assumption)
  | collect =>
    simp only [cycleStep] at taken
    split at taken
    · split at taken <;> cases taken
      exact .collect (by assumption) (by assumption)
    · cases taken
  | store =>
    simp only [cycleStep] at taken
    split at taken <;> cases taken
    exact .store (by assumption)
  | retire =>
    simp only [cycleStep] at taken
    split at taken <;> cases taken
    exact .retire (by assumption)

/-- A step of one call leaves the others where they are. -/
theorem CallMove.others {s next : HealthState} {c d : Nat} {action : CallAction}
    (moved : CallMove s c action next) (other : d ≠ c) : next.calls d = s.calls d := by
  cases moved <;> simp [HealthState.setCall, HealthState.openCycle, HealthState.setCycle, other]

/-- Nobody but a call moves it. -/
theorem calls_frame {s next : HealthState} {label : HealthLabel}
    (taken : healthMachine.step s label = some next) (quiet : ∀ c action, label ≠ .call c action) :
    next.calls = s.calls := by
  -- Cycles do not touch calls, and the other labels touch neither.
  cases label with
  | call c action => exact absurd rfl (quiet c action)
  | cycle i action => cases cycleStep_move taken <;> rfl
  | _ =>
    cases taken
    rfl

end Bootkit

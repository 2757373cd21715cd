import Bootkit.Core.RunnerMoves

/-! What the contexts of a run are done for, and what its watchers hand on. -/

namespace Bootkit

open Go

/-- What a context of the start group can be done for. -/
def Cause (labels : List RunLabel) (cause : Sentinel) : Prop :=
  cause = canceled ∨ RunLabel.cancelCaller cause ∈ labels

/-- A cause stays one as the run goes on. -/
theorem Cause.extend {labels : List RunLabel} {cause : Sentinel} (known : Cause labels cause)
    (label : RunLabel) : Cause (labels ++ [label]) cause := by
  -- What was told stays told.
  rcases known with same | member
  · exact .inl same
  · exact .inr (List.mem_append_left _ member)

/-- Whether a context is one of those that the start phase can see. -/
def Scope.early : Scope → Bool
  | .stop _ => false
  | _ => true

/-- A context that is done took its error from another one, or was done by this very step. -/
theorem runStep_contexts {runner : ApplicationRunner} {s next : RunState} {label : RunLabel}
    (taken : runStep runner s label = some next) {scope : Scope} {err : Err}
    (early : scope.early = true) (done : next.contexts scope = some err) :
    (∃ above : Scope, above.early = true ∧ s.contexts above = some err) ∨
      err = .new canceled ∨ ∃ cause, label = .cancelCaller cause ∧ err = .new cause := by
  -- Every cancellation of the runner itself has the same cause.
  have cancelled : ∀ {errs : Scope → Option Err} {root : Scope} {cause : Err},
      cancelTree Scope.below errs root cause scope = some err →
      errs scope = s.contexts scope → cause = .new canceled →
      (∃ above : Scope, above.early = true ∧ s.contexts above = some err) ∨
        err = .new canceled ∨ ∃ cause, label = .cancelCaller cause ∧ err = .new cause := by
    intro errs root cause done same known
    rcases cancelTree_eq_some done with before | now
    · exact .inl ⟨scope, early, same ▸ before⟩
    · exact .inr (.inl (now.trans known))
  have other : ∀ i, scope ≠ .stop i := by
    rintro i rfl
    cases early
  cases label with
  | tick d =>
    cases taken
    rw [RunState.expire_outside other] at done
    exact .inl ⟨scope, early, done⟩
  | cancelCaller cause =>
    cases taken
    have done : cancelTree Scope.below s.contexts .caller (.new cause) scope = some err := done
    rcases cancelTree_eq_some done with before | now
    · exact .inl ⟨scope, early, before⟩
    · exact .inr (.inr ⟨cause, rfl, now⟩)
  | signal =>
    simp only [runStep] at taken
    split at taken <;> cases taken
    exact cancelled done rfl rfl
  | becomeReady i =>
    cases taken
    exact .inl ⟨scope, early, done⟩
  | main action =>
    have moved : MainMove runner s action next := mainStep_move taken
    cases moved with
    | enter phase =>
      -- Both new contexts are as done as the caller's.
      rcases derive_eq_some done with first | second
      · rcases derive_eq_some first with same | caller
        · exact .inl ⟨scope, early, same⟩
        · exact .inl ⟨.caller, rfl, caller⟩
      · rcases derive_eq_some second with same | caller
        · exact .inl ⟨.signal, rfl, same⟩
        · exact .inl ⟨.caller, rfl, caller⟩
    | launch phase within =>
      rcases derive_eq_some done with same | group
      · exact .inl ⟨scope, early, same⟩
      · exact .inl ⟨.group, rfl, group⟩
    | waitReturns phase all => exact cancelled done rfl rfl
    | callStop phase =>
      have same : s.contexts scope = some err := by
        have outside := RunState.expire_outside (s := _) other ▸ done
        simpa [derive, other] using outside
      exact .inl ⟨scope, early, same⟩
    | cancel phase => exact cancelled done rfl rfl
    | finish phase => exact cancelled done rfl rfl
    | _ phase => exact .inl ⟨scope, early, done⟩
  | start i action =>
    have moved : StartMove runner s i action next := startStep_move taken
    cases moved with
    | cancel phase => exact cancelled done rfl rfl
    | leave phase =>
      rw [RunState.record_eq] at done
      simp only [RunState.emit] at done
      split at done
      · exact cancelled done rfl rfl
      · exact .inl ⟨scope, early, done⟩
    | _ phase => exact .inl ⟨scope, early, done⟩
  | watch i action =>
    have moved : WatchMove runner s i action next := watchStep_move taken
    cases moved with
    | cancel phase => exact cancelled done rfl rfl
    | leave phase =>
      rw [RunState.record_eq] at done
      simp only [RunState.emit] at done
      split at done
      · exact cancelled done rfl rfl
      · exact .inl ⟨scope, early, done⟩
    | _ phase => exact .inl ⟨scope, early, done⟩

/-- Every context that the start phase can see is done for a cause that the run shows. -/
theorem contexts_caused {runner : ApplicationRunner} {labels : List RunLabel} {s : RunState}
    (reached : (runMachine runner).run (RunState.init runner) labels = some s) :
    ∀ (scope : Scope) (err : Err), scope.early = true → s.contexts scope = some err →
      ∃ cause, err = .new cause ∧ Cause labels cause := by
  -- A context was done before, or it is done now by a cancel or by the caller's cause.
  refine (runMachine runner).run_history (fun labels s => ∀ (scope : Scope) (err : Err),
    scope.early = true → s.contexts scope = some err →
      ∃ cause, err = .new cause ∧ Cause labels cause) (by simp [RunState.init]) ?_ labels s reached
  intro labels s label next _ holds taken scope err early done
  rcases runStep_contexts taken early done with
    ⟨above, outer, before⟩ | now | ⟨cause, rfl, now⟩
  · obtain ⟨cause, same, known⟩ := holds above err outer before
    exact ⟨cause, same, known.extend label⟩
  · exact ⟨canceled, now, .inl rfl⟩
  · exact ⟨cause, now, .inr (by simp)⟩

/-- The error that a watcher hands to the group, with whether its deadline passed. -/
@[simp] def WatchPhase.failure : WatchPhase → Option (Bool × Err)
  | .leaving late (some err) | .done late (some err) => some (late, err)
  | _ => none

/-- A watcher's error is its deadline's or that of the group context. -/
theorem watch_failure_caused {runner : ApplicationRunner} {labels : List RunLabel} {s : RunState}
    (reached : (runMachine runner).run (RunState.init runner) labels = some s) :
    ∀ i late err, (s.watcher i).failure = some (late, err) →
      (late = true → err = deadlineErr (runner.nameOf i) runner.startDeadline) ∧
      (late = false → ∃ cause, err = .new cause ∧ Cause labels cause) := by
  refine (runMachine runner).run_history (fun labels s => ∀ i late err,
    (s.watcher i).failure = some (late, err) →
      (late = true → err = deadlineErr (runner.nameOf i) runner.startDeadline) ∧
      (late = false → ∃ cause, err = .new cause ∧ Cause labels cause))
    (by simp [RunState.init]) ?_ labels s reached
  intro labels s label next prior holds taken i late err known
  -- An error that the watcher already had keeps its explanation.
  have kept : (s.watcher i).failure = some (late, err) →
      (late = true → err = deadlineErr (runner.nameOf i) runner.startDeadline) ∧
      (late = false → ∃ cause, err = .new cause ∧ Cause (labels ++ [label]) cause) := by
    intro before
    obtain ⟨deadline, context⟩ := holds i late err before
    refine ⟨deadline, ?_⟩
    intro early
    obtain ⟨cause, same, caused⟩ := context early
    exact ⟨cause, same, caused.extend label⟩
  by_cases outside : label.outer = true
  · rw [runStep_outer outside taken] at known
    exact kept known
  · cases label with
    | main action =>
      have moved : MainMove runner s action next := mainStep_move taken
      cases moved with
      | @guard j phase =>
        dsimp only at known
        split at known
        · by_cases same : i = j
          · simp [same] at known
          · exact kept (by simpa [same] using known)
        · exact kept known
      | callStop phase =>
        rw [RunState.expire_eq] at known
        exact kept known
      | _ phase => exact kept known
    | start j action =>
      have moved : StartMove runner s j action next := startStep_move taken
      cases moved with
      | leave phase =>
        rw [RunState.record_eq] at known
        exact kept known
      | _ phase => exact kept known
    | watch j action =>
      have moved : WatchMove runner s j action next := watchStep_move taken
      by_cases same : i = j
      · subst same
        cases moved with
        | @interrupt since cause phase done =>
          obtain ⟨rfl, rfl⟩ : false = late ∧ cause = err := by simpa using known
          obtain ⟨sentinel, same, caused⟩ := contexts_caused prior .group cause rfl done
          exact ⟨by simp, fun _ => ⟨sentinel, same, caused.extend _⟩⟩
        | cancel phase =>
          obtain ⟨rfl, rfl⟩ : true = late ∧ deadlineErr _ _ = err := by
            simpa [RunState.cancel] using known
          exact ⟨fun _ => rfl, by simp⟩
        | @leave late result phase =>
          rw [RunState.record_eq] at known
          refine kept ?_
          cases result <;> simp_all [RunState.emit]
        | _ phase => simp at known
      · have unmoved : next.watcher i = s.watcher i := by
          cases moved with
          | leave phase =>
            rw [RunState.record_eq]
            exact update_other _ _ same
          | _ phase => exact update_other _ _ same
        exact kept (unmoved ▸ known)
    | _ => simp [RunLabel.outer] at outside

end Bootkit

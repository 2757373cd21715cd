import Bootkit.Core.RunnerShape

/-! Which errors of the start phase reach the result of a run. -/

namespace Bootkit

open Go

/-- Some goroutine of the start phase has returned a non-nil error to the group. -/
def GroupFailed (s : RunState) : Prop :=
  -- A start goroutine does so when `Start` failed with anything but a cancellation.
  (∃ i err, s.starter i = .done (some err) ∧ err.is canceled = false) ∨
    ∃ i late failure, s.watcher i = .done late (some failure)

/-- The group has recorded an error exactly when a goroutine has returned one. -/
def GroupRecords (s : RunState) : Prop :=
  s.groupErr.isSome = true ↔ GroupFailed s

/-- Goroutines that have not just returned leave the record as it was. -/
theorem GroupRecords.frame {s next : RunState}
    (holds : GroupRecords s) (groupErr : next.groupErr = s.groupErr)
    (starters : ∀ i err, next.starter i = .done err ↔ s.starter i = .done err)
    (watchers : ∀ i late result, next.watcher i = .done late result ↔
      s.watcher i = .done late result) : GroupRecords next := by
  -- Only returned goroutines and the recorded error enter the statement.
  unfold GroupRecords GroupFailed at holds ⊢
  simp only [groupErr, starters, watchers]
  exact holds

/-- A start goroutine is recorded as failed when it returns its failure. -/
theorem groupRecords_start {runner : ApplicationRunner} {s next : RunState} {i : Nat}
    {action : StartAction} (moved : StartMove runner s i action next)
    (holds : GroupRecords s) : GroupRecords next := by
  cases moved with
  | @leave err phase =>
    rw [RunState.record_eq]
    unfold GroupRecords GroupFailed at holds ⊢
    simp only [RunState.emit, Option.isSome_or, Bool.or_eq_true, holds]
    constructor
    · rintro ((⟨j, known, done, failed⟩ | late) | handed)
      · -- A goroutine that had returned is not the one that is returning now.
        have other : j ≠ i := by
          rintro rfl
          simp [phase] at done
        exact .inl ⟨j, known, by rw [update_other s.starter _ other, done], failed⟩
      · exact .inr late
      · obtain ⟨cause, rfl, failed⟩ := startResult_isSome.mp handed
        exact .inl ⟨i, cause, update_self s.starter i _, failed⟩
    · rintro (⟨j, known, done, failed⟩ | late)
      · by_cases same : j = i
        · subst same
          rw [update_self, StartPhase.done.injEq] at done
          exact .inr (startResult_isSome.mpr ⟨known, done, failed⟩)
        · rw [update_other s.starter _ same] at done
          exact .inl (.inl ⟨j, known, done, failed⟩)
      · exact .inl (.inr late)
  | _ phase =>
    refine holds.frame rfl ?_ (by intros; exact Iff.rfl)
    intro j known
    by_cases same : j = i
    · subst same
      simp [RunState.emit, RunState.cancel, phase]
    · simp [RunState.emit, RunState.cancel, same]

/-- A watcher is recorded as failed when it returns its failure. -/
theorem groupRecords_watch {runner : ApplicationRunner} {s next : RunState} {i : Nat}
    {action : WatchAction} (moved : WatchMove runner s i action next)
    (holds : GroupRecords s) : GroupRecords next := by
  -- As for a start goroutine, leaving is the one move that the group sees.
  cases moved with
  | @leave late result phase =>
    rw [RunState.record_eq]
    unfold GroupRecords GroupFailed at holds ⊢
    simp only [RunState.emit, Option.isSome_or, Bool.or_eq_true, holds]
    constructor
    · rintro ((starts | ⟨j, known, failure, done⟩) | failed)
      · exact .inl starts
      · have other : j ≠ i := by
          rintro rfl
          simp [phase] at done
        exact .inr ⟨j, known, failure, by rw [update_other s.watcher _ other, done]⟩
      · obtain ⟨failure, rfl⟩ := Option.isSome_iff_exists.mp failed
        exact .inr ⟨i, late, failure, update_self s.watcher i _⟩
    · rintro (starts | ⟨j, known, failure, done⟩)
      · exact .inl (.inl starts)
      · by_cases same : j = i
        · subst same
          rw [update_self, WatchPhase.done.injEq] at done
          exact .inr (by simp [done.2])
        · rw [update_other s.watcher _ same] at done
          exact .inl (.inr ⟨j, known, failure, done⟩)
  | _ phase =>
    refine holds.frame rfl (by intros; exact Iff.rfl) ?_
    intro j known result
    by_cases same : j = i
    · subst same
      simp [RunState.cancel, phase]
    · simp [RunState.cancel, same]

/-- The main goroutine launches goroutines that have not returned, and records nothing. -/
theorem groupRecords_main {runner : ApplicationRunner} {s next : RunState} {action : MainAction}
    (moved : MainMove runner s action next) (fresh : Launched runner s)
    (holds : GroupRecords s) : GroupRecords next := by
  -- What the loop launches has not returned, so it is not among the failures.
  cases moved with
  | @launch i phase within =>
    have new : s.starter i = .unlaunched := by
      rw [fresh.starters i, phase]
      exact Nat.le_refl i
    refine holds.frame rfl ?_ (by intros; exact Iff.rfl)
    intro j err
    by_cases same : j = i
    · subst same
      simp [new]
    · simp [same]
  | @guard i phase =>
    have new : s.watcher i = .unlaunched := by
      rw [fresh.watchers i, phase]
      exact .inl (Nat.le_refl i)
    refine holds.frame rfl (by intros; exact Iff.rfl) ?_
    intro j late result
    show (if runner.watched i then update s.watcher i .launched else s.watcher) j = _ ↔ _
    by_cases same : j = i
    · subst same
      split <;> simp [new]
    · split <;> simp [same]
  | callStop phase =>
    rw [RunState.expire_eq]
    exact holds
  | _ phase => exact holds

/-- The record of the group is right in every state a run reaches. -/
theorem groupRecords_run {runner : ApplicationRunner} {labels : List RunLabel} {s : RunState}
    (reached : (runMachine runner).run (RunState.init runner) labels = some s) :
    GroupRecords s := by
  -- The record depends on no context, so the moves of the goroutines are enough.
  refine run_by_moves (fun _ s => GroupRecords s) ?_ ?_ ?_ ?_ ?_
    labels s (Machine.Obeys.always _ _ _) reached
  · simp [GroupRecords, GroupFailed, RunState.init]
  · intro _ _ s now contexts ready _ holds
    exact holds
  · intro _ s action next prior _ moved holds
    exact groupRecords_main moved (runInvariant_run prior).fresh holds
  · intro _ s i action next _ _ moved holds
    exact groupRecords_start moved holds
  · intro _ s i action next _ _ moved holds
    exact groupRecords_watch moved holds

/-- The error that the group keeps is one that a goroutine has handed over. -/
def GroupSource (runner : ApplicationRunner) (s : RunState) : Prop :=
  ∀ err, s.groupErr = some err →
    (∃ i result, s.starter i = .done result ∧ startResult (runner.nameOf i) result = some err) ∨
      ∃ i late, s.watcher i = .done late (some err)

/-- A goroutine that has returned stays the source of what it handed over. -/
theorem GroupSource.frame {runner : ApplicationRunner} {s next : RunState}
    (holds : GroupSource runner s) (groupErr : next.groupErr = s.groupErr)
    (starters : ∀ i result, s.starter i = .done result → next.starter i = .done result)
    (watchers : ∀ i late result, s.watcher i = .done late result →
      next.watcher i = .done late result) : GroupSource runner next := by
  -- Whoever failed first is still done with the same error.
  intro err known
  rcases holds err (groupErr ▸ known) with ⟨i, result, done, failed⟩ | ⟨i, late, done⟩
  · exact .inl ⟨i, result, starters i result done, failed⟩
  · exact .inr ⟨i, late, watchers i late _ done⟩

/-- A goroutine that has not returned can move without touching those that have. -/
theorem update_keeps {Value : Type} {family : Nat → Value} {i : Nat} {before : Value}
    (phase : family i = before) (after : Value) {j : Nat} {kept : Value} (known : family j = kept)
    (other : before ≠ kept) : update family i after j = kept := by
  -- The member that moves was not in the phase in question.
  have apart : j ≠ i := by
    rintro rfl
    exact other (phase.symm.trans known)
  rw [update_other family after apart, known]

/-- The group keeps only what it was handed. -/
theorem groupSource_run {runner : ApplicationRunner} {labels : List RunLabel} {s : RunState}
    (reached : (runMachine runner).run (RunState.init runner) labels = some s) :
    GroupSource runner s := by
  refine run_by_moves (fun _ s => GroupSource runner s) ?_ ?_ ?_ ?_ ?_
    labels s (Machine.Obeys.always _ _ _) reached
  · simp [GroupSource, RunState.init]
  · intro _ _ s now contexts ready _ holds
    exact holds
  · intro labels s action next prior _ moved holds
    have fresh := (runInvariant_run prior).fresh
    -- The loop launches goroutines that did not exist, and so have handed over nothing.
    cases moved with
    | @launch i phase within =>
      have new : s.starter i = .unlaunched := by
        rw [fresh.starters i, phase]
        exact Nat.le_refl i
      exact holds.frame rfl (fun j result done => update_keeps new _ done (by simp))
        fun _ _ _ done => done
    | @guard i phase =>
      refine holds.frame rfl (fun _ _ done => done) ?_
      intro j late result done
      have new : s.watcher i = .unlaunched := by
        rw [fresh.watchers i, phase]
        exact .inl (Nat.le_refl i)
      dsimp only
      split
      · exact update_keeps new _ done (by simp)
      · exact done
    | callStop phase =>
      rw [RunState.expire_eq]
      exact holds
    | _ phase => exact holds
  · intro _ s i action next _ _ moved holds
    cases moved with
    | @leave result phase =>
      rw [RunState.record_eq]
      intro err known
      -- The group had an error already, or keeps the one that this goroutine hands over.
      cases before : s.groupErr with
      | some first =>
        have same : first = err := by simpa [RunState.emit, before] using known
        rcases holds err (before.trans (by rw [same])) with ⟨j, other, done, failed⟩ | watcher
        · exact .inl ⟨j, other, update_keeps phase _ done (by simp), failed⟩
        · exact .inr watcher
      | none =>
        have handed : startResult (runner.nameOf i) result = some err := by
          simpa [RunState.emit, before] using known
        exact .inl ⟨i, result, by simp [RunState.emit], handed⟩
    | _ phase =>
      exact holds.frame rfl (fun j result done => update_keeps phase _ done (by simp))
        fun _ _ _ done => done
  · intro _ s i action next _ _ moved holds
    cases moved with
    | @leave late result phase =>
      rw [RunState.record_eq]
      intro err known
      cases before : s.groupErr with
      | some first =>
        have same : first = err := by simpa [RunState.emit, before] using known
        rcases holds err (before.trans (by rw [same])) with starter | ⟨j, late, done⟩
        · exact .inl starter
        · exact .inr ⟨j, late, update_keeps phase _ done (by simp)⟩
      | none =>
        have handed : result = some err := by simpa [RunState.emit, before] using known
        exact .inr ⟨i, late, by simp [RunState.emit, handed]⟩
    | _ phase =>
      exact holds.frame rfl (fun _ _ done => done)
        fun j late result done => update_keeps phase _ done (by simp)

/-- The start failure that a step hands to the group, if it hands one. -/
def startFailure (runner : ApplicationRunner) (s : RunState) : RunLabel → Option Err
  | .start i .leave =>
    match s.starter i with
    | .leaving err => startResult (runner.nameOf i) err
    | _ => none
  | _ => none

/-- A failed start is handed to the group only while the group knows of no other failure. -/
def FailsFirst (runner : ApplicationRunner) (s : RunState) (label : RunLabel) : Prop :=
  (startFailure runner s label).isSome = true → s.groupErr = none

instance (runner : ApplicationRunner) (s : RunState) (label : RunLabel) :
    Decidable (FailsFirst runner s label) :=
  inferInstanceAs (Decidable (_ → _))

/-- Every start failure the group was handed is the one it keeps. -/
def KeepsFailures (runner : ApplicationRunner) (s : RunState) : Prop :=
  ∀ i err failure, s.starter i = .done err →
    startResult (runner.nameOf i) err = some failure → s.groupErr = some failure

/-- While failures come one at a time, none of them is dropped. -/
theorem keepsFailures_run {runner : ApplicationRunner} {labels : List RunLabel} {s : RunState}
    (obeyed : (runMachine runner).Obeys (FailsFirst runner) (RunState.init runner) labels)
    (reached : (runMachine runner).run (RunState.init runner) labels = some s) :
    KeepsFailures runner s := by
  refine run_by_moves (fun _ s => KeepsFailures runner s) ?_ ?_ ?_ ?_ ?_ labels s obeyed reached
  · simp [KeepsFailures, RunState.init]
  · intro _ _ s now contexts ready _ holds
    exact holds
  · intro _ s action next prior _ moved holds
    cases moved with
    | @launch i phase within =>
      intro j err failure done failed
      by_cases same : j = i
      · subst same
        simp at done
      · exact holds j err failure (by simpa [same] using done) failed
    | callStop phase =>
      rw [RunState.expire_eq]
      exact holds
    | _ phase => exact holds
  · intro _ s i action next _ first moved holds
    cases moved with
    | @leave err phase =>
      rw [RunState.record_eq]
      intro j known failure done failed
      simp only [RunState.emit] at done ⊢
      by_cases same : j = i
      · -- The group knew of no failure, so it keeps this one.
        subst same
        rw [update_self, StartPhase.done.injEq] at done
        subst done
        have known : s.groupErr = none := first (by simp [startFailure, phase, failed])
        rw [known, Option.none_or, failed]
      · rw [update_other s.starter _ same] at done
        rw [holds j known failure done failed, Option.some_or]
    | _ phase =>
      intro j known failure done failed
      by_cases same : j = i
      · subst same
        simp [RunState.emit, RunState.cancel] at done
      · exact holds j known failure (by simpa [RunState.emit, RunState.cancel, same] using done)
          failed
  · intro _ s i action next _ _ moved holds
    cases moved with
    | leave phase =>
      rw [RunState.record_eq]
      intro j known failure done failed
      simp only [RunState.emit] at done ⊢
      rw [holds j known failure done failed, Option.some_or]
    | _ phase => exact holds

/-- What the trace says a service's `Start` returned is what its goroutine carries to the end. -/
theorem done_of_startReturned {runner : ApplicationRunner} {s : RunState} {i : Nat}
    {err : Option Err} (invariant : RunInvariant runner s) (quiet : Quiet runner s)
    (returned : RunEvent.startReturned i err ∈ s.trace) : s.starter i = .done err := by
  have member : err ∈ s.trace.filterMap (RunEvent.startReturnOf i) :=
    List.mem_filterMap.mpr ⟨_, returned, by simp⟩
  have shown : (s.starter i).result = some err := by
    rw [invariant.starts.returns i] at member
    exact Option.mem_toList.mp member
  -- A goroutine that has a result was launched, and by now it has returned.
  have within : i < runner.services.length := by
    by_contra past
    have absent : s.starter i = .unlaunched := by
      rw [invariant.fresh.starters i]
      exact Nat.le_trans invariant.fresh.bound (Nat.le_of_not_lt past)
    simp [absent] at shown
  obtain ⟨known, done⟩ := quiet.starters i within
  simp only [done, StartPhase.result, Option.some.injEq] at shown
  rw [done, shown]

/-- While failures come one at a time, every failed `Start` is in the result of the run. -/
theorem start_failures_joined (runner : ApplicationRunner) (labels : List RunLabel)
    (s : RunState) (result : Option Err)
    (reached : (runMachine runner).run (RunState.init runner) labels = some s)
    (finished : s.main = .finished result)
    (oneByOne : (runMachine runner).Obeys (FailsFirst runner) (RunState.init runner) labels) :
    ∀ i err, RunEvent.startReturned i (some err) ∈ s.trace → err.is canceled = false →
      .wrap (runner.nameOf i ++ ": " ++ err.text) [err] ∈ Err.members result := by
  -- The goroutine carries the failure to the group, the group keeps it, and the join shows it.
  intro i err returned failed
  have invariant := runInvariant_run reached
  have quiet := invariant.quiet (shutting_of_finished finished)
  have done := done_of_startReturned invariant quiet returned
  have kept := keepsFailures_run oneByOne reached i (some err) _ done (startResult_failed failed)
  rw [invariant.joins result finished, Err.members_join, quiet.outcome, kept]
  simp

/-- A single failing `Start` is in the result, whatever the other services do. -/
theorem start_failure_joined_second : ∃ s result,
    (runMachine twoServices).run (RunState.init twoServices) (launchLabels 2 ++
      startLabels 0 none ++ startLabels 1 (some refused) ++ stopLabels [none, none]) = some s ∧
    s.main = .finished result ∧
    .wrap "cache: connection refused" [refused] ∈ Err.members result := by
  -- The other service returned nil, so the failure is the first one handed over.
  obtain ⟨s, reached, finished, returned⟩ := (runMachine twoServices).run_observe
    (RunState.init twoServices)
    (launchLabels 2 ++ startLabels 0 none ++ startLabels 1 (some refused) ++
      stopLabels [none, none])
    (fun s => s.main = .finished (Err.join [.wrap "cache: connection refused" [refused]]) ∧
      RunEvent.startReturned 1 (some refused) ∈ s.trace)
    (by decide +kernel)
  have oneByOne := ((runMachine twoServices).obeys_iff (FailsFirst twoServices)
    (RunState.init twoServices) (launchLabels 2 ++ startLabels 0 none ++
      startLabels 1 (some refused) ++ stopLabels [none, none])).mp (by decide +kernel)
  exact ⟨s, _, reached, finished,
    start_failures_joined twoServices _ s _ reached finished oneByOne 1 refused returned rfl⟩

/-- When two services fail to start, the result names only the first of them. -/
theorem start_failure_lost : ∃ labels s result i err,
    (runMachine twoServices).run (RunState.init twoServices) labels = some s ∧
    s.main = .finished result ∧ RunEvent.startReturned i (some err) ∈ s.trace ∧
    err.is canceled = false ∧
    .wrap (twoServices.nameOf i ++ ": " ++ err.text) [err] ∉ Err.members result := by
  -- The second failure reaches a group that already has one.
  obtain ⟨s, reached, finished, returned⟩ := (runMachine twoServices).run_observe
    (RunState.init twoServices)
    (launchLabels 2 ++ startLabels 0 (some refused) ++ startLabels 1 (some refused) ++
      stopLabels [none, none])
    (fun s => s.main = .finished (Err.join [.wrap "db: connection refused" [refused]]) ∧
      RunEvent.startReturned 1 (some refused) ∈ s.trace)
    (by decide +kernel)
  exact ⟨_, s, _, 1, refused, reached, finished, returned, rfl, by decide⟩

/-- Whether the watcher gave up because the group context was done. -/
@[simp] def WatchPhase.gaveUp : WatchPhase → Bool
  | .leaving false (some _) | .done false (some _) => true
  | _ => false

/-- Whether the watcher found the start deadline passed. -/
@[simp] def WatchPhase.late : WatchPhase → Bool
  | .expired | .leaving true _ | .done true _ => true
  | _ => false

/-- The select branches that were taken show in the phases of the watchers. -/
structure WatchHistory (labels : List RunLabel) (s : RunState) : Prop where
  interrupts : ∀ i, RunLabel.watch i .interrupt ∈ labels ↔ (s.watcher i).gaveUp = true
  expiries : ∀ i, RunLabel.watch i .expire ∈ labels ↔ (s.watcher i).late = true

/-- A step that takes neither of the two branches leaves their history as it was. -/
theorem WatchHistory.frame {labels : List RunLabel} {label : RunLabel} {s next : RunState}
    (holds : WatchHistory labels s)
    (other : ∀ i, label ≠ .watch i .interrupt ∧ label ≠ .watch i .expire)
    (same : ∀ i, (next.watcher i).gaveUp = (s.watcher i).gaveUp ∧
      (next.watcher i).late = (s.watcher i).late) : WatchHistory (labels ++ [label]) next := by
  -- Neither the labels nor the phases that count have changed.
  constructor
  · intro i
    rw [(same i).1, ← holds.interrupts i]
    simp [(other i).1.symm]
  · intro i
    rw [(same i).2, ← holds.expiries i]
    simp [(other i).2.symm]

/-- A watcher's move shows in the history exactly when it takes one of the two branches. -/
theorem watchHistory_watch {runner : ApplicationRunner} {labels : List RunLabel}
    {s next : RunState} {i : Nat} {action : WatchAction}
    (moved : WatchMove runner s i action next) (holds : WatchHistory labels s) :
    WatchHistory (labels ++ [.watch i action]) next := by
  cases moved with
  | interrupt phase done =>
    constructor
    · intro j
      by_cases same : j = i
      · subst same
        simp
      · simp [same, holds.interrupts j]
    · intro j
      by_cases same : j = i
      · subst same
        simp [holds.expiries j, phase]
      · simp [same, holds.expiries j]
  | expire phase passed =>
    constructor
    · intro j
      by_cases same : j = i
      · subst same
        simp [holds.interrupts j, phase]
      · simp [same, holds.interrupts j]
    · intro j
      by_cases same : j = i
      · subst same
        simp
      · simp [same, holds.expiries j]
  | @leave late result phase =>
    rw [RunState.record_eq]
    refine holds.frame (by simp) ?_
    intro j
    by_cases same : j = i
    · -- Handing the result over keeps which branch it came from.
      subst same
      cases late <;> cases result <;> simp [RunState.emit, phase]
    · simp [RunState.emit, same]
  | _ phase =>
    refine holds.frame (by simp) ?_
    intro j
    by_cases same : j = i
    · subst same
      simp [RunState.cancel, phase]
    · simp [RunState.cancel, same]

/-- The history of the two branches is right in every state a run reaches. -/
theorem watchHistory_run {runner : ApplicationRunner} {labels : List RunLabel} {s : RunState}
    (reached : (runMachine runner).run (RunState.init runner) labels = some s) :
    WatchHistory labels s := by
  -- Only watchers take these branches; the loop launches them before either.
  refine run_by_moves (fun labels s => WatchHistory labels s) ?_ ?_ ?_ ?_ ?_
    labels s (Machine.Obeys.always _ _ _) reached
  · constructor <;> simp [RunState.init]
  · intro labels label s now contexts ready outside holds
    refine holds.frame ?_ (by simp)
    intro i
    constructor <;> rintro rfl <;> simp [RunLabel.outer] at outside
  · intro labels s action next prior _ moved holds
    have fresh := (runInvariant_run prior).fresh
    refine holds.frame (by simp) ?_
    intro j
    cases moved with
    | @guard i phase =>
      by_cases same : j = i
      · subst same
        have new : s.watcher j = .unlaunched := by
          rw [fresh.watchers j, phase]
          exact .inl (Nat.le_refl j)
        simp only
        split <;> simp [new]
      · simp only
        split <;> simp [same]
    | callStop phase =>
      rw [RunState.expire_eq]
      exact ⟨rfl, rfl⟩
    | _ phase => exact ⟨rfl, rfl⟩
  · intro labels s i action next _ _ moved holds
    refine holds.frame (by simp) ?_
    intro j
    cases moved with
    | leave phase =>
      rw [RunState.record_eq]
      exact ⟨rfl, rfl⟩
    | _ phase => exact ⟨rfl, rfl⟩
  · intro labels s i action next _ _ moved holds
    exact watchHistory_watch moved holds

/-- By the time a run shuts down, a watcher that exists has returned. -/
theorem Quiet.watcher_done {runner : ApplicationRunner} {s : RunState} {i : Nat}
    (quiet : Quiet runner s) (fresh : Launched runner s) (launched : s.watcher i ≠ .unlaunched) :
    ∃ late result, s.watcher i = .done late result := by
  rw [Ne, fresh.watchers i, not_or] at launched
  obtain ⟨below, watched⟩ := launched
  have bound := fresh.bound
  -- A service is guarded only after its start goroutine was launched.
  have behind : s.main.guarded runner.services.length ≤ s.main.launched runner.services.length := by
    cases s.main <;> simp [MainPhase.guarded, MainPhase.launched]
  exact quiet.watchers i (by omega) (by simpa using watched)

/--
When nothing failed and no deadline passed, the result is nil exactly when no watcher gave up.

The only thing that can end the start phase early is then the caller's context or a signal.
-/
theorem clean_cancellation (runner : ApplicationRunner) (labels : List RunLabel)
    (s : RunState) (result : Option Err)
    (reached : (runMachine runner).run (RunState.init runner) labels = some s)
    (finished : s.main = .finished result)
    (starts : ∀ i err, RunEvent.startReturned i (some err) ∈ s.trace → err.is canceled = true)
    (deadlines : ∀ i, RunLabel.watch i .expire ∉ labels)
    (stops : ∀ i err, RunEvent.stopReturned i err ∈ s.trace → err = none) :
    result = none ↔ ∀ i, RunLabel.watch i .interrupt ∉ labels := by
  -- With no failed `Stop` the result is the record of the group, and with no failed `Start` and no
  -- deadline the only failure left to record is a watcher that gave up.
  have invariant := runInvariant_run reached
  have quiet := invariant.quiet (shutting_of_finished finished)
  have history := watchHistory_run reached
  have recorded := groupRecords_run reached
  have stopped : s.shutdownErrs = [] := by
    rw [shutdownErrs_of_finished invariant.stops finished, List.filterMap_eq_nil_iff]
    rintro ⟨i, err⟩ returned
    obtain ⟨event, present, projected⟩ := List.mem_filterMap.mp returned
    have clean : err = none := by
      cases event <;> simp at projected
      obtain ⟨rfl, rfl⟩ := projected
      exact stops _ _ present
    simp [stopFailure, clean]
  have outcome : result = none ↔ ¬ GroupFailed s := by
    rw [invariant.joins result finished, Err.join_eq_none, stopped, quiet.outcome,
      ← show s.groupErr.isSome = true ↔ GroupFailed s from recorded]
    cases s.groupErr <;> simp
  rw [outcome]
  constructor
  · intro succeeded i taken
    have gaveUp := (history.interrupts i).mp taken
    have launched : s.watcher i ≠ .unlaunched := by
      intro absent
      simp [absent] at gaveUp
    obtain ⟨late, outcome, done⟩ := quiet.watcher_done invariant.fresh launched
    rw [done] at gaveUp
    cases outcome with
    | none => cases late <;> simp at gaveUp
    | some failure => exact succeeded (.inr ⟨i, late, failure, done⟩)
  · rintro none_taken (⟨i, err, done, failed⟩ | ⟨i, late, failure, done⟩)
    · have returned := startReturned_of_result invariant.starts (congrArg StartPhase.result done)
      simp [starts i err returned] at failed
    · cases late with
      | false => exact none_taken i ((history.interrupts i).mpr (by simp [done]))
      | true => exact deadlines i ((history.expiries i).mpr (by simp [done]))

/-- One service that announces readiness, under a start deadline. -/
def watchedService : ApplicationRunner :=
  newApplicationRunner [.withServices [⟨"db", true, none⟩], .withStartDeadline (5 * second)]

/-- A readiness watcher that takes one branch of its select and returns. -/
def watchLabels (i : Nat) (branch : WatchAction) : List RunLabel :=
  [.watch i .arm, .watch i branch, .watch i .leave]

/-- A service that was ready before the caller cancelled lets the run return nil. -/
theorem clean_cancellation_ready : ∃ s result,
    (runMachine watchedService).run (RunState.init watchedService) (launchLabels 1 ++
      [.becomeReady 0] ++ watchLabels 0 .ready ++ [.cancelCaller canceled] ++
      startLabels 0 (some (.new canceled)) ++ stopLabels [none]) = some s ∧
    s.main = .finished result ∧ result = none := by
  -- The trace of the concrete run gives the hypotheses about starts and stops.
  obtain ⟨s, reached, finished, shown⟩ := (runMachine watchedService).run_observe
    (RunState.init watchedService)
    (launchLabels 1 ++ [.becomeReady 0] ++ watchLabels 0 .ready ++ [.cancelCaller canceled] ++
      startLabels 0 (some (.new canceled)) ++ stopLabels [none])
    (fun s => s.main = .finished none ∧ s.trace = [.watcherDone 0 none, .startCalled 0,
      .startReturned 0 (some (.new canceled)), .onComponentStart 0 "db" 0 (some (.new canceled)),
      .starterDone 0 none, .stopCalled 0 (15 * second), .stopReturned 0 none,
      .onComponentStop 0 "db" 0 none])
    (by decide +kernel)
  refine ⟨s, none, reached, finished, ?_⟩
  refine (clean_cancellation watchedService _ s none reached finished ?_ ?_ ?_).mpr ?_
  · intro i err returned
    obtain ⟨_, rfl⟩ : i = 0 ∧ err = .new canceled := by simpa [shown] using returned
    rfl
  · simp [launchLabels, watchLabels, startLabels, stopLabels]
  · intro i err returned
    obtain ⟨_, rfl⟩ : i = 0 ∧ err = none := by simpa [shown] using returned
    rfl
  · simp [launchLabels, watchLabels, startLabels, stopLabels]

/-- A service that was not ready when the caller cancelled turns the cancellation into a failure. -/
theorem cancellation_reported : ∃ labels s result,
    (runMachine watchedService).run (RunState.init watchedService) labels = some s ∧
    s.main = .finished result ∧
    (∀ i err, RunEvent.startReturned i (some err) ∈ s.trace → err.is canceled = true) ∧
    (∀ i, RunLabel.watch i .expire ∉ labels) ∧
    (∀ i err, RunEvent.stopReturned i err ∈ s.trace → err = none) ∧ result ≠ none := by
  -- The same run without readiness, so that the watcher takes the other branch.
  obtain ⟨s, reached, finished, shown⟩ := (runMachine watchedService).run_observe
    (RunState.init watchedService)
    (launchLabels 1 ++ [.cancelCaller canceled] ++ watchLabels 0 .interrupt ++
      startLabels 0 (some (.new canceled)) ++ stopLabels [none])
    (fun s => s.main = .finished (Err.join [.new canceled]) ∧
      s.trace = [.watcherDone 0 (some (.new canceled)), .startCalled 0,
        .startReturned 0 (some (.new canceled)), .onComponentStart 0 "db" 0 (some (.new canceled)),
        .starterDone 0 none, .stopCalled 0 (15 * second), .stopReturned 0 none,
        .onComponentStop 0 "db" 0 none])
    (by decide +kernel)
  refine ⟨_, s, _, reached, finished, ?_, ?_, ?_, ?_⟩
  · intro i err returned
    obtain ⟨_, rfl⟩ : i = 0 ∧ err = .new canceled := by simpa [shown] using returned
    rfl
  · simp [launchLabels, watchLabels, startLabels, stopLabels]
  · intro i err returned
    obtain ⟨_, rfl⟩ : i = 0 ∧ err = none := by simpa [shown] using returned
    rfl
  · simp

end Bootkit

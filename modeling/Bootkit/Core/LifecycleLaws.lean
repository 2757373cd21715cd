import Bootkit.Core.LifecycleMoves

/-! One `Start` and any number of `Stop`s release the connected resource exactly once. -/

namespace Bootkit

open Go

/-- The one call of `Start` connected with a closure. -/
def Connected (labels : List LifecycleLabel) : Prop :=
  LifecycleLabel.start 0 (.connect (.ok true)) ∈ labels

/-- The critical section of `Start` came before that of every `Stop`. -/
def StartsFirst (labels : List LifecycleLabel) : Prop :=
  ∃ before after, labels = before ++ .start 0 .lock :: after ∧
    ∀ k, LifecycleLabel.stop k .lock ∉ before

/-- What came first stays first. -/
theorem StartsFirst.extend {labels : List LifecycleLabel} (label : LifecycleLabel)
    (first : StartsFirst labels) : StartsFirst (labels ++ [label]) := by
  -- The new label comes behind the start that was first.
  obtain ⟨before, after, split, none_before⟩ := first
  exact ⟨before, after ++ [label], by simp [split], none_before⟩

/--
Where the resource of the one `Start` is.

The arguments are the phase of `Start`, the stored closure, the stopped flag, whether readiness was
announced, and how often the closure was invoked.
-/
inductive Custody (labels : List LifecycleLabel) :
    StarterPhase → Option Nat → Bool → Bool → Nat → Prop
  -- There is nothing to release.
  | idle {stopped : Bool} (fresh : ¬ Connected labels) : Custody labels .idle none stopped false 0
  | connecting {stopped : Bool} (fresh : ¬ Connected labels) :
    Custody labels .connecting none stopped false 0
  | failed {stopped : Bool} {err : Option Err} (fresh : ¬ Connected labels) :
    Custody labels (.returned err) none stopped false 0
  -- The resource is in the hands of `Start`.
  | connected {stopped : Bool} (made : Connected labels) :
    Custody labels (.connected (some 0)) none stopped false 0
  | locked {stopped : Bool} (made : Connected labels)
      (first : stopped = false → StartsFirst labels) :
    Custody labels (.locked (some 0)) none stopped false 0
  | spurned (made : Connected labels) : Custody labels (.spurned (some 0)) none true false 0
  -- `Start` has released it.
  | cleaning (made : Connected labels) : Custody labels (.cleaning 0) none true false 1
  | cleaned {err : Option Err} (made : Connected labels) :
    Custody labels (.returned err) none true false 1
  -- The closure is stored, and the first `Stop` releases the resource with the flag.
  | stored {stopped : Bool} (made : Connected labels) (first : StartsFirst labels) :
    Custody labels .stored (some 0) stopped false stopped.toNat
  | blocked {stopped : Bool} (made : Connected labels) (first : StartsFirst labels) :
    Custody labels .blocked (some 0) stopped true stopped.toNat
  | served {stopped : Bool} {err : Option Err} (made : Connected labels)
      (first : StartsFirst labels) :
    Custody labels (.returned err) (some 0) stopped true stopped.toNat

section Custody

variable {labels : List LifecycleLabel} {phase : StarterPhase} {stopFunc : Option Nat}
  {stopped shown : Bool} {count : Nat}

/-- Time only adds to the history, and only a successful `Connect` makes a resource. -/
theorem Custody.extend
    (custody : Custody labels phase stopFunc stopped shown count) (label : LifecycleLabel)
    (other : label ≠ .start 0 (.connect (.ok true))) :
    Custody (labels ++ [label]) phase stopFunc stopped shown count := by
  -- The new label makes no resource, so both kinds of history survive it.
  have kept : Connected labels → Connected (labels ++ [label]) := List.mem_append_left _
  have still : ¬ Connected labels → ¬ Connected (labels ++ [label]) := by
    intro fresh made
    rcases List.mem_append.mp made with earlier | now
    · exact fresh earlier
    · exact other (List.mem_singleton.mp now).symm
  cases custody with
  | idle fresh => exact .idle (still fresh)
  | connecting fresh => exact .connecting (still fresh)
  | failed fresh => exact .failed (still fresh)
  | connected made => exact .connected (kept made)
  | locked made first => exact .locked (kept made) fun live => (first live).extend label
  | spurned made => exact .spurned (kept made)
  | cleaning made => exact .cleaning (kept made)
  | cleaned made => exact .cleaned (kept made)
  | stored made first => exact .stored (kept made) (first.extend label)
  | blocked made first => exact .blocked (kept made) (first.extend label)
  | served made first => exact .served (kept made) (first.extend label)

/-- The first `Stop` releases the stored closure as it sets the flag. -/
theorem Custody.stop (custody : Custody labels phase stopFunc false shown count) :
    Custody labels phase stopFunc true shown (count + stopFunc.toList.length) := by
  -- Where nothing is stored only the flag changes; a stored closure is counted with it.
  cases custody with
  | idle fresh => exact .idle fresh
  | connecting fresh => exact .connecting fresh
  | failed fresh => exact .failed fresh
  | connected made => exact .connected made
  | locked made first => exact .locked made (by simp)
  | stored made first => exact .stored made first
  | blocked made first => exact .blocked made first
  | served made first => exact .served made first

/-- A successful `Connect` puts the resource into the hands of `Start`. -/
theorem Custody.connect (custody : Custody labels .connecting stopFunc stopped shown count) :
    Custody (labels ++ [.start 0 (.connect (.ok true))]) (.connected (some 0)) stopFunc stopped
      shown count := by
  -- The client is in the hands of the only start that connects.
  cases custody with
  | connecting fresh => exact .connected (by simp [Connected])

/-- The stored closure is the one that the one `Start` made. -/
theorem Custody.closure {stop : Nat}
    (custody : Custody labels phase (some stop) stopped shown count) : stop = 0 := by
  cases custody <;> rfl

/-- Whether `Start` has left its critical section and any cleanup call it makes. -/
def StarterPhase.through : StarterPhase → Bool
  | .stored | .blocked | .returned _ | .panicked => true
  | _ => false

/-- Nobody releases the resource twice. -/
theorem Custody.once (custody : Custody labels phase stopFunc stopped shown count) : count ≤ 1 := by
  cases custody <;> first | omega | exact Bool.toNat_le _

/-- Once the flag is set and `Start` is through, the resource has been released. -/
theorem Custody.released
    (custody : Custody labels phase stopFunc true shown count) (made : Connected labels)
    (through : phase.through = true) : count = 1 := by
  -- Before `Start` is through the resource may be in its hands; afterwards it is not.
  cases custody with
  | idle fresh => exact absurd made fresh
  | connecting fresh => exact absurd made fresh
  | failed fresh => exact absurd made fresh
  | connected _ => simp [StarterPhase.through] at through
  | locked _ _ => simp [StarterPhase.through] at through
  | spurned _ => simp [StarterPhase.through] at through
  | _ => rfl

/-- While the flag is clear nothing has been released. -/
theorem Custody.kept (custody : Custody labels phase stopFunc false shown count) : count = 0 := by
  cases custody <;> rfl

/-- Without a resource nothing has been released. -/
theorem Custody.fresh (custody : Custody labels phase stopFunc stopped shown count)
    (fresh : ¬ Connected labels) : count = 0 := by
  cases custody <;> first | rfl | exact absurd ‹Connected labels› fresh

/-- Readiness is announced only for a resource that was stored in time. -/
theorem Custody.announced (custody : Custody labels phase stopFunc stopped true count) :
    Connected labels ∧ StartsFirst labels := by
  -- The channel is closed in only two of the places.
  cases custody with
  | blocked made first => exact ⟨made, first⟩
  | served made first => exact ⟨made, first⟩

end Custody

/-- Whether a call of `Stop` has dealt with the flag. -/
def StopperPhase.decided : StopperPhase → Bool
  | .releasing _ | .returning _ | .returned _ => true
  | _ => false

/-- What the calls of `Stop` so far say about the flag. -/
structure StopHistory (labels : List LifecycleLabel) (stoppers : Nat → StopperPhase)
    (stopped : Bool) : Prop where
  -- A `Stop` that has dealt with the flag leaves it set.
  decided : ∀ k, (stoppers k).decided = true → stopped = true
  -- A `Stop` that was inside has set the flag, or is about to.
  entered : ∀ k, LifecycleLabel.stop k .lock ∈ labels →
    stopped = true ∨ ∃ j, stoppers j = .locked
  called : ∀ k, stoppers k ≠ .idle → LifecycleLabel.stop k .call ∈ labels
  -- Only a `Stop` sets the flag.
  caused : stopped = true → ∃ k, LifecycleLabel.stop k .call ∈ labels

/-- A step of no `Stop` leaves their history as it was. -/
theorem StopHistory.extend {labels : List LifecycleLabel} {stoppers : Nat → StopperPhase}
    {stopped : Bool} (holds : StopHistory labels stoppers stopped) {label : LifecycleLabel}
    (other : ∀ k, label ≠ .stop k .lock) : StopHistory (labels ++ [label]) stoppers stopped := by
  -- Old entries stay, and the new label is no entry into the critical section.
  refine ⟨holds.decided, ?_, ?_, ?_⟩
  · intro k entered
    exact holds.entered k (by simpa [(other k).symm] using entered)
  · intro k busy
    exact List.mem_append_left _ (holds.called k busy)
  · intro set
    obtain ⟨k, called⟩ := holds.caused set
    exact ⟨k, List.mem_append_left _ called⟩

/-- While no `Stop` holds the mutex, every `Stop` that was inside has set the flag. -/
theorem StopHistory.stopped_of_entered {labels : List LifecycleLabel} {s : LifecycleState}
    (holds : StopHistory labels s.stoppers s.stopped) (guarded : Guards s.mu s.inside)
    (outside : ∀ k, s.mu ≠ some (.stop k)) {k : Nat}
    (entered : LifecycleLabel.stop k .lock ∈ labels) : s.stopped = true := by
  rcases holds.entered k entered with set | ⟨j, locked⟩
  · exact set
  · -- A `Stop` before its decision holds the mutex.
    have held := (guarded (.stop j)).mp
      (by simp [LifecycleState.inside, locked, StopperPhase.holds])
    exact absurd held (outside j)

/-- What holds on a lifecycle with one `Start`. -/
structure LifecycleInvariant (labels : List LifecycleLabel) (s : LifecycleState) : Prop where
  alone : ∀ k, k ≠ 0 → s.starters k = .idle
  custody : Custody labels (s.starters 0) s.stopFunc s.stopped (s.ready == .closed) (s.invoked 0)
  stops : StopHistory labels s.stoppers s.stopped

/-- Every step of `Start` other than a successful `Connect` moves the resource along. -/
theorem Custody.starter {connectSet : Bool} {labels : List LifecycleLabel}
    {s next : LifecycleState} {action : StarterAction}
    (custody : Custody labels (s.starters 0) s.stopFunc s.stopped (s.ready == .closed)
      (s.invoked 0))
    (moved : StarterMove connectSet s 0 action next)
    (other : ∀ closure, action ≠ .connect (.ok closure))
    (first : action = .lock → s.mu = none → s.stopped = false → StartsFirst labels) :
    Custody labels (next.starters 0) next.stopFunc next.stopped (next.ready == .closed)
      (next.invoked 0) := by
  -- The fields become variables, so that the phase alone selects the case of the custody.
  generalize stored : s.stopFunc = stopFunc at custody
  generalize flag : s.stopped = stopped at custody
  generalize announced : (s.ready == .closed) = shown at custody
  generalize counted : s.invoked 0 = count at custody
  cases moved with
  | enter phase set =>
    simp only [LifecycleState.setStarter, update_self, initReady_frame, initReady_closed, stored,
      flag, announced, counted]
    rw [phase] at custody
    cases custody with
    | idle fresh => exact .connecting fresh
  | unset phase missing =>
    simp only [LifecycleState.setStarter, update_self, initReady_frame, initReady_closed, stored,
      flag, announced, counted]
    rw [phase] at custody
    cases custody with
    | idle fresh => exact .failed fresh
  | connectFails phase =>
    simp only [LifecycleState.setStarter, update_self, stored, flag, announced, counted]
    rw [phase] at custody
    cases custody with
    | connecting fresh => exact .failed fresh
  | connects phase => exact absurd rfl (other _)
  | lock phase free =>
    simp only [LifecycleState.setStarter, update_self, stored, flag, announced, counted]
    rw [phase] at custody
    cases custody with
    | connected made => exact .locked made fun live => first rfl free (flag.trans live)
  | spurn phase late =>
    simp only [LifecycleState.setStarter, update_self, stored, flag, announced, counted]
    rw [phase] at custody
    cases custody with
    | locked made first =>
      obtain rfl : stopped = true := flag.symm.trans late
      exact .spurned made
  | store phase live =>
    simp only [LifecycleState.setStarter, update_self, flag, announced, counted]
    rw [phase] at custody
    cases custody with
    | locked made first =>
      obtain rfl : stopped = false := flag.symm.trans live
      exact .stored made (first rfl)
  | skip phase =>
    rw [phase] at custody
    cases custody
  | clean phase =>
    rw [phase] at custody
    cases custody with
    | spurned made =>
      simp only [LifecycleState.invoke, LifecycleState.setStarter, update_self, stored, flag,
        announced, counted]
      exact .cleaning made
  | cleaned phase =>
    simp only [LifecycleState.setStarter, update_self, stored, flag, announced, counted]
    rw [phase] at custody
    cases custody with
    | cleaning made => exact .cleaned made
  | panic phase closed =>
    -- The one `Start` cannot find the channel closed.
    rw [phase] at custody
    cases custody with
    | stored made first => simp [closed] at announced
  | announce phase waiting =>
    simp only [LifecycleState.setStarter, update_self, stored, flag, counted]
    rw [phase] at custody
    cases custody with
    | stored made first => exact .blocked made first
  | finish phase done =>
    simp only [LifecycleState.setStarter, update_self, stored, flag, announced, counted]
    rw [phase] at custody
    cases custody with
    | blocked made first => exact .served made first

/-- A step of the one `Start` keeps what holds on the lifecycle. -/
theorem lifecycleInvariant_starter {connectSet : Bool} {labels : List LifecycleLabel}
    {s next : LifecycleState} {action : StarterAction}
    (moved : StarterMove connectSet s 0 action next) (closure : action ≠ .connect (.ok false))
    (guarded : Guards s.mu s.inside) (holds : LifecycleInvariant labels s) :
    LifecycleInvariant (labels ++ [.start 0 action]) next := by
  have alone : ∀ k, k ≠ 0 → next.starters k = .idle :=
    fun k other => (moved.others other).trans (holds.alone k other)
  obtain ⟨stoppers, flag⟩ := moved.frame
  refine ⟨alone, ?_, ?_⟩
  · by_cases made : action = .connect (.ok true)
    · subst made
      cases moved with
      | connects phase =>
        have custody := holds.custody
        rw [phase] at custody
        simpa [LifecycleState.setStarter] using custody.connect
    · have grown := holds.custody.extend (.start 0 action) (by simpa using made)
      refine grown.starter moved ?_ ?_
      · intro other same
        cases other with
        | false => exact closure same
        | true => exact made same
      · -- A free mutex with a clear flag means that no `Stop` was inside yet.
        rintro rfl free live
        refine ⟨labels, [], rfl, ?_⟩
        intro k entered
        have set := holds.stops.stopped_of_entered guarded (by simp [free]) entered
        simp [live] at set
  · rw [stoppers, flag]
    exact holds.stops.extend (by simp)

/-- A step of a `Stop` releases the stored resource when it sets the flag, and only then. -/
theorem Custody.stopper {labels : List LifecycleLabel} {s next : LifecycleState} {k : Nat}
    {action : StopperAction}
    (custody : Custody labels (s.starters 0) s.stopFunc s.stopped (s.ready == .closed)
      (s.invoked 0)) (moved : StopperMove s k action next) :
    Custody labels (next.starters 0) next.stopFunc next.stopped (next.ready == .closed)
      (next.invoked 0) := by
  -- Only the two decisions of a first `Stop` touch the flag or the count.
  cases moved with
  | bare phase live empty =>
    rw [live] at custody
    have stopped := custody.stop
    rw [empty] at stopped
    simpa [LifecycleState.setStopper, empty] using stopped
  | @release stop phase live stored =>
    rw [live] at custody
    have stopped := custody.stop
    rw [stored] at custody stopped
    obtain rfl : stop = 0 := custody.closure
    simpa [LifecycleState.setStopper, LifecycleState.invoke, stored] using stopped
  | _ phase => exact custody

/-- A `Stop` leaves the flag set once it is set. -/
theorem StopperMove.stopped {s next : LifecycleState} {k : Nat} {action : StopperAction}
    (moved : StopperMove s k action next) (set : s.stopped = true) : next.stopped = true := by
  -- No move clears the flag.
  cases moved with
  | bare phase live empty => rfl
  | release phase live stored => rfl
  | _ phase => exact set

/-- A `Stop` that has dealt with the flag leaves it set. -/
theorem StopperMove.decided {s next : LifecycleState} {k : Nat} {action : StopperAction}
    (moved : StopperMove s k action next)
    (holds : ∀ j, (s.stoppers j).decided = true → s.stopped = true) (j : Nat)
    (decided : (next.stoppers j).decided = true) : next.stopped = true := by
  by_cases same : j = k
  · subst same
    -- Whoever has dealt with the flag found it set or set it.
    cases moved with
    | call phase | lock phase => simp [LifecycleState.setStopper, StopperPhase.decided] at decided
    | again phase late => exact late
    | bare phase | release phase => rfl
    | released phase | unlock phase => exact holds j (by simp [phase, StopperPhase.decided])
  · rw [moved.others same] at decided
    exact moved.stopped (holds j decided)

/-- A step of a `Stop` is told by the history. -/
theorem StopHistory.stopper {labels : List LifecycleLabel} {s next : LifecycleState} {k : Nat}
    {action : StopperAction} (holds : StopHistory labels s.stoppers s.stopped)
    (moved : StopperMove s k action next) :
    StopHistory (labels ++ [.stop k action]) next.stoppers next.stopped := by
  have before : ∀ j, s.stoppers j ≠ .idle →
      LifecycleLabel.stop j .call ∈ labels ++ [.stop k action] :=
    fun j busy => List.mem_append_left _ (holds.called j busy)
  refine ⟨?_, ?_, ?_, ?_⟩
  · exact moved.decided holds.decided
  · intro j entered
    cases moved with
    | lock phase free => exact .inr ⟨k, update_self s.stoppers k _⟩
    | again phase late => exact .inl late
    | bare phase live empty => exact .inl rfl
    | release phase live stored => exact .inl rfl
    | _ phase =>
      rcases holds.entered j (by simpa using entered) with set | ⟨i, locked⟩
      · exact .inl set
      · -- The `Stop` that is about to decide is not the one that moved.
        have other : i ≠ k := by
          rintro rfl
          simp [phase] at locked
        exact .inr ⟨i, (update_other s.stoppers _ other).trans locked⟩
  · intro j busy
    by_cases same : j = k
    · subst same
      cases moved with
      | call phase => simp
      | _ phase => exact before j (by simp [phase])
    · rw [moved.others same] at busy
      exact before j busy
  · intro set
    cases moved with
    | bare phase live empty => exact ⟨k, before k (by simp [phase])⟩
    | release phase live stored => exact ⟨k, before k (by simp [phase])⟩
    | _ phase =>
      obtain ⟨j, called⟩ := holds.caused set
      exact ⟨j, List.mem_append_left _ called⟩

/-- A step of a `Stop` keeps what holds on the lifecycle. -/
theorem lifecycleInvariant_stopper {labels : List LifecycleLabel} {s next : LifecycleState}
    {k : Nat} {action : StopperAction} (moved : StopperMove s k action next)
    (holds : LifecycleInvariant labels s) :
    LifecycleInvariant (labels ++ [.stop k action]) next := by
  -- A `Stop` moves no call of `Start`, so only the custody and the history need work.
  obtain ⟨starters, -⟩ := moved.frame
  refine ⟨?_, (holds.custody.extend _ (by simp)).stopper moved, holds.stops.stopper moved⟩
  rw [starters]
  exact holds.alone

/-- A step that belongs to no call keeps what holds on the lifecycle. -/
theorem LifecycleInvariant.quiet {labels : List LifecycleLabel} {s next : LifecycleState}
    {label : LifecycleLabel} (holds : LifecycleInvariant labels s)
    (noStart : label ≠ .start 0 (.connect (.ok true))) (noLock : ∀ k, label ≠ .stop k .lock)
    (starters : next.starters = s.starters) (stoppers : next.stoppers = s.stoppers)
    (stopFunc : next.stopFunc = s.stopFunc) (flag : next.stopped = s.stopped)
    (ready : (next.ready == .closed) = (s.ready == .closed)) (invoked : next.invoked = s.invoked) :
    LifecycleInvariant (labels ++ [label]) next := by
  -- Every field that the invariant reads is unchanged, and only the history grows.
  refine ⟨?_, ?_, ?_⟩
  · rw [starters]
    exact holds.alone
  · rw [starters, stopFunc, flag, ready, invoked]
    exact holds.custody.extend label noStart
  · rw [stoppers, flag]
    exact holds.stops.extend noLock

/-- Everything holds in every state that a run with one `Start` reaches. -/
theorem lifecycleInvariant_run {connectSet : Bool} {labels : List LifecycleLabel}
    {s : LifecycleState}
    (reached : (lifecycleMachine connectSet).run newLifecycle labels = some s)
    (single : ∀ k action, LifecycleLabel.start k action ∈ labels →
      k = 0 ∧ action ≠ .connect (.ok false)) : LifecycleInvariant labels s := by
  -- The restriction to one `Start` is on the labels, so it is part of the relation.
  refine (lifecycleMachine connectSet).run_history
    (fun labels s => (∀ k action, LifecycleLabel.start k action ∈ labels →
      k = 0 ∧ action ≠ .connect (.ok false)) → LifecycleInvariant labels s)
    ?_ ?_ labels s reached single
  · intro _
    refine ⟨fun _ _ => rfl, .idle (by simp [Connected]), ?_, ?_, ?_, ?_⟩ <;>
      simp [newLifecycle, StopperPhase.decided]
  · intro labels s label next prior before taken single
    have holds := before fun k action member => single k action (List.mem_append_left _ member)
    cases label with
    | start k action =>
      obtain ⟨rfl, closure⟩ := single k action (by simp)
      exact lifecycleInvariant_starter (starterStep_move taken) closure (guards_run prior) holds
    | stop k action => exact lifecycleInvariant_stopper (stopperStep_move taken) holds
    | cancel k cause =>
      cases taken
      exact holds.quiet (by simp) (by simp) rfl rfl rfl rfl rfl rfl
    | ready =>
      cases taken
      obtain ⟨-, stopFunc, flag, starters, stoppers, invoked⟩ := initReady_frame s
      exact holds.quiet (by simp) (by simp) starters stoppers stopFunc flag (initReady_closed s)
        invoked

/--
One `Start` and any number of `Stop`s release the connected resource exactly once.

The closure of the one `Start` is named zero.
-/
theorem lifecycle_releases_once (connectSet : Bool) (labels : List LifecycleLabel)
    (s : LifecycleState) (reached : (lifecycleMachine connectSet).run newLifecycle labels = some s)
    (single : ∀ k action, LifecycleLabel.start k action ∈ labels →
      k = 0 ∧ action ≠ .connect (.ok false)) :
    -- The closure is invoked at most once.
    s.invoked 0 ≤ 1 ∧
    -- It has been invoked once both sides are through.
    (Connected labels → (s.starters 0).through = true →
      (∃ k err, s.stoppers k = .returned err) → s.invoked 0 = 1) ∧
    -- It is never invoked without a `Stop` or without a resource.
    ((∀ k, LifecycleLabel.stop k .call ∉ labels) → s.invoked 0 = 0) ∧
    (¬ Connected labels → s.invoked 0 = 0) ∧
    -- Readiness is announced only for a resource that was stored before any `Stop`.
    (s.ready = .closed → Connected labels ∧ StartsFirst labels) := by
  -- Each part is one fact about the custody, read at the flag that the part determines.
  have holds := lifecycleInvariant_run reached single
  have custody := holds.custody
  refine ⟨custody.once, ?_, ?_, custody.fresh, ?_⟩
  · rintro made through ⟨k, err, returned⟩
    have set := holds.stops.decided k (by rw [returned]; rfl)
    rw [set] at custody
    exact custody.released made through
  · intro uncalled
    have clear : s.stopped = false := by
      by_contra set
      obtain ⟨k, called⟩ := holds.stops.caused (by simpa using set)
      exact uncalled k called
    rw [clear] at custody
    exact custody.kept
  · intro closed
    rw [closed] at custody
    exact custody.announced

/-- A `Stop` that comes while `Connect` is running leaves the release to `Start`. -/
theorem lifecycle_releases_once_overtaken : ∃ s, (lifecycleMachine true).run newLifecycle
    [.start 0 .enter, .stop 0 .call, .stop 0 .lock, .stop 0 .decide, .stop 0 .unlock,
      .start 0 (.connect (.ok true)), .start 0 .lock, .start 0 .decide, .start 0 .clean,
      .start 0 (.cleaned none)] = some s ∧ s.invoked 0 = 1 := by
  -- Running the schedule shows where both calls ended, and the law gives the count.
  obtain ⟨s, reached, returned, stopped⟩ := (lifecycleMachine true).run_observe newLifecycle
    [.start 0 .enter, .stop 0 .call, .stop 0 .lock, .stop 0 .decide, .stop 0 .unlock,
      .start 0 (.connect (.ok true)), .start 0 .lock, .start 0 .decide, .start 0 .clean,
      .start 0 (.cleaned none)]
    (fun s => s.starters 0 = .returned none ∧ s.stoppers 0 = .returned none) (by decide)
  have law := lifecycle_releases_once true _ s reached (by
    intro k action member
    simp only [List.mem_cons, LifecycleLabel.start.injEq, reduceCtorEq, List.not_mem_nil, false_or,
      or_false] at member
    rcases member with
      ⟨rfl, rfl⟩ | ⟨rfl, rfl⟩ | ⟨rfl, rfl⟩ | ⟨rfl, rfl⟩ | ⟨rfl, rfl⟩ | ⟨rfl, rfl⟩ <;> simp)
  exact ⟨s, reached, law.2.1 (by simp [Connected]) (by rw [returned]; rfl) ⟨0, none, stopped⟩⟩

end Bootkit

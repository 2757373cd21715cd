import Bootkit.Core.LifecycleLaws

/-! Who is inside the stored closure of a lifecycle, and since when it is over. -/

namespace Bootkit

open Go

/-- Which calls of `Stop` may be inside the stored closure. -/
structure Releases (labels : List LifecycleLabel) (s : LifecycleState) : Prop where
  source : ∀ j stop, s.stoppers j = .releasing stop → s.stopped = true ∧ s.stopFunc ≠ none
  -- While one `Stop` is inside the closure, no other has dealt with the flag.
  alone : ∀ i stop j, s.stoppers i = .releasing stop → (s.stoppers j).decided = true → j = i
  ended : s.stopped = true → s.stopFunc ≠ none →
    (∃ j stop, s.stoppers j = .releasing stop) ∨
      ∃ j err, LifecycleLabel.stop j (.released err) ∈ labels

/-- Once the flag is set, no `Start` replaces the stored closure. -/
theorem StarterMove.stopFunc {connectSet : Bool} {s next : LifecycleState} {k : Nat}
    {action : StarterAction} (moved : StarterMove connectSet s k action next)
    (set : s.stopped = true) : next.stopFunc = s.stopFunc := by
  -- A start stores its closure only while the flag is not set.
  cases moved with
  | store phase live => simp [live] at set
  | _ phase => simp [LifecycleState.setStarter, LifecycleState.invoke]

/-- What is known about the closure stays known as the history grows. -/
theorem Releases.frame {labels : List LifecycleLabel} {s next : LifecycleState}
    (holds : Releases labels s) (label : LifecycleLabel) (stoppers : next.stoppers = s.stoppers)
    (flag : next.stopped = s.stopped)
    (stopFunc : s.stopped = true → next.stopFunc = s.stopFunc) :
    Releases (labels ++ [label]) next := by
  -- The stops are where they were, and after the flag was set the closure stays.
  constructor
  · rw [stoppers, flag]
    intro j stop releasing
    obtain ⟨set, found⟩ := holds.source j stop releasing
    exact ⟨set, by rw [stopFunc set]; exact found⟩
  · rw [stoppers]
    exact holds.alone
  · rw [stoppers, flag]
    intro set found
    rw [stopFunc set] at found
    exact (holds.ended set found).imp_right fun ⟨j, err, member⟩ =>
      ⟨j, err, List.mem_append_left _ member⟩

/-- When nobody is inside the closure, somebody has come back from it or nobody was to call it. -/
theorem Releases.nobody {labels : List LifecycleLabel} {s : LifecycleState}
    (outside : ∀ i stop, s.stoppers i ≠ .releasing stop)
    (ended : s.stopped = true → s.stopFunc ≠ none →
      ∃ j err, LifecycleLabel.stop j (.released err) ∈ labels) : Releases labels s :=
  ⟨fun j stop releasing => absurd releasing (outside j stop),
    fun i stop _ releasing => absurd releasing (outside i stop),
    fun set found => .inr (ended set found)⟩

/-- A `Stop` that is not inside the closure before or after a step does not change who is. -/
theorem StopperMove.releasing_iff {s next : LifecycleState} {k : Nat} {action : StopperAction}
    (moved : StopperMove s k action next) (before : ∀ stop, s.stoppers k ≠ .releasing stop)
    (after : ∀ stop, next.stoppers k ≠ .releasing stop) (j stop : Nat) :
    next.stoppers j = .releasing stop ↔ s.stoppers j = .releasing stop := by
  -- The stop that moves releases on neither side, and the others do not move.
  by_cases own : j = k
  · subst own
    exact ⟨fun releasing => absurd releasing (after stop),
      fun releasing => absurd releasing (before stop)⟩
  · rw [moved.others own]

/-- A `Stop` that has not dealt with the flag is not inside the closure. -/
theorem StopperPhase.outside {phase : StopperPhase} (undecided : phase.decided = false)
    (stop : Nat) : phase ≠ .releasing stop := by
  rintro rfl
  cases undecided

/-- A `Stop` that holds the mutex keeps every other one out of the closure. -/
theorem releasing_alone {s : LifecycleState} (guarded : Guards s.mu s.inside) {k : Nat}
    (inside : (s.stoppers k).holds = true) {i stop : Nat}
    (releasing : s.stoppers i = .releasing stop) : i = k := by
  -- A call inside the closure holds the mutex, and there is one holder.
  have mine := (guarded (.stop k)).mp inside
  have theirs := (guarded (.stop i)).mp (by
    simp [LifecycleState.inside, releasing, StopperPhase.holds])
  simpa [mine] using theirs.symm

/-- The moves that lead to the critical section pass the closure by. -/
theorem Releases.passing {labels : List LifecycleLabel} {s next : LifecycleState} {k : Nat}
    {action : StopperAction} (holds : Releases labels s) (moved : StopperMove s k action next)
    (flag : next.stopped = s.stopped) (before : (s.stoppers k).decided = false)
    (after : (next.stoppers k).decided = false) :
    Releases (labels ++ [.stop k action]) next := by
  -- Nobody enters or leaves the closure, and the call that moves has not dealt with the flag.
  have same := moved.releasing_iff (StopperPhase.outside before) (StopperPhase.outside after)
  constructor
  · rw [flag, moved.frame.2.2]
    exact fun j stop releasing => holds.source j stop ((same j stop).mp releasing)
  · intro i stop j releasing decided
    have other : j ≠ k := by
      rintro rfl
      simp [after] at decided
    rw [moved.others other] at decided
    exact holds.alone i stop j ((same i stop).mp releasing) decided
  · rw [flag, moved.frame.2.2]
    intro set found
    rcases holds.ended set found with ⟨j, stop, releasing⟩ | ⟨j, err, member⟩
    · exact .inl ⟨j, stop, (same j stop).mpr releasing⟩
    · exact .inr ⟨j, err, List.mem_append_left _ member⟩

/-- The `Stop` that sets the flag is the only one that has dealt with it. -/
theorem Releases.enter {labels : List LifecycleLabel} {s : LifecycleState} {k stop : Nat}
    (stops : StopHistory labels s.stoppers s.stopped) (live : s.stopped = false)
    (stored : s.stopFunc = some stop) :
    Releases (labels ++ [.stop k .decide])
      { (s.setStopper k (.releasing stop)).invoke stop with stopped := true } := by
  -- Whoever had dealt with the flag before would have set it.
  have own : ∀ j, (update s.stoppers k (.releasing stop) j).decided = true → j = k := by
    intro j decided
    by_contra other
    rw [update_other s.stoppers _ other] at decided
    have set := stops.decided j decided
    simp [live] at set
  constructor
  · intro j stop _
    exact ⟨rfl, by simp [LifecycleState.invoke, LifecycleState.setStopper, stored]⟩
  · intro i stop j releasing decided
    rw [own j decided, own i (by rw [show update s.stoppers k _ i = _ from releasing]; rfl)]
  · intro _ _
    exact .inl ⟨k, _, update_self s.stoppers k _⟩

/-- A `Stop` is inside the closure alone. -/
theorem releases_stopper {labels : List LifecycleLabel} {s next : LifecycleState} {k : Nat}
    {action : StopperAction} (moved : StopperMove s k action next)
    (guarded : Guards s.mu s.inside) (stops : StopHistory labels s.stoppers s.stopped)
    (holds : Releases labels s) : Releases (labels ++ [.stop k action]) next := by
  -- The moves that come from inside, and do not enter the closure, leave it empty.
  have emptied : (s.stoppers k).holds = true → (∀ stop, next.stoppers k ≠ .releasing stop) →
      ∀ i stop, next.stoppers i ≠ .releasing stop := by
    intro inside left i stop releasing
    by_cases same : i = k
    · subst same
      exact left stop releasing
    · rw [moved.others same] at releasing
      exact same (releasing_alone guarded inside releasing)
  -- From inside, but not inside the closure, a set flag means that somebody has come back from it.
  have returned : (s.stoppers k).holds = true → (∀ stop, s.stoppers k ≠ .releasing stop) →
      s.stopped = true → s.stopFunc ≠ none →
      ∃ j err, LifecycleLabel.stop j (.released err) ∈ labels ++ [.stop k action] := by
    intro inside outside set found
    rcases holds.ended set found with ⟨i, stop, releasing⟩ | ⟨j, err, member⟩
    · obtain rfl := releasing_alone guarded inside releasing
      exact absurd releasing (outside stop)
    · exact ⟨j, err, List.mem_append_left _ member⟩
  cases moved with
  | call phase =>
    exact holds.passing (.call phase) rfl (by simp [phase, StopperPhase.decided])
      (by simp [LifecycleState.setStopper, StopperPhase.decided])
  | lock phase free =>
    exact holds.passing (.lock phase free) rfl (by simp [phase, StopperPhase.decided])
      (by simp [LifecycleState.setStopper, StopperPhase.decided])
  | again phase late =>
    exact .nobody (emptied (by rw [phase]; rfl) (by simp [LifecycleState.setStopper]))
      (returned (by rw [phase]; rfl) (by simp [phase]))
  | bare phase live empty =>
    refine .nobody (emptied (by rw [phase]; rfl) (by simp [LifecycleState.setStopper])) ?_
    intro _ found
    exact absurd empty found
  | release phase live stored => exact .enter stops live stored
  | @released stop err phase =>
    refine .nobody (emptied (by rw [phase]; rfl) (by simp [LifecycleState.setStopper])) ?_
    intro _ _
    exact ⟨k, err, by simp⟩
  | unlock phase =>
    exact .nobody (emptied (by rw [phase]; rfl) (by simp [LifecycleState.setStopper]))
      (returned (by rw [phase]; rfl) (by simp [phase]))

/-- Everything about the closure holds in every state that a run with one `Start` reaches. -/
theorem releases_run {labels : List LifecycleLabel} {s : LifecycleState}
    (reached : (lifecycleMachine true).run newLifecycle labels = some s)
    (single : ∀ k action, LifecycleLabel.start k action ∈ labels →
      k = 0 ∧ action ≠ .connect (.ok false)) : Releases labels s := by
  refine (lifecycleMachine true).run_history
    (fun labels s => (∀ k action, LifecycleLabel.start k action ∈ labels →
      k = 0 ∧ action ≠ .connect (.ok false)) → Releases labels s) ?_ ?_ labels s reached single
  · intro _
    exact .nobody (by simp [newLifecycle]) (by simp [newLifecycle])
  · intro labels s label next prior before taken single
    have earlier : ∀ k action, LifecycleLabel.start k action ∈ labels →
        k = 0 ∧ action ≠ .connect (.ok false) :=
      fun k action member => single k action (List.mem_append_left _ member)
    have holds := before earlier
    -- Starts change no stop, and the stops were considered on their own.
    cases label with
    | start k action =>
      have moved : StarterMove true s k action next := starterStep_move taken
      exact holds.frame _ moved.frame.1 moved.frame.2 moved.stopFunc
    | stop k action =>
      exact releases_stopper (stopperStep_move taken) (guards_run prior)
        (lifecycleInvariant_run prior earlier).stops holds
    | cancel k cause =>
      cases taken
      exact holds.frame _ rfl rfl fun _ => rfl
    | ready =>
      cases taken
      obtain ⟨-, stopFunc, flag, -, stoppers, -⟩ := initReady_frame s
      exact holds.frame _ stoppers flag fun _ => stopFunc

/-- Until `Start` has dealt with the flag, nothing is stored and nothing was released. -/
theorem Custody.untouched {labels : List LifecycleLabel} {phase : StarterPhase}
    {stopFunc : Option Nat} {stopped shown : Bool} {count : Nat}
    (custody : Custody labels phase stopFunc stopped shown count)
    (early : phase.through = false) (outside : ∀ stop, phase ≠ .cleaning stop) :
    stopFunc = none ∧ count = 0 := by
  -- Before the store the closure is in the hands of the start.
  cases custody with
  | cleaning made => exact absurd rfl (outside 0)
  | failed | cleaned | stored | blocked | served => simp [StarterPhase.through] at early
  | _ => exact ⟨rfl, rfl⟩

/-- While `Start` cleans up itself, no closure is stored. -/
theorem Custody.cleans {labels : List LifecycleLabel} {stop : Nat} {stopFunc : Option Nat}
    {stopped shown : Bool} {count : Nat}
    (custody : Custody labels (.cleaning stop) stopFunc stopped shown count) :
    stopFunc = none ∧ count = 1 := by
  -- The cleanup runs the closure that was never stored.
  cases custody
  exact ⟨rfl, rfl⟩

/-- A `Start` that was turned away has a closure to call. -/
theorem Custody.unskipped {labels : List LifecycleLabel} {stopFunc : Option Nat}
    {stopped shown : Bool} {count : Nat}
    (custody : Custody labels (.spurned none) stopFunc stopped shown count) : False := by
  cases custody

/-- A `Start` that blocks has stored its closure. -/
theorem Custody.stores {labels : List LifecycleLabel} {stopFunc : Option Nat}
    {stopped shown : Bool} {count : Nat}
    (custody : Custody labels .blocked stopFunc stopped shown count) : stopFunc ≠ none := by
  -- A start that waits has stored its closure.
  cases custody
  simp

/-- A stored closure has been invoked once the flag is set, and `Start` is out of `Connect`. -/
theorem Custody.invoked {labels : List LifecycleLabel} {phase : StarterPhase}
    {stopFunc : Option Nat} {shown : Bool} {count : Nat}
    (custody : Custody labels phase stopFunc true shown count) (found : stopFunc ≠ none) :
    count = 1 ∧ phase ≠ .connecting ∧ ∀ stop, phase ≠ .cleaning stop := by
  -- The flag is set and there is a closure, so that the stop has run it.
  cases custody with
  | stored | blocked | served => exact ⟨rfl, nofun, fun _ => nofun⟩
  | _ => exact absurd rfl found

end Bootkit

import Bootkit.Core.LifecycleLaws

/-! Several calls of `Start` on one lifecycle, each issued after the one before has returned. -/

namespace Bootkit

open Go

/-- Whether a call of `Start` has returned. -/
def StarterPhase.isReturned : StarterPhase → Bool
  | .returned _ => true
  | _ => false

/-- Calls of `Start` are numbered as they are issued, each after the one before has returned. -/
def sequential (s : LifecycleState) : LifecycleLabel → Bool
  | .start (k + 1) .enter => (s.starters k).isReturned
  | _ => true

/-- A `Start` that has connected finds readiness never announced, or the lifecycle stopped. -/
def announcesOnce (s : LifecycleState) : LifecycleLabel → Bool
  | .start _ .decide => s.stopped || s.ready != .closed
  | _ => true

/-- A call of `Start` acquired a resource with a closure to release it. -/
def Acquired (labels : List LifecycleLabel) (k : Nat) : Prop :=
  LifecycleLabel.start k (.connect (.ok true)) ∈ labels

/-- The closure that is in the hands of a `Start`, before it is stored or called. -/
def StarterPhase.held : StarterPhase → Option Nat
  | .connected stop | .locked stop | .spurned stop => stop
  | _ => none

/-- Whether a call of `Start` has not come back from `Connect`. -/
def StarterPhase.early : StarterPhase → Bool
  | .idle | .connecting => true
  | _ => false

/-- Every `Start` before one that was issued has returned. -/
def InSequence (s : LifecycleState) : Prop :=
  ∀ k, s.starters (k + 1) ≠ .idle → (s.starters k).isReturned = true

/-- All earlier calls of `Start` have returned, not only the last one. -/
theorem InSequence.returned {s : LifecycleState} (holds : InSequence s) {j k : Nat}
    (before : j < k) (issued : s.starters k ≠ .idle) : (s.starters j).isReturned = true := by
  -- Going down from the issued call, each returned call was itself issued.
  induction k with
  | zero => omega
  | succ k ih =>
    have last := holds k issued
    by_cases same : j = k
    · subst same
      exact last
    · refine ih (by omega) ?_
      intro idle
      rw [idle] at last
      cases last

/-- A `Start` that has not returned is the only one under way. -/
theorem InSequence.alone {s : LifecycleState} (holds : InSequence s) {j k : Nat}
    (issued : s.starters j ≠ .idle) (busy : (s.starters j).isReturned = false)
    (others : s.starters k ≠ .idle) (active : (s.starters k).isReturned = false) : j = k := by
  -- Of two starts the earlier one has returned before the later one was issued.
  rcases Nat.lt_trichotomy j k with before | same | after
  · rw [holds.returned before others] at busy
    cases busy
  · exact same
  · rw [holds.returned after issued] at active
    cases active

/-- A call of `Start` that has returned makes no step. -/
theorem StarterMove.busy {connectSet : Bool} {s next : LifecycleState} {k : Nat}
    {action : StarterAction} (moved : StarterMove connectSet s k action next) :
    (s.starters k).isReturned = false := by
  cases moved <;> simp_all [StarterPhase.isReturned]

/-- A call of `Start` that has made a step has been issued. -/
theorem StarterMove.issued {connectSet : Bool} {s next : LifecycleState} {k : Nat}
    {action : StarterAction} (moved : StarterMove connectSet s k action next) :
    next.starters k ≠ .idle ∧ (action ≠ .enter → s.starters k ≠ .idle) := by
  cases moved <;> simp_all [LifecycleState.setStarter, LifecycleState.invoke]

/-- Sequential calls stay in sequence. -/
theorem inSequence_starter {connectSet : Bool} {s next : LifecycleState} {k : Nat}
    {action : StarterAction} (moved : StarterMove connectSet s k action next)
    (ordered : sequential s (.start k action) = true) (holds : InSequence s) :
    InSequence next := by
  intro j issued
  -- The call before one that was issued has returned, so it is not the one that moves.
  have before : (s.starters j).isReturned = true := by
    by_cases same : j + 1 = k
    · subst same
      by_cases enters : action = .enter
      · subst enters
        exact ordered
      · exact holds j (moved.issued.2 enters)
    · rw [moved.others same] at issued
      exact holds j issued
  by_cases same : j = k
  · subst same
    rw [moved.busy] at before
    cases before
  · rwa [moved.others same]

/-- Where the resource of one `Start` is, among those of several. -/
structure Handled (labels : List LifecycleLabel) (s : LifecycleState) (k : Nat) : Prop where
  own : ∀ stop, (s.starters k).held = some stop → stop = k ∧ Acquired labels k
  early : (s.starters k).early = true → ¬ Acquired labels k
  -- Nothing was acquired, or it is still in the hands of its `Start`.
  unreleased : ¬ Acquired labels k ∨ (s.starters k).held = some k →
    s.invoked k = 0 ∧ s.stopFunc ≠ some k
  -- Afterwards the closure is stored, or it has been called by its `Start`.
  kept : Acquired labels k → (s.starters k).held = none → s.stopFunc = some k ∨ s.invoked k = 1
  -- A stored closure is called together with setting the flag.
  stored : s.stopFunc = some k → s.invoked k = s.stopped.toNat
  -- A closure is stored only until, or after, its `Start` announces readiness.
  announced : s.stopFunc = some k → s.ready = .closed ∨ s.starters k = .stored
  waiting : s.starters k = .stored → s.ready ≠ .closed
  alive : s.starters k ≠ .panicked

/-- No resource is released twice. -/
theorem Handled.once {labels : List LifecycleLabel} {s : LifecycleState} {k : Nat}
    (holds : Handled labels s k) : s.invoked k ≤ 1 := by
  -- A closure is in the hand of its start, in the slot, or has been run.
  by_cases acquired : Acquired labels k
  · cases hand : (s.starters k).held with
    | some stop =>
      obtain ⟨rfl, -⟩ := holds.own stop hand
      have none := (holds.unreleased (.inr hand)).1
      omega
    | none =>
      rcases holds.kept acquired hand with stored | once
      · rw [holds.stored stored]
        exact Bool.toNat_le _
      · omega
  · have none := (holds.unreleased (.inl acquired)).1
    omega

/-- Only its own `Connect` acquires a resource. -/
theorem acquired_concat {labels : List LifecycleLabel} {k : Nat} {label : LifecycleLabel}
    (other : label ≠ .start k (.connect (.ok true))) :
    Acquired (labels ++ [label]) k ↔ Acquired labels k := by
  simp [Acquired, other.symm]

/-- A `Start` that changes its phase and keeps what is in its hands leaves the resource there. -/
theorem Handled.carry {labels : List LifecycleLabel} {s next : LifecycleState} {k : Nat}
    (holds : Handled labels s k) {label : LifecycleLabel}
    (other : label ≠ .start k (.connect (.ok true)))
    (hand : (next.starters k).held = (s.starters k).held)
    (early : (next.starters k).early = true → (s.starters k).early = true)
    (storing : next.starters k = .stored ↔ s.starters k = .stored)
    (alive : next.starters k ≠ .panicked) (invoked : next.invoked k = s.invoked k)
    (stopFunc : next.stopFunc = s.stopFunc) (flag : next.stopped = s.stopped)
    (ready : next.ready = .closed ↔ s.ready = .closed) :
    Handled (labels ++ [label]) next k := by
  -- The label adds no acquisition, and each field is read off what is the same.
  have same : Acquired (labels ++ [label]) k ↔ Acquired labels k := acquired_concat other
  refine ⟨?_, ?_, ?_, ?_, ?_, ?_, ?_, alive⟩
  · rw [hand, same]
    exact holds.own
  · rw [same]
    exact fun young => holds.early (early young)
  · rw [hand, same, invoked, stopFunc]
    exact holds.unreleased
  · rw [hand, same, invoked, stopFunc]
    exact holds.kept
  · rw [stopFunc, invoked, flag]
    exact holds.stored
  · rw [stopFunc, ready, storing]
    exact holds.announced
  · rw [storing, Ne, ready]
    exact holds.waiting

/-- A step that concerns neither the resource nor its `Start` changes nothing about it. -/
theorem Handled.frame {labels : List LifecycleLabel} {s next : LifecycleState} {k : Nat}
    (holds : Handled labels s k) {label : LifecycleLabel}
    (other : label ≠ .start k (.connect (.ok true)))
    (starter : next.starters k = s.starters k) (invoked : next.invoked k = s.invoked k)
    (stopFunc : next.stopFunc = s.stopFunc) (flag : next.stopped = s.stopped)
    (ready : next.ready = .closed ↔ s.ready = .closed) :
    Handled (labels ++ [label]) next k := by
  -- A start that did not move is a special case of one whose phase means the same.
  refine holds.carry other ?_ ?_ ?_ ?_ invoked stopFunc flag ready <;> rw [starter]
  · exact id
  · exact holds.alive

/-- A step that leaves a `Start` alone, but not the slot or the flag, has to account for both. -/
theorem Handled.rebuild {labels : List LifecycleLabel} {s next : LifecycleState} {k : Nat}
    (holds : Handled labels s k) {label : LifecycleLabel}
    (other : label ≠ .start k (.connect (.ok true)))
    (starter : next.starters k = s.starters k) (ready : next.ready = s.ready)
    (unreleased : ¬ Acquired labels k ∨ (s.starters k).held = some k →
      next.invoked k = 0 ∧ next.stopFunc ≠ some k)
    (kept : Acquired labels k → (s.starters k).held = none →
      next.stopFunc = some k ∨ next.invoked k = 1)
    (stored : next.stopFunc = some k →
      next.invoked k = next.stopped.toNat ∧ s.stopFunc = some k) :
    Handled (labels ++ [label]) next k := by
  -- The fields about the start are those from before; those about the slot are given.
  have same : Acquired (labels ++ [label]) k ↔ Acquired labels k := acquired_concat other
  refine ⟨?_, ?_, ?_, ?_, ?_, ?_, ?_, ?_⟩
  · rw [starter, same]
    exact holds.own
  · rw [starter, same]
    exact holds.early
  · rw [starter, same]
    exact unreleased
  · rw [starter, same]
    exact kept
  · exact fun slot => (stored slot).1
  · rw [starter, ready]
    exact fun slot => holds.announced (stored slot).2
  · rw [starter, ready]
    exact holds.waiting
  · rw [starter]
    exact holds.alive

/-- A `Stop` releases what is stored as it sets the flag, and nothing else. -/
theorem handled_stopper {labels : List LifecycleLabel} {s next : LifecycleState} {j k : Nat}
    {action : StopperAction} (moved : StopperMove s j action next) (holds : Handled labels s k) :
    Handled (labels ++ [.stop j action]) next k := by
  cases moved with
  | bare phase live empty =>
    refine holds.rebuild (by simp) rfl rfl holds.unreleased holds.kept ?_
    intro slot
    have slot : s.stopFunc = some k := slot
    simp [empty] at slot
  | @release stop phase live stored =>
    by_cases here : k = stop
    · -- The stored closure had not been called while the flag was clear.
      subst here
      have before := holds.stored stored
      rw [live] at before
      have once : update s.invoked k (s.invoked k + 1) k = 1 := by
        rw [update_self, before]
        rfl
      refine holds.rebuild (by simp) rfl rfl ?_ (fun _ _ => .inr once) fun _ => ⟨once, stored⟩
      intro free
      exact absurd stored (holds.unreleased free).2
    · have other : update s.invoked stop (s.invoked stop + 1) k = s.invoked k :=
        update_other _ _ here
      have elsewhere : s.stopFunc ≠ some k := by
        rw [stored]
        simpa using Ne.symm here
      refine holds.rebuild (by simp) rfl rfl ?_ ?_ fun slot => absurd slot elsewhere
      · exact fun free => ⟨other.trans (holds.unreleased free).1, elsewhere⟩
      · intro acquired hand
        exact (holds.kept acquired hand).imp id other.trans
  | _ phase => exact holds.frame (by simp) rfl rfl rfl rfl Iff.rfl

/-- While readiness was never announced, a `Start` about to store finds nothing stored. -/
theorem nothing_stored {labels : List LifecycleLabel} {s : LifecycleState} {j : Nat}
    {stop : Option Nat} (phase : s.starters j = .locked stop) (unannounced : s.ready ≠ .closed)
    (ordered : InSequence s) (holds : ∀ k, Handled labels s k) : s.stopFunc = none := by
  cases known : s.stopFunc with
  | none => rfl
  | some i =>
    rcases (holds i).announced known with closed | stored
    · exact absurd closed unannounced
    · -- The one who stored it would be under way together with this call.
      have same : i = j := ordered.alone (by simp [stored]) (by rw [stored]; rfl)
        (by simp [phase]) (by rw [phase]; rfl)
      subst same
      simp [phase] at stored

/-- A step of another `Start` leaves a resource where it is. -/
theorem handled_starter_other {connectSet : Bool} {labels : List LifecycleLabel}
    {s next : LifecycleState} {j k : Nat} {action : StarterAction}
    (moved : StarterMove connectSet s j action next)
    (once : announcesOnce s (.start j action) = true) (ordered : InSequence s)
    (holds : ∀ k, Handled labels s k) (other : k ≠ j) :
    Handled (labels ++ [.start j action]) next k := by
  have kept := holds k
  have unmoved : ∀ phase, update s.starters j phase k = s.starters k :=
    fun phase => update_other s.starters phase other
  have label : ∀ action, LifecycleLabel.start j action ≠ .start k (.connect (.ok true)) := by
    intro action same
    exact other (LifecycleLabel.start.inj same).1.symm
  cases moved with
  | enter phase set =>
    refine kept.frame (label _) ?_ ?_ ?_ ?_ ?_ <;>
      simp [LifecycleState.setStarter, other, initReady_closed_iff]
  | unset phase missing =>
    refine kept.frame (label _) ?_ ?_ ?_ ?_ ?_ <;>
      simp [LifecycleState.setStarter, other, initReady_closed_iff]
  | @store stop phase live =>
    have unannounced : s.ready ≠ .closed := by
      simpa [announcesOnce, live] using once
    have empty := nothing_stored phase unannounced ordered holds
    have foreign : stop ≠ some k := by
      rintro rfl
      exact other ((holds j).own k (by rw [phase]; rfl)).1
    refine kept.rebuild (label _) (unmoved _) rfl ?_ ?_ fun slot => absurd slot foreign
    · exact fun free => ⟨(kept.unreleased free).1, foreign⟩
    · intro acquired hand
      exact .inr ((kept.kept acquired hand).resolve_left (by simp [empty]))
  | @clean stop phase =>
    obtain rfl : stop = j := ((holds j).own stop (by rw [phase]; rfl)).1
    exact kept.frame (label _) (unmoved _) (update_other _ _ other) rfl rfl Iff.rfl
  | announce phase waiting =>
    have same : Acquired (labels ++ [.start j .announce]) k ↔ Acquired labels k :=
      acquired_concat (label .announce)
    refine ⟨?_, ?_, ?_, ?_, ?_, ?_, ?_, ?_⟩ <;>
      simp only [LifecycleState.setStarter, unmoved, same]
    · exact kept.own
    · exact kept.early
    · exact kept.unreleased
    · exact kept.kept
    · exact kept.stored
    · exact fun _ => .inl trivial
    · -- Two calls cannot both be about to announce.
      intro stored
      exact absurd (ordered.alone (by simp [stored]) (by rw [stored]; rfl)
        (by simp [phase]) (by rw [phase]; rfl)) other
    · exact kept.alive
  | _ phase => exact kept.frame (label _) (unmoved _) rfl rfl rfl Iff.rfl

/-- A `Start` whose `Connect` succeeded has the closure in its hands. -/
theorem Handled.acquire {labels : List LifecycleLabel} {s : LifecycleState} {k : Nat}
    (here : Handled labels s k) (phase : s.starters k = .connecting) :
    Handled (labels ++ [.start k (.connect (.ok true))])
      (s.setStarter k (.connected (some k))) k := by
  -- Before its `Connect` returned it had acquired nothing.
  obtain ⟨invoked, slot⟩ := here.unreleased (.inl (here.early (by rw [phase]; rfl)))
  refine ⟨?_, ?_, fun _ => ⟨invoked, slot⟩, ?_, fun stored => absurd stored slot,
    fun stored => absurd stored slot, ?_, ?_⟩ <;>
    simp [LifecycleState.setStarter, StarterPhase.held, StarterPhase.early, Acquired]

/-- A `Start` that stores its closure hands it from its hands to the slot, which is empty. -/
theorem Handled.store {labels : List LifecycleLabel} {s : LifecycleState} {k : Nat}
    {stop : Option Nat} (here : Handled labels s k) (phase : s.starters k = .locked stop)
    (live : s.stopped = false) (unannounced : s.ready ≠ .closed) (empty : s.stopFunc = none) :
    Handled (labels ++ [.start k .decide])
      { s.setStarter k .stored with mu := none, stopFunc := stop } k := by
  have phased : update s.starters k .stored k = .stored := update_self s.starters k _
  have same : Acquired (labels ++ [.start k .decide]) k ↔ Acquired labels k :=
    acquired_concat (by simp)
  have hand : (s.starters k).held = stop := by
    rw [phase]
    rfl
  have unused : stop = some k → s.invoked k = 0 :=
    fun mine => (here.unreleased (.inr (hand.trans mine))).1
  refine ⟨?_, ?_, ?_, ?_, ?_, ?_, ?_, ?_⟩ <;>
    simp only [LifecycleState.setStarter, phased, same]
  · intro held none
    cases none
  · intro young
    cases young
  · rintro (unacquired | held)
    · refine ⟨(here.unreleased (.inl unacquired)).1, ?_⟩
      intro mine
      exact unacquired (here.own k (hand.trans mine)).2
    · cases held
  · -- What these hands had is in the slot now, and otherwise it was released before.
    intro acquired _
    cases stop with
    | some mine =>
      obtain ⟨rfl, -⟩ := here.own mine hand
      exact .inl rfl
    | none => exact .inr ((here.kept acquired hand).resolve_left (by simp [empty]))
  · intro mine
    rw [live]
    exact unused mine
  · exact fun _ => .inr trivial
  · exact fun _ => unannounced
  · simp

/-- A `Start` that is handed its closure back calls it, for the first and only time. -/
theorem Handled.clean {labels : List LifecycleLabel} {s : LifecycleState} {k stop : Nat}
    (here : Handled labels s k) (phase : s.starters k = .spurned (some stop)) :
    Handled (labels ++ [.start k .clean]) ((s.setStarter k (.cleaning stop)).invoke stop) k := by
  have hand : (s.starters k).held = some stop := by
    rw [phase]
    rfl
  -- The closure in these hands is this call's own.
  obtain ⟨rfl, acquired⟩ := here.own stop hand
  obtain ⟨invoked, slot⟩ := here.unreleased (.inr hand)
  have same : Acquired (labels ++ [.start stop .clean]) stop ↔ Acquired labels stop :=
    acquired_concat (by simp)
  have called : update s.invoked stop (s.invoked stop + 1) stop = 1 := by
    rw [update_self, invoked]
  refine ⟨?_, ?_, ?_, fun _ _ => .inr called, fun stored => absurd stored slot,
    fun stored => absurd stored slot, ?_, ?_⟩ <;>
    simp [LifecycleState.setStarter, LifecycleState.invoke, StarterPhase.held,
      StarterPhase.early, same, acquired]

/-- A `Start` that announces readiness leaves its closure in the slot. -/
theorem Handled.announce {labels : List LifecycleLabel} {s : LifecycleState} {k : Nat}
    (here : Handled labels s k) (phase : s.starters k = .stored) :
    Handled (labels ++ [.start k .announce])
      { s.setStarter k .blocked with ready := .closed } k := by
  -- Its hands are empty, and only the announcement is new.
  have phased : update s.starters k .blocked k = .blocked := update_self s.starters k _
  have same : Acquired (labels ++ [.start k .announce]) k ↔ Acquired labels k :=
    acquired_concat (by simp)
  have hand : (s.starters k).held = none := by
    rw [phase]
    rfl
  refine ⟨?_, ?_, ?_, ?_, here.stored, fun _ => .inl rfl, ?_, ?_⟩ <;>
    simp only [LifecycleState.setStarter, phased, same]
  · intro held none
    cases none
  · intro young
    cases young
  · rintro (unacquired | held)
    · exact here.unreleased (.inl unacquired)
    · cases held
  · exact fun acquired _ => here.kept acquired hand
  · intro stored
    cases stored
  · simp

/-- A step of a `Start` moves its own resource along. -/
theorem handled_starter_own {connectSet : Bool} {labels : List LifecycleLabel}
    {s next : LifecycleState} {k : Nat} {action : StarterAction}
    (moved : StarterMove connectSet s k action next)
    (once : announcesOnce s (.start k action) = true) (ordered : InSequence s)
    (holds : ∀ k, Handled labels s k) : Handled (labels ++ [.start k action]) next k := by
  have here := holds k
  cases moved with
  | @connects closure phase =>
    cases closure with
    | false =>
      refine here.carry (by simp) ?_ ?_ ?_ ?_ rfl rfl rfl Iff.rfl <;>
        simp [LifecycleState.setStarter, phase, StarterPhase.held, StarterPhase.early]
    | true => exact here.acquire phase
  | store phase live =>
    have unannounced : s.ready ≠ .closed := by
      simpa [announcesOnce, live] using once
    exact here.store phase live unannounced (nothing_stored phase unannounced ordered holds)
  | clean phase => exact here.clean phase
  | panic phase closed => exact absurd closed (here.waiting phase)
  | announce phase waiting => exact here.announce phase
  | enter phase set =>
    refine here.carry (by simp) ?_ ?_ ?_ ?_ ?_ ?_ ?_ ?_ <;>
      simp [LifecycleState.setStarter, phase, StarterPhase.held, StarterPhase.early,
        initReady_closed_iff]
  | unset phase missing =>
    refine here.carry (by simp) ?_ ?_ ?_ ?_ ?_ ?_ ?_ ?_ <;>
      simp [LifecycleState.setStarter, phase, StarterPhase.held, StarterPhase.early,
        initReady_closed_iff]
  | _ phase =>
    -- Elsewhere the closure stays in the same hands, in the slot, or released.
    refine here.carry (by simp) ?_ ?_ ?_ ?_ rfl rfl rfl Iff.rfl <;>
      simp [LifecycleState.setStarter, phase, StarterPhase.held, StarterPhase.early]

/-- A run in which several calls of `Start` follow each other. -/
structure Restarts (labels : List LifecycleLabel) (s : LifecycleState) : Prop where
  ordered : InSequence s
  handled : ∀ k, Handled labels s k
  stops : StopHistory labels s.stoppers s.stopped

/-- Everything holds before the first call. -/
theorem restarts_init : Restarts [] newLifecycle := by
  -- Nothing has been issued, acquired or decided.
  refine ⟨?_, ?_, ?_⟩
  · intro k issued
    exact absurd rfl issued
  · intro k
    constructor <;> simp [newLifecycle, Acquired, StarterPhase.held]
  · constructor <;> simp [newLifecycle, StopperPhase.decided]

/-- Everything holds after each step of calls that follow each other. -/
theorem restarts_step {connectSet : Bool} {labels : List LifecycleLabel} {s next : LifecycleState}
    {label : LifecycleLabel} (holds : Restarts labels s) (follows : sequential s label = true)
    (once : announcesOnce s label = true)
    (taken : (lifecycleMachine connectSet).step s label = some next) :
    Restarts (labels ++ [label]) next := by
  -- Starts and stops move what they own, and the other labels move nothing of this.
  cases label with
  | start j action =>
    have moved : StarterMove connectSet s j action next := starterStep_move taken
    have stoppers := moved.frame
    refine ⟨inSequence_starter moved follows holds.ordered, ?_, ?_⟩
    · intro k
      by_cases same : k = j
      · subst same
        exact handled_starter_own moved once holds.ordered holds.handled
      · exact handled_starter_other moved once holds.ordered holds.handled same
    · rw [stoppers.1, stoppers.2]
      exact holds.stops.extend (by simp)
  | stop j action =>
    have moved : StopperMove s j action next := stopperStep_move taken
    refine ⟨?_, fun k => handled_stopper moved (holds.handled k), holds.stops.stopper moved⟩
    rw [InSequence, moved.frame.1]
    exact holds.ordered
  | cancel j cause =>
    cases taken
    exact ⟨holds.ordered, fun k => (holds.handled k).frame (by simp) rfl rfl rfl rfl Iff.rfl,
      holds.stops.extend (by simp)⟩
  | ready =>
    cases taken
    obtain ⟨-, stopFunc, flag, starters, stoppers, invoked⟩ := initReady_frame s
    refine ⟨?_, ?_, ?_⟩
    · rw [InSequence, starters]
      exact holds.ordered
    · exact fun k => (holds.handled k).frame (by simp) (congrFun starters k) (congrFun invoked k)
        stopFunc flag (initReady_closed_iff s)
    · rw [stoppers, flag]
      exact holds.stops.extend (by simp)

/-- Everything holds in every state that calls following each other reach. -/
theorem restarts_run {connectSet : Bool} {labels : List LifecycleLabel} {s : LifecycleState}
    (reached : (lifecycleMachine connectSet).run newLifecycle labels = some s)
    (obeyed : (lifecycleMachine connectSet).Obeys
      (fun s label => sequential s label = true ∧ announcesOnce s label = true)
      newLifecycle labels) : Restarts labels s := by
  -- By induction along a run whose every step follows the order.
  refine (lifecycleMachine connectSet).run_obeying (fun labels s => Restarts labels s)
    restarts_init ?_ labels s obeyed reached
  intro labels s label next _ holds met taken
  exact restarts_step holds met.1 met.2 taken

/-- Beyond a `Start` that was not issued, none was. -/
theorem InSequence.idle_beyond {s : LifecycleState} (holds : InSequence s) {j k : Nat}
    (idle : s.starters j = .idle) (beyond : j ≤ k) : s.starters k = .idle := by
  -- A later start would have waited for this one to return.
  by_contra issued
  by_cases same : j = k
  · exact issued (same ▸ idle)
  · have returned := holds.returned (show j < k by omega) issued
    rw [idle] at returned
    cases returned

/--
Sequential calls of `Start` release every resource once, as long as readiness is announced once.

The condition is on every `Start` that comes back from `Connect` before any `Stop`.
-/
theorem lifecycle_restarts (connectSet : Bool) (labels : List LifecycleLabel) (s : LifecycleState)
    (reached : (lifecycleMachine connectSet).run newLifecycle labels = some s)
    (obeyed : (lifecycleMachine connectSet).Obeys
      (fun s label => sequential s label = true ∧ announcesOnce s label = true)
      newLifecycle labels) :
    -- No `Start` panics, and no resource is released twice.
    (∀ k, s.starters k ≠ .panicked) ∧ (∀ k, s.invoked k ≤ 1) ∧
    -- Once the last `Start` is through and a `Stop` has returned, all of them are released.
    ((∀ k, s.starters k = .idle ∨ (s.starters k).through = true) →
      (∃ k err, s.stoppers k = .returned err) → ∀ k, Acquired labels k → s.invoked k = 1) := by
  have holds := restarts_run reached obeyed
  refine ⟨fun k => (holds.handled k).alive, fun k => (holds.handled k).once, ?_⟩
  rintro settled ⟨j, err, returned⟩ k acquired
  have flag : s.stopped = true := holds.stops.decided j (by rw [returned]; rfl)
  -- A `Start` that is through has nothing in its hands.
  have hand : (s.starters k).held = none := by
    rcases settled k with idle | through
    · rw [idle]
      rfl
    · cases phase : s.starters k <;> simp_all [StarterPhase.through, StarterPhase.held]
  rcases (holds.handled k).kept acquired hand with stored | once
  · rw [(holds.handled k).stored stored, flag]
    rfl
  · exact once

/-- The steps of a `Start` that connects, announces readiness, and returns with its context. -/
def servingLabels (k : Nat) : List LifecycleLabel :=
  [.start k .enter, .start k (.connect (.ok true)), .start k .lock, .start k .decide,
    .start k .announce, .cancel k canceled, .start k .finish]

/-- The steps of a `Stop` that finds a closure and calls it. -/
def releasingLabels (k : Nat) : List LifecycleLabel :=
  [.stop k .call, .stop k .lock, .stop k .decide, .stop k (.released none), .stop k .unlock]

/-- A `Start` whose `Connect` fails may be followed by one that succeeds. -/
theorem lifecycle_restarts_retried : ∃ s, (lifecycleMachine true).run newLifecycle
    ([.start 0 .enter, .start 0 (.connect (.error (.new canceled)))] ++ servingLabels 1 ++
      releasingLabels 0) = some s ∧ s.invoked 1 = 1 := by
  obtain ⟨s, reached, first, second, third, stopped⟩ := (lifecycleMachine true).run_observe
    newLifecycle
    ([.start 0 .enter, .start 0 (.connect (.error (.new canceled)))] ++ servingLabels 1 ++
      releasingLabels 0)
    (fun s => s.starters 0 = .returned (some (.new canceled)) ∧
      s.starters 1 = .returned (some (.new canceled)) ∧ s.starters 2 = .idle ∧
      s.stoppers 0 = .returned none)
    (by decide)
  have obeyed := ((lifecycleMachine true).obeys_iff
    (fun s label => sequential s label = true ∧ announcesOnce s label = true) newLifecycle
    ([.start 0 .enter, .start 0 (.connect (.error (.new canceled)))] ++ servingLabels 1 ++
      releasingLabels 0)).mp (by decide)
  refine ⟨s, reached, (lifecycle_restarts true _ s reached obeyed).2.2 ?_ ⟨0, none, stopped⟩ 1
    (by simp [Acquired, servingLabels])⟩
  -- Two calls were issued, and both have returned.
  intro k
  match k with
  | 0 => exact .inr (by rw [first]; rfl)
  | 1 => exact .inr (by rw [second]; rfl)
  | k + 2 => exact .inl ((restarts_run reached obeyed).ordered.idle_beyond third (by omega))

/-- A second `Start` that connects panics, and the resource of the first is never released. -/
theorem lifecycle_restart_panics : ∃ labels s,
    (lifecycleMachine true).run newLifecycle labels = some s ∧
    (lifecycleMachine true).Obeys (fun s label => sequential s label = true) newLifecycle labels ∧
    -- The first `Start` has returned with its context, and the second one panics.
    s.starters 0 = .returned (some (.new canceled)) ∧ s.starters 1 = .panicked ∧
    -- A `Stop` issued after both has returned.
    s.stoppers 0 = .returned none ∧ Acquired labels 0 ∧ s.invoked 0 = 0 := by
  -- The second start announces on the channel that the first one closed; the stop after both finds
  -- only what the second one has stored.
  obtain ⟨s, reached, first, second, stopped, leaked⟩ := (lifecycleMachine true).run_observe
    newLifecycle
    (servingLabels 0 ++ [.start 1 .enter, .start 1 (.connect (.ok true)), .start 1 .lock,
      .start 1 .decide, .start 1 .announce] ++ releasingLabels 0)
    (fun s => s.starters 0 = .returned (some (.new canceled)) ∧ s.starters 1 = .panicked ∧
      s.stoppers 0 = .returned none ∧ s.invoked 0 = 0) (by decide)
  have ordered := ((lifecycleMachine true).obeys_iff
    (fun s label => sequential s label = true) newLifecycle
    (servingLabels 0 ++ [.start 1 .enter, .start 1 (.connect (.ok true)), .start 1 .lock,
      .start 1 .decide, .start 1 .announce] ++ releasingLabels 0)).mp (by decide)
  exact ⟨_, s, reached, ordered, first, second, stopped, by simp [Acquired, servingLabels], leaked⟩

end Bootkit

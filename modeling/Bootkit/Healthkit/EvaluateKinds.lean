import Bootkit.Healthkit.EvaluateHooks

/-! Probes of one kind behave as if the other kinds did not exist. -/

namespace Bootkit

open Go

/-- The number of a cycle among the cycles of one kind. -/
def HealthState.place (s : HealthState) (kind : Kind) (i : Nat) : Nat :=
  (List.range i).countP fun j => (s.cycles j).kind = kind

section Place

variable {s next : HealthState} {kind : Kind} {i j : Nat}

/-- The number of a cycle is settled by the kinds of the earlier ones. -/
theorem place_congr (kinds : ∀ j, j < i → (next.cycles j).kind = (s.cycles j).kind) :
    next.place kind i = s.place kind i := by
  -- A place is counted from the kinds of the cycles before it.
  apply List.countP_congr
  intro j member
  rw [kinds j (List.mem_range.mp member)]

/-- A cycle of the kind moves the next number on. -/
theorem place_succ_own (own : (s.cycles i).kind = kind) :
    s.place kind (i + 1) = s.place kind i + 1 := by
  simp [HealthState.place, List.range_succ, own]

/-- A cycle of another kind does not. -/
theorem place_succ_other (other : (s.cycles i).kind ≠ kind) :
    s.place kind (i + 1) = s.place kind i := by
  simp [HealthState.place, List.range_succ, other]

/-- Later cycles never have smaller numbers. -/
theorem place_mono (later : i ≤ j) : s.place kind i ≤ s.place kind j :=
  List.Sublist.countP_le (List.range_sublist.mpr later)

/-- A cycle of the kind has a smaller number than everything after it. -/
theorem place_lt (own : (s.cycles i).kind = kind) (later : i < j) :
    s.place kind i < s.place kind j := by
  -- The cycle itself counts for every later place.
  have next : s.place kind (i + 1) ≤ s.place kind j := place_mono later
  rw [place_succ_own own] at next
  exact next

/-- Two cycles of the kind have different numbers. -/
theorem place_ne (ownI : (s.cycles i).kind = kind) (ownJ : (s.cycles j).kind = kind)
    (apart : i ≠ j) : s.place kind i ≠ s.place kind j := by
  -- Whichever of the two comes first has the smaller place.
  rcases Nat.lt_or_gt_of_ne apart with before | after
  · exact Nat.ne_of_lt (place_lt ownI before)
  · exact Nat.ne_of_gt (place_lt ownJ after)

/-- Every smaller number is that of an earlier cycle of the kind. -/
theorem place_onto (below : j < s.place kind i) :
    ∃ earlier, earlier < i ∧ (s.cycles earlier).kind = kind ∧ s.place kind earlier = j := by
  -- The numbers grow by one at each cycle of the kind, and at no other.
  induction i with
  | zero => simp [HealthState.place] at below
  | succ i ih =>
    by_cases own : (s.cycles i).kind = kind
    · rw [place_succ_own own] at below
      by_cases last : j = s.place kind i
      · exact ⟨i, by omega, own, last.symm⟩
      · obtain ⟨earlier, before, mine, here⟩ := ih (by omega)
        exact ⟨earlier, by omega, mine, here⟩
    · rw [place_succ_other own] at below
      obtain ⟨earlier, before, mine, here⟩ := ih below
      exact ⟨earlier, by omega, mine, here⟩

end Place

/-- The kind that a call asked for, once it has begun. -/
def CallPhase.kind : CallPhase → Option Kind
  | .idle => none
  | .arrived kind _ | .missed kind _ | .waiting kind _ _ | .received kind _ _ _
  | .returned kind _ _ => some kind

/-- A phase with the cycle that it names renumbered. -/
def CallPhase.renumber (number : Nat → Nat) : CallPhase → CallPhase
  | .waiting kind start i => .waiting kind start (number i)
  | phase => phase

/-- A phase as one kind sees it, to which the calls of other kinds never began. -/
def CallPhase.confine (kind : Kind) (number : Nat → Nat) (phase : CallPhase) : CallPhase :=
  if phase.kind = some kind then phase.renumber number else .idle

/-- A call of another kind never began. -/
theorem CallPhase.confine_hidden {kind : Kind} {number : Nat → Nat} {phase : CallPhase}
    (hidden : phase.kind ≠ some kind) : phase.confine kind number = .idle :=
  if_neg hidden

/-- Who waits for a renumbered cycle waits for a cycle. -/
theorem CallPhase.renumber_waiting {number : Nat → Nat} {phase : CallPhase} {kind : Kind}
    {start j : Nat} (seen : phase.renumber number = .waiting kind start j) :
    ∃ i, phase = .waiting kind start i ∧ number i = j := by
  -- Renumbering changes the number in one phase and keeps the phase.
  cases phase <;> cases seen
  exact ⟨_, rfl, rfl⟩

/-- A step as one kind sees it: the steps of calls and cycles of other kinds are left out. -/
def confined (kind : Kind) (s : HealthState) : HealthLabel → List HealthLabel
  | .call c (.arrive other) => if other = kind then [.call c (.arrive other)] else []
  | .call c action => if (s.calls c).kind = some kind then [.call c action] else []
  | .cycle i action => if (s.cycles i).kind = kind then [.cycle (s.place kind i) action] else []
  -- Time, requests, registration, and the hook are common to all kinds.
  | label => [label]

/-- One state is another one without the calls and the cycles of other kinds. -/
structure Confined (kind : Kind) (s t : HealthState) : Prop where
  now : t.now = s.now
  aggregator : t.aggregator = s.aggregator
  requests : t.requests = s.requests
  cache : t.cache kind = s.cache kind
  flight : t.flight kind = (s.flight kind).map (s.place kind)
  opened : t.opened = s.place kind s.opened
  cycles : ∀ i, i < s.opened → (s.cycles i).kind = kind → t.cycles (s.place kind i) = s.cycles i
  calls : ∀ c, t.calls c = (s.calls c).confine kind (s.place kind)
  hooked : t.hooked = s.hooked.filter fun told => told.1 = kind

/-- A new aggregator looks the same to every kind. -/
theorem confined_init (kind : Kind) (aggregator : Aggregator) :
    Confined kind (HealthState.init aggregator) (HealthState.init aggregator) := by
  constructor <;> simp [HealthState.init, HealthState.place, CallPhase.confine, CallPhase.kind]

section Confined

variable {kind : Kind} {s t : HealthState}

/-- A call of the kind is where it is, up to the number of its cycle. -/
theorem Confined.call (holds : Confined kind s t) {c : Nat} (own : (s.calls c).kind = some kind) :
    t.calls c = (s.calls c).renumber (s.place kind) := by
  rw [holds.calls c, CallPhase.confine, if_pos own]

/-- A call moves to a phase, as the kind sees it. -/
theorem Confined.setCall (holds : Confined kind s t) (c : Nat) (phase : CallPhase) :
    Confined kind (s.setCall c phase)
      (t.setCall c (phase.confine kind (s.place kind))) where
  -- The call is shown as the kind may see it, and the rest is as it was.
  now := holds.now
  aggregator := holds.aggregator
  requests := holds.requests
  cache := holds.cache
  flight := holds.flight
  opened := holds.opened
  cycles := holds.cycles
  calls := fun d => by
    show update t.calls c (phase.confine kind (s.place kind)) d =
      (update s.calls c phase d).confine kind (s.place kind)
    by_cases same : d = c
    · subst same
      simp
    · simpa [same] using holds.calls d
  hooked := holds.hooked

/-- A call of another kind moves without being seen. -/
theorem Confined.hideCall (holds : Confined kind s t) {c : Nat} {phase : CallPhase}
    (before : (s.calls c).kind ≠ some kind) (after : phase.kind ≠ some kind) :
    Confined kind (s.setCall c phase) t where
  -- A call of another kind is idle to this one, before the step and after it.
  now := holds.now
  aggregator := holds.aggregator
  requests := holds.requests
  cache := holds.cache
  flight := holds.flight
  opened := holds.opened
  cycles := holds.cycles
  calls := fun d => by
    show t.calls d = (update s.calls c phase d).confine kind (s.place kind)
    by_cases same : d = c
    · subst same
      rw [holds.calls d, CallPhase.confine_hidden before, update_self,
        CallPhase.confine_hidden after]
    · simpa [same] using holds.calls d
  hooked := holds.hooked

/-- What the kind's cache answers does not depend on the others. -/
theorem Confined.cached (holds : Confined kind s t) (start : Nat) :
    t.cached kind start = s.cached kind start := by
  simp [HealthState.cached, holds.aggregator, holds.cache]

/-- Whoever waits for a cycle waits for one of its own kind that was opened. -/
def HealthState.Waits (s : HealthState) : Prop :=
  ∀ c kind start i, s.calls c = .waiting kind start i →
    i < s.opened ∧ (s.cycles i).kind = kind

/-- Renumbering a phase needs the numbers of opened cycles only. -/
theorem confine_congr {next : HealthState} (waits : s.Waits) (c : Nat)
    (places : ∀ i, i ≤ s.opened → next.place kind i = s.place kind i) :
    (s.calls c).confine kind (next.place kind) = (s.calls c).confine kind (s.place kind) := by
  -- Only a call that waits shows a number, and the cycle it waits for was opened.
  unfold CallPhase.confine
  cases phase : s.calls c with
  | waiting other start i =>
    have bound := (waits c other start i phase).1
    simp [CallPhase.renumber, places i (Nat.le_of_lt bound)]
  | _ => rfl

/-- A new cycle has no effect on the numbers of the earlier ones. -/
theorem openCycle_place (s : HealthState) (other kind : Kind) (c : Nat) {i : Nat}
    (bound : i ≤ s.opened) : (s.openCycle other c).place kind i = s.place kind i := by
  -- The new cycle comes behind the place.
  apply place_congr
  intro j before
  have apart : j ≠ s.opened := by omega
  simp [HealthState.openCycle, HealthState.setCycle, apart]

/-- The new cycle is of the kind that it was opened for. -/
theorem openCycle_self (s : HealthState) (other : Kind) (c : Nat) :
    (s.openCycle other c).cycles s.opened =
      { Cycle.blank with kind := other, leader := c, phase := .opened } := by
  simp [HealthState.openCycle, HealthState.setCycle]

/-- The earlier cycles stay as they were. -/
theorem openCycle_other (s : HealthState) (other : Kind) (c : Nat) {i : Nat}
    (before : i < s.opened) : (s.openCycle other c).cycles i = s.cycles i := by
  -- The new cycle has a number of its own.
  have apart : i ≠ s.opened := by omega
  simp [HealthState.openCycle, HealthState.setCycle, apart]

/-- A cycle of the kind is opened on both sides. -/
theorem Confined.openCycle (holds : Confined kind s t) (waits : s.Waits) (c : Nat) :
    Confined kind (s.openCycle kind c) (t.openCycle kind c) where
  now := holds.now
  aggregator := holds.aggregator
  requests := holds.requests
  cache := holds.cache
  flight := by
    have here : (s.openCycle kind c).place kind s.opened = t.opened := by
      rw [openCycle_place s kind kind c (Nat.le_refl _), holds.opened]
    show update t.flight kind (some t.opened) kind =
      (update s.flight kind (some s.opened) kind).map ((s.openCycle kind c).place kind)
    simp [here]
  opened := by
    show t.opened + 1 = (s.openCycle kind c).place kind (s.opened + 1)
    rw [place_succ_own (by rw [openCycle_self]), openCycle_place s kind kind c (Nat.le_refl _),
      holds.opened]
  cycles := fun i bound own => by
    rw [openCycle_place s kind kind c (Nat.le_of_lt_succ bound)]
    by_cases last : i = s.opened
    · subst last
      rw [openCycle_self, ← holds.opened, openCycle_self]
    · -- An earlier cycle has an earlier number.
      have before : i < s.opened := by
        have bound : i < s.opened + 1 := bound
        omega
      rw [openCycle_other s kind c before] at own ⊢
      rw [openCycle_other t kind c (by rw [holds.opened]; exact place_lt own before)]
      exact holds.cycles i before own
  calls := fun d => by
    rw [show (s.openCycle kind c).calls d = s.calls d from rfl,
      confine_congr waits d fun i bound => openCycle_place s kind kind c bound]
    exact holds.calls d
  hooked := holds.hooked

/-- A cycle of another kind is opened without being seen. -/
theorem Confined.hideOpen (holds : Confined kind s t) (waits : s.Waits) (flights : Flights s)
    {other : Kind} (apart : other ≠ kind) (c : Nat) : Confined kind (s.openCycle other c) t where
  -- A cycle of another kind is opened behind those that were counted, and is not counted itself.
  now := holds.now
  aggregator := holds.aggregator
  requests := holds.requests
  cache := holds.cache
  flight := by
    show t.flight kind =
      (update s.flight other (some s.opened) kind).map ((s.openCycle other c).place kind)
    rw [update_other s.flight _ (Ne.symm apart), holds.flight]
    cases flying : s.flight kind with
    | none => rfl
    | some i =>
      have bound := flights.opened_of_flying ((flights.flight kind i).mp flying).2
      simp [openCycle_place s other kind c (Nat.le_of_lt bound)]
  opened := by
    show t.opened = (s.openCycle other c).place kind (s.opened + 1)
    rw [place_succ_other (by rw [openCycle_self]; exact apart),
      openCycle_place s other kind c (Nat.le_refl _), holds.opened]
  cycles := fun i bound own => by
    have before : i < s.opened := by
      by_contra last
      have here : i = s.opened := by
        have bound : i < s.opened + 1 := bound
        omega
      rw [here, openCycle_self] at own
      exact apart own
    rw [openCycle_place s other kind c (Nat.le_of_lt before)]
    rw [openCycle_other s other c before] at own ⊢
    exact holds.cycles i before own
  calls := fun d => by
    rw [show (s.openCycle other c).calls d = s.calls d from rfl,
      confine_congr waits d fun i bound => openCycle_place s other kind c bound]
    exact holds.calls d
  hooked := holds.hooked

/-- A cycle that keeps its kind leaves every number alone. -/
theorem setCycle_place (s : HealthState) {i : Nat} {cycle : Cycle}
    (same : cycle.kind = (s.cycles i).kind) : (s.setCycle i cycle).place = s.place := by
  -- Kinds do not change.
  funext kind j
  exact place_congr fun k _ => s.setCycle_read i cycle Cycle.kind same k

/-- A cycle of the kind moves on both sides. -/
theorem Confined.setCycle (holds : Confined kind s t) {i : Nat} (cycle : Cycle)
    (same : cycle.kind = (s.cycles i).kind) (bound : i < s.opened)
    (own : (s.cycles i).kind = kind) :
    Confined kind (s.setCycle i cycle) (t.setCycle (s.place kind i) cycle) where
  -- Cycles of the kind have places of their own, so that only the one written to changes.
  now := holds.now
  aggregator := holds.aggregator
  requests := holds.requests
  cache := holds.cache
  flight := by rw [setCycle_place s same]; exact holds.flight
  opened := by rw [setCycle_place s same]; exact holds.opened
  cycles := fun j within mine => by
    rw [setCycle_place s same]
    rw [s.setCycle_read i cycle Cycle.kind same j] at mine
    by_cases here : j = i
    · subst here
      simp [HealthState.setCycle]
    · have apart := place_ne mine own here
      simpa [HealthState.setCycle, here, apart] using holds.cycles j within mine
  calls := fun d => by rw [setCycle_place s same]; exact holds.calls d
  hooked := holds.hooked

/-- A cycle of another kind moves without being seen. -/
theorem Confined.hideCycle (holds : Confined kind s t) {i : Nat} (cycle : Cycle)
    (same : cycle.kind = (s.cycles i).kind) (apart : (s.cycles i).kind ≠ kind) :
    Confined kind (s.setCycle i cycle) t where
  -- A cycle of another kind is not shown.
  now := holds.now
  aggregator := holds.aggregator
  requests := holds.requests
  cache := holds.cache
  flight := by rw [setCycle_place s same]; exact holds.flight
  opened := by rw [setCycle_place s same]; exact holds.opened
  cycles := fun j within mine => by
    rw [setCycle_place s same]
    rw [s.setCycle_read i cycle Cycle.kind same j] at mine
    have here : j ≠ i := by
      rintro rfl
      exact apart mine
    simpa [HealthState.setCycle, here] using holds.cycles j within mine
  calls := fun d => by rw [setCycle_place s same]; exact holds.calls d
  hooked := holds.hooked

/-- A result of the kind is stored on both sides. -/
theorem Confined.store (holds : Confined kind s t) (res : CachedResult) :
    Confined kind { s with cache := update s.cache kind (some res) }
      { t with cache := update t.cache kind (some res) } :=
  ⟨holds.now, holds.aggregator, holds.requests, by simp, holds.flight, holds.opened,
    holds.cycles, holds.calls, holds.hooked⟩

/-- A result of another kind is stored without being seen. -/
theorem Confined.hideStore (holds : Confined kind s t) {other : Kind} (apart : other ≠ kind)
    (res : CachedResult) : Confined kind { s with cache := update s.cache other (some res) } t :=
  ⟨holds.now, holds.aggregator, holds.requests,
    holds.cache.trans (update_other s.cache _ (Ne.symm apart)).symm, holds.flight, holds.opened,
    holds.cycles, holds.calls, holds.hooked⟩

/-- The flight of the kind is closed on both sides. -/
theorem Confined.land (holds : Confined kind s t) :
    Confined kind { s with flight := update s.flight kind none }
      { t with flight := update t.flight kind none } :=
  ⟨holds.now, holds.aggregator, holds.requests, holds.cache, by simp, holds.opened,
    holds.cycles, holds.calls, holds.hooked⟩

/-- The flight of another kind is closed without being seen. -/
theorem Confined.hideLand (holds : Confined kind s t) {other : Kind} (apart : other ≠ kind) :
    Confined kind { s with flight := update s.flight other none } t :=
  ⟨holds.now, holds.aggregator, holds.requests, holds.cache,
    holds.flight.trans (congrArg _ (update_other s.flight _ (Ne.symm apart)).symm), holds.opened,
    holds.cycles, holds.calls, holds.hooked⟩

/-- The hook was told on one side what it was told of the kind on the other. -/
theorem Confined.hook (holds : Confined kind s t) (mine : List (Kind × Nat × Option Err))
    {theirs : List (Kind × Nat × Option Err)}
    (same : theirs = mine.filter fun told => told.1 = kind) :
    Confined kind { s with hooked := mine } { t with hooked := theirs } :=
  ⟨holds.now, holds.aggregator, holds.requests, holds.cache, holds.flight, holds.opened,
    holds.cycles, holds.calls, same⟩

/-- A step of a call of another kind is not seen. -/
theorem Confined.hideMove {next : HealthState} {c : Nat} {action : CallAction}
    (holds : Confined kind s t) (waits : s.Waits) (flights : Flights s)
    (moved : CallMove s c action next) (begun : s.calls c ≠ .idle)
    (hidden : (s.calls c).kind ≠ some kind) : Confined kind next t := by
  -- A call that is hidden stays hidden; opening a cycle and telling the hook are hidden, too.
  cases moved with
  | arrive phase => exact absurd phase begun
  | @lead other start phase landed =>
    have apart : other ≠ kind := by simpa [phase, CallPhase.kind] using hidden
    exact (holds.hideOpen waits flights apart c).hideCall hidden
      (by simpa [phase, CallPhase.kind] using hidden)
  | @report other start duration err phase =>
    have apart : other ≠ kind := by simpa [phase, CallPhase.kind] using hidden
    have quiet : Confined kind (s.setCall c (.returned other start err)) t :=
      holds.hideCall hidden (by simpa [phase, CallPhase.kind] using hidden)
    refine quiet.hook _ ?_
    rw [holds.hooked]
    split <;> simp [apart]
  | _ phase => exact holds.hideCall hidden (by simpa [phase, CallPhase.kind] using hidden)

/-- A step of a call of the kind is taken on both sides. -/
theorem Confined.move {next : HealthState} {c : Nat} {action : CallAction}
    (holds : Confined kind s t) (waits : s.Waits) (moved : CallMove s c action next)
    (own : (s.calls c).kind = some kind) :
    ∃ other, callStep t c action = some other ∧ Confined kind next other := by
  -- The confined machine finds what the step depends on: the same entry, the same flight, the same
  -- cycle under its place.
  have seen := holds.call own
  cases moved with
  | arrive phase => simp [phase, CallPhase.kind] at own
  | @hit other start err phase fresh =>
    obtain rfl : other = kind := by simpa [phase, CallPhase.kind] using own
    rw [phase] at seen
    have shown := holds.setCall c (.returned other start err)
    refine ⟨_, ?_, shown⟩
    simp [callStep, seen, CallPhase.renumber, holds.cached, fresh, CallPhase.confine,
      CallPhase.kind]
  | @miss other start phase stale =>
    obtain rfl : other = kind := by simpa [phase, CallPhase.kind] using own
    rw [phase] at seen
    have shown := holds.setCall c (.missed other start)
    refine ⟨_, ?_, shown⟩
    simp [callStep, seen, CallPhase.renumber, holds.cached, stale, CallPhase.confine,
      CallPhase.kind]
  | @follow other start i phase flying =>
    obtain rfl : other = kind := by simpa [phase, CallPhase.kind] using own
    rw [phase] at seen
    have shown := holds.setCall c (.waiting other start i)
    refine ⟨_, ?_, shown⟩
    simp [callStep, seen, CallPhase.renumber, holds.flight, flying, CallPhase.confine,
      CallPhase.kind]
  | @lead other start phase landed =>
    obtain rfl : other = kind := by simpa [phase, CallPhase.kind] using own
    rw [phase] at seen
    have shown := (holds.openCycle waits c).setCall c (.waiting other start s.opened)
    refine ⟨_, ?_, shown⟩
    simp [callStep, seen, CallPhase.renumber, holds.flight, landed, CallPhase.confine,
      CallPhase.kind, holds.opened, openCycle_place]
  | @receive other start i since final phase retired =>
    obtain rfl : other = kind := by simpa [phase, CallPhase.kind] using own
    obtain ⟨bound, mine⟩ := waits c other start i phase
    rw [phase] at seen
    have shown := holds.setCall c (.received other start (s.now - start) final)
    refine ⟨_, ?_, shown⟩
    simp [callStep, seen, CallPhase.renumber, holds.cycles i bound mine, retired, holds.now,
      CallPhase.confine, CallPhase.kind]
  | @report other start duration err phase =>
    obtain rfl : other = kind := by simpa [phase, CallPhase.kind] using own
    rw [phase] at seen
    have shown := (holds.setCall c (.returned other start err)).hook
      (if s.aggregator.hook then s.hooked ++ [(other, duration, err)] else s.hooked) rfl
    refine ⟨_, ?_, shown⟩
    simp [callStep, seen, CallPhase.renumber, CallPhase.confine, CallPhase.kind,
      holds.aggregator, holds.hooked, apply_ite (List.filter _)]

/-- A step of a cycle of the kind is taken on both sides. -/
theorem Confined.advance {next : HealthState} {i : Nat} {action : CycleAction}
    (holds : Confined kind s t) (moved : CycleMove s i action next) (bound : i < s.opened)
    (own : (s.cycles i).kind = kind) :
    ∃ other, cycleStep t (s.place kind i) action = some other ∧ Confined kind next other := by
  -- The cycle is the same under its place, so that every guard is met there, too.
  have seen := holds.cycles i bound own
  cases moved with
  | snapshot phase =>
    refine ⟨_, ?_, holds.setCycle _ rfl bound own⟩
    simp [cycleStep, seen, phase, holds.aggregator]
  | launch phase present waiting =>
    refine ⟨_, ?_, holds.setCycle _ rfl bound own⟩
    simp [cycleStep, seen, phase, present, waiting, holds.now]
  | finish phase present running =>
    refine ⟨_, ?_, holds.setCycle _ rfl bound own⟩
    simp [cycleStep, seen, phase, present, running]
  | collect phase all =>
    refine ⟨_, ?_, holds.setCycle _ rfl bound own⟩
    simp [cycleStep, seen, phase, all]
  | @store final phase =>
    subst own
    have shown := holds.setCycle { s.cycles i with phase := .stored final s.now } rfl bound rfl
    refine ⟨_, ?_, shown.store ⟨final, s.now⟩⟩
    simp [cycleStep, seen, phase, holds.now, HealthState.setCycle]
  | @retire final since phase =>
    subst own
    have shown := holds.setCycle { s.cycles i with phase := .retired final since } rfl bound rfl
    refine ⟨_, ?_, shown.land⟩
    simp [cycleStep, seen, phase, HealthState.setCycle]

/-- A step of a cycle of another kind is not seen. -/
theorem Confined.hideAdvance {next : HealthState} {i : Nat} {action : CycleAction}
    (holds : Confined kind s t) (moved : CycleMove s i action next)
    (apart : (s.cycles i).kind ≠ kind) : Confined kind next t := by
  -- Entry and flight of another kind are not shown, either.
  cases moved with
  | @store final phase =>
    have quiet := holds.hideCycle { s.cycles i with phase := .stored final s.now } rfl apart
    exact quiet.hideStore apart ⟨final, s.now⟩
  | @retire final since phase =>
    have quiet := holds.hideCycle { s.cycles i with phase := .retired final since } rfl apart
    exact quiet.hideLand apart
  | _ phase => exact holds.hideCycle _ rfl apart

/-- A step that the kind sees is taken on its side, and any other step leaves that side alone. -/
theorem confined_step {next : HealthState} {label : HealthLabel} (holds : Confined kind s t)
    (waits : s.Waits) (flights : Flights s) (taken : healthMachine.step s label = some next) :
    ∃ other, healthMachine.run t (confined kind s label) = some other ∧
      Confined kind next other := by
  -- A single label on its own is a step of its own.
  have one : ∀ {label other}, healthStep t label = some other →
      healthMachine.run t [label] = some other := by
    intro label other stepped
    simp [Machine.run_cons, healthMachine, stepped]
  cases label with
  | tick d =>
    cases taken
    refine ⟨{ t with now := t.now + d }, one rfl, ?_⟩
    exact ⟨by rw [holds.now], holds.aggregator, holds.requests, holds.cache, holds.flight,
      holds.opened, holds.cycles, holds.calls, holds.hooked⟩
  | cancelRequest c cause =>
    cases taken
    refine ⟨_, one rfl, ?_⟩
    exact ⟨holds.now, holds.aggregator, by rw [holds.requests], holds.cache, holds.flight,
      holds.opened, holds.cycles, holds.calls, holds.hooked⟩
  | register checks =>
    cases taken
    refine ⟨_, one rfl, ?_⟩
    exact ⟨holds.now, by rw [holds.aggregator], holds.requests, holds.cache, holds.flight,
      holds.opened, holds.cycles, holds.calls, holds.hooked⟩
  | setHook =>
    cases taken
    refine ⟨_, one rfl, ?_⟩
    exact ⟨holds.now, by rw [holds.aggregator], holds.requests, holds.cache, holds.flight,
      holds.opened, holds.cycles, holds.calls, holds.hooked⟩
  | cycle i action =>
    have moved : CycleMove s i action next := cycleStep_move taken
    by_cases own : (s.cycles i).kind = kind
    · obtain ⟨other, stepped, related⟩ :=
        holds.advance moved (flights.opened_of_move moved) own
      exact ⟨other, by rw [confined, if_pos own]; exact one stepped, related⟩
    · exact ⟨t, by rw [confined, if_neg own]; rfl, holds.hideAdvance moved own⟩
  | call c action =>
    have moved : CallMove s c action next := callStep_move taken
    by_cases begun : s.calls c = .idle
    · cases moved with
      | @arrive other phase =>
        by_cases own : other = kind
        · subst own
          have idle : t.calls c = .idle := by rw [holds.calls c, begun]; rfl
          have shown := holds.setCall c (.arrived other s.now)
          refine ⟨_, ?_, shown⟩
          rw [confined, if_pos rfl]
          apply one
          simp [healthStep, callStep, idle, holds.now, CallPhase.confine, CallPhase.kind,
            CallPhase.renumber]
        · refine ⟨t, by rw [confined, if_neg own]; rfl, ?_⟩
          exact holds.hideCall (by simp [begun, CallPhase.kind])
            (by simpa [CallPhase.kind] using own)
      | _ phase => simp [begun] at phase
    · have seen : confined kind s (.call c action) =
          if (s.calls c).kind = some kind then [.call c action] else [] := by
        cases action with
        | arrive other =>
          cases moved with
          | arrive phase => exact absurd phase begun
        | _ => rfl
      rw [seen]
      by_cases own : (s.calls c).kind = some kind
      · obtain ⟨other, stepped, related⟩ := holds.move waits moved own
        exact ⟨other, by rw [if_pos own]; exact one stepped, related⟩
      · exact ⟨t, by rw [if_neg own]; rfl, holds.hideMove waits flights moved begun own⟩

/-- A call of the kind that is seen to begin a step can begin it. -/
theorem Confined.allowsCall (holds : Confined kind s t) (waits : s.Waits) {c : Nat}
    {action : CallAction} {other : HealthState} (moved : CallMove t c action other)
    (begun : t.calls c ≠ .idle) :
    confined kind s (.call c action) = [.call c action] ∧
      ∃ next, callStep s c action = some next := by
  have own : (s.calls c).kind = some kind := by
    by_contra hidden
    exact begun ((holds.calls c).trans (CallPhase.confine_hidden hidden))
  have seen := holds.call own
  -- The call is in the same phase on both sides, but for the number of its cycle.
  cases moved with
  | arrive phase => exact absurd phase begun
  | hit phase | miss phase | follow phase | lead phase =>
    rw [phase] at seen
    refine ⟨by simp [confined, own], ?_⟩
    cases here : s.calls c <;> rw [here] at seen <;> cases seen
    -- Both outcomes of the lookup, and both ways into the flight, are steps.
    simp only [callStep, here]
    split <;> exact ⟨_, rfl⟩
  | receive phase retired =>
    rw [phase] at seen
    refine ⟨by simp [confined, own], ?_⟩
    obtain ⟨i, here, rfl⟩ := CallPhase.renumber_waiting seen.symm
    -- The cycle that is waited for is seen as it is.
    obtain ⟨bound, mine⟩ := waits c _ _ i here
    rw [here] at own
    rw [holds.cycles i bound (mine.trans (Option.some.inj own))] at retired
    simp [callStep, here, retired]
  | report phase =>
    rw [phase] at seen
    refine ⟨by simp [confined, own], ?_⟩
    cases here : s.calls c <;> rw [here] at seen <;> cases seen
    simp [callStep, here]

/-- Whether a cycle can take a step depends on nothing but the cycle. -/
theorem cycleStep_isSome {i j : Nat} (same : t.cycles j = s.cycles i) (action : CycleAction) :
    (cycleStep t j action).isSome = (cycleStep s i action).isSome := by
  cases action <;> simp only [cycleStep, same] <;> (repeat' split) <;> rfl

/-- A step that the kind's side allows is what the kind sees of a step that the whole allows. -/
theorem confined_allows {label : HealthLabel} {other : HealthState} (holds : Confined kind s t)
    (waits : s.Waits) (flights : Flights t) (taken : healthMachine.step t label = some other)
    (arrives : ∀ c asked, label = .call c (.arrive asked) → asked = kind ∧ s.calls c = .idle) :
    ∃ full next, confined kind s full = [label] ∧ healthMachine.step s full = some next := by
  cases label with
  | tick d => exact ⟨.tick d, _, rfl, rfl⟩
  | cancelRequest c cause => exact ⟨.cancelRequest c cause, _, rfl, rfl⟩
  | register checks => exact ⟨.register checks, _, rfl, rfl⟩
  | setHook => exact ⟨.setHook, _, rfl, rfl⟩
  | call c action =>
    have moved : CallMove t c action other := callStep_move taken
    by_cases begun : t.calls c = .idle
    · cases moved with
      | @arrive asked phase =>
        obtain ⟨rfl, idle⟩ := arrives c asked rfl
        exact ⟨.call c (.arrive asked), _, by simp [confined],
          by simp only [healthMachine, healthStep, callStep, idle]; rfl⟩
      | _ phase => simp [begun] at phase
    · obtain ⟨seen, next, stepped⟩ := holds.allowsCall waits moved begun
      exact ⟨.call c action, next, seen, stepped⟩
  | cycle j action =>
    -- Every cycle of that side stands for one of the whole.
    have moved : CycleMove t j action other := cycleStep_move taken
    have bound : j < s.place kind s.opened := by
      rw [← holds.opened]
      exact flights.opened_of_move moved
    obtain ⟨i, opened, own, rfl⟩ := place_onto bound
    have allowed := cycleStep_isSome (holds.cycles i opened own) action
    have stepped : cycleStep t (s.place kind i) action = some other := taken
    rw [stepped, Option.isSome_some] at allowed
    obtain ⟨next, advanced⟩ := Option.isSome_iff_exists.mp allowed.symm
    exact ⟨.cycle i action, next, by simp [confined, own], advanced⟩

end Confined

/-- Along a run every call waits for an opened cycle of its kind. -/
theorem waits_run {aggregator : Aggregator} {labels : List HealthLabel} {s : HealthState}
    (reached : healthMachine.run (HealthState.init aggregator) labels = some s) : s.Waits := by
  -- Whoever waits has an entry in the ledger, with the cycle that it waits for.
  have ledger := ledger_run reached
  intro c kind start i phase
  obtain ⟨e, member, rfl⟩ := ledger.inside c (by simp [phase, CallPhase.inFlight])
  cases ledger.staged e member with
  | waiting waits =>
    obtain ⟨rfl, -, rfl⟩ : kind = e.kind ∧ start = _ ∧ i = e.cycle := by
      simpa [phase] using waits
    exact ledger.cycles e member
  | received other | returned other => simp [phase] at other

/--
Leaving out the calls and the cycles of the other kinds, a run is still a run, and in it every call
of the kind is answered alike, the cache of the kind is the same, and so is what the hook was told
of the kind.

Nothing waits for the other kinds either: at the same time, whatever a call or a cycle of the kind
can do without them, it can do with them.
-/
theorem kinds_do_not_interfere (aggregator : Aggregator) (labels : List HealthLabel)
    (s : HealthState) (reached : healthMachine.run (HealthState.init aggregator) labels = some s)
    (kind : Kind) :
    ∃ t, healthMachine.run (HealthState.init aggregator)
        (healthMachine.observed (confined kind) (HealthState.init aggregator) labels) = some t ∧
      (∀ c, t.calls c ≠ .idle → (t.calls c).kind = some kind) ∧
      (∀ c start err, t.calls c = .returned kind start err ↔
        s.calls c = .returned kind start err) ∧
      t.cache kind = s.cache kind ∧ (t.hooked = s.hooked.filter fun told => told.1 = kind) ∧
      t.now = s.now ∧
      ∀ label other, healthMachine.step t label = some other →
        (∀ c asked, label = .call c (.arrive asked) → asked = kind ∧ s.calls c = .idle) →
        ∃ full next, confined kind s full = [label] ∧
          healthMachine.step s full = some next := by
  have follows : ∀ labels state label next seen,
      healthMachine.run (HealthState.init aggregator) labels = some state →
      Confined kind state seen → healthMachine.step state label = some next →
      ∃ moved, healthMachine.run seen (confined kind state label) = some moved ∧
        Confined kind next moved := by
    intro labels state label next seen prior holds taken
    exact confined_step holds (waits_run prior) (flights_run prior) taken
  obtain ⟨t, ran, holds⟩ := healthMachine.run_simulates (confined kind) (Confined kind)
    (confined_init kind aggregator) follows reached
  -- The steps of the kind are a run of their own, and the rest is read off the relation at its end.
  refine ⟨t, ran, ?_, ?_, holds.cache, holds.hooked, holds.now, ?_⟩
  · intro c begun
    rw [holds.calls c] at begun ⊢
    by_cases own : (s.calls c).kind = some kind
    · rw [CallPhase.confine, if_pos own]
      cases phase : s.calls c <;> simp_all [CallPhase.renumber, CallPhase.kind]
    · exact absurd (CallPhase.confine_hidden own) begun
  · intro c start err
    rw [holds.calls c]
    by_cases own : (s.calls c).kind = some kind
    · rw [CallPhase.confine, if_pos own]
      cases s.calls c <;> simp [CallPhase.renumber]
    · rw [CallPhase.confine_hidden own]
      constructor
      · intro idle
        cases idle
      · intro returned
        exact absurd (by rw [returned]; rfl) own
  · intro label other taken arrives
    exact confined_allows holds (waits_run reached) (flights_run ran) taken arrives

/-- A liveness probe that is answered while the check of a readiness probe hangs. -/
def hangingReadiness : List HealthLabel :=
  [.register [⟨"db-liveness", .liveness, 1000⟩, ⟨"db-readiness", .readiness, 1000⟩],
    .call 0 (.arrive .readiness), .call 0 .lookup, .call 0 .enter, .cycle 0 .snapshot,
    .cycle 0 (.launch 0), .call 1 (.arrive .liveness), .call 1 .lookup, .call 1 .enter,
    .cycle 1 .snapshot, .cycle 1 (.launch 0), .cycle 1 (.finish 0 none), .cycle 1 .collect,
    .cycle 1 .store, .cycle 1 .retire, .call 1 .receive, .call 1 .report]

/-- The liveness probe is answered alike when nobody asks for readiness. -/
theorem kinds_do_not_interfere_hanging : ∃ s t,
    healthMachine.run (HealthState.init (newAggregator 0)) hangingReadiness = some s ∧
    s.calls 0 = .waiting .readiness 0 0 ∧ s.calls 1 = .returned .liveness 0 none ∧
    healthMachine.run (HealthState.init (newAggregator 0)) (healthMachine.observed
      (confined .liveness) (HealthState.init (newAggregator 0)) hangingReadiness) = some t ∧
    t.calls 1 = .returned .liveness 0 none := by
  -- The readiness check hangs, and the liveness probe is answered as in a run without it.
  obtain ⟨s, reached, hangs, answered⟩ := healthMachine.run_observe
    (HealthState.init (newAggregator 0)) hangingReadiness
    (fun s => s.calls 0 = .waiting .readiness 0 0 ∧ s.calls 1 = .returned .liveness 0 none)
    (by decide +kernel)
  obtain ⟨t, ran, -, alike, -⟩ := kinds_do_not_interfere _ _ s reached .liveness
  exact ⟨s, t, reached, hangs, answered, ran, (alike 1 0 none).mpr answered⟩

end Bootkit

import Bootkit.Healthkit.EvaluateCycles

/-! How close together two cycles of one kind can be. -/

namespace Bootkit

open Go

/-- The kind and the start of the call that a step makes the leader of a new cycle. -/
def openingCall (s : HealthState) : HealthLabel → Option (Kind × Nat)
  | .call c .enter =>
    match s.calls c with
    | .missed kind start => if s.flight kind = none then some (kind, start) else none
    | _ => none
  | _ => none

/-- A new cycle opens only when the lifetime of every stored result of its kind is over. -/
def OncePerWindow (s : HealthState) (label : HealthLabel) : Prop :=
  ∀ call ∈ openingCall s label, ∀ i res, (s.cycles i).kind = call.1 →
    (s.cycles i).phase.entry = some res → res.at_ + s.aggregator.cacheTTL ≤ s.now

/-- The kind of the result that a step stores. -/
def storedKind (s : HealthState) : HealthLabel → List Kind
  | .cycle i .store => [(s.cycles i).kind]
  | _ => []

/--
No result of its kind is stored between the lookup of a call and its entry as the leader of a new
cycle. Without a cache nothing is asked.
-/
def LeadsOnFreshMiss (aggregator : Aggregator) (labels : List HealthLabel) : Prop :=
  0 < aggregator.cacheTTL → ∀ c earlier between after looked s kind start,
    labels = earlier ++ .call c .lookup :: between ++ .call c .enter :: after →
    healthMachine.run (HealthState.init aggregator) earlier = some looked →
    looked.calls c = .arrived kind start →
    healthMachine.run looked (.call c .lookup :: between) = some s →
    openingCall s (.call c .enter) = some (kind, start) →
    kind ∉ healthMachine.observed storedKind looked (.call c .lookup :: between)

/-- A call that opens a cycle would still find no answer in the cache. -/
def StillMisses (s : HealthState) (label : HealthLabel) : Prop :=
  ∀ call ∈ openingCall s label, s.cached call.1 call.2 = none

instance (s : HealthState) (label : HealthLabel) : Decidable (StillMisses s label) :=
  inferInstanceAs (Decidable (∀ call ∈ openingCall s label, _))

/-- When a call began, while it has not returned. -/
def CallPhase.begun : CallPhase → Option Nat
  | .arrived _ start | .missed _ start | .waiting _ start _ | .received _ start _ _ => some start
  | .idle | .returned _ _ _ => none

/-- No call begins in the future. -/
def BeganBefore (s : HealthState) : Prop :=
  ∀ c start, (s.calls c).begun = some start → start ≤ s.now

/-- A call that moves began when it did before, or just now. -/
theorem CallMove.begun {s next : HealthState} {c start : Nat} {action : CallAction}
    (moved : CallMove s c action next) (known : (next.calls c).begun = some start) :
    (s.calls c).begun = some start ∨ start = s.now := by
  -- A call notes the time when it arrives, and keeps it.
  cases moved <;>
    simp_all [HealthState.setCall, HealthState.openCycle, HealthState.setCycle, CallPhase.begun]

/-- Nobody begins in the future in any run. -/
theorem beganBefore_run {aggregator : Aggregator} {labels : List HealthLabel} {s : HealthState}
    (reached : healthMachine.run (HealthState.init aggregator) labels = some s) :
    BeganBefore s := by
  refine healthMachine.run_history (fun _ s => BeganBefore s) ?_ ?_ labels s reached
  · intro c start known
    simp [HealthState.init, CallPhase.begun] at known
  · intro _ s label next _ holds taken c start known
    -- Only an arrival notes a time, and it notes the present.
    cases label with
    | call d action =>
      have moved : CallMove s d action next := callStep_move taken
      have clock : next.now = s.now := by
        cases moved <;> rfl
      rw [clock]
      by_cases same : c = d
      · subst same
        rcases moved.begun known with before | now
        · exact holds c start before
        · omega
      · rw [moved.others same] at known
        exact holds c start known
    | cycle i action =>
      have moved : CycleMove s i action next := cycleStep_move taken
      have before : start ≤ s.now := by
        apply holds c
        cases moved <;> exact known
      cases moved <;> exact before
    | tick d =>
      cases taken
      have before := holds c start known
      show start ≤ s.now + d
      omega
    | _ =>
      cases taken
      exact holds c start known

/-- The last result of a kind is the youngest one. -/
theorem HealthState.Latest.youngest {s : HealthState} (flights : Flights s) {kind : Kind}
    {i j : Nat} {res other : CachedResult} (latest : s.Latest kind i res)
    (own : (s.cycles j).kind = kind) (entry : (s.cycles j).phase.entry = some other) :
    other.at_ ≤ res.at_ := by
  -- Entries of a kind are stored in the order of their cycles.
  rcases Nat.lt_trichotomy j i with before | same | after
  · exact flights.ordered j i other res before (own.trans latest.own.symm) entry latest.entry
  · subst same
    obtain rfl : other = res := Option.some.inj (entry.symm.trans latest.entry)
    exact Nat.le_refl _
  · rw [latest.last j after own] at entry
    cases entry

/-- A call that the cache does not answer began after the lifetime of the stored result. -/
theorem expired_of_miss {s : HealthState} {kind : Kind} {start : Nat} {res : CachedResult}
    (stored : s.cache kind = some res) (enabled : 0 < s.aggregator.cacheTTL)
    (miss : s.cached kind start = none) : res.at_ + s.aggregator.cacheTTL ≤ start := by
  -- With caching on and an entry there, only its age is left.
  simp only [HealthState.cached, if_pos enabled, stored] at miss
  split at miss
  · cases miss
  · omega

/-- The call that opens a cycle is one that has missed, and there is no flight to join. -/
theorem missed_of_opening {s : HealthState} {label : HealthLabel} {call : Kind × Nat}
    (opening : openingCall s label = some call) :
    ∃ c, label = .call c .enter ∧ s.calls c = .missed call.1 call.2 := by
  -- A cycle is opened by a call that has missed and finds no flight.
  unfold openingCall at opening
  split at opening
  · rename_i c
    split at opening
    · rename_i kind start missed
      split at opening
      · cases opening
        exact ⟨c, rfl, missed⟩
      · cases opening
    · cases opening
  · cases opening

/-- Time goes on with every step. -/
theorem now_le_step {s next : HealthState} {label : HealthLabel}
    (taken : healthMachine.step s label = some next) : s.now ≤ next.now := by
  -- Only a tick moves the clock.
  cases label with
  | tick d =>
    cases taken
    exact Nat.le_add_right _ _
  | call c action => cases callStep_move taken <;> exact Nat.le_refl _
  | cycle i action => cases cycleStep_move taken <;> exact Nat.le_refl _
  | _ =>
    cases taken
    exact Nat.le_refl _

/-- A step stores a result of a kind now, or leaves the cache of the kind alone. -/
theorem cache_step {s next : HealthState} {label : HealthLabel}
    (taken : healthMachine.step s label = some next) (kind : Kind) :
    (kind ∈ storedKind s label → ∃ err, next.cache kind = some ⟨err, s.now⟩) ∧
    (kind ∉ storedKind s label → next.cache kind = s.cache kind) := by
  -- One step writes to the cache, at the kind of its cycle and with the present time.
  cases label with
  | cycle i action =>
    have moved : CycleMove s i action next := cycleStep_move taken
    cases moved with
    | @store final phase =>
      by_cases own : kind = (s.cycles i).kind
      · simp [storedKind, own]
      · simp [storedKind, own]
    | _ => simp [storedKind, HealthState.setCycle]
  | call c action =>
    have moved : CallMove s c action next := callStep_move taken
    cases moved <;> simp [storedKind, HealthState.setCall, HealthState.openCycle,
      HealthState.setCycle]
  | _ =>
    cases taken
    simp [storedKind]

/-- What a run from a state has stored of a kind is no older than the state. -/
structure StoredSince (s : HealthState) (kind : Kind) (labels : List HealthLabel)
    (next : HealthState) : Prop where
  later : s.now ≤ next.now
  stored : kind ∈ healthMachine.observed storedKind s labels →
    ∃ res, next.cache kind = some res ∧ s.now ≤ res.at_
  untouched : kind ∉ healthMachine.observed storedKind s labels → next.cache kind = s.cache kind

/-- A run stores a result of a kind and keeps one no older, or leaves the kind's entry alone. -/
theorem storedSince_run {s next : HealthState} {labels : List HealthLabel}
    (ran : healthMachine.run s labels = some next) (kind : Kind) :
    StoredSince s kind labels next := by
  -- The last store of the kind decides, and it came no earlier than the start.
  refine healthMachine.run_history (StoredSince s kind) ⟨Nat.le_refl _, nofun, fun _ => rfl⟩ ?_
    labels next ran
  intro labels middle label next prior since taken
  obtain ⟨now, otherwise⟩ := cache_step taken kind
  refine ⟨Nat.le_trans since.later (now_le_step taken), ?_, ?_⟩ <;>
    rw [healthMachine.observed_concat storedKind prior, List.mem_append]
  · intro stored
    by_cases here : kind ∈ storedKind middle label
    · obtain ⟨err, written⟩ := now here
      exact ⟨_, written, since.later⟩
    · rw [otherwise here]
      exact since.stored (stored.resolve_right here)
  · intro quiet
    rw [otherwise fun here => quiet (.inr here)]
    exact since.untouched fun before => quiet (.inl before)

/-- A call that has missed looked the cache up, and found no answer then. -/
theorem looked_up {aggregator : Aggregator} {labels : List HealthLabel} {s : HealthState}
    (reached : healthMachine.run (HealthState.init aggregator) labels = some s) {c start : Nat}
    {kind : Kind} (missed : s.calls c = .missed kind start) :
    ∃ looked, healthMachine.Took (HealthState.init aggregator) labels (.call c .lookup) looked ∧
      looked.calls c = .arrived kind start ∧ looked.cached kind start = none := by
  refine healthMachine.run_history (fun labels s => s.calls c = .missed kind start →
    ∃ looked, healthMachine.Took (HealthState.init aggregator) labels (.call c .lookup) looked ∧
      looked.calls c = .arrived kind start ∧ looked.cached kind start = none) ?_ ?_ labels s
    reached missed
  · intro missed
    simp [HealthState.init] at missed
  · intro labels s label next prior known taken missed
    -- Only a lookup of its own makes a call miss.
    have still : s.calls c = .missed kind start → ∃ looked,
        healthMachine.Took (HealthState.init aggregator) (labels ++ [label]) (.call c .lookup)
          looked ∧ looked.calls c = .arrived kind start ∧ looked.cached kind start = none := by
      intro before
      obtain ⟨looked, took, found⟩ := known before
      exact ⟨looked, took.extend label, found⟩
    cases label with
    | call d action =>
      have moved : CallMove s d action next := callStep_move taken
      by_cases same : c = d
      · subst same
        cases moved with
        | miss phase stale =>
          obtain ⟨rfl, rfl⟩ : _ = kind ∧ _ = start := by simpa [HealthState.setCall] using missed
          exact ⟨s, .last prior _, phase, stale⟩
        | _ => simp [HealthState.setCall] at missed
      · exact still ((moved.others same).symm.trans missed)
    | cycle i action =>
      have moved : CycleMove s i action next := cycleStep_move taken
      exact still (by cases moved <;> exact missed)
    | _ =>
      cases taken
      exact still missed

/-- A call that opens a cycle on a fresh miss would still find no answer in the cache. -/
theorem stillMisses_of_fresh {cacheTTL : Int} {labels : List HealthLabel}
    (fresh : LeadsOnFreshMiss (newAggregator cacheTTL) labels) :
    healthMachine.Obeys StillMisses (HealthState.init (newAggregator cacheTTL)) labels := by
  intro before label after s split reached call opening
  obtain ⟨c, rfl, missed⟩ := missed_of_opening opening
  have lifetime := (registered_run reached).cacheTTL
  by_cases enabled : 0 < (newAggregator cacheTTL).cacheTTL
  · -- The cache of the kind is what it was when the call looked it up.
    obtain ⟨looked, ⟨earlier, between, rfl, prior⟩, arrived, stale⟩ := looked_up reached missed
    rw [healthMachine.run_append, prior] at reached
    have ran : healthMachine.run looked (.call c .lookup :: between) = some s := reached
    have quiet := fresh enabled c earlier between after looked s _ _ split prior arrived ran opening
    have kept := (storedSince_run ran call.1).untouched quiet
    have same := (registered_run prior).cacheTTL
    simpa only [HealthState.cached, kept, lifetime, same] using stale
  · simp [HealthState.cached, lifetime, enabled]

/-- A call that would still find no answer in the cache opens its cycle on a fresh miss. -/
theorem fresh_of_stillMisses {cacheTTL : Int} {labels : List HealthLabel}
    (misses : healthMachine.Obeys StillMisses (HealthState.init (newAggregator cacheTTL)) labels) :
    LeadsOnFreshMiss (newAggregator cacheTTL) labels := by
  intro enabled c earlier between after looked s kind start split prior arrived ran opening stored
  have reached : healthMachine.run (HealthState.init (newAggregator cacheTTL))
      (earlier ++ .call c .lookup :: between) = some s := by
    rw [healthMachine.run_append, prior]
    exact ran
  have miss := misses _ (.call c .enter) after s split reached _ opening
  -- A result that was stored since the lookup is no older than the call.
  obtain ⟨res, held, young⟩ := (storedSince_run ran kind).stored stored
  have past : start ≤ looked.now := beganBefore_run prior c start (by rw [arrived]; rfl)
  have lifetime := (registered_run reached).cacheTTL
  have expired := expired_of_miss held (by rw [lifetime]; exact enabled) miss
  rw [lifetime] at expired
  omega

/--
While no call opens a cycle on a stale miss, cycles of a kind are a cache lifetime apart.

A miss is stale once a result of its kind was stored behind the lookup. Without a cache the
lifetime is zero.
-/
theorem probes_collapse (cacheTTL : Int) (labels : List HealthLabel)
    (fresh : LeadsOnFreshMiss (newAggregator cacheTTL) labels) :
    healthMachine.Obeys OncePerWindow (HealthState.init (newAggregator cacheTTL)) labels := by
  intro before label after s split reached call opening i res own entry
  have flights := flights_run reached
  have miss := stillMisses_of_fresh fresh before label after s split reached call opening
  obtain ⟨c, -, missed⟩ := missed_of_opening opening
  have past : call.2 ≤ s.now := beganBefore_run reached c call.2 (by rw [missed]; rfl)
  -- Without a cache the statement only says that results are not stored in the future.
  by_cases enabled : 0 < s.aggregator.cacheTTL
  · obtain ⟨latest, stored⟩ := Option.ne_none_iff_exists'.mp (flights.uncached i res entry)
    rw [own] at stored
    obtain ⟨k, last⟩ := flights.cached call.1 latest stored
    have young := last.youngest flights own entry
    have expired := expired_of_miss stored enabled miss
    omega
  · have earlier := flights.past i res entry
    omega

/-- A probe of a kind that leads a cycle and stores its result, between two other steps. -/
def wholeCycleLabels (c i : Nat) : List HealthLabel :=
  [.call c (.arrive .readiness), .call c .lookup, .call c .enter, .cycle i .snapshot,
    .cycle i (.launch 0), .cycle i (.finish 0 none), .cycle i .collect, .cycle i .store,
    .cycle i .retire]

/-- A second probe opens a cycle of its own once the first result is a second old. -/
theorem probes_collapse_later :
    healthMachine.Obeys OncePerWindow (HealthState.init (newAggregator 0))
      (.register (standardChecks "db") :: wholeCycleLabels 0 0 ++
        .tick 1000000000 :: wholeCycleLabels 1 1) ∧
    ∃ s, healthMachine.run (HealthState.init (newAggregator 0))
      (.register (standardChecks "db") :: wholeCycleLabels 0 0 ++
        .tick 1000000000 :: wholeCycleLabels 1 1) = some s ∧ s.opened = 2 := by
  -- The second probe comes a lifetime later, and its lookup still misses when it enters.
  have obeyed := (healthMachine.obeys_iff StillMisses (HealthState.init (newAggregator 0))
    (.register (standardChecks "db") :: wholeCycleLabels 0 0 ++
      .tick 1000000000 :: wholeCycleLabels 1 1)).mp (by decide +kernel)
  exact ⟨probes_collapse 0 _ (fresh_of_stillMisses obeyed),
    healthMachine.run_observe _ _ _ (by decide +kernel)⟩

/-- A probe suspended between its lookup and the flight opens a second cycle at the same instant. -/
theorem probes_do_not_collapse : ∃ labels s next res,
    healthMachine.run (HealthState.init (newAggregator 0)) labels = some s ∧
    0 < s.aggregator.cacheTTL ∧
    -- The first cycle has stored its result at this instant, and a second one is opened.
    (s.cycles 0).kind = .readiness ∧ (s.cycles 0).phase.entry = some res ∧ res.at_ = s.now ∧
    healthMachine.step s (.call 0 .enter) = some next ∧ next.opened = s.opened + 1 ∧
    (next.cycles s.opened).kind = .readiness ∧ ¬ OncePerWindow s (.call 0 .enter) := by
  -- The first call misses, the second call's cycle comes and goes, and only then does the first
  -- call enter.
  obtain ⟨s, reached, enabled, own, entry, now, next, opening⟩ := healthMachine.run_observe
    (HealthState.init (newAggregator 0))
    ([.register (standardChecks "db"), .call 0 (.arrive .readiness), .call 0 .lookup] ++
      wholeCycleLabels 1 0)
    (fun s => 0 < s.aggregator.cacheTTL ∧ (s.cycles 0).kind = .readiness ∧
      (s.cycles 0).phase.entry = some ⟨none, 0⟩ ∧ s.now = 0 ∧
      ((healthMachine.step s (.call 0 .enter)).any fun next =>
        next.opened = s.opened + 1 ∧ (next.cycles s.opened).kind = .readiness) = true ∧
      openingCall s (.call 0 .enter) = some (.readiness, 0))
    (by decide +kernel)
  obtain ⟨next, taken, grown⟩ := (Option.any_eq_true _ _).mp next
  have grown := of_decide_eq_true grown
  refine ⟨_, s, next, ⟨none, 0⟩, reached, enabled, own, entry, now.symm, taken, grown.1, grown.2,
    ?_⟩
  intro once
  have apart := once (.readiness, 0) opening 0 ⟨none, 0⟩ own entry
  simp only [now] at apart
  omega

end Bootkit

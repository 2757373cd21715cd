import Bootkit.Healthkit.EvaluateMoves

/-! How flights, cycles, and the cache of one aggregator fit together. -/

namespace Bootkit

open Go

/-- Whether the flight of a cycle is open. -/
def CyclePhase.flying : CyclePhase → Bool
  | .opened | .running | .collected _ | .stored _ _ => true
  | .unopened | .retired _ _ => false

/-- What a cycle has put into the cache, once it has. -/
def CyclePhase.entry : CyclePhase → Option CachedResult
  | .stored final since | .retired final since => some ⟨final, since⟩
  | _ => none

/-- The last cycle of a kind that has stored a result, with that result. -/
structure HealthState.Latest (s : HealthState) (kind : Kind) (i : Nat) (res : CachedResult) :
    Prop where
  own : (s.cycles i).kind = kind
  entry : (s.cycles i).phase.entry = some res
  last : ∀ j, i < j → (s.cycles j).kind = kind → (s.cycles j).phase.entry = none

/-- There is only one last cycle, and it has one result. -/
theorem HealthState.Latest.unique {s : HealthState} {kind : Kind} {i j : Nat}
    {res other : CachedResult} (first : s.Latest kind i res) (second : s.Latest kind j other) :
    i = j ∧ res = other := by
  -- Of two latest entries neither can be later than the other.
  have same : i = j := by
    rcases Nat.lt_trichotomy i j with before | same | after
    · have none := first.last j before second.own
      rw [second.entry] at none
      cases none
    · exact same
    · have none := second.last i after first.own
      rw [first.entry] at none
      cases none
  subst same
  exact ⟨rfl, Option.some.inj (first.entry.symm.trans second.entry)⟩

/-- What holds between the flights, the cycles, and the cache. -/
structure Flights (s : HealthState) : Prop where
  -- Cycles are numbered in the order in which they were opened.
  unopened : ∀ i, s.opened ≤ i ↔ (s.cycles i).phase = .unopened
  -- The flight of a kind is the one open cycle of that kind.
  flight : ∀ kind i, s.flight kind = some i ↔
    (s.cycles i).kind = kind ∧ (s.cycles i).phase.flying = true
  -- A cycle is opened only when the earlier ones of its kind are retired.
  earlier : ∀ i j, i < j → j < s.opened → (s.cycles i).kind = (s.cycles j).kind →
    (s.cycles i).phase.flying = false
  -- The cache of a kind holds what its last cycle stored.
  cached : ∀ kind res, s.cache kind = some res → ∃ i, s.Latest kind i res
  uncached : ∀ i res, (s.cycles i).phase.entry = some res → s.cache (s.cycles i).kind ≠ none
  -- Results are stored in the order of the cycles, and not in the future.
  ordered : ∀ i j a b, i < j → (s.cycles i).kind = (s.cycles j).kind →
    (s.cycles i).phase.entry = some a → (s.cycles j).phase.entry = some b → a.at_ ≤ b.at_
  past : ∀ i res, (s.cycles i).phase.entry = some res → res.at_ ≤ s.now

/-- Nothing is in flight on a new aggregator. -/
theorem flights_init (aggregator : Aggregator) : Flights (HealthState.init aggregator) := by
  -- No cycle was opened.
  refine ⟨?_, ?_, ?_, ?_, ?_, ?_, ?_⟩ <;>
    simp [HealthState.init, Cycle.blank, CyclePhase.flying, CyclePhase.entry]

section Flights

variable {s next : HealthState}

/-- A cycle that was opened has a number below the next one. -/
theorem Flights.opened_of_flying (holds : Flights s) {i : Nat}
    (flying : (s.cycles i).phase.flying = true) : i < s.opened := by
  -- A cycle that was not opened does not fly.
  by_contra above
  rw [(holds.unopened i).mp (by omega)] at flying
  cases flying

/-- A cycle that has stored a result was opened. -/
theorem Flights.opened_of_entry (holds : Flights s) {i : Nat} {res : CachedResult}
    (entry : (s.cycles i).phase.entry = some res) : i < s.opened := by
  -- Nor does it have an entry.
  by_contra above
  rw [(holds.unopened i).mp (by omega)] at entry
  cases entry

/-- Every move of a cycle is one of its flight. -/
theorem Flights.opened_of_move (holds : Flights s) {i : Nat} {action : CycleAction}
    (moved : CycleMove s i action next) : i < s.opened := by
  apply holds.opened_of_flying
  cases moved with
  | _ phase => simp [phase, CyclePhase.flying]

/-- While a cycle is flying, no later cycle of its kind has been opened. -/
theorem Flights.none_after (holds : Flights s) {i j : Nat}
    (flying : (s.cycles i).phase.flying = true) (later : i < j)
    (same : (s.cycles j).kind = (s.cycles i).kind) : (s.cycles j).phase = .unopened := by
  -- A later cycle of the kind would have been opened after this one had landed.
  rw [← holds.unopened]
  by_contra below
  have landed := holds.earlier i j later (by omega) same.symm
  rw [flying] at landed
  cases landed

/-- Only the entries of a kind decide which of its cycles was the last to store. -/
theorem HealthState.Latest.keep {kind : Kind} {i : Nat} {res : CachedResult}
    (latest : s.Latest kind i res) (kinds : ∀ j, j < s.opened ∨ (next.cycles j).phase.entry ≠ none →
      (next.cycles j).kind = (s.cycles j).kind)
    (entries : ∀ j, (next.cycles j).kind = kind →
      (next.cycles j).phase.entry = (s.cycles j).phase.entry) (opened : i < s.opened) :
    next.Latest kind i res := by
  -- No later cycle of the kind gets an entry.
  have own := (kinds i (.inl opened)).trans latest.own
  refine ⟨own, (entries i own).trans latest.entry, ?_⟩
  intro j later same
  by_contra stored
  have old := (kinds j (.inr stored)).symm.trans same
  rw [entries j same] at stored
  exact stored (latest.last j later old)

/-- While nothing is stored, only the numbers and the flights have to be looked at. -/
theorem Flights.rebuild (holds : Flights s)
    (kinds : ∀ j, j < s.opened ∨ (next.cycles j).phase.entry ≠ none →
      (next.cycles j).kind = (s.cycles j).kind)
    (entries : ∀ j, (next.cycles j).phase.entry = (s.cycles j).phase.entry)
    (cache : next.cache = s.cache) (now : s.now ≤ next.now)
    (unopened : ∀ i, next.opened ≤ i ↔ (next.cycles i).phase = .unopened)
    (flight : ∀ kind i, next.flight kind = some i ↔
      (next.cycles i).kind = kind ∧ (next.cycles i).phase.flying = true)
    (earlier : ∀ i j, i < j → j < next.opened → (next.cycles i).kind = (next.cycles j).kind →
      (next.cycles i).phase.flying = false) : Flights next := by
  -- A cycle with an entry was opened, so that it has the kind it had.
  have stored : ∀ {j res}, (s.cycles j).phase.entry = some res →
      (next.cycles j).kind = (s.cycles j).kind :=
    fun entry => kinds _ (.inl (holds.opened_of_entry entry))
  refine ⟨unopened, flight, earlier, ?_, ?_, ?_, ?_⟩
  · intro kind res found
    rw [cache] at found
    obtain ⟨i, latest⟩ := holds.cached kind res found
    exact ⟨i, latest.keep kinds (fun j _ => entries j) (holds.opened_of_entry latest.entry)⟩
  · intro i res entry
    rw [entries] at entry
    rw [stored entry, cache]
    exact holds.uncached i res entry
  · intro i j a b before kindred first second
    rw [entries] at first second
    rw [stored first, stored second] at kindred
    exact holds.ordered i j a b before kindred first second
  · intro i res entry
    rw [entries] at entry
    exact Nat.le_trans (holds.past i res entry) now

/-- Only the clock, the cycles, the flights, and the cache matter. -/
theorem Flights.frame (holds : Flights s) (cycles : next.cycles = s.cycles)
    (opened : next.opened = s.opened) (flight : next.flight = s.flight)
    (cache : next.cache = s.cache) (now : s.now ≤ next.now) : Flights next := by
  -- Time only passes, and the rest is the same.
  refine holds.rebuild (fun j _ => by rw [cycles]) (fun j => by rw [cycles]) cache now ?_ ?_ ?_
  · rw [cycles, opened]
    exact holds.unopened
  · rw [cycles, flight]
    exact holds.flight
  · rw [cycles, opened]
    exact holds.earlier

/-- A cycle replaced by one that reads the same leaves every cycle reading as before. -/
theorem HealthState.setCycle_read {Value : Sort*} (s : HealthState) (i : Nat) (cycle : Cycle)
    (read : Cycle → Value) (same : read cycle = read (s.cycles i)) (j : Nat) :
    read ((s.setCycle i cycle).cycles j) = read (s.cycles j) := by
  -- The cycle that is written reads as before, and the others were not written.
  by_cases here : j = i
  · subst here
    simpa [HealthState.setCycle] using same
  · simp [HealthState.setCycle, here]

/-- A cycle that moves on without storing or retiring leaves the rest in order. -/
theorem Flights.setCycle (holds : Flights s) {i : Nat} {cycle : Cycle}
    (own : cycle.kind = (s.cycles i).kind)
    (busy : cycle.phase = .unopened ↔ (s.cycles i).phase = .unopened)
    (flying : cycle.phase.flying = (s.cycles i).phase.flying)
    (entry : cycle.phase.entry = (s.cycles i).phase.entry) : Flights (s.setCycle i cycle) := by
  -- Every cycle reads as before in the four respects that matter.
  have kinds := s.setCycle_read i cycle Cycle.kind own
  have opens := s.setCycle_read i cycle (fun cycle => cycle.phase = .unopened) (propext busy)
  have flies := s.setCycle_read i cycle (fun cycle => cycle.phase.flying) flying
  have entries := s.setCycle_read i cycle (fun cycle => cycle.phase.entry) entry
  refine holds.rebuild (fun j _ => kinds j) entries rfl (Nat.le_refl _) ?_ ?_ ?_
  · intro j
    rw [opens j]
    exact holds.unopened j
  · intro kind j
    rw [kinds, flies]
    exact holds.flight kind j
  · intro j k before below
    rw [kinds, kinds, flies]
    exact holds.earlier j k before below

/-- A new cycle is opened when none of its kind is flying. -/
theorem Flights.openCycle (holds : Flights s) {kind : Kind} (landed : s.flight kind = none)
    (leader : Nat) : Flights (s.openCycle kind leader) := by
  have here : (s.openCycle kind leader).cycles s.opened =
      { Cycle.blank with kind, leader, phase := .opened } := by
    simp [HealthState.openCycle, HealthState.setCycle]
  have others : ∀ j, j ≠ s.opened → (s.openCycle kind leader).cycles j = s.cycles j := by
    intro j other
    simp [HealthState.openCycle, HealthState.setCycle, other]
  -- The place of the new cycle held no result before, and the new cycle holds none yet.
  have empty : (s.cycles s.opened).phase = .unopened := (holds.unopened _).mp (Nat.le_refl _)
  have entries : ∀ j, ((s.openCycle kind leader).cycles j).phase.entry =
      (s.cycles j).phase.entry := by
    intro j
    by_cases same : j = s.opened
    · subst same
      rw [here, empty]
      rfl
    · rw [others j same]
  have kinds : ∀ j, j < s.opened ∨ ((s.openCycle kind leader).cycles j).phase.entry ≠ none →
      ((s.openCycle kind leader).cycles j).kind = (s.cycles j).kind := by
    intro j known
    have other : j ≠ s.opened := by
      rintro rfl
      simp [here, CyclePhase.entry] at known
    rw [others j other]
  refine holds.rebuild kinds entries rfl (Nat.le_refl _) ?_ ?_ ?_
  · intro j
    show s.opened + 1 ≤ j ↔ _
    by_cases same : j = s.opened
    · subst same
      simp [here]
    · rw [others j same, ← holds.unopened]
      omega
  · intro other j
    show update s.flight kind (some s.opened) other = some j ↔ _
    by_cases same : j = s.opened
    · subst same
      rw [here]
      by_cases own : other = kind
      · simp [own, CyclePhase.flying]
      · -- No flight of another kind has the number of the new cycle.
        have old : s.flight other ≠ some s.opened := by
          intro known
          have flying := ((holds.flight other s.opened).mp known).2
          simp [empty, CyclePhase.flying] at flying
        simp [own, old, Ne.symm own]
    · rw [others j same, ← holds.flight]
      by_cases own : other = kind
      · subst own
        simp [landed, Ne.symm same]
      · simp [own]
  · intro i j before below kindred
    have below : j < s.opened + 1 := below
    rw [others i (by omega)] at kindred ⊢
    by_cases same : j = s.opened
    · -- An open cycle of the kind would have been its flight.
      subst same
      rw [here] at kindred
      by_contra flying
      have known := (holds.flight kind i).mpr ⟨kindred, by simpa using flying⟩
      rw [landed] at known
      cases known
    · rw [others j same] at kindred
      exact holds.earlier i j before (by omega) kindred

/-- One new entry, the last of its kind, is what the cache of that kind then holds. -/
theorem Flights.record (holds : Flights s) {i : Nat} {final : Option Err}
    (kinds : ∀ j, (next.cycles j).kind = (s.cycles j).kind)
    (here : (next.cycles i).phase.entry = some ⟨final, s.now⟩)
    (others : ∀ j, j ≠ i → (next.cycles j).phase.entry = (s.cycles j).phase.entry)
    (later : ∀ j, i < j → (s.cycles j).kind = (s.cycles i).kind →
      (s.cycles j).phase.entry = none)
    (cache : next.cache = update s.cache (s.cycles i).kind (some ⟨final, s.now⟩))
    (now : next.now = s.now)
    (unopened : ∀ i, next.opened ≤ i ↔ (next.cycles i).phase = .unopened)
    (flight : ∀ kind i, next.flight kind = some i ↔
      (next.cycles i).kind = kind ∧ (next.cycles i).phase.flying = true)
    (earlier : ∀ i j, i < j → j < next.opened → (next.cycles i).kind = (next.cycles j).kind →
      (next.cycles i).phase.flying = false) : Flights next := by
  -- Another kind, or another cycle, has what it had.
  refine ⟨unopened, flight, earlier, ?_, ?_, ?_, ?_⟩
  · intro kind res found
    rw [cache] at found
    by_cases own : kind = (s.cycles i).kind
    · -- The cache of this kind now holds the result of this cycle.
      subst own
      obtain rfl : (⟨final, s.now⟩ : CachedResult) = res := by simpa using found
      refine ⟨i, kinds i, here, ?_⟩
      intro j after same
      rw [others j (by omega)]
      exact later j after ((kinds j).symm.trans same)
    · rw [update_other s.cache _ own] at found
      obtain ⟨j, latest⟩ := holds.cached kind res found
      refine ⟨j, latest.keep (fun k _ => kinds k) ?_ (holds.opened_of_entry latest.entry)⟩
      intro k same
      apply others
      rintro rfl
      exact own (same.symm.trans (kinds k))
  · intro j res entry
    rw [kinds, cache]
    by_cases own : (s.cycles j).kind = (s.cycles i).kind
    · simp [own]
    · rw [update_other s.cache _ own]
      have other : j ≠ i := fun same => own (by rw [same])
      rw [others j other] at entry
      exact holds.uncached j res entry
  · intro j k a b before same first second
    rw [kinds, kinds] at same
    by_cases new : k = i
    · -- Whatever was stored before was stored no later than now.
      subst new
      rw [others j (by omega)] at first
      rw [here] at second
      obtain rfl : (⟨final, s.now⟩ : CachedResult) = b := Option.some.inj second
      exact holds.past j a first
    · rw [others k new] at second
      by_cases old : j = i
      · subst old
        rw [later k before same.symm] at second
        cases second
      · rw [others j old] at first
        exact holds.ordered j k a b before same first second
  · intro j res entry
    rw [now]
    by_cases new : j = i
    · subst new
      rw [here] at entry
      obtain rfl : (⟨final, s.now⟩ : CachedResult) = res := Option.some.inj entry
      exact Nat.le_refl _
    · rw [others j new] at entry
      exact holds.past j res entry

/-- A collected result becomes the last one of its kind when it is stored. -/
theorem Flights.store (holds : Flights s) {i : Nat} {final : Option Err}
    (phase : (s.cycles i).phase = .collected final)
    (cycles : next.cycles =
      (s.setCycle i { s.cycles i with phase := .stored final s.now }).cycles)
    (cache : next.cache = update s.cache (s.cycles i).kind (some ⟨final, s.now⟩))
    (opened : next.opened = s.opened) (flight : next.flight = s.flight)
    (now : next.now = s.now) : Flights next := by
  have flying : (s.cycles i).phase.flying = true := by
    rw [phase]
    rfl
  -- Only the entry of this cycle changes, and no later cycle of its kind exists.
  have kinds : ∀ j, (next.cycles j).kind = (s.cycles j).kind := by
    rw [cycles]
    exact s.setCycle_read i _ Cycle.kind rfl
  have opens : ∀ j, ((next.cycles j).phase = .unopened) = ((s.cycles j).phase = .unopened) := by
    rw [cycles]
    exact s.setCycle_read i _ (fun cycle => cycle.phase = .unopened) (by simp [phase])
  have flies : ∀ j, (next.cycles j).phase.flying = (s.cycles j).phase.flying := by
    rw [cycles]
    exact s.setCycle_read i _ (fun cycle => cycle.phase.flying) flying.symm
  have here : (next.cycles i).phase.entry = some ⟨final, s.now⟩ := by
    rw [cycles]
    simp [HealthState.setCycle, CyclePhase.entry]
  have others : ∀ j, j ≠ i → (next.cycles j).phase.entry = (s.cycles j).phase.entry := by
    intro j other
    rw [cycles]
    simp [HealthState.setCycle, other]
  have later : ∀ j, i < j → (s.cycles j).kind = (s.cycles i).kind →
      (s.cycles j).phase.entry = none := by
    intro j after same
    rw [holds.none_after flying after same]
    rfl
  refine holds.record kinds here others later cache now ?_ ?_ ?_
  · intro j
    rw [opens j, opened]
    exact holds.unopened j
  · intro kind j
    rw [kinds, flies, flight]
    exact holds.flight kind j
  · intro j k before below
    rw [kinds, kinds, flies]
    exact holds.earlier j k before (by rwa [← opened])

/-- A flight that is closed leaves none of its kind. -/
theorem Flights.retire (holds : Flights s) {i since : Nat} {final : Option Err}
    (phase : (s.cycles i).phase = .stored final since)
    (cycles : next.cycles =
      (s.setCycle i { s.cycles i with phase := .retired final since }).cycles)
    (flight : next.flight = update s.flight (s.cycles i).kind none)
    (opened : next.opened = s.opened) (cache : next.cache = s.cache)
    (now : next.now = s.now) : Flights next := by
  have kinds : ∀ j, (next.cycles j).kind = (s.cycles j).kind := by
    rw [cycles]
    exact s.setCycle_read i _ Cycle.kind rfl
  have opens : ∀ j, ((next.cycles j).phase = .unopened) = ((s.cycles j).phase = .unopened) := by
    rw [cycles]
    exact s.setCycle_read i _ (fun cycle => cycle.phase = .unopened) (by simp [phase])
  have entries : ∀ j, (next.cycles j).phase.entry = (s.cycles j).phase.entry := by
    rw [cycles]
    exact s.setCycle_read i _ (fun cycle => cycle.phase.entry) (by rw [phase]; rfl)
  have here : (next.cycles i).phase.flying = false := by
    rw [cycles]
    simp [HealthState.setCycle, CyclePhase.flying]
  have others : ∀ j, j ≠ i → (next.cycles j).phase.flying = (s.cycles j).phase.flying := by
    intro j other
    rw [cycles]
    simp [HealthState.setCycle, other]
  refine holds.rebuild (fun j _ => kinds j) entries cache (Nat.le_of_eq now.symm) ?_ ?_ ?_
  · intro j
    rw [opens j, opened]
    exact holds.unopened j
  · intro kind j
    rw [kinds, flight]
    by_cases own : kind = (s.cycles i).kind
    · -- The closed flight was the only one of its kind.
      subst own
      simp only [update_self, reduceCtorEq, false_iff, not_and, Bool.not_eq_true]
      intro same
      by_cases other : j = i
      · rw [other]
        exact here
      · rw [others j other]
        by_contra flying
        have known := (holds.flight _ j).mpr ⟨same, by simpa using flying⟩
        have first := (holds.flight _ i).mpr ⟨rfl, by rw [phase]; rfl⟩
        exact other (Option.some.inj (known.symm.trans first))
    · rw [update_other s.flight _ own, holds.flight]
      have other : (s.cycles j).kind = kind → j ≠ i := by
        rintro same rfl
        exact own same.symm
      constructor
      · rintro ⟨same, flying⟩
        exact ⟨same, by rwa [others j (other same)]⟩
      · rintro ⟨same, flying⟩
        exact ⟨same, by rwa [others j (other same)] at flying⟩
  · intro j k before below same
    rw [kinds, kinds] at same
    by_cases closed : j = i
    · rw [closed]
      exact here
    · rw [others j closed]
      exact holds.earlier j k before (by rwa [← opened]) same

/-- A step of a cycle keeps everything in order. -/
theorem flights_cycle {i : Nat} {action : CycleAction} (moved : CycleMove s i action next)
    (holds : Flights s) : Flights next := by
  -- Two moves change the cache or the flights; the others only advance a flying cycle.
  cases moved with
  | store phase => exact holds.store phase rfl rfl rfl rfl rfl
  | retire phase => exact holds.retire phase rfl rfl rfl rfl rfl
  | snapshot phase =>
    exact holds.setCycle rfl (by simp [phase]) (by rw [phase]; rfl) (by rw [phase]; rfl)
  | collect phase all =>
    exact holds.setCycle rfl (by simp [phase]) (by rw [phase]; rfl) (by rw [phase]; rfl)
  | launch phase present waiting => exact holds.setCycle rfl Iff.rfl rfl rfl
  | finish phase present running => exact holds.setCycle rfl Iff.rfl rfl rfl

/-- A step of a call keeps everything in order. -/
theorem flights_call {c : Nat} {action : CallAction} (moved : CallMove s c action next)
    (holds : Flights s) : Flights next := by
  -- Only leading a cycle touches more than the call itself.
  cases moved with
  | lead phase landed =>
    exact (holds.openCycle landed c).frame rfl rfl rfl rfl (Nat.le_refl _)
  | _ phase => exact holds.frame rfl rfl rfl rfl (Nat.le_refl _)

/-- Everything is in order after every step. -/
theorem flights_step {label : HealthLabel} (taken : healthMachine.step s label = some next)
    (holds : Flights s) : Flights next := by
  -- Calls and cycles were considered on their own, and the other labels do nothing here.
  cases label with
  | call c action => exact flights_call (callStep_move taken) holds
  | cycle i action => exact flights_cycle (cycleStep_move taken) holds
  | tick d =>
    cases taken
    exact holds.frame rfl rfl rfl rfl (Nat.le_add_right _ _)
  | _ =>
    cases taken
    exact holds.frame rfl rfl rfl rfl (Nat.le_refl _)

end Flights

/-- Everything is in order in every state that a run reaches. -/
theorem flights_run {aggregator : Aggregator} {labels : List HealthLabel} {s : HealthState}
    (reached : healthMachine.run (HealthState.init aggregator) labels = some s) : Flights s :=
  healthMachine.run_invariant (flights_init aggregator)
    (fun _ _ _ holds taken => flights_step taken holds) reached

end Bootkit

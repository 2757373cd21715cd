import Bootkit.Healthkit.EvaluateAnswers

/-! How often the hook of an aggregator is called, against how many cycles were run. -/

namespace Bootkit

open Go

/-- A call that entered the flight. -/
structure FlightEntry where
  call : Nat
  kind : Kind
  -- The cycle whose result the call gets.
  cycle : Nat
  -- Whether the call opened the cycle, or found it in flight.
  leads : Bool
  deriving Repr, DecidableEq

/-- A call of the hook, by the call of `evaluate` that made it. -/
structure HookReport where
  call : Nat
  kind : Kind
  duration : Nat
  err : Option Err
  deriving Repr, DecidableEq

/-- The entry into the flight that a step makes. -/
def entered (s : HealthState) : HealthLabel → List FlightEntry
  | .call c .enter =>
    match s.calls c with
    | .missed kind _ =>
      match s.flight kind with
      | some i => [⟨c, kind, i, false⟩]
      | none => [⟨c, kind, s.opened, true⟩]
    | _ => []
  | _ => []

/-- The report that a step makes. -/
def reported (s : HealthState) : HealthLabel → List HookReport
  | .call c .report =>
    match s.calls c with
    | .received kind _ duration err => [⟨c, kind, duration, err⟩]
    | _ => []
  | _ => []

/-- A hook is installed when a call begins. -/
def hookInstalled (s : HealthState) : HealthLabel → Bool
  | .call _ (.arrive _) => s.aggregator.hook
  | _ => true

/-- No call enters the flight while a cycle of its kind is in it. -/
def entersAlone (s : HealthState) : HealthLabel → Bool
  | .call c .enter =>
    match s.calls c with
    | .missed kind _ => (s.flight kind).isNone
    | _ => true
  | _ => true

/-- Whether a call is inside the flight, or back from it without having reported. -/
def CallPhase.inFlight : CallPhase → Bool
  | .waiting _ _ _ | .received _ _ _ _ => true
  | _ => false

/-- Whether a call has returned. -/
def CallPhase.isReturned : CallPhase → Bool
  | .returned _ _ _ => true
  | _ => false

/-- Every call that began has returned. -/
def allReturned (labels : List HealthLabel) (s : HealthState) : Bool :=
  labels.all fun label =>
    match label with
    | .call c (.arrive _) => (s.calls c).isReturned
    | _ => true

/-- How far a call that entered the flight has come. -/
inductive FlightEntry.Stage (reports : List HookReport) (s : HealthState) (e : FlightEntry) : Prop
  | waiting {start : Nat} (phase : s.calls e.call = .waiting e.kind start e.cycle)
  | received {start duration : Nat} {err : Option Err}
      (phase : s.calls e.call = .received e.kind start duration err)
      (answers : s.Answers e.cycle e.kind err)
  | returned {start duration : Nat} {err : Option Err}
      (phase : s.calls e.call = .returned e.kind start err)
      (answers : s.Answers e.cycle e.kind err)
      (told : ⟨e.call, e.kind, duration, err⟩ ∈ reports)

/-- A call that does not move stays where it is, and its report stays made. -/
theorem FlightEntry.Stage.keep {reports : List HookReport} {s next : HealthState} {e : FlightEntry}
    (stage : e.Stage reports s) {label : HealthLabel}
    (taken : healthMachine.step s label = some next) (still : next.calls e.call = s.calls e.call)
    (more : List HookReport) : e.Stage (reports ++ more) next := by
  -- Later steps change neither the answer of the cycle nor the reports so far.
  cases stage with
  | waiting phase => exact .waiting (still.trans phase)
  | received phase answers => exact .received (still.trans phase) (answers.step taken)
  | returned phase answers told =>
    exact .returned (still.trans phase) (answers.step taken) (List.mem_append_left _ told)

/-- A call that entered the flight is past the lookup. -/
theorem FlightEntry.Stage.rank {reports : List HookReport} {s : HealthState} {e : FlightEntry}
    (stage : e.Stage reports s) : 3 ≤ (s.calls e.call).rank := by
  -- All three stages come behind the entry.
  cases stage with
  | waiting phase | received phase | returned phase => simp [phase, CallPhase.rank]

/-- What the entries and the reports so far have to do with the calls and the cycles. -/
structure Ledger (entries : List FlightEntry) (reports : List HookReport) (s : HealthState) :
    Prop where
  -- No call enters twice.
  distinct : (entries.map FlightEntry.call).Nodup
  staged : ∀ e ∈ entries, e.Stage reports s
  -- Whoever is in the flight entered it.
  inside : ∀ c, (s.calls c).inFlight = true → ∃ e ∈ entries, e.call = c
  -- No call reports twice, and only after it came back from the flight.
  once : (reports.map HookReport.call).Nodup
  origin : ∀ r ∈ reports, (s.calls r.call).isReturned = true ∧ ∃ e ∈ entries, e.call = r.call
  -- Each cycle has one leader.
  leaders : (entries.filter FlightEntry.leads).map FlightEntry.cycle = List.range s.opened
  cycles : ∀ e ∈ entries, e.cycle < s.opened ∧ (s.cycles e.cycle).kind = e.kind

section Ledger

variable {entries : List FlightEntry} {reports : List HookReport} {s next : HealthState}
  {label : HealthLabel}

/-- A call that has not come to the flight has not entered it. -/
theorem Ledger.absent (holds : Ledger entries reports s) {c : Nat} (early : (s.calls c).rank < 3)
    {e : FlightEntry} (member : e ∈ entries) : e.call ≠ c := by
  -- Calls move forward only, and this one has not passed the lookup.
  rintro rfl
  have late := (holds.staged e member).rank
  omega

/-- The cycles of the entries stay what they are. -/
theorem Ledger.cycles_kept (holds : Ledger entries reports s)
    (taken : healthMachine.step s label = some next) {e : FlightEntry} (member : e ∈ entries) :
    e.cycle < next.opened ∧ (next.cycles e.cycle).kind = e.kind := by
  -- A cycle that was opened stays opened, with its kind.
  obtain ⟨opened, own⟩ := holds.cycles e member
  obtain ⟨bound, kept, -⟩ := cycle_kept taken opened
  exact ⟨bound, kept.trans own⟩

/-- Steps outside of the flight change neither list. -/
theorem Ledger.frame (holds : Ledger entries reports s)
    (taken : healthMachine.step s label = some next)
    (still : ∀ e ∈ entries, next.calls e.call = s.calls e.call)
    (outside : ∀ c, (next.calls c).inFlight = true → (s.calls c).inFlight = true)
    (opened : next.opened = s.opened) : Ledger entries reports next where
  -- No entry sees its call move.
  distinct := holds.distinct
  staged := fun e member => by
    simpa using (holds.staged e member).keep taken (still e member) []
  inside := fun c flying => holds.inside c (outside c flying)
  once := holds.once
  origin := fun r member => by
    obtain ⟨ended, e, entry, same⟩ := holds.origin r member
    refine ⟨?_, e, entry, same⟩
    rw [← same, still e entry, same]
    exact ended
  leaders := by rw [opened, holds.leaders]
  cycles := fun e member => holds.cycles_kept taken member

/-- A step of a call before the flight changes neither list. -/
theorem Ledger.early (holds : Ledger entries reports s) {c : Nat} {phase : CallPhase}
    (taken : healthMachine.step s label = some (s.setCall c phase))
    (before : (s.calls c).rank < 3) (after : phase.inFlight = false) :
    Ledger entries reports (s.setCall c phase) := by
  -- The call that moves has no entry, so no entry sees the step.
  refine holds.frame taken ?_ ?_ rfl
  · intro e member
    exact update_other s.calls phase (holds.absent before member)
  · intro d flying
    by_cases same : d = c
    · subst same
      simp [HealthState.setCall, after] at flying
    · simpa [HealthState.setCall, same] using flying

/-- A call that enters the flight adds an entry of its own. -/
theorem Ledger.enter (holds : Ledger entries reports s) {e : FlightEntry} {start : Nat}
    (taken : healthMachine.step s label = some next) (before : (s.calls e.call).rank < 3)
    (calls : next.calls = update s.calls e.call (.waiting e.kind start e.cycle))
    (cycles : e.cycle < next.opened ∧ (next.cycles e.cycle).kind = e.kind)
    (leaders : List.range s.opened ++ ([e].filter FlightEntry.leads).map FlightEntry.cycle =
      List.range next.opened) : Ledger (entries ++ [e]) reports next where
  -- The call that enters has no entry yet, so that the others do not see it move.
  distinct := by
    rw [List.map_append, List.nodup_append]
    refine ⟨holds.distinct, List.nodup_singleton _, ?_⟩
    intro c entered other new
    obtain ⟨old, member, rfl⟩ := List.mem_map.mp entered
    rw [List.mem_singleton.mp new]
    exact holds.absent before member
  staged := fun other member => by
    rcases List.mem_append.mp member with old | new
    · have still : next.calls other.call = s.calls other.call := by
        rw [calls]
        exact update_other s.calls _ (holds.absent before old)
      simpa using (holds.staged other old).keep taken still []
    · rw [List.mem_singleton.mp new]
      exact .waiting (by rw [calls, update_self])
  inside := fun c flying => by
    by_cases same : c = e.call
    · exact ⟨e, by simp, same.symm⟩
    · rw [calls, update_other s.calls _ same] at flying
      obtain ⟨old, member, own⟩ := holds.inside c flying
      exact ⟨old, List.mem_append_left _ member, own⟩
  once := holds.once
  origin := fun r member => by
    obtain ⟨ended, old, entry, same⟩ := holds.origin r member
    refine ⟨?_, old, List.mem_append_left _ entry, same⟩
    rw [calls, update_other s.calls _ (same ▸ holds.absent before entry)]
    exact ended
  leaders := by rw [List.filter_append, List.map_append, holds.leaders, leaders]
  cycles := fun other member => by
    rcases List.mem_append.mp member with old | new
    · exact holds.cycles_kept taken old
    · rw [List.mem_singleton.mp new]
      exact cycles

/-- A call in the flight has not reported. -/
theorem Ledger.unreported (holds : Ledger entries reports s) {c : Nat}
    (flying : (s.calls c).inFlight = true) {r : HookReport} (member : r ∈ reports) :
    r.call ≠ c := by
  -- A call has returned when it has reported, and no phase is both.
  rintro rfl
  have ended := (holds.origin r member).1
  cases phase : s.calls r.call <;> simp [phase, CallPhase.inFlight, CallPhase.isReturned]
    at flying ended

/-- A call that moves on from the flight keeps its entry, and may add a report of its own. -/
theorem Ledger.advance (holds : Ledger entries reports s) {c : Nat} {phase : CallPhase}
    {added : List HookReport} (taken : healthMachine.step s label = some next)
    (flying : (s.calls c).inFlight = true) (calls : next.calls = update s.calls c phase)
    (opened : next.opened = s.opened)
    (stage : ∀ e ∈ entries, e.call = c → e.Stage (reports ++ added) next)
    (once : (added.map HookReport.call).Nodup)
    (origin : ∀ r ∈ added, r.call = c ∧ phase.isReturned = true) :
    Ledger entries (reports ++ added) next where
  -- A call in the flight has one entry and no report, so that its report is new.
  distinct := holds.distinct
  staged := fun e member => by
    by_cases same : e.call = c
    · exact stage e member same
    · refine (holds.staged e member).keep taken ?_ added
      rw [calls, update_other s.calls _ same]
  inside := fun d still => by
    by_cases same : d = c
    · rw [same]
      exact holds.inside c flying
    · rw [calls, update_other s.calls _ same] at still
      exact holds.inside d still
  once := by
    rw [List.map_append, List.nodup_append]
    refine ⟨holds.once, once, ?_⟩
    intro d earlier other new
    obtain ⟨old, told, rfl⟩ := List.mem_map.mp earlier
    obtain ⟨r, fresh, rfl⟩ := List.mem_map.mp new
    rw [(origin r fresh).1]
    exact holds.unreported flying told
  origin := fun r member => by
    rcases List.mem_append.mp member with old | new
    · rw [calls, update_other s.calls _ (holds.unreported flying old)]
      exact holds.origin r old
    · obtain ⟨own, ended⟩ := origin r new
      rw [own, calls, update_self]
      exact ⟨ended, holds.inside c flying⟩
  leaders := by rw [opened, holds.leaders]
  cycles := fun e member => holds.cycles_kept taken member

end Ledger

/-- A step of a call keeps the ledger. -/
theorem ledger_call {entries : List FlightEntry} {reports : List HookReport}
    {s next : HealthState} {c : Nat} {action : CallAction} (flights : Flights s)
    (taken : healthMachine.step s (.call c action) = some next)
    (holds : Ledger entries reports s) :
    Ledger (entries ++ entered s (.call c action)) (reports ++ reported s (.call c action))
      next := by
  have moved : CallMove s c action next := callStep_move taken
  cases moved with
  | arrive phase =>
    simp only [entered, reported, List.append_nil]
    exact holds.early taken (by simp [phase, CallPhase.rank]) rfl
  | hit phase fresh | miss phase stale =>
    simp only [entered, reported, List.append_nil]
    exact holds.early taken (by simp [phase, CallPhase.rank]) rfl
  | @follow kind start i phase flying =>
    simp only [entered, reported, phase, flying, List.append_nil]
    obtain ⟨own, open_⟩ := (flights.flight kind i).mp flying
    exact holds.enter taken (by simp [phase, CallPhase.rank]) rfl
      ⟨flights.opened_of_flying open_, own⟩ (by simp [HealthState.setCall])
  | @lead kind start phase landed =>
    simp only [entered, reported, phase, landed, List.append_nil]
    refine holds.enter taken (by simp [phase, CallPhase.rank]) rfl ?_ ?_
    · simp [HealthState.setCall, HealthState.openCycle, HealthState.setCycle]
    · exact List.range_succ.symm
  | @receive kind start i since final phase retired =>
    simp only [entered, List.append_nil]
    refine holds.advance taken (by simp [phase, CallPhase.inFlight]) rfl rfl ?_ ?_ ?_
    · rintro e member rfl
      -- The call waits for the cycle of its entry, which is the one that is retired.
      cases holds.staged e member with
      | waiting waits =>
        obtain ⟨rfl, rfl, rfl⟩ : kind = e.kind ∧ start = _ ∧ i = e.cycle := by
          simpa [phase] using waits
        obtain ⟨opened, own⟩ := holds.cycles e member
        refine .received (update_self _ _ _) ⟨opened, own, ?_⟩
        simp [HealthState.setCall, retired, CyclePhase.final]
      | received other | returned other => simp [phase] at other
    · simp [reported]
    · simp [reported]
  | @report kind start duration err phase =>
    simp only [entered, reported, phase, List.append_nil]
    refine holds.advance taken (by simp [phase, CallPhase.inFlight]) rfl rfl ?_ ?_ ?_
    · rintro e member rfl
      cases holds.staged e member with
      | received came answers =>
        obtain ⟨rfl, rfl, rfl, rfl⟩ : kind = e.kind ∧ start = _ ∧ duration = _ ∧ err = _ := by
          simpa [phase] using came
        exact .returned (update_self _ _ _) ⟨answers.opened, answers.own, answers.final⟩
          (List.mem_append_right _ (List.mem_singleton_self _))
      | waiting other | returned other => simp [phase] at other
    · simp
    · simp [CallPhase.isReturned]

/-- Only a call opens a cycle. -/
theorem opened_frame {s next : HealthState} {label : HealthLabel}
    (taken : healthMachine.step s label = some next) (quiet : ∀ c action, label ≠ .call c action) :
    next.opened = s.opened := by
  -- Cycles are opened by calls only.
  cases label with
  | call c action => exact absurd rfl (quiet c action)
  | cycle i action => cases cycleStep_move taken <;> rfl
  | _ =>
    cases taken
    rfl

/-- The entries into the flight along a schedule. -/
def entriesOf (aggregator : Aggregator) (labels : List HealthLabel) : List FlightEntry :=
  healthMachine.observed entered (HealthState.init aggregator) labels

/-- The reports along a schedule. -/
def reportsOf (aggregator : Aggregator) (labels : List HealthLabel) : List HookReport :=
  healthMachine.observed reported (HealthState.init aggregator) labels

/-- In every run the ledger is kept. -/
theorem ledger_run {aggregator : Aggregator} {labels : List HealthLabel} {s : HealthState}
    (reached : healthMachine.run (HealthState.init aggregator) labels = some s) :
    Ledger (entriesOf aggregator labels) (reportsOf aggregator labels) s := by
  refine healthMachine.run_history
    (fun labels s => Ledger (entriesOf aggregator labels) (reportsOf aggregator labels) s)
    ?_ ?_ labels s reached
  · constructor <;>
      simp [entriesOf, reportsOf, Machine.observed, HealthState.init, CallPhase.inFlight]
  · intro labels s label next prior holds taken
    unfold entriesOf reportsOf
    rw [healthMachine.observed_concat entered prior label,
      healthMachine.observed_concat reported prior label]
    -- Steps of calls were considered on their own; the others make no entry and no report.
    cases label with
    | call c action => exact ledger_call (flights_run prior) taken holds
    | _ =>
      simp only [entered, reported, List.append_nil]
      have still : next.calls = s.calls := calls_frame taken (by simp)
      refine holds.frame taken (by simp [still]) (by simp [still]) ?_
      exact opened_frame taken (by simp)

/-- Nobody uninstalls a hook, and only a report tells it anything. -/
theorem hook_frame {s next : HealthState} {label : HealthLabel}
    (taken : healthMachine.step s label = some next) :
    (s.aggregator.hook = true → next.aggregator.hook = true) ∧
      (s.aggregator.hook = true → next.hooked =
        s.hooked ++ (reported s label).map fun r => (r.kind, r.duration, r.err)) ∧
      (s.aggregator.hook = false → reported s label = [] → next.hooked = s.hooked) := by
  -- Every other step has an empty report and leaves the list of calls alone.
  cases label with
  | call c action =>
    have moved : CallMove s c action next := callStep_move taken
    cases moved with
    | report phase =>
      refine ⟨id, ?_, ?_⟩
      · intro installed
        simp [reported, phase, installed]
      · intro bare
        simp [reported, phase]
    | _ phase => exact ⟨id, fun _ => (List.append_nil _).symm, fun _ _ => rfl⟩
  | cycle i action =>
    have moved : CycleMove s i action next := cycleStep_move taken
    cases moved <;> exact ⟨id, fun _ => (List.append_nil _).symm, fun _ _ => rfl⟩
  | register checks =>
    cases taken
    refine ⟨?_, fun _ => (List.append_nil _).symm, fun _ _ => rfl⟩
    intro installed
    exact (register_frame _ checks).2.trans installed
  | setHook =>
    cases taken
    exact ⟨fun _ => rfl, fun _ => (List.append_nil _).symm, fun _ _ => rfl⟩
  | _ =>
    cases taken
    exact ⟨id, fun _ => (List.append_nil _).symm, fun _ _ => rfl⟩

/-- A hook is installed once a call has begun, and it was told every report. -/
structure Hooked (reports : List HookReport) (s : HealthState) : Prop where
  installed : ∀ c, s.calls c ≠ .idle → s.aggregator.hook = true
  told : s.hooked = reports.map fun r => (r.kind, r.duration, r.err)

/-- A report is made by a call that has begun. -/
theorem reported_begun {s : HealthState} {label : HealthLabel} (made : reported s label ≠ []) :
    ∃ c, s.calls c ≠ .idle := by
  -- Only a call that came back from the flight reports.
  unfold reported at made
  split at made
  · rename_i c
    refine ⟨c, ?_⟩
    intro idle
    simp [idle] at made
  · exact absurd rfl made

/-- Only the step that begins a call moves it out of its first phase. -/
theorem begins {s next : HealthState} {label : HealthLabel} {c : Nat}
    (taken : healthMachine.step s label = some next) (before : s.calls c = .idle)
    (after : next.calls c ≠ .idle) : ∃ kind, label = .call c (.arrive kind) := by
  -- A call is moved by its own steps only, and the first of them begins it.
  by_cases calls : ∃ d action, label = .call d action
  · obtain ⟨d, action, rfl⟩ := calls
    have moved : CallMove s d action next := callStep_move taken
    by_cases same : c = d
    · subst same
      cases moved with
      | arrive phase => exact ⟨_, rfl⟩
      | _ phase => simp [before] at phase
    · rw [moved.others same] at after
      exact absurd before after
  · rw [calls_frame taken fun d action same => calls ⟨d, action, same⟩] at after
    exact absurd before after

/-- If a hook is installed whenever a call begins, then it is told every report. -/
theorem hooked_run {aggregator : Aggregator} {labels : List HealthLabel} {s : HealthState}
    (reached : healthMachine.run (HealthState.init aggregator) labels = some s)
    (installed : healthMachine.Obeys (fun s label => hookInstalled s label = true)
      (HealthState.init aggregator) labels) : Hooked (reportsOf aggregator labels) s := by
  refine healthMachine.run_obeying (fun labels s => Hooked (reportsOf aggregator labels) s)
    ?_ ?_ labels s installed reached
  · constructor <;> simp [reportsOf, Machine.observed, HealthState.init]
  · intro labels s label next prior holds met taken
    -- A hook that was installed when a call began is there when the call reports, so that no report
    -- is lost.
    obtain ⟨kept, told, silent⟩ := hook_frame taken
    constructor
    · intro c begun
      apply kept
      by_cases before : s.calls c = .idle
      · obtain ⟨kind, rfl⟩ := begins taken before begun
        exact met
      · exact holds.installed c before
    · unfold reportsOf
      rw [healthMachine.observed_concat reported prior label, List.map_append]
      have so_far : s.hooked = (reportsOf aggregator labels).map fun r =>
        (r.kind, r.duration, r.err) := holds.told
      unfold reportsOf at so_far
      rw [← so_far]
      cases bare : s.aggregator.hook with
      | true => exact told bare
      | false =>
        have none : reported s label = [] := by
          by_contra made
          obtain ⟨c, begun⟩ := reported_begun made
          rw [holds.installed c begun] at bare
          cases bare
        rw [silent bare none, none]
        simp

/-- A call that has moved began at some step. -/
theorem arrived_run {aggregator : Aggregator} {labels : List HealthLabel} {s : HealthState}
    (reached : healthMachine.run (HealthState.init aggregator) labels = some s) :
    ∀ c, s.calls c ≠ .idle → ∃ kind, .call c (.arrive kind) ∈ labels := by
  -- A call leaves its idle phase by arriving and in no other way.
  refine healthMachine.run_history
    (fun labels s => ∀ c, s.calls c ≠ .idle → ∃ kind, .call c (.arrive kind) ∈ labels)
    ?_ ?_ labels s reached
  · simp [HealthState.init]
  · intro labels s label next _ holds taken c begun
    by_cases before : s.calls c = .idle
    · obtain ⟨kind, rfl⟩ := begins taken before begun
      exact ⟨kind, by simp⟩
    · obtain ⟨kind, member⟩ := holds c before
      exact ⟨kind, List.mem_append_left _ member⟩

/-- What the hook was told: a kind, and an outcome. -/
def outcomeTold (told : Kind × Nat × Option Err) : Kind × Option (Option Err) :=
  (told.1, some told.2.2)

/-- What there is to tell about a cycle: its kind, and its outcome once that is known. -/
def Cycle.outcome (cycle : Cycle) : Kind × Option (Option Err) :=
  (cycle.kind, cycle.phase.final)

/-- The calls that entered the flight while a cycle of their kind was in it. -/
def joinsOf (aggregator : Aggregator) (labels : List HealthLabel) : List FlightEntry :=
  (entriesOf aggregator labels).filter fun e => !e.leads

/-- Once everybody is back, each entry has its report and each report its entry. -/
theorem Ledger.balance {entries : List FlightEntry} {reports : List HookReport} {s : HealthState}
    (holds : Ledger entries reports s) (ended : ∀ c, (s.calls c).inFlight = false) :
    (reports.map fun r => (r.call, r.kind, some r.err)).Perm
      (entries.map fun e => (e.call, (s.cycles e.cycle).outcome)) := by
  -- Nobody enters or reports twice, so it is enough to find each element on the other side.
  have left : (reports.map fun r => (r.call, r.kind, some r.err)).Nodup := by
    apply List.Nodup.of_map Prod.fst
    rw [List.map_map]
    exact holds.once
  have right : (entries.map fun e => (e.call, (s.cycles e.cycle).outcome)).Nodup := by
    apply List.Nodup.of_map Prod.fst
    rw [List.map_map]
    exact holds.distinct
  have settled : ∀ e ∈ entries, ∃ duration err, ⟨e.call, e.kind, duration, err⟩ ∈ reports ∧
      (s.cycles e.cycle).outcome = (e.kind, some err) := by
    intro e member
    cases holds.staged e member with
    | waiting phase | received phase => simpa [phase, CallPhase.inFlight] using ended e.call
    | returned phase answers told =>
      refine ⟨_, _, told, ?_⟩
      rw [Cycle.outcome, answers.own, answers.final]
  refine (List.perm_ext_iff_of_nodup left right).mpr ?_
  intro entry
  simp only [List.mem_map]
  constructor
  · rintro ⟨r, told, rfl⟩
    obtain ⟨-, e, member, same⟩ := holds.origin r told
    obtain ⟨duration, err, found, outcome⟩ := settled e member
    obtain rfl : r = ⟨e.call, e.kind, duration, err⟩ :=
      List.inj_on_of_nodup_map holds.once told found same.symm
    exact ⟨e, member, by rw [outcome]⟩
  · rintro ⟨e, member, rfl⟩
    obtain ⟨duration, err, found, outcome⟩ := settled e member
    exact ⟨_, found, by rw [outcome]⟩

/-- The leaders of the cycles stand for the cycles themselves. -/
theorem Ledger.led {entries : List FlightEntry} {reports : List HookReport} {s : HealthState}
    (holds : Ledger entries reports s) :
    (entries.map fun e => (s.cycles e.cycle).outcome).Perm
      ((List.range s.opened).map (fun i => (s.cycles i).outcome) ++
        (entries.filter fun e => !e.leads).map fun e => (s.cycles e.cycle).outcome) := by
  -- The entries are those of the leaders and those of the others, and the leaders are one for each
  -- cycle.
  have split := (List.filter_append_perm FlightEntry.leads entries).map
    fun e => (s.cycles e.cycle).outcome
  rw [List.map_append] at split
  rw [← holds.leaders, List.map_map]
  exact split.symm

/-- Nobody joined a cycle exactly when everybody found the flight of its kind empty. -/
theorem joinsOf_nil_iff (aggregator : Aggregator) (labels : List HealthLabel) :
    joinsOf aggregator labels = [] ↔
      healthMachine.Obeys (fun s label => entersAlone s label = true)
        (HealthState.init aggregator) labels := by
  have each : ∀ s label, entersAlone s label = true ↔ ∀ e ∈ entered s label, e.leads = true := by
    intro s label
    unfold entersAlone entered
    split
    · split
      · split <;> simp_all
      · simp
    · simp
  -- With each step considered on its own, both sides speak of the steps of one run.
  unfold joinsOf
  rw [List.filter_eq_nil_iff]
  simp only [Bool.not_eq_true', Bool.not_eq_false]
  constructor
  · intro leads before label after s split reached
    rw [each]
    intro e seen
    exact leads e ((healthMachine.mem_observed _ _ _ e).mpr
      ⟨label, s, ⟨before, after, split, reached⟩, seen⟩)
  · intro obeyed e member
    obtain ⟨label, s, ⟨before, after, split, reached⟩, seen⟩ :=
      (healthMachine.mem_observed _ _ _ e).mp member
    exact (each s label).mp (obeyed before label after s split reached) e seen

/-- How often the hook was called for a kind. -/
def hookCalls (s : HealthState) (kind : Kind) : Nat :=
  s.hooked.countP fun told => told.1 = kind

/-- How many cycles of a kind were run. -/
def cyclesRun (s : HealthState) (kind : Kind) : Nat :=
  (List.range s.opened).countP fun i => (s.cycles i).kind = kind

/-- How many cycles of a kind have failed. -/
def cyclesFailed (s : HealthState) (kind : Kind) : Nat :=
  (List.range s.opened).countP fun i =>
    (s.cycles i).kind = kind ∧ (s.cycles i).phase.final.any Option.isSome

/-- An outcome of a kind that is an error. -/
def failedOutcome (kind : Kind) (outcome : Kind × Option (Option Err)) : Bool :=
  outcome.1 = kind ∧ outcome.2.any Option.isSome

/-- Once every call has returned, nobody is in the flight. -/
theorem landed_of_allReturned {aggregator : Aggregator} {labels : List HealthLabel}
    {s : HealthState} (reached : healthMachine.run (HealthState.init aggregator) labels = some s)
    (ended : allReturned labels s = true) (c : Nat) : (s.calls c).inFlight = false := by
  -- A call that never began is in no flight, and one that began has returned.
  by_cases begun : s.calls c = .idle
  · rw [begun]
    rfl
  · obtain ⟨kind, member⟩ := arrived_run reached c begun
    have returned : (s.calls c).isReturned = true := List.all_eq_true.mp ended _ member
    cases phase : s.calls c <;> simp_all [CallPhase.isReturned, CallPhase.inFlight]

/-- What the hook was told is what there is to tell about the cycles and about the joins. -/
theorem hooked_perm {aggregator : Aggregator} {labels : List HealthLabel} {s : HealthState}
    (reached : healthMachine.run (HealthState.init aggregator) labels = some s)
    (installed : healthMachine.Obeys (fun s label => hookInstalled s label = true)
      (HealthState.init aggregator) labels)
    (ended : allReturned labels s = true) :
    (s.hooked.map outcomeTold).Perm
      ((List.range s.opened).map (fun i => (s.cycles i).outcome) ++
        (joinsOf aggregator labels).map fun e => (s.cycles e.cycle).outcome) := by
  -- The hook was told what was reported, the reports balance the entries, and the entries are led.
  have ledger := ledger_run reached
  have told := (hooked_run reached installed).told
  have balance := (ledger.balance (landed_of_allReturned reached ended)).map Prod.snd
  rw [List.map_map, List.map_map] at balance
  refine List.Perm.trans ?_ ledger.led
  rw [told, List.map_map]
  exact balance

end Bootkit

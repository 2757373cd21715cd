import Mathlib.Data.List.Induction

/-! Runs of a machine whose next step is chosen by an outside scheduler. -/

namespace Go

/-- A labelled machine: a label names who moves, and a disabled move has no successor. -/
structure Machine (State Label : Type) where
  -- The successor under one label, when that label is enabled.
  step : State → Label → Option State

namespace Machine

variable {State Label : Type} (machine : Machine State Label)

/-- The state after a whole schedule, provided every one of its labels was enabled. -/
def run : State → List Label → Option State
  | state, [] => some state
  | state, label :: rest => (machine.step state label).bind fun next => run next rest

/-- A schedule of no labels stays where it started. -/
@[simp] theorem run_nil (state : State) : machine.run state [] = some state := rfl

/-- A schedule takes its first label and continues from the successor. -/
theorem run_cons (state : State) (label : Label) (rest : List Label) :
    machine.run state (label :: rest) =
      (machine.step state label).bind fun next => machine.run next rest := rfl

/-- Running a longer schedule continues from the state its first part reached. -/
theorem run_append (state : State) (first second : List Label) :
    machine.run state (first ++ second) =
      (machine.run state first).bind fun middle => machine.run middle second := by
  -- Both sides peel the same labels off the first part.
  induction first generalizing state with
  | nil => rfl
  | cons label rest ih =>
    simp only [List.cons_append, run_cons]
    cases machine.step state label with
    | none => rfl
    | some next => exact ih next

/-- The last label of a schedule is one step from the state before it. -/
theorem run_concat {start finish : State} {labels : List Label} {label : Label}
    (reached : machine.run start (labels ++ [label]) = some finish) :
    ∃ before, machine.run start labels = some before ∧
      machine.step before label = some finish := by
  rw [run_append] at reached
  cases prior : machine.run start labels with
  | none => simp [prior] at reached
  | some before =>
    refine ⟨before, rfl, ?_⟩
    -- One label on its own is a single step followed by the empty schedule.
    cases taken : machine.step before label with
    | none => simp [prior, run_cons, taken] at reached
    | some next =>
      simpa [prior, run_cons, taken] using reached

/-- A concrete schedule can be run to see that it reaches a state with a decidable property. -/
theorem run_observe (start : State) (labels : List Label) (observe : State → Prop)
    [DecidablePred observe]
    (observed : ((machine.run start labels).any fun finish => decide (observe finish)) = true) :
    ∃ finish, machine.run start labels = some finish ∧ observe finish := by
  simpa [Option.any_eq_true] using observed

/-- A schedule takes the label at some point, in the given state. -/
def Took (start : State) (labels : List Label) (label : Label) (state : State) : Prop :=
  ∃ before after, labels = before ++ label :: after ∧ machine.run start before = some state

/-- A schedule takes its first label in the state it starts in, and the others after that step. -/
theorem took_cons {start state : State} {first label : Label} {rest : List Label} :
    machine.Took start (first :: rest) label state ↔
      (label = first ∧ state = start) ∨
        ∃ next, machine.step start first = some next ∧ machine.Took next rest label state := by
  -- The step in question is the first one, or it is taken after it.
  constructor
  · rintro ⟨before, after, split, reached⟩
    cases before with
    | nil =>
      obtain ⟨rfl, -⟩ : first = label ∧ rest = after := by simpa using split
      obtain rfl : start = state := by simpa using reached
      exact .inl ⟨rfl, rfl⟩
    | cons head tail =>
      obtain ⟨rfl, shorter⟩ : first = head ∧ rest = tail ++ label :: after := by
        simpa using split
      rw [run_cons, Option.bind_eq_some_iff] at reached
      obtain ⟨next, taken, reached⟩ := reached
      exact .inr ⟨next, taken, tail, after, shorter, reached⟩
  · rintro (⟨rfl, rfl⟩ | ⟨next, taken, before, after, rfl, reached⟩)
    · exact ⟨[], rest, rfl, rfl⟩
    · refine ⟨first :: before, after, rfl, ?_⟩
      rw [run_cons, taken]
      exact reached

/-- Every step of a schedule meets a condition on the state it is taken in. -/
def Obeys (condition : State → Label → Prop) (start : State) (labels : List Label) : Prop :=
  ∀ before label after state, labels = before ++ label :: after →
    machine.run start before = some state → condition state label

/-- Every schedule obeys no condition. -/
theorem Obeys.always (start : State) (labels : List Label) :
    machine.Obeys (fun _ _ => True) start labels :=
  fun _ _ _ _ _ _ => trivial

/-- A shorter schedule obeys what a longer one does. -/
theorem Obeys.init {condition : State → Label → Prop} {start : State} {labels : List Label}
    {label : Label} (obeyed : machine.Obeys condition start (labels ++ [label])) :
    machine.Obeys condition start labels := by
  -- Whatever happens in a part of the run happens in the run.
  intro before first after state split reached
  exact obeyed before first (after ++ [label]) state (by simp [split]) reached

/-- Whether every step of a schedule meets a decidable condition, up to the first disabled step. -/
def obeys (condition : State → Label → Prop) [∀ state label, Decidable (condition state label)] :
    State → List Label → Bool
  | _, [] => true
  | state, label :: rest =>
    decide (condition state label) && (machine.step state label).all fun next =>
      obeys condition next rest

/-- A concrete schedule can be run to see that it obeys a decidable condition. -/
theorem obeys_iff (condition : State → Label → Prop)
    [∀ state label, Decidable (condition state label)] (start : State) (labels : List Label) :
    machine.obeys condition start labels = true ↔ machine.Obeys condition start labels := by
  -- The steps of a schedule are its first one and those of the rest.
  induction labels generalizing start with
  | nil => simp [obeys, Obeys]
  | cons first rest ih =>
    simp only [obeys, Bool.and_eq_true, decide_eq_true_eq, Option.all_eq_true, ih]
    constructor
    · rintro ⟨met, later⟩ before label after state split reached
      rcases machine.took_cons.mp ⟨before, after, split, reached⟩ with
        ⟨rfl, rfl⟩ | ⟨next, taken, before, after, split, reached⟩
      · exact met
      · exact later next taken before label after state split reached
    · intro obeyed
      refine ⟨obeyed [] first rest start rfl rfl, ?_⟩
      intro next taken before label after state split reached
      obtain ⟨before, after, split, reached⟩ :=
        machine.took_cons.mpr (.inr ⟨next, taken, before, after, split, reached⟩)
      exact obeyed before label after state split reached

/--
A relation between the schedule so far and the state holds after every run that obeys a condition.

The schedule is the history, so the relation may speak of what the environment has done.
-/
theorem run_obeying {condition : State → Label → Prop} {start : State}
    (related : List Label → State → Prop) (initial : related [] start)
    (keeps : ∀ labels state label next, machine.run start labels = some state →
      related labels state → condition state label → machine.step state label = some next →
      related (labels ++ [label]) next) :
    ∀ labels state, machine.Obeys condition start labels →
      machine.run start labels = some state → related labels state := by
  -- The induction is on the end of the schedule, where the most recent step happened.
  intro labels
  induction labels using List.reverseRecOn with
  | nil =>
    intro state _ reached
    obtain rfl : start = state := by simpa using reached
    exact initial
  | append_singleton labels label ih =>
    intro state obeyed reached
    obtain ⟨before, prior, taken⟩ := machine.run_concat reached
    have holds := ih before obeyed.init prior
    exact keeps labels before label state prior holds
      (obeyed labels label [] before rfl prior) taken

/-- A relation between the schedule so far and the state holds after every run. -/
theorem run_history {start : State} (related : List Label → State → Prop)
    (initial : related [] start)
    (keeps : ∀ labels state label next, machine.run start labels = some state →
      related labels state → machine.step state label = some next →
      related (labels ++ [label]) next) :
    ∀ labels state, machine.run start labels = some state → related labels state := by
  -- A run is one that obeys the condition that always holds.
  intro labels state reached
  exact machine.run_obeying related initial
    (fun labels state label next prior holds (_ : True) taken =>
      keeps labels state label next prior holds taken)
    labels state (Obeys.always machine start labels) reached

/-- What every step preserves holds after every run. -/
theorem run_invariant {start finish : State} {invariant : State → Prop}
    (initial : invariant start)
    (keeps : ∀ state label next, invariant state → machine.step state label = some next →
      invariant next)
    {labels : List Label} (reached : machine.run start labels = some finish) :
    invariant finish :=
  -- An invariant is a history relation that ignores the history.
  machine.run_history (fun _ state => invariant state) initial
    (fun _ state label next _ holds taken => keeps state label next holds taken)
    labels finish reached

/-- A machine that another one is embedded in makes every run of it. -/
theorem run_embed {Part PartLabel : Type} {other : Machine Part PartLabel}
    (embed : Part → State) (lift : PartLabel → Label)
    (agrees : ∀ part label next, other.step part label = some next →
      machine.step (embed part) (lift label) = some (embed next))
    {start finish : Part} {labels : List PartLabel}
    (reached : other.run start labels = some finish) :
    machine.run (embed start) (labels.map lift) = some (embed finish) := by
  -- Each label leads both machines to matching successors.
  induction labels generalizing start with
  | nil =>
    cases reached
    rfl
  | cons label rest ih =>
    rw [run_cons, Option.bind_eq_some_iff] at reached
    obtain ⟨next, taken, reached⟩ := reached
    rw [List.map_cons, run_cons, agrees start label next taken]
    exact ih reached

/-- A machine that takes every step of another one makes every run of it. -/
theorem run_weaken {other : Machine State Label}
    (agrees : ∀ state label next, machine.step state label = some next →
      other.step state label = some next)
    {start finish : State} {labels : List Label}
    (reached : machine.run start labels = some finish) : other.run start labels = some finish := by
  simpa using other.run_embed id id agrees reached

/--
A part of a machine that moves like another machine, or not at all, makes runs of that machine.

The schedule of the part is what the erasure keeps of the whole schedule.
-/
theorem run_project {Part PartLabel : Type} {other : Machine Part PartLabel}
    (project : State → Part) (erase : Label → Option PartLabel)
    (follows : ∀ state label next, machine.step state label = some next →
      match erase label with
      | some moved => other.step (project state) moved = some (project next)
      | none => project next = project state)
    {start finish : State} {labels : List Label}
    (reached : machine.run start labels = some finish) :
    other.run (project start) (labels.filterMap erase) = some (project finish) := by
  -- Each label either moves the part or is erased.
  induction labels generalizing start with
  | nil =>
    obtain rfl : start = finish := by simpa using reached
    rfl
  | cons label rest ih =>
    rw [run_cons, Option.bind_eq_some_iff] at reached
    obtain ⟨next, taken, reached⟩ := reached
    have moves := follows start label next taken
    have later := ih reached
    cases erased : erase label with
    | some moved =>
      rw [erased] at moves
      rw [List.filterMap_cons_some erased, run_cons, moves]
      exact later
    | none =>
      rw [erased] at moves
      rw [List.filterMap_cons_none erased, ← moves]
      exact later

/-- A schedule that got through took each of its labels in some state. -/
theorem run_split {start finish : State} {before after : List Label} {label : Label}
    (reached : machine.run start (before ++ label :: after) = some finish) :
    ∃ state next, machine.run start before = some state ∧ machine.step state label = some next ∧
      machine.run next after = some finish := by
  -- A run is run piece by piece.
  rw [run_append, Option.bind_eq_some_iff] at reached
  obtain ⟨state, prior, rest⟩ := reached
  rw [run_cons, Option.bind_eq_some_iff] at rest
  obtain ⟨next, taken, rest⟩ := rest
  exact ⟨state, next, prior, taken, rest⟩

section Took

variable {machine}

/-- What a schedule took, every longer schedule takes. -/
theorem Took.extend {start state : State} {labels : List Label} {label : Label}
    (took : machine.Took start labels label state) (last : Label) :
    machine.Took start (labels ++ [last]) label state := by
  -- The step is where it was.
  obtain ⟨before, after, split, reached⟩ := took
  exact ⟨before, after ++ [last], by simp [split], reached⟩

/-- A schedule takes its last label in the state before it. -/
theorem Took.last {start state : State} {labels : List Label}
    (reached : machine.run start labels = some state) (label : Label) :
    machine.Took start (labels ++ [label]) label state :=
  ⟨labels, [], rfl, reached⟩

/-- A label that a schedule takes further on is the same one, or comes after its step. -/
theorem Took.between {start first second : State} {before rest after later : List Label}
    {one two : Label} (priorOne : machine.run start before = some first)
    (priorTwo : machine.run start (before ++ rest) = some second)
    (tail : one :: after = rest ++ two :: later) :
    (one = two ∧ first = second) ∨ ∃ next between, machine.step first one = some next ∧
      machine.run next between = some second := by
  -- With nothing between them the two are one step; otherwise the second comes after the first.
  cases rest with
  | nil =>
    obtain ⟨rfl, -⟩ : one = two ∧ after = later := by simpa using tail
    rw [List.append_nil, priorOne] at priorTwo
    exact .inl ⟨rfl, Option.some.inj priorTwo⟩
  | cons head between =>
    obtain ⟨rfl, -⟩ : one = head ∧ after = between ++ two :: later := by simpa using tail
    obtain ⟨state, next, prior, taken, rest⟩ := machine.run_split priorTwo
    obtain rfl : state = first := Option.some.inj (prior.symm.trans priorOne)
    exact .inr ⟨next, between, taken, rest⟩

/-- Of two labels that a schedule took, one is the other, or one comes after the other's step. -/
theorem Took.order {start first second : State} {labels : List Label} {one two : Label}
    (tookOne : machine.Took start labels one first)
    (tookTwo : machine.Took start labels two second) :
    (one = two ∧ first = second) ∨
      (∃ next between, machine.step first one = some next ∧
        machine.run next between = some second) ∨
      ∃ next between, machine.step second two = some next ∧
        machine.run next between = some first := by
  obtain ⟨before, after, split, priorOne⟩ := tookOne
  obtain ⟨earlier, later, splitTwo, priorTwo⟩ := tookTwo
  -- What comes before one of them starts with what comes before the other.
  rcases List.append_eq_append_iff.mp (split.symm.trans splitTwo) with
    ⟨rest, rfl, tail⟩ | ⟨rest, rfl, tail⟩
  · rcases Took.between priorOne priorTwo tail with same | second
    · exact .inl same
    · exact .inr (.inl second)
  · rcases Took.between priorTwo priorOne tail with ⟨label, state⟩ | first
    · exact .inl ⟨label.symm, state.symm⟩
    · exact .inr (.inr first)

end Took

/-- A schedule passes through a state, possibly at its very end. -/
def Visited (start : State) (labels : List Label) (state : State) : Prop :=
  ∃ before after, labels = before ++ after ∧ machine.run start before = some state

section Visited

variable {machine}

/-- A schedule ends in a state that it has visited. -/
theorem Visited.here {start state : State} {labels : List Label}
    (reached : machine.run start labels = some state) : machine.Visited start labels state :=
  ⟨labels, [], (List.append_nil labels).symm, reached⟩

/-- A longer schedule visits what a shorter one does. -/
theorem Visited.extend {start state : State} {labels : List Label}
    (visited : machine.Visited start labels state) (label : Label) :
    machine.Visited start (labels ++ [label]) state := by
  -- The state was reached by the same labels.
  obtain ⟨before, after, rfl, reached⟩ := visited
  exact ⟨before, after ++ [label], List.append_assoc _ _ _, reached⟩

end Visited

/-- What an observer of single steps sees along a schedule, up to the first disabled step. -/
def observed {Event : Type} (observe : State → Label → List Event) :
    State → List Label → List Event
  | _, [] => []
  | state, label :: rest =>
    observe state label ++
      ((machine.step state label).map fun next => observed observe next rest).getD []

/-- One more label adds what is seen of its step. -/
theorem observed_concat {Event : Type} (observe : State → Label → List Event) {start : State}
    {labels : List Label} {state : State} (reached : machine.run start labels = some state)
    (label : Label) :
    machine.observed observe start (labels ++ [label]) =
      machine.observed observe start labels ++ observe state label := by
  -- Both sides see the same first step and continue from its successor.
  induction labels generalizing start with
  | nil =>
    obtain rfl : start = state := by simpa using reached
    cases taken : machine.step start label <;> simp [observed, taken]
  | cons first rest ih =>
    rw [run_cons, Option.bind_eq_some_iff] at reached
    obtain ⟨next, taken, reached⟩ := reached
    simp [observed, taken, ih reached]

/-- What is seen along a schedule is what is seen of one of its steps. -/
theorem mem_observed {Event : Type} (observe : State → Label → List Event) (start : State)
    (labels : List Label) (event : Event) :
    event ∈ machine.observed observe start labels ↔
      ∃ label state, machine.Took start labels label state ∧ event ∈ observe state label := by
  -- By induction along the run: an event is shown by the first step or by a later one.
  induction labels generalizing start with
  | nil => simp [observed, Took]
  | cons first rest ih =>
    simp only [observed, List.mem_append]
    constructor
    · rintro (here | later)
      · exact ⟨first, start, machine.took_cons.mpr (.inl ⟨rfl, rfl⟩), here⟩
      · cases taken : machine.step start first with
        | none => simp [taken] at later
        | some next =>
          rw [taken, Option.map_some, Option.getD_some] at later
          obtain ⟨label, state, took, seen⟩ := (ih next).mp later
          exact ⟨label, state, machine.took_cons.mpr (.inr ⟨next, taken, took⟩), seen⟩
    · rintro ⟨label, state, took, seen⟩
      rcases machine.took_cons.mp took with ⟨rfl, rfl⟩ | ⟨next, taken, took⟩
      · exact .inl seen
      · rw [taken, Option.map_some, Option.getD_some]
        exact .inr ((ih next).mpr ⟨label, state, took, seen⟩)

/--
A machine whose steps are seen as steps of another one, or as none, makes runs of that machine.

The schedule of the other machine is what an observer of single steps sees of this one.
-/
theorem run_simulates {Other Event : Type} {other : Machine Other Event}
    (observe : State → Label → List Event) (related : State → Other → Prop) {start : State}
    {origin : Other} (initial : related start origin)
    (follows : ∀ labels state label next seen, machine.run start labels = some state →
      related state seen → machine.step state label = some next →
      ∃ moved, other.run seen (observe state label) = some moved ∧ related next moved)
    {labels : List Label} {finish : State} (reached : machine.run start labels = some finish) :
    ∃ seen, other.run origin (machine.observed observe start labels) = some seen ∧
      related finish seen := by
  -- The other machine runs what was observed, one step's observation after the other.
  refine machine.run_history
    (fun labels state => ∃ seen, other.run origin (machine.observed observe start labels) =
      some seen ∧ related state seen) ⟨origin, rfl, initial⟩ ?_ labels finish reached
  intro labels state label next prior holds taken
  obtain ⟨seen, ran, agrees⟩ := holds
  obtain ⟨moved, more, agrees⟩ := follows labels state label next seen prior agrees taken
  refine ⟨moved, ?_, agrees⟩
  rw [machine.observed_concat observe prior, run_append, ran]
  exact more

/-- A rank that no step lowers is not lowered by a run. -/
theorem run_rank (rank : State → Nat)
    (grows : ∀ state label next, machine.step state label = some next → rank state ≤ rank next)
    {start finish : State} {labels : List Label}
    (reached : machine.run start labels = some finish) : rank start ≤ rank finish :=
  machine.run_history (fun _ state => rank start ≤ rank state) (Nat.le_refl _)
    (fun _ state label next _ held taken => Nat.le_trans held (grows state label next taken))
    labels finish reached

section Work

variable {machine} {invariant goal : State → Prop} {rank : State → Nat} {paid : Label → Bool}

/-- Every paid step lowers the rank by at least one, and no step raises it. -/
def Spends (machine : Machine State Label) (invariant : State → Prop) (rank : State → Nat)
    (paid : Label → Bool) : Prop :=
  ∀ state label next, invariant state → machine.step state label = some next →
    invariant next ∧ rank next + (paid label).toNat ≤ rank state

/-- A schedule takes at most as many paid steps as the rank it starts with. -/
theorem Spends.bound (spends : machine.Spends invariant rank paid) {start finish : State}
    {labels : List Label} (initial : invariant start)
    (reached : machine.run start labels = some finish) :
    rank finish + labels.countP paid ≤ rank start := by
  -- By induction along the run; each paid step lowers the rank by one at least.
  induction labels generalizing start with
  | nil =>
    obtain rfl : start = finish := by simpa using reached
    simp
  | cons label rest ih =>
    rw [run_cons, Option.bind_eq_some_iff] at reached
    obtain ⟨next, taken, reached⟩ := reached
    obtain ⟨kept, spent⟩ := spends start label next initial taken
    have later := ih kept reached
    rw [List.countP_cons]
    cases pays : paid label with
    | true =>
      rw [pays, Bool.toNat_true] at spent
      simp only [if_true]
      omega
    | false =>
      rw [pays, Bool.toNat_false] at spent
      simp only [Bool.false_eq_true, if_false]
      omega

/-- Where a paid step is possible outside the goal, paid steps alone lead to it. -/
theorem Spends.reaches (spends : machine.Spends invariant rank paid)
    (enabled : ∀ state, invariant state → ¬ goal state →
      ∃ label next, paid label = true ∧ machine.step state label = some next)
    {start : State} (initial : invariant start) :
    ∃ labels finish, (∀ label ∈ labels, paid label = true) ∧
      machine.run start labels = some finish ∧ goal finish := by
  -- The rank falls with every step, so the steps run out, and then the goal holds.
  induction height : rank start using Nat.strongRecOn generalizing start with
  | _ height ih =>
    by_cases there : goal start
    · exact ⟨[], start, by simp, rfl, there⟩
    · obtain ⟨label, next, pays, taken⟩ := enabled start initial there
      obtain ⟨kept, spent⟩ := spends start label next initial taken
      rw [pays, Bool.toNat_true] at spent
      obtain ⟨labels, finish, all, reached, met⟩ := ih (rank next) (by omega) kept rfl
      refine ⟨label :: labels, finish, ?_, ?_, met⟩
      · simpa [pays] using all
      · rw [run_cons, taken]
        exact reached

end Work

end Machine

/-- One position of an indexed family replaced. -/
def update {Index Value : Type} [DecidableEq Index] (family : Index → Value) (at_ : Index)
    (value : Value) : Index → Value :=
  fun index => if index = at_ then value else family index

/-- The replaced position reads as its new value. -/
@[simp] theorem update_self {Index Value : Type} [DecidableEq Index] (family : Index → Value)
    (at_ : Index) (value : Value) : update family at_ value at_ = value := by
  simp [update]

/-- Every other position reads as before. -/
@[simp] theorem update_other {Index Value : Type} [DecidableEq Index] (family : Index → Value)
    {at_ index : Index} (value : Value) (other : index ≠ at_) :
    update family at_ value index = family index := by
  simp [update, other]

/-- Appending to one list of a family adds elements to that list only. -/
theorem mem_update_append {Index Element : Type} [DecidableEq Index]
    {family : Index → List Element} {at_ index : Index} {added : List Element} {element : Element}
    (member : element ∈ update family at_ (family at_ ++ added) index) :
    element ∈ family index ∨ index = at_ ∧ element ∈ added := by
  -- Only one list has grown.
  by_cases here : index = at_
  · subst here
    rw [update_self] at member
    exact (List.mem_append.mp member).imp id fun new => ⟨rfl, new⟩
  · rw [update_other _ _ here] at member
    exact .inl member

/-- What is seen of a family stays the same if it does at the replaced position. -/
theorem update_seen {Index Value Seen : Type} [DecidableEq Index] (seen : Value → Seen)
    {family : Index → Value} {at_ : Index} {value : Value}
    (agree : seen value = seen (family at_)) (index : Index) :
    seen (update family at_ value index) = seen (family index) := by
  -- The value written is seen as the one it replaces.
  by_cases same : index = at_
  · subst same
    rw [update_self, agree]
  · rw [update_other family value same]

end Go

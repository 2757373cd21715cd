import Bootkit.Go.Machine

/-! One machine composed with an indexed family of parts that share some of its steps. -/

namespace Go

namespace Machine

variable {State Label : Type} (machine : Machine State Label)

/-- One optional step: a label that does not concern the machine leaves it where it is. -/
def advance (state : State) : Option Label → Option State
  | none => some state
  | some label => machine.step state label

/-- A label of somebody else changes nothing. -/
@[simp] theorem advance_none (state : State) : machine.advance state none = some state := rfl

/-- A label of its own is a step. -/
@[simp] theorem advance_some (state : State) (label : Label) :
    machine.advance state (some label) = machine.step state label := rfl

end Machine

/-- The state of a main machine and of every part beside it. -/
structure Whole (State Index Part : Type) where
  main : State
  parts : Index → Part

/-- Which steps of the main machine and of a part one label of the whole stands for. -/
structure Wiring (State Label Index Part PartLabel Joint : Type) where
  main : Joint → Option Label
  part : Joint → Option (Index × PartLabel)
  -- What both sides have to agree on before the label can be taken.
  agree : Whole State Index Part → Joint → Bool

namespace Wiring

variable {State Label Index Part PartLabel Joint : Type} [DecidableEq Index]
  (wiring : Wiring State Label Index Part PartLabel Joint)
  (machine : Machine State Label) (part : Machine Part PartLabel)

/-- What a label means to one part. -/
def partAt (index : Index) (joint : Joint) : Option PartLabel :=
  match wiring.part joint with
  | some (at_, label) => if at_ = index then some label else none
  | none => none

/-- One step of the part that a label concerns, if it concerns any. -/
def advanceParts (parts : Index → Part) (joint : Joint) : Option (Index → Part) :=
  match wiring.part joint with
  | some (index, label) => (part.step (parts index) label).map (update parts index)
  | none => some parts

/-- The machine in which both sides take their steps of a shared label at once. -/
def composed : Machine (Whole State Index Part) Joint where
  step whole joint :=
    if wiring.agree whole joint then
      (machine.advance whole.main (wiring.main joint)).bind fun main =>
        (wiring.advanceParts part whole.parts joint).map fun parts => ⟨main, parts⟩
    else none

variable {wiring machine part}

/-- A label means something to a part exactly when it concerns that part. -/
theorem partAt_eq_some {index : Index} {joint : Joint} {label : PartLabel} :
    wiring.partAt index joint = some label ↔ wiring.part joint = some (index, label) := by
  -- The joint label concerns this part, another one, or none.
  unfold partAt
  split
  · rename_i at_ inner concerns
    by_cases same : at_ = index <;> simp [same, concerns]
  · rename_i concerns
    simp [concerns]

/-- A label that concerns a part is a step of that part. -/
theorem advanceParts_concerned {parts next : Index → Part} {joint : Joint} {index : Index}
    {label : PartLabel} (concerns : wiring.part joint = some (index, label))
    (taken : wiring.advanceParts part parts joint = some next) :
    ∃ moved, part.step (parts index) label = some moved ∧ update parts index moved = next := by
  simpa [advanceParts, concerns] using taken

/-- A label that concerns no part moves none. -/
theorem advanceParts_unconcerned {parts next : Index → Part} {joint : Joint}
    (concerns : wiring.part joint = none)
    (taken : wiring.advanceParts part parts joint = some next) : parts = next := by
  simpa [advanceParts, concerns] using taken

/-- Moving the parts moves each one as the label says. -/
theorem advanceParts_at {parts next : Index → Part} {joint : Joint}
    (taken : wiring.advanceParts part parts joint = some next) (index : Index) :
    part.advance (parts index) (wiring.partAt index joint) = some (next index) := by
  cases concerns : wiring.part joint with
  | none =>
    obtain rfl := advanceParts_unconcerned concerns taken
    simp [partAt, concerns]
  | some pair =>
    obtain ⟨at_, label⟩ := pair
    obtain ⟨moved, stepped, rfl⟩ := advanceParts_concerned concerns taken
    -- The part that the label names takes the step, and the others stay.
    by_cases same : at_ = index
    · subst same
      simp [partAt, concerns, stepped]
    · simp [partAt, concerns, same, update_other parts moved (Ne.symm same)]

/-- A step of the whole is one that both sides agree on and take. -/
theorem composed_step {whole next : Whole State Index Part} {joint : Joint}
    (taken : (wiring.composed machine part).step whole joint = some next) :
    wiring.agree whole joint = true ∧
      machine.advance whole.main (wiring.main joint) = some next.main ∧
      wiring.advanceParts part whole.parts joint = some next.parts := by
  -- A joint step is taken when the wiring agrees, and then on both sides at once.
  simp only [composed] at taken
  split at taken
  · rename_i agreed
    rw [Option.bind_eq_some_iff] at taken
    obtain ⟨main, moved, taken⟩ := taken
    rw [Option.map_eq_some_iff] at taken
    obtain ⟨parts, stepped, rfl⟩ := taken
    exact ⟨agreed, moved, stepped⟩
  · cases taken

/-- A label is enabled when both sides agree and each can take its step of it. -/
theorem composed_enabled {whole : Whole State Index Part} {joint : Joint}
    (agreed : wiring.agree whole joint = true)
    (main : (machine.advance whole.main (wiring.main joint)).isSome = true)
    (parts : (wiring.advanceParts part whole.parts joint).isSome = true) :
    ((wiring.composed machine part).step whole joint).isSome = true := by
  -- Both sides can move, and the wiring agrees.
  obtain ⟨next, moved⟩ := Option.isSome_iff_exists.mp main
  obtain ⟨others, stepped⟩ := Option.isSome_iff_exists.mp parts
  simp [composed, agreed, moved, stepped]

/-- A run of the whole is a run of the main machine. -/
theorem composed_main_run {start finish : Whole State Index Part} {joints : List Joint}
    (reached : (wiring.composed machine part).run start joints = some finish) :
    machine.run start.main (joints.filterMap wiring.main) = some finish.main := by
  -- A joint step is one step of the main machine or leaves it alone.
  refine (wiring.composed machine part).run_project Whole.main wiring.main ?_ reached
  intro whole joint next taken
  obtain ⟨-, moved, -⟩ := composed_step taken
  cases own : wiring.main joint with
  | some label => simpa [own] using moved
  | none => simpa [own, eq_comm] using moved

/-- A run of the whole is a run of each part. -/
theorem composed_part_run (index : Index) {start finish : Whole State Index Part}
    {joints : List Joint}
    (reached : (wiring.composed machine part).run start joints = some finish) :
    part.run (start.parts index) (joints.filterMap (wiring.partAt index)) =
      some (finish.parts index) := by
  -- The same for the part in question.
  refine (wiring.composed machine part).run_project (fun whole => whole.parts index)
    (wiring.partAt index) ?_ reached
  intro whole joint next taken
  have moved := advanceParts_at (composed_step taken).2.2 index
  cases own : wiring.partAt index joint with
  | some label => simpa [own] using moved
  | none => simpa [own, eq_comm] using moved

end Wiring

end Go

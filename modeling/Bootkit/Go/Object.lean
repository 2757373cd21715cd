import Mathlib.Data.List.Induction

/-! Objects that answer calls one after the other, and when one can stand in for another. -/

namespace Go

/-- What an object answers to a call, and the state in which it is afterwards. -/
structure Object (State Call Reply : Type) where
  call : State → Call → State × Reply

namespace Object

variable {State Call Reply : Type} (object : Object State Call Reply)

/-- The state after a sequence of calls, and what was answered to each. -/
def run : State → List Call → State × List Reply
  | state, [] => (state, [])
  | state, call :: rest =>
    let (next, reply) := object.call state call
    let (final, replies) := run next rest
    (final, reply :: replies)

/-- The last call of a sequence is answered in the state before it. -/
theorem run_concat (state : State) (calls : List Call) (last : Call) :
    (object.run state (calls ++ [last])).1 = (object.call (object.run state calls).1 last).1 := by
  -- By induction on the calls before.
  induction calls generalizing state with
  | nil => rfl
  | cons call rest ih => exact ih (object.call state call).1

/-- A relation between the calls so far and the state holds after every sequence of calls. -/
theorem run_history {start : State} (related : List Call → State → Prop)
    (initial : related [] start)
    (keeps : ∀ calls state call, (object.run start calls).1 = state → related calls state →
      related (calls ++ [call]) (object.call state call).1) :
    ∀ calls, related calls (object.run start calls).1 := by
  -- By induction from the end, because the relation speaks of all calls so far.
  intro calls
  induction calls using List.reverseRecOn with
  | nil => exact initial
  | append_singleton calls last ih =>
    rw [run_concat]
    exact keeps calls _ last rfl ih

variable {object}

/--
Objects in related states give the same answers for ever if they do so once and stay related.

Only the allowed calls are compared.
-/
theorem run_simulates {Other : Type} {other : Object Other Call Reply} (allowed : Call → Prop)
    (related : State → Other → Prop)
    (keeps : ∀ state there call, allowed call → related state there →
      (object.call state call).2 = (other.call there call).2 ∧
        related (object.call state call).1 (other.call there call).1)
    {state : State} {there : Other} (start : related state there) (calls : List Call)
    (fine : ∀ call ∈ calls, allowed call) :
    (object.run state calls).2 = (other.run there calls).2 ∧
      related (object.run state calls).1 (other.run there calls).1 := by
  -- By induction along the calls; related states answer alike and stay related.
  induction calls generalizing state there with
  | nil => exact ⟨rfl, start⟩
  | cons call rest ih =>
    obtain ⟨same, next⟩ := keeps state there call (fine call (by simp)) start
    obtain ⟨later, final⟩ := ih next fun other member => fine other (by simp [member])
    refine ⟨?_, final⟩
    simp only [run]
    rw [same, later]

end Object

end Go

import Mathlib.Data.List.Basic
import Bootkit.Go.Machine

/-! Traces of events, and the part of a trace that belongs to one thread. -/

namespace Go

/-- Projecting an extended trace appends what the new event projects to. -/
theorem filterMap_concat {Event Shown : Type} (project : Event → Option Shown)
    (trace : List Event) (event : Event) :
    (trace ++ [event]).filterMap project = trace.filterMap project ++ (project event).toList := by
  -- The new event is shown last or not at all.
  rw [List.filterMap_append]
  cases seen : project event <;> simp [seen]

/-- A fold that only appends to one of its fields shows there what the events append, in order. -/
theorem foldl_appends {State Event Shown : Type} {grow : State → Event → State}
    {field : State → List Shown} {added : Event → Option Shown}
    (appends : ∀ state event, field (grow state event) = field state ++ (added event).toList)
    (trace : List Event) (state : State) :
    field (trace.foldl grow state) = field state ++ trace.filterMap added := by
  -- The first event appends its part, and the rest is folded from there.
  induction trace generalizing state with
  | nil => simp
  | cons event rest ih =>
    rw [List.foldl_cons, ih, appends, List.append_assoc]
    cases shown : added event <;> simp [shown]

section Tracks

variable {Index Phase Event Shown : Type}

/--
The events of each thread are exactly what its current phase shows.

The projection picks a thread's events, and a phase of it shows at most one of them.
-/
def Tracks (project : Index → Event → Option Shown) (shown : Index → Phase → Option Shown)
    (phases : Index → Phase) (trace : List Event) : Prop :=
  ∀ index, trace.filterMap (project index) = (shown index (phases index)).toList

variable {project : Index → Event → Option Shown} {shown : Index → Phase → Option Shown}
  {phases : Index → Phase} {trace : List Event}

/-- An event of no thread leaves every projection as it was. -/
theorem Tracks.silent (tracks : Tracks project shown phases trace) {event : Event}
    (unseen : ∀ index, project index event = none) :
    Tracks project shown phases (trace ++ [event]) := by
  -- No index sees the event.
  intro index
  rw [filterMap_concat, unseen index, Option.toList_none, List.append_nil, tracks index]

variable [DecidableEq Index]

/-- A thread may change to a phase that shows the same. -/
theorem Tracks.shift (tracks : Tracks project shown phases trace) {index : Index} {phase : Phase}
    (same : shown index phase = shown index (phases index)) :
    Tracks project shown (update phases index phase) trace := by
  -- The trace is unchanged, and the new phase shows what the old one did.
  intro other
  by_cases moved : other = index
  · subst moved
    rw [update_self, same, tracks other]
  · rw [update_other phases phase moved, tracks other]

/-- A thread may change phase together with the one event its new phase adds. -/
theorem Tracks.move (tracks : Tracks project shown phases trace) {index : Index} {phase : Phase}
    {event : Event} (own : ∀ other, other ≠ index → project other event = none)
    (grown : (shown index phase).toList =
      (shown index (phases index)).toList ++ (project index event).toList) :
    Tracks project shown (update phases index phase) (trace ++ [event]) := by
  intro other
  by_cases moved : other = index
  · subst moved
    rw [update_self, grown, filterMap_concat, tracks other]
  · -- The event belongs to the thread that moved, so no other projection sees it.
    rw [update_other phases phase moved, filterMap_concat, own other moved, Option.toList_none,
      List.append_nil, tracks other]

end Tracks

/-- A split of an extended list either ends at the new element or splits the old list. -/
theorem split_concat {Event : Type} {trace before after : List Event} {last event : Event}
    (split : trace ++ [last] = before ++ event :: after) :
    (before = trace ∧ event = last ∧ after = []) ∨
      ∃ rest, after = rest ++ [last] ∧ trace = before ++ event :: rest := by
  rcases List.eq_nil_or_concat after with rfl | ⟨rest, final, rfl⟩
  · -- The singled-out event is the last one.
    obtain ⟨same, ends⟩ := List.append_inj' split rfl
    exact .inl ⟨same.symm, (List.cons.inj ends).1.symm, rfl⟩
  · right
    rw [List.concat_eq_append] at split ⊢
    rw [← List.cons_append, ← List.append_assoc] at split
    obtain ⟨same, ends⟩ := List.append_inj' split rfl
    rw [(List.cons.inj ends).1]
    exact ⟨rest, rfl, same⟩

/-- What one position of a collection adds is added to the whole, up to order. -/
theorem flatMap_grow {Index Event : Type} {indices : List Index} (distinct : indices.Nodup)
    {here : Index} (present : here ∈ indices) {old new : Index → List Event} {added : List Event}
    (grown : new here = old here ++ added)
    (others : ∀ other ∈ indices, other ≠ here → new other = old other) :
    (indices.flatMap new).Perm (indices.flatMap old ++ added) := by
  -- The position splits the collection, and neither side of it contains the position again.
  obtain ⟨before, after, rfl⟩ := List.append_of_mem present
  rw [List.nodup_append, List.nodup_cons] at distinct
  obtain ⟨-, ⟨notAfter, -⟩, apart⟩ := distinct
  have left : before.flatMap new = before.flatMap old := by
    apply List.flatMap_congr
    intro other member
    exact others other (List.mem_append_left _ member) (apart other member here (by simp))
  have right : after.flatMap new = after.flatMap old := by
    apply List.flatMap_congr
    intro other member
    refine others other (by simp [member]) ?_
    rintro rfl
    exact notAfter member
  simp only [List.flatMap_append, List.flatMap_cons, left, right, grown, List.append_assoc]
  apply List.Perm.append_left
  apply List.Perm.append_left
  exact List.perm_append_comm

end Go

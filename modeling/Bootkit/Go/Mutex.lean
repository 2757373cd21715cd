import Bootkit.Go.Machine

/-! A mutex is held by exactly the party that is inside its critical section. -/

namespace Go

section Mutex

variable {Party : Type}

/-- The holder of a mutex is the one party inside the section that it guards. -/
def Guards (holder : Option Party) (inside : Party → Bool) : Prop :=
  ∀ party, inside party = true ↔ holder = some party

/-- Locking a free mutex puts one party inside. -/
theorem Guards.lock {inside entered : Party → Bool} {party : Party}
    (guarded : Guards none inside) (own : entered party = true)
    (others : ∀ other, other ≠ party → entered other = inside other) :
    Guards (some party) entered := by
  intro other
  by_cases same : other = party
  · subst same
    simp [own]
  · -- Nobody was inside while the mutex was free.
    have outside := guarded other
    rw [others other same]
    simp only [reduceCtorEq, iff_false] at outside
    simp [outside, Ne.symm same]

/-- Unlocking takes the holder out and leaves nobody inside. -/
theorem Guards.unlock {inside left : Party → Bool} {party : Party}
    (guarded : Guards (some party) inside) (own : left party = false)
    (others : ∀ other, other ≠ party → left other = inside other) : Guards none left := by
  -- Whoever else was inside would have been the holder.
  intro other
  by_cases same : other = party
  · subst same
    simp [own]
  · have outside := guarded other
    rw [others other same]
    simp only [Option.some.injEq, Ne.symm same, iff_false] at outside
    simp [outside]

/-- A step that neither locks nor unlocks keeps the guard. -/
theorem Guards.stay {holder : Option Party} {inside after : Party → Bool}
    (guarded : Guards holder inside) (same : ∀ party, after party = inside party) :
    Guards holder after := by
  -- Membership is the same party by party.
  intro party
  rw [same party]
  exact guarded party

end Mutex

end Go

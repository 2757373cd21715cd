import Bootkit.Go.Machine

/-! The arrays behind slices, and what writing to one of them leaves alone. -/

namespace Go

/-- The arrays that were allocated, each with its cells. -/
structure Heap (Elem : Type) where
  cells : Nat → List Elem
  allocated : Nat

/-- A slice from the first cell of an array on; the nil slice has no array. -/
structure Slice where
  array : Option Nat
  length : Nat
  deriving Repr, DecidableEq

/-- The nil slice. -/
def Slice.nil : Slice := ⟨none, 0⟩

namespace Heap

variable {Elem : Type} {heap next : Heap Elem} {slice : Slice} {array place : Nat} {value : Elem}

/-- No array was allocated yet. -/
def empty : Heap Elem where
  cells := fun _ => []
  allocated := 0

/-- A new array, all of whose cells hold the zero value. -/
def alloc (heap : Heap Elem) (size : Nat) (zero : Elem) : Heap Elem where
  cells := update heap.cells heap.allocated (List.replicate size zero)
  allocated := heap.allocated + 1

/-- One cell written. -/
def write (heap : Heap Elem) (array place : Nat) (value : Elem) : Heap Elem :=
  { heap with cells := update heap.cells array ((heap.cells array).set place value) }

/-- How many elements the array of a slice has room for. -/
def capacity (heap : Heap Elem) (slice : Slice) : Nat :=
  match slice.array with
  | none => 0
  | some array => (heap.cells array).length

/-- The array of a slice, if it has room for one more element. -/
def room (heap : Heap Elem) (slice : Slice) : Option Nat :=
  slice.array.filter fun array => slice.length < (heap.cells array).length

/-- The elements of a slice. -/
def read (heap : Heap Elem) (slice : Slice) : List Elem :=
  match slice.array with
  | none => []
  | some array => (heap.cells array).take slice.length

/-- An array with room is the one of the slice. -/
theorem room_eq_some :
    heap.room slice = some array ↔
      slice.array = some array ∧ slice.length < (heap.cells array).length := by
  simp [room]

/-- A slice has as many elements as it says, if its array has room for them. -/
theorem read_length (fits : slice.length ≤ heap.capacity slice) :
    (heap.read slice).length = slice.length := by
  -- A slice within its array has a cell for each of its places.
  unfold read
  unfold capacity at fits
  cases here : slice.array with
  | none => simp_all
  | some array => simp_all

/-- What a slice reads is settled by the cells of its array. -/
theorem read_congr
    (same : ∀ array, slice.array = some array → next.cells array = heap.cells array) :
    next.read slice = heap.read slice := by
  -- Only the array of the slice is read.
  unfold read
  split
  · rfl
  · rename_i array here
    rw [same array here]

/-- How much room a slice has is settled by the cells of its array. -/
theorem capacity_congr
    (same : ∀ array, slice.array = some array → next.cells array = heap.cells array) :
    next.capacity slice = heap.capacity slice := by
  -- Only the array of the slice is measured.
  unfold capacity
  split
  · rfl
  · rename_i array here
    rw [same array here]

/-- A new array changes none of those that were there. -/
theorem alloc_other (size : Nat) (zero : Elem) (older : array < heap.allocated) :
    (heap.alloc size zero).cells array = heap.cells array :=
  update_other heap.cells _ (Nat.ne_of_lt older)

/-- A new array has the room that it was asked for. -/
@[simp] theorem alloc_self (size : Nat) (zero : Elem) :
    (heap.alloc size zero).cells heap.allocated = List.replicate size zero :=
  update_self heap.cells _ _

/-- Writing to one array changes no other. -/
theorem write_other {other : Nat} (apart : other ≠ array) :
    (heap.write array place value).cells other = heap.cells other :=
  update_other heap.cells _ apart

/-- Writing to an array does not change its size. -/
@[simp] theorem write_length :
    ((heap.write array place value).cells array).length = (heap.cells array).length := by
  simp [write]

/-- Writing behind the end of a slice and taking the cell in appends the value. -/
theorem read_write_next (room : place < (heap.cells array).length) :
    (heap.write array place value).read ⟨some array, place + 1⟩ =
      heap.read ⟨some array, place⟩ ++ [value] := by
  -- The cells before the written one are as before, and the last one is the value.
  simp only [read, write, update_self]
  rw [List.take_add_one, List.take_set_of_le (Nat.le_refl place)]
  simp [room]

end Heap

end Go

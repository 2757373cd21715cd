import Bootkit.Core.TraceHandlerSlices

/-! Handlers derived at the same time never touch each other's operations. -/

namespace Bootkit

open Go

section

variable {Handler Value : Type}

/-- The steps of a call, as a relation between states. -/
inductive DeriveMove (s : DeriveState Handler Value) (c : Nat) :
    DeriveAction Value → DeriveState Handler Value → Prop
  | begin {parent : Nat} {call : HandlerCall Value} (phase : s.calls c = .idle)
      (known : parent < s.handlers.length) :
    DeriveMove s c (.begin parent call) (s.setCall c (.called parent call))
  | skip {size parent : Nat} {call : HandlerCall Value} (phase : s.calls c = .called parent call)
      (nothing : (s.inherited parent).length = 0) :
    DeriveMove s c (.allocate size) (s.setCall c (.copied parent call .nil))
  | allocate {size parent : Nat} {call : HandlerCall Value}
      (phase : s.calls c = .called parent call) (enough : (s.inherited parent).length ≤ size) :
    DeriveMove s c (.allocate size)
      { s.setCall c (.copying parent call s.heap.allocated 0) with
        heap := s.heap.alloc size (zeroOp Value) }
  | copy {parent array copied : Nat} {call : HandlerCall Value} {op : HandlerOp Value}
      (phase : s.calls c = .copying parent call array copied)
      (more : (s.inherited parent)[copied]? = some op) :
    DeriveMove s c .copy { s.setCall c (.copying parent call array (copied + 1)) with
      heap := s.heap.write array copied op }
  | copied {parent array copied : Nat} {call : HandlerCall Value}
      (phase : s.calls c = .copying parent call array copied)
      (all : (s.inherited parent)[copied]? = none) :
    DeriveMove s c .copy (s.setCall c (.copied parent call ⟨some array, copied⟩))
  | push {size parent array : Nat} {call : HandlerCall Value} {own : Slice}
      (phase : s.calls c = .copied parent call own) (room : s.heap.room own = some array) :
    DeriveMove s c (.push size)
      { s.setCall c (.appended parent call ⟨some array, own.length + 1⟩) with
        heap := s.heap.write array own.length (deferred call) }
  | grow {size parent : Nat} {call : HandlerCall Value} {own : Slice}
      (phase : s.calls c = .copied parent call own) (enough : own.length < size) :
    DeriveMove s c (.push size) { s.setCall c (.moving parent call own s.heap.allocated 0) with
      heap := s.heap.alloc size (zeroOp Value) }
  | move {parent array moved : Nat} {call : HandlerCall Value} {own : Slice} {op : HandlerOp Value}
      (phase : s.calls c = .moving parent call own array moved)
      (more : (s.heap.read own)[moved]? = some op) :
    DeriveMove s c .move { s.setCall c (.moving parent call own array (moved + 1)) with
      heap := s.heap.write array moved op }
  | moved {parent array moved : Nat} {call : HandlerCall Value} {own : Slice}
      (phase : s.calls c = .moving parent call own array moved)
      (all : (s.heap.read own)[moved]? = none) :
    DeriveMove s c .move { s.setCall c (.appended parent call ⟨some array, moved + 1⟩) with
      heap := s.heap.write array moved (deferred call) }
  | publish {parent : Nat} {call : HandlerCall Value} {own : Slice} {handler : SliceHandler Handler}
      (phase : s.calls c = .appended parent call own)
      (made : s.handlers[parent]? = some handler) :
    DeriveMove s c .publish { s.setCall c (.returned s.handlers.length) with
      handlers := s.handlers ++ [⟨handler.base, own⟩] }

/-- Every step of a call is one of its moves. -/
theorem deriveStep_move {s next : DeriveState Handler Value} {c : Nat}
    {action : DeriveAction Value} (taken : deriveStep s c action = some next) :
    DeriveMove s c action next := by
  -- Each action has one phase in which it is taken, and its guards are the premises of the move.
  cases action with
  | begin parent call =>
    simp only [deriveStep] at taken
    split at taken
    · split at taken <;> cases taken
      exact .begin (by assumption) (by assumption)
    · cases taken
  | allocate size =>
    simp only [deriveStep] at taken
    split at taken
    · split at taken
      · cases taken
        exact .skip (by assumption) (by assumption)
      · split at taken <;> cases taken
        exact .allocate (by assumption) (by assumption)
    · cases taken
  | copy =>
    simp only [deriveStep] at taken
    split at taken
    · split at taken <;> cases taken
      · exact .copy (by assumption) (by assumption)
      · exact .copied (by assumption) (by assumption)
    · cases taken
  | push size =>
    simp only [deriveStep] at taken
    split at taken
    · split at taken
      · cases taken
        exact .push (by assumption) (by assumption)
      · split at taken <;> cases taken
        exact .grow (by assumption) (by assumption)
    · cases taken
  | move =>
    simp only [deriveStep] at taken
    split at taken
    · split at taken <;> cases taken
      · exact .move (by assumption) (by assumption)
      · exact .moved (by assumption) (by assumption)
    · cases taken
  | publish =>
    simp only [deriveStep] at taken
    split at taken
    · split at taken <;> cases taken
      exact .publish (by assumption) (by assumption)
    · cases taken

/-- The arrays that a call has allocated and not handed on. -/
def DerivePhase.arrays : DerivePhase Value → List Nat
  | .copying _ _ array _ => [array]
  | .copied _ _ own | .appended _ _ own => own.array.toList
  | .moving _ _ own array _ => own.array.toList ++ [array]
  | _ => []

/-- The handler that a call derives from. -/
def DerivePhase.parent : DerivePhase Value → Option Nat
  | .called parent _ | .copying parent _ _ _ | .copied parent _ _ | .moving parent _ _ _ _
  | .appended parent _ _ => some parent
  | _ => none

/-- What a call has put into its arrays so far, against the operations that it inherits. -/
def DerivePhase.Sound (heap : Heap (HandlerOp Value)) (inherited : Nat → List (HandlerOp Value)) :
    DerivePhase Value → Prop
  | .copying parent _ array count =>
    count ≤ (inherited parent).length ∧ (inherited parent).length ≤ (heap.cells array).length ∧
      heap.read ⟨some array, count⟩ = (inherited parent).take count
  | .copied parent _ own => own.length ≤ heap.capacity own ∧ heap.read own = inherited parent
  | .moving parent _ own array count =>
    own.length ≤ heap.capacity own ∧ heap.read own = inherited parent ∧
      own.array ≠ some array ∧ count ≤ (inherited parent).length ∧
      (inherited parent).length < (heap.cells array).length ∧
      heap.read ⟨some array, count⟩ = (inherited parent).take count
  | .appended parent call own =>
    own.length ≤ heap.capacity own ∧ heap.read own = inherited parent ++ [deferred call]
  | _ => True

/-- What a call has done is settled by the cells of its own arrays. -/
theorem DerivePhase.Sound.congr {heap next : Heap (HandlerOp Value)}
    {inherited : Nat → List (HandlerOp Value)} {phase : DerivePhase Value}
    (sound : phase.Sound heap inherited)
    (same : ∀ array ∈ phase.arrays, next.cells array = heap.cells array) :
    phase.Sound next inherited := by
  -- Each phase reads the arrays that it lists and no others.
  cases phase with
  | idle | called | returned => trivial
  | copying parent call array copied =>
    have here := same array (by simp [arrays])
    obtain ⟨bound, room, done⟩ := sound
    refine ⟨bound, by rw [here]; exact room, ?_⟩
    rw [← done]
    exact Heap.read_congr (by rintro _ ⟨⟩; exact here)
  | copied parent call own =>
    have here : ∀ array, own.array = some array → next.cells array = heap.cells array :=
      fun array mine => same array (by simp [arrays, mine])
    obtain ⟨fits, done⟩ := sound
    exact ⟨by rw [Heap.capacity_congr here]; exact fits, by rw [Heap.read_congr here]; exact done⟩
  | moving parent call own array moved =>
    have there := same array (by simp [arrays])
    have here : ∀ array, own.array = some array → next.cells array = heap.cells array :=
      fun array mine => same array (by simp [arrays, mine])
    obtain ⟨fits, whole, apart, bound, room, done⟩ := sound
    refine ⟨by rw [Heap.capacity_congr here]; exact fits, by rw [Heap.read_congr here]; exact whole,
      apart, bound, by rw [there]; exact room, ?_⟩
    rw [← done]
    exact Heap.read_congr (by rintro _ ⟨⟩; exact there)
  | appended parent call own =>
    have here : ∀ array, own.array = some array → next.cells array = heap.cells array :=
      fun array mine => same array (by simp [arrays, mine])
    obtain ⟨fits, done⟩ := sound
    exact ⟨by rw [Heap.capacity_congr here]; exact fits, by rw [Heap.read_congr here]; exact done⟩

/-- What a call has done is settled by what its own parent has. -/
theorem DerivePhase.Sound.inherits {heap : Heap (HandlerOp Value)}
    {inherited later : Nat → List (HandlerOp Value)} {phase : DerivePhase Value}
    (sound : phase.Sound heap inherited)
    (same : ∀ parent, phase.parent = some parent → later parent = inherited parent) :
    phase.Sound heap later := by
  -- A phase names one parent and compares with what that parent has.
  cases phase with
  | idle | called | returned => trivial
  | copying parent | copied parent | moving parent | appended parent =>
    simp only [Sound, same parent rfl] at sound ⊢
    exact sound

/-- Who owns which array, and what is in it. -/
structure Owned (s : DeriveState Handler Value) : Prop where
  published : ∀ handler ∈ s.handlers, ∀ array, handler.ops.array = some array →
    array < s.heap.allocated
  known : ∀ c parent, (s.calls c).parent = some parent → parent < s.handlers.length
  -- What a call has allocated belongs to no handler.
  fresh : ∀ c, ∀ array ∈ (s.calls c).arrays, array < s.heap.allocated ∧
    ∀ handler ∈ s.handlers, handler.ops.array ≠ some array
  -- Nor does it belong to another call.
  apart : ∀ c d, c ≠ d → ∀ array ∈ (s.calls c).arrays, array ∉ (s.calls d).arrays
  sound : ∀ c, (s.calls c).Sound s.heap s.inherited

/-- A new handler is derived by nobody. -/
theorem owned_init (base : Handler) :
    Owned (DeriveState.init base : DeriveState Handler Value) := by
  -- The one handler has no array, and nobody calls.
  constructor <;>
    simp [DeriveState.init, Slice.nil, DerivePhase.arrays, DerivePhase.parent, DerivePhase.Sound]

section Owned

variable {s : DeriveState Handler Value} {c : Nat} {heap : Heap (HandlerOp Value)}
  {phase : DerivePhase Value}

/-- What belongs to a handler is not touched by a call that writes to its own arrays. -/
theorem Owned.read_kept (owned : Owned s)
    (kept : ∀ array, array < s.heap.allocated → array ∉ (s.calls c).arrays →
      heap.cells array = s.heap.cells array)
    {handler : SliceHandler Handler} (member : handler ∈ s.handlers) :
    heap.read handler.ops = s.heap.read handler.ops := by
  -- The array of a handler is older than the step and not the call's own.
  apply Heap.read_congr
  intro array mine
  apply kept array (owned.published handler member array mine)
  intro own
  exact (owned.fresh c array own).2 handler member mine

/-- A call that writes to its own arrays leaves what is inherited alone. -/
theorem Owned.inherited_kept (owned : Owned s)
    (kept : ∀ array, array < s.heap.allocated → array ∉ (s.calls c).arrays →
      heap.cells array = s.heap.cells array) :
    DeriveState.inherited { s.setCall c phase with heap } = s.inherited := by
  -- What is inherited is read from the arrays of handlers.
  funext parent
  simp only [DeriveState.inherited, DeriveState.setCall]
  split
  · rename_i handler made
    exact owned.read_kept kept (List.mem_of_getElem? made)
  · rfl

/--
A call that touches only its own arrays and new ones keeps everybody's property.

It is enough to say what it has done with them.
-/
theorem Owned.step (owned : Owned s) (grown : s.heap.allocated ≤ heap.allocated)
    (kept : ∀ array, array < s.heap.allocated → array ∉ (s.calls c).arrays →
      heap.cells array = s.heap.cells array)
    (arrays : ∀ array ∈ phase.arrays, array ∈ (s.calls c).arrays ∨
      (s.heap.allocated ≤ array ∧ array < heap.allocated))
    (parent : ∀ parent, phase.parent = some parent → parent < s.handlers.length)
    (sound : phase.Sound heap s.inherited) :
    Owned { s.setCall c phase with heap } := by
  have calls : ∀ d, d ≠ c → update s.calls c phase d = s.calls d :=
    fun d other => update_other s.calls phase other
  refine ⟨?_, ?_, ?_, ?_, ?_⟩
  · intro handler member array mine
    exact Nat.lt_of_lt_of_le (owned.published handler member array mine) grown
  · intro d which known
    by_cases same : d = c
    · subst same
      exact parent which (by simpa [DeriveState.setCall] using known)
    · exact owned.known d which (by simpa [DeriveState.setCall, same] using known)
  · intro d array mine
    by_cases same : d = c
    · subst same
      rcases arrays array (by simpa [DeriveState.setCall] using mine) with old | ⟨above, below⟩
      · obtain ⟨bound, private_⟩ := owned.fresh d array old
        exact ⟨Nat.lt_of_lt_of_le bound grown, private_⟩
      · refine ⟨below, ?_⟩
        intro handler member held
        have older := owned.published handler member array held
        omega
    · obtain ⟨bound, private_⟩ :=
        owned.fresh d array (by simpa [DeriveState.setCall, same] using mine)
      exact ⟨Nat.lt_of_lt_of_le bound grown, private_⟩
  · -- A new array is newer than everything that another call has.
    have mine : ∀ d, d ≠ c → ∀ array ∈ phase.arrays, array ∉ (s.calls d).arrays := by
      intro d other array member theirs
      rcases arrays array member with old | ⟨above, -⟩
      · exact owned.apart c d (Ne.symm other) array old theirs
      · have older := (owned.fresh d array theirs).1
        omega
    intro d e other array member
    simp only [DeriveState.setCall] at member ⊢
    by_cases first : d = c
    · subst first
      rw [update_self] at member
      rw [calls e (Ne.symm other)]
      exact mine e (Ne.symm other) array member
    · rw [calls d first] at member
      by_cases second : e = c
      · subst second
        rw [update_self]
        exact fun own => mine d first array own member
      · rw [calls e second]
        exact owned.apart d e other array member
  · intro d
    rw [owned.inherited_kept kept]
    by_cases same : d = c
    · subst same
      simpa [DeriveState.setCall] using sound
    · have theirs : (s.calls d).Sound heap s.inherited :=
        (owned.sound d).congr fun array member => kept array (owned.fresh d array member).1
          fun own => owned.apart d c same array member own
      simpa [DeriveState.setCall, same] using theirs

/-- A call that leaves the heap alone keeps everybody's property. -/
theorem Owned.still (owned : Owned s)
    (arrays : ∀ array ∈ phase.arrays, array ∈ (s.calls c).arrays)
    (parent : ∀ parent, phase.parent = some parent → parent < s.handlers.length)
    (sound : phase.Sound s.heap s.inherited) : Owned (s.setCall c phase) :=
  owned.step (Nat.le_refl _) (fun _ _ _ => rfl) (fun array mine => .inl (arrays array mine))
    parent sound

/-- A call that stays with its parent has one that was handed out. -/
theorem Owned.parent_known (owned : Owned s) {before : DerivePhase Value}
    (now : s.calls c = before) (same : phase.parent = before.parent) :
    ∀ parent, phase.parent = some parent → parent < s.handlers.length := by
  intro parent held
  exact owned.known c parent (by rw [now, ← same, held])

/-- A call that allocates an array keeps everybody's property. -/
theorem Owned.alloc (owned : Owned s) (size : Nat)
    (arrays : ∀ array ∈ phase.arrays, array ∈ (s.calls c).arrays ∨ array = s.heap.allocated)
    (parent : ∀ parent, phase.parent = some parent → parent < s.handlers.length)
    (sound : phase.Sound (s.heap.alloc size (zeroOp Value)) s.inherited) :
    Owned { s.setCall c phase with heap := s.heap.alloc size (zeroOp Value) } := by
  -- A new array is nobody's, and no older one is touched.
  refine owned.step (Nat.le_succ _) ?_ ?_ parent sound
  · intro array older _
    exact Heap.alloc_other size _ older
  · intro array mine
    rcases arrays array mine with old | rfl
    · exact .inl old
    · exact .inr ⟨Nat.le_refl _, Nat.lt_succ_self _⟩

/-- A call that writes to an array of its own keeps everybody's property. -/
theorem Owned.write (owned : Owned s) {array place : Nat} {op : HandlerOp Value}
    (mine : array ∈ (s.calls c).arrays)
    (arrays : ∀ other ∈ phase.arrays, other ∈ (s.calls c).arrays)
    (parent : ∀ parent, phase.parent = some parent → parent < s.handlers.length)
    (sound : phase.Sound (s.heap.write array place op) s.inherited) :
    Owned { s.setCall c phase with heap := s.heap.write array place op } := by
  -- The only array touched is the call's own.
  refine owned.step (Nat.le_refl _) ?_ (fun other own => .inl (arrays other own)) parent sound
  intro other _ notMine
  apply Heap.write_other
  rintro rfl
  exact notMine mine

/-- A call that hands its slice on as a handler gives up the array. -/
theorem Owned.publish (owned : Owned s) {parent : Nat} {call : HandlerCall Value} {own : Slice}
    (appended : s.calls c = .appended parent call own) (base : Handler) (number : Nat) :
    Owned { s.setCall c (.returned number) with handlers := s.handlers ++ [⟨base, own⟩] } := by
  have mine : ∀ array, own.array = some array → array ∈ (s.calls c).arrays := by
    intro array held
    simp [appended, DerivePhase.arrays, held]
  have calls : ∀ d, d ≠ c → update s.calls c (.returned number) d = s.calls d :=
    fun d other => update_other s.calls _ other
  refine ⟨?_, ?_, ?_, ?_, ?_⟩
  · intro handler member array held
    rcases List.mem_append.mp member with old | new
    · exact owned.published handler old array held
    · obtain rfl := List.mem_singleton.mp new
      exact (owned.fresh c array (mine array held)).1
  · intro d which known
    simp only [DeriveState.setCall] at known ⊢
    by_cases same : d = c
    · subst same
      simp [DerivePhase.parent] at known
    · rw [calls d same] at known
      have bound := owned.known d which known
      simp only [List.length_append]
      omega
  · intro d array member
    simp only [DeriveState.setCall] at member ⊢
    by_cases same : d = c
    · subst same
      simp [DerivePhase.arrays] at member
    · rw [calls d same] at member
      obtain ⟨bound, private_⟩ := owned.fresh d array member
      refine ⟨bound, ?_⟩
      intro handler among held
      rcases List.mem_append.mp among with old | new
      · exact private_ handler old held
      · obtain rfl := List.mem_singleton.mp new
        exact owned.apart d c same array member (mine array held)
  · intro d e other array member
    simp only [DeriveState.setCall] at member ⊢
    by_cases first : d = c
    · subst first
      simp [DerivePhase.arrays] at member
    · rw [calls d first] at member
      by_cases second : e = c
      · subst second
        simp [DerivePhase.arrays]
      · rw [calls e second]
        exact owned.apart d e other array member
  · intro d
    simp only [DeriveState.setCall]
    by_cases same : d = c
    · subst same
      simp [DerivePhase.Sound]
    · rw [calls d same]
      apply (owned.sound d).inherits
      intro which known
      -- The handlers that were there are where they were.
      simp only [DeriveState.inherited, List.getElem?_append_left (owned.known d which known)]

variable {parent array count size : Nat} {call : HandlerCall Value} {own : Slice}
  {op : HandlerOp Value}

/-- A call that finds nothing to copy has copied everything. -/
theorem Owned.skip (owned : Owned s) (called : s.calls c = .called parent call)
    (nothing : (s.inherited parent).length = 0) :
    Owned (s.setCall c (.copied parent call .nil)) := by
  -- The nil slice has no array, and reads as the empty list that is inherited.
  refine owned.still (by simp [DerivePhase.arrays, Slice.nil])
    (owned.parent_known called rfl) ⟨Nat.le_refl 0, ?_⟩
  exact (List.length_eq_zero_iff.mp nothing).symm

/-- A call that allocates the array of its copy has copied nothing yet. -/
theorem Owned.allocate (owned : Owned s) (called : s.calls c = .called parent call)
    (enough : (s.inherited parent).length ≤ size) :
    Owned { s.setCall c (.copying parent call s.heap.allocated 0) with
      heap := s.heap.alloc size (zeroOp Value) } := by
  refine owned.alloc _ (by simp [DerivePhase.arrays])
    (owned.parent_known called rfl) ⟨Nat.zero_le _, ?_, ?_⟩
  · -- The new array is as long as was asked for.
    simpa using enough
  · simp [Heap.read]

/-- A call that copies one more cell has copied one more operation. -/
theorem Owned.copy (owned : Owned s) (copying : s.calls c = .copying parent call array count)
    (more : (s.inherited parent)[count]? = some op) :
    Owned { s.setCall c (.copying parent call array (count + 1)) with
      heap := s.heap.write array count op } := by
  -- The cell written is the one after those that were copied.
  have sound := owned.sound c
  rw [copying] at sound
  obtain ⟨bound, room, done⟩ := sound
  obtain ⟨within, here⟩ := List.getElem?_eq_some_iff.mp more
  refine owned.write (by simp [copying, DerivePhase.arrays])
    (by simp [copying, DerivePhase.arrays])
    (owned.parent_known copying rfl) ⟨within, by simpa using room, ?_⟩
  rw [Heap.read_write_next (by omega), done, List.take_add_one, more]
  rfl

/-- A call with no cell left to copy has copied everything. -/
theorem Owned.copied (owned : Owned s) (copying : s.calls c = .copying parent call array count)
    (all : (s.inherited parent)[count]? = none) :
    Owned (s.setCall c (.copied parent call ⟨some array, count⟩)) := by
  -- Nothing at the place `count`, and no more than everything copied: it is the whole.
  have sound := owned.sound c
  rw [copying] at sound
  obtain ⟨bound, room, done⟩ := sound
  have whole : count = (s.inherited parent).length := by
    have past := List.getElem?_eq_none_iff.mp all
    omega
  refine owned.still (by simp [copying, DerivePhase.arrays])
    (owned.parent_known copying rfl) ⟨?_, ?_⟩
  · simp only [Heap.capacity]
    omega
  · rw [done, whole, List.take_length]

/-- A call that finds room behind its copy appends its operation in place. -/
theorem Owned.push (owned : Owned s) (copied : s.calls c = .copied parent call own)
    (room : s.heap.room own = some array) :
    Owned { s.setCall c (.appended parent call ⟨some array, own.length + 1⟩) with
      heap := s.heap.write array own.length (deferred call) } := by
  -- The array with the room is the call's own, so that the write is seen by nobody else.
  have sound := owned.sound c
  rw [copied] at sound
  obtain ⟨fits, done⟩ := sound
  obtain ⟨held, below⟩ := Heap.room_eq_some.mp room
  refine owned.write (by simp [copied, DerivePhase.arrays, held])
    (by simp [copied, DerivePhase.arrays, held])
    (owned.parent_known copied rfl) ⟨?_, ?_⟩
  · simp only [Heap.capacity, Heap.write_length]
    omega
  · have slice : (⟨some array, own.length⟩ : Slice) = own := by rw [← held]
    rw [Heap.read_write_next below, slice, done]

/-- A call that allocates a larger array has moved nothing yet, and still has its copy. -/
theorem Owned.grow (owned : Owned s) (copied : s.calls c = .copied parent call own)
    (enough : own.length < size) :
    Owned { s.setCall c (.moving parent call own s.heap.allocated 0) with
      heap := s.heap.alloc size (zeroOp Value) } := by
  have sound := owned.sound c
  have fresh := owned.fresh c
  rw [copied] at sound fresh
  obtain ⟨fits, done⟩ := sound
  -- The array of the copy is older than the new one, and keeps its cells.
  have older : ∀ array, own.array = some array → array < s.heap.allocated := by
    intro array held
    exact (fresh array (by simp [DerivePhase.arrays, held])).1
  have here : ∀ array, own.array = some array →
      (s.heap.alloc size (zeroOp Value)).cells array = s.heap.cells array :=
    fun array held => Heap.alloc_other size _ (older array held)
  refine owned.alloc _ (by simp [copied, DerivePhase.arrays])
    (owned.parent_known copied rfl) ⟨?_, ?_, ?_, Nat.zero_le _, ?_, ?_⟩
  · rw [Heap.capacity_congr here]
    exact fits
  · rw [Heap.read_congr here]
    exact done
  · intro same
    exact absurd (older _ same) (Nat.lt_irrefl _)
  · rw [Heap.alloc_self, List.length_replicate, ← done, Heap.read_length fits]
    exact enough
  · simp [Heap.read]

/-- A call that moves one more cell has moved one more operation. -/
theorem Owned.move (owned : Owned s) (moving : s.calls c = .moving parent call own array count)
    (more : (s.heap.read own)[count]? = some op) :
    Owned { s.setCall c (.moving parent call own array (count + 1)) with
      heap := s.heap.write array count op } := by
  have sound := owned.sound c
  rw [moving] at sound
  obtain ⟨fits, whole, apart, bound, room, done⟩ := sound
  rw [whole] at more
  obtain ⟨within, here⟩ := List.getElem?_eq_some_iff.mp more
  -- The array written to is not the one that is read.
  have others : ∀ other, own.array = some other →
      (s.heap.write array count op).cells other = s.heap.cells other := by
    intro other held
    apply Heap.write_other
    rintro rfl
    exact apart held
  refine owned.write (by simp [moving, DerivePhase.arrays])
    (by simp [moving, DerivePhase.arrays])
    (owned.parent_known moving rfl)
    ⟨?_, ?_, apart, within, by simpa using room, ?_⟩
  · rw [Heap.capacity_congr others]
    exact fits
  · rw [Heap.read_congr others]
    exact whole
  · rw [Heap.read_write_next (by omega), done, List.take_add_one, more]
    rfl

/-- A call with no cell left to move appends its operation behind those it has moved. -/
theorem Owned.moved (owned : Owned s) (moving : s.calls c = .moving parent call own array count)
    (all : (s.heap.read own)[count]? = none) :
    Owned { s.setCall c (.appended parent call ⟨some array, count + 1⟩) with
      heap := s.heap.write array count (deferred call) } := by
  -- As for the copy, what has been moved is everything.
  have sound := owned.sound c
  rw [moving] at sound
  obtain ⟨fits, whole, apart, bound, room, done⟩ := sound
  have last : count = (s.inherited parent).length := by
    rw [whole] at all
    have past := List.getElem?_eq_none_iff.mp all
    omega
  refine owned.write (by simp [moving, DerivePhase.arrays])
    (by simp [moving, DerivePhase.arrays])
    (owned.parent_known moving rfl) ⟨?_, ?_⟩
  · simp only [Heap.capacity, Heap.write_length]
    omega
  · rw [Heap.read_write_next (by omega), done, last, List.take_length]

/-- Every step keeps everybody's property. -/
theorem owned_move {next : DeriveState Handler Value} {action : DeriveAction Value}
    (moved : DeriveMove s c action next) (owned : Owned s) : Owned next := by
  cases moved with
  | begin phase bound =>
    -- A call that begins has no array yet.
    refine owned.still (by simp [DerivePhase.arrays]) ?_ trivial
    rintro _ ⟨⟩
    exact bound
  | skip phase nothing => exact owned.skip phase nothing
  | allocate phase enough => exact owned.allocate phase enough
  | copy phase more => exact owned.copy phase more
  | copied phase all => exact owned.copied phase all
  | push phase room => exact owned.push phase room
  | grow phase enough => exact owned.grow phase enough
  | move phase more => exact owned.move phase more
  | moved phase all => exact owned.moved phase all
  | publish phase made => exact owned.publish phase _ _

/-- A step touches no array but those of its call and new ones. -/
theorem DeriveMove.cells {next : DeriveState Handler Value} {action : DeriveAction Value}
    (moved : DeriveMove s c action next) (array : Nat) (older : array < s.heap.allocated)
    (other : array ∉ (s.calls c).arrays) : next.heap.cells array = s.heap.cells array := by
  -- A call writes to the arrays of its phase, and allocates beyond all others.
  cases moved with
  | begin phase | skip phase | copied phase | publish phase => rfl
  | allocate phase | grow phase => exact Heap.alloc_other _ _ older
  | copy phase | move phase | moved phase =>
    apply Heap.write_other
    rintro rfl
    simp [phase, DerivePhase.arrays] at other
  | push phase room =>
    apply Heap.write_other
    rintro rfl
    simp [phase, DerivePhase.arrays, (Heap.room_eq_some.mp room).1] at other

/-- A handler stays what it is, whatever call takes a step. -/
theorem DeriveMove.view_kept {next : DeriveState Handler Value} {action : DeriveAction Value}
    (moved : DeriveMove s c action next) (owned : Owned s) {i : Nat}
    {handler : SliceHandler Handler} (made : s.handlers[i]? = some handler) :
    next.handlers[i]? = some handler ∧ next.view handler = s.view handler := by
  -- Handlers are only appended, and what a handler holds is no call's to write.
  constructor
  · cases moved with
    | publish phase =>
      have within := (List.getElem?_eq_some_iff.mp made).1
      rw [List.getElem?_append_left within]
      exact made
    | _ => exact made
  · simp only [DeriveState.view, owned.read_kept moved.cells (List.mem_of_getElem? made)]

end Owned

/-- Deriving by value defers the call behind what is there. -/
theorem TraceHandler.derive_eq (h : TraceHandler Handler Value) (call : HandlerCall Value) :
    h.derive call = { base := h.base, ops := h.ops ++ [deferred call] } := by
  cases call <;> rfl

/-- The handlers in memory are those that were derived by value, and nobody's property is hurt. -/
def Derives (s : DeriveState Handler Value) (handlers : List (TraceHandler Handler Value)) : Prop :=
  Owned s ∧ handlers = s.handlers.map s.view

/-- Every step completes one derivation or none. -/
theorem derives_step {s next : DeriveState Handler Value} {label : Nat × DeriveAction Value}
    {handlers : List (TraceHandler Handler Value)} (holds : Derives s handlers)
    (taken : (deriveMachine Handler Value).step s label = some next) :
    ∃ more, (derivations Handler Value).run handlers (derived s label) = some more ∧
      Derives next more := by
  obtain ⟨c, action⟩ := label
  obtain ⟨owned, rfl⟩ := holds
  have moved : DeriveMove s c action next := deriveStep_move taken
  have kept : ∀ handler ∈ s.handlers, next.view handler = s.view handler := by
    intro handler member
    simp only [DeriveState.view, owned.read_kept moved.cells member]
  have after := owned_move moved owned
  cases moved with
  | @publish parent call own handler phase made =>
    have sound := owned.sound c
    rw [phase] at sound
    obtain ⟨-, done⟩ := sound
    refine ⟨s.handlers.map s.view ++ [(s.view handler).derive call], ?_, after, ?_⟩
    · simp [derived, phase, Machine.run_cons, derivations, made]
    · -- What the call has appended to is what its parent has.
      have ops : s.heap.read own = s.heap.read handler.ops ++ [deferred call] := by
        simpa [DeriveState.inherited, made] using done
      rw [List.map_append, List.map_congr_left kept]
      simp [TraceHandler.derive_eq, DeriveState.view, DeriveState.setCall, ops]
  | _ => exact ⟨_, rfl, after, (List.map_congr_left kept).symm⟩

/--
However calls of `WithAttrs` and `WithGroup` interleave, cell by cell, the handlers that they
return are those that the calls return one after the other by value, and a handler that was
returned reads the same for ever after.
-/
theorem derived_handlers_isolated (base : Handler) (labels : List (Nat × DeriveAction Value))
    (s : DeriveState Handler Value)
    (reached : (deriveMachine Handler Value).run (.init base) labels = some s) :
    (derivations Handler Value).run [newTraceHandler base]
        ((deriveMachine Handler Value).observed derived (.init base) labels) =
      some (s.handlers.map s.view) ∧
    ∀ more later, (deriveMachine Handler Value).run s more = some later →
      ∀ (i : Nat) (handler : SliceHandler Handler), s.handlers[i]? = some handler →
        later.handlers[i]? = some handler ∧ later.view handler = s.view handler := by
  have initial : Derives (DeriveState.init base) [(newTraceHandler base :
      TraceHandler Handler Value)] := ⟨owned_init base, rfl⟩
  obtain ⟨handlers, ran, owned, rfl⟩ := (deriveMachine Handler Value).run_simulates derived Derives
    initial (fun _ _ _ _ _ _ holds taken => derives_step holds taken) reached
  -- The steps simulate derivations by value; what is published stays as it is, step by step.
  refine ⟨ran, ?_⟩
  intro more later ran i handler made
  have start : Owned s ∧ s.handlers[i]? = some handler ∧ s.view handler = s.view handler :=
    ⟨owned, made, rfl⟩
  have keeps : ∀ state label next, (Owned state ∧ state.handlers[i]? = some handler ∧
      state.view handler = s.view handler) →
      (deriveMachine Handler Value).step state label = some next →
      Owned next ∧ next.handlers[i]? = some handler ∧ next.view handler = s.view handler := by
    intro state label next holds taken
    obtain ⟨owned, made, same⟩ := holds
    have moved : DeriveMove state label.1 label.2 next := deriveStep_move taken
    obtain ⟨still, view⟩ := moved.view_kept owned made
    exact ⟨owned_move moved owned, still, view.trans same⟩
  exact ((deriveMachine Handler Value).run_invariant start keeps ran).2

end

/-- Two groups are opened on one handler at the same time, with room left in the copied arrays. -/
def siblingRun : List (Nat × DeriveAction Unit) :=
  [(0, .begin 0 (.withGroup "a")), (0, .allocate 0), (0, .push 1), (0, .move), (0, .publish),
    (1, .begin 1 (.withGroup "b")), (2, .begin 1 (.withGroup "c")), (1, .allocate 2),
    (2, .allocate 2), (1, .copy), (2, .copy), (1, .copy), (2, .copy), (1, .push 0), (2, .push 0),
    (2, .publish), (1, .publish)]

/-- Each of the two handlers has its own group behind the common one. -/
theorem derived_handlers_isolated_siblings : ∃ s : DeriveState Unit Unit,
    (deriveMachine Unit Unit).run (.init ()) siblingRun = some s ∧
    s.handlers.map (fun h => (s.view h).ops.map HandlerOp.name) =
      [[], ["a"], ["a", "c"], ["a", "b"]] ∧
    (derivations Unit Unit).run [newTraceHandler ()]
      ((deriveMachine Unit Unit).observed derived (.init ()) siblingRun) =
        some (s.handlers.map s.view) := by
  -- Two handlers are derived from one parent at the same time, and neither sees the other's group.
  obtain ⟨s, reached, names⟩ := (deriveMachine Unit Unit).run_observe (.init ()) siblingRun
    (fun s => s.handlers.map (fun h => (s.view h).ops.map HandlerOp.name) =
      [[], ["a"], ["a", "c"], ["a", "b"]]) (by decide +kernel)
  exact ⟨s, reached, names, (derived_handlers_isolated () siblingRun s reached).1⟩

end Bootkit

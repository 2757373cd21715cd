import Bootkit.Core.TraceHandler
import Bootkit.Go.Slices

/-! Deriving log handlers concurrently, with the cells in which their operations are kept. -/

namespace Bootkit

open Go

/-- A handler as it is in memory: its base, and the slice of its operations. -/
structure SliceHandler (Handler : Type) where
  base : Handler
  ops : Slice

/-- Where one call of `WithAttrs` or `WithGroup` is; a handler is named by its number. -/
inductive DerivePhase (Value : Type) where
  | idle
  | called (parent : Nat) (call : HandlerCall Value)
  -- The first append has its array, and has copied this many cells.
  | copying (parent : Nat) (call : HandlerCall Value) (array copied : Nat)
  -- The first append has returned.
  | copied (parent : Nat) (call : HandlerCall Value) (own : Slice)
  -- The second append needs a larger array, and has moved this many cells.
  | moving (parent : Nat) (call : HandlerCall Value) (own : Slice) (array moved : Nat)
  -- The second append has returned.
  | appended (parent : Nat) (call : HandlerCall Value) (own : Slice)
  | returned (handler : Nat)

/-- The handlers that exist, the calls that derive more of them, and the cells in use. -/
structure DeriveState (Handler Value : Type) where
  heap : Heap (HandlerOp Value)
  handlers : List (SliceHandler Handler)
  calls : Nat → DerivePhase Value

/-- The steps of a call. -/
inductive DeriveAction (Value : Type) where
  | begin (parent : Nat) (call : HandlerCall Value)
  -- The runtime chooses the size of a new array.
  | allocate (size : Nat)
  | copy
  | push (size : Nat)
  | move
  | publish

/-- The operation that a new cell holds. -/
def zeroOp (Value : Type) : HandlerOp Value where
  isGroup := false
  name := ""
  attrs := []

section

variable {Handler Value : Type}

namespace DeriveState

/-- One handler, made by the constructor, whose operations are the nil slice. -/
def init (base : Handler) : DeriveState Handler Value where
  heap := .empty
  handlers := [⟨base, .nil⟩]
  calls := fun _ => .idle

/-- One call moved to a phase. -/
def setCall (s : DeriveState Handler Value) (c : Nat) (phase : DerivePhase Value) :
    DeriveState Handler Value :=
  { s with calls := update s.calls c phase }

/-- A handler as its operations read now. -/
def view (s : DeriveState Handler Value) (handler : SliceHandler Handler) :
    TraceHandler Handler Value where
  base := handler.base
  ops := s.heap.read handler.ops

/-- The operations that a call inherits. -/
def inherited (s : DeriveState Handler Value) (parent : Nat) : List (HandlerOp Value) :=
  match s.handlers[parent]? with
  | some handler => s.heap.read handler.ops
  | none => []

end DeriveState

/-- One step of a call. -/
def deriveStep (s : DeriveState Handler Value) (c : Nat) :
    DeriveAction Value → Option (DeriveState Handler Value)
  | .begin parent call =>
    match s.calls c with
    | .idle => if parent < s.handlers.length then some (s.setCall c (.called parent call)) else none
    | _ => none
  | .allocate size =>
    match s.calls c with
    | .called parent call =>
      -- Appending nothing to the nil slice is the nil slice.
      if (s.inherited parent).length = 0 then some (s.setCall c (.copied parent call .nil))
      else if (s.inherited parent).length ≤ size then
        some { s.setCall c (.copying parent call s.heap.allocated 0) with
          heap := s.heap.alloc size (zeroOp Value) }
      else none
    | _ => none
  | .copy =>
    match s.calls c with
    | .copying parent call array copied =>
      match (s.inherited parent)[copied]? with
      | some op => some { s.setCall c (.copying parent call array (copied + 1)) with
          heap := s.heap.write array copied op }
      | none => some (s.setCall c (.copied parent call ⟨some array, copied⟩))
    | _ => none
  | .push size =>
    match s.calls c with
    | .copied parent call own =>
      match s.heap.room own with
      -- There is room in the array, and the operation is written in place.
      | some array => some { s.setCall c (.appended parent call ⟨some array, own.length + 1⟩) with
          heap := s.heap.write array own.length (deferred call) }
      | none =>
        if own.length < size then
          some { s.setCall c (.moving parent call own s.heap.allocated 0) with
            heap := s.heap.alloc size (zeroOp Value) }
        else none
    | _ => none
  | .move =>
    match s.calls c with
    | .moving parent call own array moved =>
      match (s.heap.read own)[moved]? with
      | some op => some { s.setCall c (.moving parent call own array (moved + 1)) with
          heap := s.heap.write array moved op }
      | none => some { s.setCall c (.appended parent call ⟨some array, moved + 1⟩) with
          heap := s.heap.write array moved (deferred call) }
    | _ => none
  | .publish =>
    match s.calls c with
    | .appended parent _ own =>
      match s.handlers[parent]? with
      | some handler => some { s.setCall c (.returned s.handlers.length) with
          handlers := s.handlers ++ [⟨handler.base, own⟩] }
      | none => none
    | _ => none

/-- The machine whose runs interleave the calls that derive handlers. -/
def deriveMachine (Handler Value : Type) :
    Machine (DeriveState Handler Value) (Nat × DeriveAction Value) where
  step s label := deriveStep s label.1 label.2

/-- The handler that one call returns. -/
def TraceHandler.derive (h : TraceHandler Handler Value) : HandlerCall Value →
    TraceHandler Handler Value
  | .withAttrs attrs => h.withAttrs attrs
  | .withGroup name => h.withGroup name

/-- The machine that derives handlers one after the other, by value. -/
def derivations (Handler Value : Type) :
    Machine (List (TraceHandler Handler Value)) (Nat × HandlerCall Value) where
  step handlers label := handlers[label.1]?.map fun h => handlers ++ [h.derive label.2]

/-- The derivation that a step completes. -/
def derived (s : DeriveState Handler Value) : Nat × DeriveAction Value →
    List (Nat × HandlerCall Value)
  | (c, .publish) =>
    match s.calls c with
    | .appended parent call _ => [(parent, call)]
    | _ => []
  | _ => []

end

end Bootkit

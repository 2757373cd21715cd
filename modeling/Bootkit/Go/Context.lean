import Bootkit.Go.Errors
import Bootkit.Go.Machine

/-! Contexts: trees in which cancellation travels down, and chains that carry values. -/

namespace Go

section Tree

variable {Node : Type}

/--
The errors of a tree of contexts after one of them is cancelled.

A context that is already done keeps the error it was done with.
-/
def cancelTree (below : Node → Node → Bool) (errs : Node → Option Err) (root : Node)
    (cause : Err) : Node → Option Err :=
  fun node => if below node root then (errs node).or (some cause) else errs node

/-- A context outside the cancelled subtree is untouched. -/
theorem cancelTree_outside {below : Node → Node → Bool} {errs : Node → Option Err}
    {root node : Node} (cause : Err) (outside : below node root = false) :
    cancelTree below errs root cause node = errs node := by
  simp [cancelTree, outside]

/-- A context is done after a cancellation exactly when it was done or lies below it. -/
@[simp] theorem cancelTree_isSome (below : Node → Node → Bool) (errs : Node → Option Err)
    (root node : Node) (cause : Err) :
    (cancelTree below errs root cause node).isSome = ((errs node).isSome || below node root) := by
  -- Below the root every context is done afterwards, and elsewhere those that were.
  unfold cancelTree
  cases below node root <;> simp

/-- A context done after a cancellation was done before, or is done for its cause. -/
theorem cancelTree_eq_some {below : Node → Node → Bool} {errs : Node → Option Err}
    {root node : Node} {cause err : Err} (done : cancelTree below errs root cause node = some err) :
    errs node = some err ∨ err = cause := by
  -- A context that was done keeps its error.
  unfold cancelTree at done
  cases known : errs node with
  | some earlier => cases inside : below node root <;> simp_all
  | none => cases inside : below node root <;> simp_all

/-- A context derived from a parent starts out as done as its parent is. -/
def derive [DecidableEq Node] (errs : Node → Option Err) (child parent : Node) :
    Node → Option Err :=
  update errs child (errs parent)

/-- A context done after a derivation has the error of a context from before. -/
theorem derive_eq_some [DecidableEq Node] {errs : Node → Option Err} {child parent node : Node}
    {err : Err} (done : derive errs child parent node = some err) :
    errs node = some err ∨ errs parent = some err := by
  -- A new context begins with the error of its parent.
  by_cases same : node = child
  · subst same
    exact .inr (by simpa [derive] using done)
  · exact .inl (by simpa [derive, same] using done)

end Tree

/--
A context seen as the chain of calls that derived it.

A derived context may become done at a fixed instant, by cancellation or by deadline.
-/
inductive Context (Key Value : Type) where
  -- The root, which carries nothing and is never done.
  | background
  -- A context carrying one more value.
  | withValue (parent : Context Key Value) (key : Key) (value : Value)
  -- A context that becomes done at an instant, with the given error.
  | withCancel (parent : Context Key Value) (instant : Nat) (cause : Sentinel)

namespace Context

variable {Key Value : Type}

/-- The value stored nearest under a key. -/
def value [DecidableEq Key] (key : Key) : Context Key Value → Option Value
  | .background => none
  -- A later value under the same key hides every earlier one.
  | .withValue parent stored value => if stored = key then some value else parent.value key
  | .withCancel parent _ _ => parent.value key

/-- The instant at which the context becomes done, with the error it then has. -/
def expiry : Context Key Value → Option (Nat × Sentinel)
  | .background => none
  | .withValue parent _ _ => parent.expiry
  | .withCancel parent instant cause =>
    match parent.expiry with
    | none => some (instant, cause)
    -- A parent that is done no later takes the child with it.
    | some (earlier, known) => if earlier ≤ instant then some (earlier, known)
        else some (instant, cause)

/-- The error of the context at an instant, and nil while it is live. -/
def err (context : Context Key Value) (now : Nat) : Option Err :=
  match context.expiry with
  | none => none
  | some (instant, cause) => if instant ≤ now then some (.new cause) else none

end Context

end Go

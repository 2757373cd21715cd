import Mathlib.Data.List.Basic

/-! Error values: sentinels, wrapping, `errors.Is`, and `errors.Join`. -/

namespace Go

/-- A package-level error variable, told apart by where it is declared and what it says. -/
structure Sentinel where
  -- The package or call site that declares the variable.
  origin : String
  -- The message it was created with.
  text : String
  deriving Repr, DecidableEq

/-- A non-nil error value. A nil error is the `none` of an option. -/
inductive Err where
  -- A value made by `errors.New`.
  | new (value : Sentinel)
  -- A value with the given message whose `Unwrap` yields the causes.
  | wrap (text : String) (causes : List Err)
  deriving Repr

namespace Err

mutual

/-- Equality of error values is decided by comparing messages and causes. -/
def decEq : (left right : Err) → Decidable (left = right)
  | .new a, .new b =>
    if same : a = b then .isTrue (congrArg Err.new same)
    else .isFalse fun equal => same (Err.new.inj equal)
  | .wrap a causes, .wrap b others =>
    if same : a = b then
      match decEqList causes others with
      | .isTrue equal => .isTrue (by rw [same, equal])
      | .isFalse different => .isFalse fun equal => different (Err.wrap.inj equal).2
    else .isFalse fun equal => same (Err.wrap.inj equal).1
  | .new _, .wrap _ _ => .isFalse (by simp)
  | .wrap _ _, .new _ => .isFalse (by simp)

/-- Equality of causes is decided one by one. -/
def decEqList : (left right : List Err) → Decidable (left = right)
  | [], [] => .isTrue rfl
  | a :: as, b :: bs =>
    match decEq a b, decEqList as bs with
    | .isTrue head, .isTrue tail => .isTrue (by rw [head, tail])
    | .isFalse different, _ => .isFalse fun equal => different (List.cons.inj equal).1
    | _, .isFalse different => .isFalse fun equal => different (List.cons.inj equal).2
  | [], _ :: _ => .isFalse (by simp)
  | _ :: _, [] => .isFalse (by simp)

end

instance : DecidableEq Err := decEq

/-- The message of an error. -/
def text : Err → String
  | .new value => value.text
  | .wrap text _ => text

mutual

/-- Whether the error or anything it wraps is the target variable. -/
def is (target : Sentinel) : Err → Bool
  | .new value => decide (value = target)
  -- A wrapping value is never itself a sentinel, so only its causes can match.
  | .wrap _ causes => anyIs target causes

/-- Whether one of several wrapped errors matches the target. -/
def anyIs (target : Sentinel) : List Err → Bool
  | [] => false
  | cause :: rest => cause.is target || anyIs target rest

end

/-- One error behind a label, as in `fmt.Errorf("label: %w", err)`. -/
def annotate (label : String) (cause : Err) : Err :=
  .wrap (label ++ ": " ++ cause.text) [cause]

/-- Several non-nil errors as one, and nil when there are none. -/
def join : List Err → Option Err
  | [] => none
  -- The joined message puts one error on each line.
  | first :: rest =>
    some (.wrap ("\n".intercalate ((first :: rest).map text)) (first :: rest))

/-- The errors a joined value was made of, in order. -/
def members : Option Err → List Err
  | some (.wrap _ causes) => causes
  | _ => []

/-- A joined value gives back exactly the errors it was made of. -/
@[simp] theorem members_join (errors : List Err) : members (join errors) = errors := by
  cases errors <;> rfl

/-- A join of anything is one value that says it line by line and wraps it in order. -/
theorem join_of_ne_nil {errors : List Err} (some : errors ≠ []) :
    join errors = Option.some (.wrap ("\n".intercalate (errors.map text)) errors) := by
  -- Joining is nil for no errors only.
  cases errors with
  | nil => exact absurd rfl some
  | cons first rest => rfl

/-- A join is nil exactly when there was nothing to join. -/
@[simp] theorem join_eq_none (errors : List Err) : join errors = none ↔ errors = [] := by
  cases errors <;> simp [join]

end Err

/-- The error of a context that was cancelled. -/
def canceled : Sentinel := ⟨"context", "context canceled"⟩

/-- The error of a context whose deadline has passed. -/
def deadlineExceeded : Sentinel := ⟨"context", "context deadline exceeded"⟩

end Go

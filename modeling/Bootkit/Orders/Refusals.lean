import Bootkit.Orders.Answers

/-! A request is refused only for what the tables said at some moment while it was served. -/

namespace Bootkit.Orders

open Go

variable {s next : State} {r : Nat}

/-- A request takes the step that looks for its row, and the tables do not have it. -/
def Request.Misses (s : State) : Request → Action → Prop
  | .getProduct id, .selectProduct => s.products id = none
  | .createOrder productID _, .lockProduct => s.products productID = none
  | .getOrder id, .selectOrder => ∀ order ∈ s.orders, order.id ≠ id
  | _, _ => False

/-- Why the service refuses a request with an error. -/
inductive Refusal (labels : List Label) (r : Nat) : Request → Err → Prop
  -- The driver failed, with an error that is none of the domain's.
  | driver {request : Request} {err : Err} (unknown : foreign err = true) :
      Refusal labels r request err
  -- The request looked for its row, and there was none.
  | missing {request : Request} {action : Action} {moment : State}
      (took : machine.Took State.init labels (.act r action) moment)
      (absent : request.Misses moment action) : Refusal labels r request (.new errNotFound)
  -- The request looked at the stock, and it was too low.
  | short {productID quantity : Int} {moment : State} {product : Product}
      (took : machine.Took State.init labels (.act r .decrement) moment)
      (found : moment.products productID = some product) (low : product.stock < quantity) :
      Refusal labels r (.createOrder productID quantity)
        (insufficientStock product.stock quantity)

/-- Why the manager returns an error, which may come with the failure of a rollback. -/
def Refused (labels : List Label) (r : Nat) (request : Request) (err : Err) : Prop :=
  ∃ cause failure, err = rolledBack cause failure ∧
    (∀ other, failure = some other → foreign other = true) ∧ Refusal labels r request cause

/-- What a phase says about a refusal is true. -/
def Phase.Justified (labels : List Label) (r : Nat) : Phase → Prop
  | .failing productID quantity err => Refusal labels r (.createOrder productID quantity) err
  | .lingering productID quantity _ err => Refused labels r (.createOrder productID quantity) err
  | .answered request (.failed err) => Refused labels r request err
  | _ => True

/-- What was the reason for a refusal stays so. -/
theorem Refusal.extend {labels : List Label} {request : Request} {err : Err}
    (refusal : Refusal labels r request err) (label : Label) :
    Refusal (labels ++ [label]) r request err := by
  -- The read that found nothing, or too little, is in the past.
  cases refusal with
  | driver unknown => exact .driver unknown
  | missing took absent => exact .missing (took.extend label) absent
  | short took found low => exact .short (took.extend label) found low

/-- What a refusal comes from stays so. -/
theorem Refused.extend {labels : List Label} {request : Request} {err : Err}
    (refused : Refused labels r request err) (label : Label) :
    Refused (labels ++ [label]) r request err := by
  -- The cause keeps its own justification.
  obtain ⟨cause, failure, same, unknown, refusal⟩ := refused
  exact ⟨cause, failure, same, unknown, refusal.extend label⟩

/-- What a phase says about a refusal stays true. -/
theorem Phase.Justified.extend {labels : List Label} {phase : Phase}
    (justified : phase.Justified labels r) (label : Label) :
    phase.Justified (labels ++ [label]) r := by
  -- The phases that carry an error carry its justification.
  cases phase with
  | failing productID quantity err => exact Refusal.extend justified label
  | lingering productID quantity writes err => exact Refused.extend justified label
  | answered request answer =>
    cases answer with
    | failed err => exact Refused.extend justified label
    | _ => trivial
  | _ => trivial

/-- A request is refused for a reason without any rollback. -/
theorem Refusal.plain {labels : List Label} {request : Request} {err : Err}
    (refusal : Refusal labels r request err) : Refused labels r request err :=
  ⟨err, none, rfl, nofun, refusal⟩

/-- An operation that fails refuses its request for the driver's reason. -/
theorem Fails.justified {labels : List Label} {err : Err} {before after : Phase}
    (unknown : foreign err = true) (fails : Fails err before after) :
    after.Justified labels r := by
  -- Every statement passes the driver's error on, with its own words in front.
  cases fails with
  | insertProduct => exact Refusal.plain (.driver (foreign_annotate _ unknown))
  | begin => exact Refusal.plain (.driver (foreign_annotate _ unknown))
  | selectOrder => exact Refusal.plain (.driver (foreign_scanErr unknown))
  | selectProduct => exact Refusal.plain (.driver (foreign_scanErr unknown))
  | lockProduct => exact .driver (foreign_scanErr unknown)
  | decrement => exact .driver (foreign_annotate _ unknown)
  | insertOrder => exact .driver (foreign_annotate _ unknown)

/-- A step of a request refuses it only for a reason. -/
theorem Move.justified {labels : List Label} {action : Action}
    (reached : machine.run State.init labels = some s)
    (justified : (s.requests r).Justified labels r) (moved : Move s r action next) :
    (next.requests r).Justified (labels ++ [.act r action]) r := by
  have holds := (locked_run reached).holds r
  have took : machine.Took State.init (labels ++ [.act r action]) (.act r action) s :=
    .last reached _
  cases moved with
  | notReady phase unknown =>
    rw [State.move_self]
    exact Refusal.plain (.driver (foreign_annotate _ unknown))
  | fail unknown fails =>
    rw [State.move_self]
    exact fails.justified unknown
  | @insertProduct _ _ _ _ _ lost phase _ _ _ _ _ unknown =>
    rw [State.move_self]
    cases lost with
    | none => trivial
    | some err => exact Refusal.plain (.driver (foreign_annotate _ (unknown err rfl)))
  | noProduct phase absent =>
    rw [State.move_self]
    exact Refusal.plain (.missing took absent)
  | unknownProduct phase absent =>
    rw [State.move_self]
    exact .missing took absent
  | insufficient phase low =>
    -- The row is locked, so the stock that was read is the stock at this moment.
    rw [phase] at holds
    rw [State.move_self]
    exact .short took holds.2 low
  | commitFails phase unknown =>
    rw [State.move_self]
    exact Refusal.plain (.driver (foreign_annotate _ unknown))
  | rollback phase =>
    rw [phase] at justified
    rw [State.move_self]
    exact (Refusal.extend justified _).plain
  | rollbackFails phase unknown =>
    rw [phase] at justified
    rw [State.move_self]
    refine ⟨_, _, rfl, ?_, Refusal.extend justified _⟩
    intro other same
    cases same
    exact unknown
  | apply phase =>
    rw [phase] at justified
    rw [State.move_self]
    exact Refused.extend justified _
  | discard phase =>
    rw [phase] at justified
    rw [State.move_self]
    exact Refused.extend justified _
  | noOrder phase absent =>
    rw [State.move_self]
    refine Refusal.plain (.missing took ?_)
    intro order member same
    have found := List.find?_eq_none.mp absent order member
    exact found (by simpa using same)
  | _ =>
    rw [State.move_self]
    trivial

end Bootkit.Orders

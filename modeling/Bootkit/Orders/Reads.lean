import Mathlib.Data.List.Nodup
import Bootkit.Orders.Answers

/-! An order that was placed can be read back under the number that the client was given. -/

namespace Bootkit.Orders

open Go

variable {s next : State} {r : Nat}

/-- A number that a client was given is accepted in the path. -/
theorem pathID_toString {id : Int} (positive : 0 < id) (bounded : id < 2 ^ 63) :
    pathID (toString id) = some id := by
  -- The id parses back, and it is positive.
  have parsed : parseInt (toString id) = some id := parseInt_toString (by omega) bounded
  have accepted : ¬ id ≤ 0 := by omega
  rw [pathID, parsed, Option.bind_some, if_neg accepted]

/-- A step keeps every order that is stored. -/
theorem Step.orders {label : Label} (stepped : Step s label next) {order : Order}
    (stored : order ∈ s.orders) : order ∈ next.orders := by
  -- Orders are only appended.
  cases stepped with
  | act moved =>
    cases moved with
    | commit => exact List.mem_append_left _ stored
    | apply => exact List.mem_append_left _ stored
    | _ => exact stored
  | _ => exact stored

/-- The stored order with a given number is the one that a query finds. -/
theorem find_order (numbered : Numbered s) {order : Order} (stored : order ∈ s.orders) :
    s.orders.find? (·.id = order.id) = some order := by
  cases found : s.orders.find? (·.id = order.id) with
  | none =>
    have absent := List.find?_eq_none.mp found order stored
    simp at absent
  | some other =>
    -- No two orders share a number.
    have same : other.id = order.id := by simpa using List.find?_some found
    have member := List.mem_of_find?_eq_some found
    rw [List.inj_on_of_nodup_map numbered.unique member stored same]

/-- The number of the order that a request is about to query. -/
def Phase.queries : Phase → Option Int
  | .called (.getOrder id) => some id
  | _ => none

/-- A query that fails is answered with the error. -/
theorem Fails.queried {err : Err} {before after : Phase} {id : Int} (fails : Fails err before after)
    (queries : before.queries = some id) :
    after = .answered (.getOrder id) (.failed (scanOrder err)) := by
  -- The one statement of the request is the read of the order.
  cases fails <;> cases queries
  rfl

/-- A query for a stored order finds it, unless Postgres fails. -/
theorem Move.queried {action : Action} {order : Order} (numbered : Numbered s)
    (stored : order ∈ s.orders) (queries : (s.requests r).queries = some order.id)
    (moved : Move s r action next) :
    next.requests r = .answered (.getOrder order.id) (.order order) ∨
      ∃ err, foreign err = true ∧
        next.requests r = .answered (.getOrder order.id) (.failed err) := by
  -- The order is found under its number, or the driver fails.
  cases moved with
  | @fail phase err unknown fails =>
    obtain rfl := fails.queried queries
    rw [State.move_self]
    exact .inr ⟨_, foreign_scanErr unknown, rfl⟩
  | noOrder phase absent =>
    rw [phase] at queries
    cases queries
    rw [find_order numbered stored] at absent
    cases absent
  | readOrder phase found =>
    rw [phase] at queries
    cases queries
    rw [find_order numbered stored] at found
    cases found
    exact .inl (State.move_self _ _ _)
  | _ =>
    rw [‹s.requests r = _›] at queries
    cases queries

/-- Where a query for a stored order can be. -/
def Querying (order : Order) (phase : Phase) : Prop :=
  phase = .called (.getOrder order.id) ∨
    phase = .answered (.getOrder order.id) (.order order) ∨
    ∃ err, foreign err = true ∧ phase = .answered (.getOrder order.id) (.failed err)

/-- A stored order, and a request that queries it. -/
structure ReadsBack (order : Order) (r : Nat) (s : State) : Prop where
  locked : Locked s
  numbered : Numbered s
  stored : order ∈ s.orders
  querying : Querying order (s.requests r)

/-- A step leaves a query for a stored order on its way. -/
theorem Step.readsBack {label : Label} {order : Order} (back : ReadsBack order r s)
    (stepped : Step s label next) : ReadsBack order r next := by
  refine ⟨stepped.locked back.locked, stepped.numbered back.numbered, stepped.orders back.stored,
    ?_⟩
  have querying := back.querying
  by_cases mine : label.mover = some r
  · rcases stepped.own mine with ⟨http, -, idle, -⟩ | ⟨action, -, moved⟩
    · rw [idle] at querying
      rcases querying with here | here | ⟨err, -, here⟩ <;> cases here
    · -- An answer is final, so the query is still to be made.
      have active := moved.active
      rcases querying with here | here | ⟨err, -, here⟩
      · exact .inr (moved.queried back.numbered back.stored (by rw [here]; rfl))
      · rw [here] at active
        cases active
      · rw [here] at active
        cases active
  · rw [(stepped.frame back.locked).requests r (Ne.symm mine)]
    exact querying

/-- The number of a stored order is accepted in the path. -/
theorem handle_getOrder {order : Order} (numbered : Numbered s) (stored : order ∈ s.orders) :
    handle (.getOrder (toString order.id)) = .ok (.getOrder order.id) := by
  -- The number of a stored order was issued from the sequence, so that it is in range.
  obtain ⟨positive, below⟩ := numbered.issued order stored
  have bounded : order.id < 2 ^ 63 := Int.lt_of_lt_of_le below numbered.last
  simp only [handle, pathID_toString positive bounded]

/--
An order that is stored is what its number reads back as, from then on.

A client that was given the number of an order and asks for it in the path gets that order, or is
told that something went wrong; it is never told that there is no such order.
-/
theorem placed_order_reads_back (first second : List Label) (middle s : State) (order : Order)
    (r : Nat) (response : Response) (reached : machine.run State.init first = some middle)
    (stored : order ∈ middle.orders) (continued : machine.run middle second = some s)
    (received : .receive r (.getOrder (toString order.id)) ∈ second)
    (answered : (s.requests r).response = some response) :
    response = ⟨200, .order order⟩ ∨ response.status = 500 := by
  -- The order is still stored when the request comes in, and the request is idle then.
  obtain ⟨before, after, rfl⟩ := List.append_of_mem received
  obtain ⟨start, entered, prior, taken, later⟩ := machine.run_split continued
  have whole : machine.run State.init (first ++ before) = some start := by
    rw [machine.run_append, reached]
    exact prior
  have kept : order ∈ start.orders := machine.run_invariant stored
    (fun _ _ _ held taken => (step_cases taken).orders held) prior
  have locked := locked_run whole
  have numbered := numbered_run whole
  have stepped := step_cases taken
  have back : ReadsBack order r entered := by
    refine ⟨stepped.locked locked, stepped.numbered numbered, stepped.orders kept, .inl ?_⟩
    cases stepped with
    | receive phase =>
      rw [State.move_self, handle_getOrder numbered kept]
      rfl
  -- From there on it is a query for a stored order.
  have last := (machine.run_invariant back
    (fun _ _ _ back taken => (step_cases taken).readsBack back) later).querying
  rcases last with here | here | ⟨err, unknown, here⟩
  · rw [here] at answered
    cases answered
  · rw [here] at answered
    exact .inl (Option.some.inj answered).symm
  · rw [here] at answered
    obtain rfl := Option.some.inj answered
    exact .inr (renderServiceError_foreign unknown)

/-- Somebody looks an order up. -/
def lookUp (order : Order) : List Label :=
  [.receive 3 (.getOrder (toString order.id)), .act 3 .selectOrder]

/-- The order of the customer who came first is read back. -/
theorem placed_order_reads_back_first : ∃ middle s,
    machine.run State.init raceForLast = some middle ∧
    machine.run middle (lookUp ⟨1, 7, 1, 250, 5⟩) = some s ∧
    ∃ response, (s.requests 3).response = some response ∧
      (response = ⟨200, .order ⟨1, 7, 1, 250, 5⟩⟩ ∨ response.status = 500) := by
  -- The first order of the race is there, and the lookup after the race is answered.
  obtain ⟨middle, reached, stored, found⟩ := machine.run_observe State.init raceForLast
    (fun s => (⟨1, 7, 1, 250, 5⟩ : Order) ∈ s.orders ∧
      (machine.run s (lookUp ⟨1, 7, 1, 250, 5⟩)).any (fun t =>
        decide ((t.requests 3).response = some ⟨200, .order ⟨1, 7, 1, 250, 5⟩⟩)) = true)
    (by decide +kernel)
  obtain ⟨s, continued, answered⟩ := machine.run_observe middle (lookUp ⟨1, 7, 1, 250, 5⟩)
    (fun t => (t.requests 3).response = some ⟨200, .order ⟨1, 7, 1, 250, 5⟩⟩) found
  exact ⟨middle, s, reached, continued, _, answered,
    placed_order_reads_back raceForLast (lookUp ⟨1, 7, 1, 250, 5⟩) middle s ⟨1, 7, 1, 250, 5⟩ 3 _
      reached stored continued (by simp [lookUp]) answered⟩

end Bootkit.Orders

import Bootkit.Orders.Shop

/-! No product is oversold, every order is charged its price, and every order has its own number. -/

namespace Bootkit.Orders

open Go

variable {s next : State} {r : Nat}

/-- The order that a transaction has written and that is not visible yet. -/
def Phase.pending : Phase → Option Order
  | .inserted _ _ writes => some writes.order
  | .lingering _ _ writes _ => writes.map Writes.order
  | _ => none

/-- Every order, visible or not, has a number of its own that the sequence has handed out. -/
structure Numbered (s : State) : Prop where
  first : 1 ≤ s.nextOrder
  last : s.nextOrder ≤ 2 ^ 63
  issued : ∀ order ∈ s.orders, 0 < order.id ∧ order.id < s.nextOrder
  unique : (s.orders.map Order.id).Nodup
  written : ∀ r order, (s.requests r).pending = some order →
    0 < order.id ∧ order.id < s.nextOrder ∧ ∀ other ∈ s.orders, other.id ≠ order.id
  apart : ∀ r other order another, r ≠ other → (s.requests r).pending = some order →
    (s.requests other).pending = some another → order.id ≠ another.id

/-- A step that writes no order keeps the numbers. -/
theorem Numbered.keep (numbered : Numbered s) (orders : next.orders = s.orders)
    (sequence : next.nextOrder = s.nextOrder)
    (pending : ∀ r order, (next.requests r).pending = some order →
      (s.requests r).pending = some order) : Numbered next where
  -- Nothing was issued or stored, and whoever carries an order carried it before.
  first := by rw [sequence]; exact numbered.first
  last := by rw [sequence]; exact numbered.last
  issued := by rw [orders, sequence]; exact numbered.issued
  unique := by rw [orders]; exact numbered.unique
  written := by
    intro r order mine
    rw [orders, sequence]
    exact numbered.written r order (pending r order mine)
  apart := fun r other order another different mine theirs =>
    numbered.apart r other order another different (pending r order mine)
      (pending other another theirs)

/-- A request that moves to another phase has only what it had before. -/
theorem pending_moved {phase : Phase}
    (kept : ∀ order, phase.pending = some order → (s.requests r).pending = some order) :
    ∀ other order, (update s.requests r phase other).pending = some order →
      (s.requests other).pending = some order := by
  -- Only the request that moves can carry something else.
  intro other order mine
  by_cases same : other = r
  · subst same
    rw [update_self] at mine
    exact kept order mine
  · rwa [update_other _ _ same] at mine

/-- The next number of the sequence goes to an order that has none. -/
theorem Numbered.insert (numbered : Numbered s) {id : Int} {phase : Phase} {order : Order}
    (fresh : s.nextOrder ≤ id) (bounded : id < 2 ^ 63) (carries : phase.pending = some order)
    (number : order.id = id) : Numbered ({ s with nextOrder := id + 1 }.move r phase) := by
  have first := numbered.first
  -- Every earlier number is below the sequence, and the new one is not.
  have earlier : ∀ other order, other ≠ r →
      ((s.move r phase).requests other).pending = some order →
      (s.requests other).pending = some order := by
    intro other order different mine
    rwa [State.move_other s phase different] at mine
  have own : ((s.move r phase).requests r).pending = some order := by rw [State.move_self, carries]
  refine ⟨by show 1 ≤ id + 1; omega, by show id + 1 ≤ 2 ^ 63; omega, ?_, numbered.unique, ?_, ?_⟩
  · intro shown member
    obtain ⟨positive, below⟩ := numbered.issued shown member
    exact ⟨positive, by show shown.id < id + 1; omega⟩
  · intro other another theirs
    by_cases same : other = r
    · subst same
      obtain rfl : order = another := Option.some.inj (own.symm.trans theirs)
      refine ⟨by omega, by show order.id < id + 1; omega, ?_⟩
      intro shown member
      have below := (numbered.issued shown member).2
      omega
    · obtain ⟨positive, below, unlike⟩ := numbered.written other another (earlier _ _ same theirs)
      exact ⟨positive, by show another.id < id + 1; omega, unlike⟩
  · intro one two first second different mine theirs
    by_cases left : one = r
    · subst left
      obtain rfl : order = first := Option.some.inj (own.symm.trans mine)
      have below := (numbered.written two second (earlier _ _ different.symm theirs)).2.1
      omega
    · by_cases right : two = r
      · subst right
        obtain rfl : order = second := Option.some.inj (own.symm.trans theirs)
        have below := (numbered.written one first (earlier _ _ left mine)).2.1
        omega
      · exact numbered.apart one two first second different (earlier _ _ left mine)
          (earlier _ _ right theirs)

/-- An order keeps its number when it becomes visible. -/
theorem Numbered.install (numbered : Numbered s) {writes : Writes} {phase : Phase}
    (carries : (s.requests r).pending = some writes.order) (gone : phase.pending = none) :
    Numbered (((s.install writes).unlock r).move r phase) := by
  obtain ⟨positive, below, unlike⟩ := numbered.written r writes.order carries
  have earlier : ∀ other order,
      (((s.install writes).unlock r).move r phase |>.requests other).pending = some order →
      other ≠ r ∧ (s.requests other).pending = some order := by
    intro other order mine
    by_cases same : other = r
    · subst same
      rw [State.move_self, gone] at mine
      cases mine
    · rw [State.move_other _ phase same] at mine
      exact ⟨same, mine⟩
  -- The order leaves its request and joins the stored ones, with the number it was given.
  refine ⟨numbered.first, numbered.last, ?_, ?_, ?_, ?_⟩
  · intro order member
    rcases List.mem_append.mp member with member | member
    · exact numbered.issued order member
    · obtain rfl : order = writes.order := by simpa using member
      exact ⟨positive, below⟩
  · show ((s.orders ++ [writes.order]).map Order.id).Nodup
    rw [List.map_append, List.nodup_append]
    refine ⟨numbered.unique, by simp, ?_⟩
    intro number member other single
    obtain ⟨order, among, rfl⟩ := List.mem_map.mp member
    obtain rfl : other = writes.order.id := by simpa using single
    exact unlike order among
  · intro other order mine
    obtain ⟨different, before⟩ := earlier other order mine
    obtain ⟨positive, below, old⟩ := numbered.written other order before
    refine ⟨positive, below, ?_⟩
    intro another member
    rcases List.mem_append.mp member with member | member
    · exact old another member
    · obtain rfl : another = writes.order := by simpa using member
      exact numbered.apart r other writes.order order different.symm carries before
  · intro one two first second different mine theirs
    exact numbered.apart one two first second different (earlier one first mine).2
      (earlier two second theirs).2

/-- An operation that fails has no order to write. -/
theorem Fails.pending {err : Err} {before after : Phase} (fails : Fails err before after) :
    after.pending = none := by
  cases fails <;> rfl

/-- A step of a request keeps the numbers of the orders. -/
theorem Move.numbered {action : Action} (numbered : Numbered s) (moved : Move s r action next) :
    Numbered next := by
  -- A number is issued by an insert, and stored by a commit or by one that took effect after all.
  cases moved with
  | fail unknown fails =>
    exact numbered.keep rfl rfl (pending_moved fun order mine => by
      rw [fails.pending] at mine; cases mine)
  | insertOrder phase positive total fresh bounded =>
    exact numbered.insert fresh bounded rfl rfl
  | commit phase => exact numbered.install (by rw [phase]; rfl) rfl
  | apply phase => exact numbered.install (by rw [phase]; rfl) rfl
  | commitFails phase unknown =>
    exact numbered.keep rfl rfl (pending_moved fun order mine => by rw [phase]; exact mine)
  | _ => exact numbered.keep rfl rfl (pending_moved fun order mine => by cases mine)

/-- Every step of the service keeps the numbers of the orders. -/
theorem Step.numbered {label : Label} (numbered : Numbered s) (stepped : Step s label next) :
    Numbered next := by
  -- Outside of the moves nothing is issued; a request that is received carries nothing.
  cases stepped with
  | act moved => exact moved.numbered numbered
  | tick d => exact numbered.keep rfl rfl fun _ _ mine => mine
  | connect => exact numbered.keep rfl rfl fun _ _ mine => mine
  | evict key => exact numbered.keep rfl rfl fun _ _ mine => mine
  | @receive r http phase =>
    refine numbered.keep rfl rfl (pending_moved fun order mine => ?_)
    cases handled : handle http <;> rw [handled] at mine <;> cases mine

/-- In every run each order has its own number. -/
theorem numbered_run {labels : List Label} (reached : machine.run State.init labels = some s) :
    Numbered s := by
  -- Nothing was issued or stored at first.
  have initial : Numbered State.init := by
    refine ⟨by decide, by decide, ?_, by decide, ?_, ?_⟩
    · intro order member
      cases member
    · intro r order mine
      cases mine
    · intro r other order another _ mine
      cases mine
  exact machine.run_invariant initial
    (fun _ _ _ numbered taken => (step_cases taken).numbered numbered) reached

/-- A total that fits into 64 bits is exact. -/
theorem totalOf_exact {product : Product} {quantity : Int} (price : 0 ≤ product.price)
    (positive : 0 < quantity) (fits : product.price * quantity < 2 ^ 63) :
    totalOf product quantity = product.price * quantity := by
  -- The product is in the range, so that it does not wrap.
  have nonneg : 0 ≤ product.price * quantity := Int.mul_nonneg price (Int.le_of_lt positive)
  unfold totalOf wrap64
  rw [Int.bmod_eq_of_le (by omega) (by omega)]

/--
In every run what is left of a product is what it was stocked with less what was ordered, which is
never more than that.

Every order is for a stored product at its price. No two orders have the same number, and no two
products were added under one.
-/
theorem never_oversold (labels : List Label) (s : State)
    (reached : machine.run State.init labels = some s) :
    (∀ id row, s.products id = some row → 0 ≤ row.stock ∧ ∃ r stocked,
      Event.added r stocked ∈ machine.observed visible State.init labels ∧ stocked.id = id ∧
        row = { stocked with stock := stocked.stock - shopBook.drawn s.orders id }) ∧
      (∀ order ∈ s.orders, 0 < order.quantity ∧ 0 ≤ order.total ∧
        ∃ row, s.products order.productID = some row ∧
          order.total = totalOf row order.quantity ∧
          (row.price * order.quantity < 2 ^ 63 → order.total = row.price * order.quantity)) ∧
      (s.orders.map Order.id).Nodup ∧
      ((machine.observed visible State.init labels).filterMap Event.number?).Nodup := by
  obtain ⟨shop, ran, agrees⟩ := shows_run reached
  have locked := locked_run reached
  refine ⟨?_, ?_, (numbered_run reached).unique, (shop_posted ran).2.2⟩
  · -- A row is what was added less what was drawn, and no account is overdrawn.
    intro id row found
    obtain ⟨stocked, opened, rfl⟩ := agrees.stocked found
    obtain ⟨number, r, added⟩ := (shop_posted ran).2.1 id stocked opened
    rw [agrees.orders]
    exact ⟨shop.remaining_nonneg opened, r, stocked, added, number, rfl⟩
  · -- An order was permitted by the book when it was placed.
    intro order member
    rw [agrees.orders] at member
    obtain ⟨stocked, opened, permitted⟩ := shop.backed order member
    obtain ⟨positive, charged, total⟩ := of_decide_eq_true permitted
    have found : s.products order.productID =
        some { stocked with stock := shop.remaining order.productID stocked } := by
      rw [agrees.products, Shop.row]
      exact congrArg (Option.map _) opened
    refine ⟨positive, charged, _, found, total, ?_⟩
    intro fits
    rw [total]
    exact totalOf_exact (locked.stored _ _ found).price positive fits

/-- The customer who comes second finds nothing left. -/
theorem never_oversold_race : ∃ s, machine.run State.init raceForLast = some s ∧
    s.products 7 = some ⟨7, "tea", 250, 0, 3⟩ ∧ (s.orders.map Order.id).Nodup ∧
    ∃ r stocked, Event.added r stocked ∈ machine.observed visible State.init raceForLast ∧
      (⟨7, "tea", 250, 0, 3⟩ : Product) =
        { stocked with stock := stocked.stock - shopBook.drawn s.orders 7 } := by
  -- After the race the last piece is sold.
  obtain ⟨s, reached, empty⟩ := machine.run_observe State.init raceForLast
    (fun s => s.products 7 = some ⟨7, "tea", 250, 0, 3⟩) (by decide +kernel)
  obtain ⟨rows, -, unique, -⟩ := never_oversold raceForLast s reached
  obtain ⟨-, r, stocked, added, -, row⟩ := rows 7 _ empty
  exact ⟨s, reached, empty, unique, r, stocked, added, row⟩

end Bootkit.Orders

import Bootkit.Go.Journal
import Bootkit.Orders.Locks

/-! The service does what a shop does that handles one customer after the other. -/

namespace Bootkit.Orders

open Go

variable {s next : State} {r : Nat}

/-- Products are stocked once and sold piece by piece, each order at the price of its product. -/
def shopBook : Book Int Product Order where
  limit := Product.stock
  account := Order.productID
  amount := Order.quantity
  permits product order := decide (0 < order.quantity ∧ 0 ≤ order.total ∧
    order.total = totalOf product order.quantity)

/-- The products as they were stocked and the orders, with no product oversold. -/
abbrev Shop := Journal shopBook

/-- A product with what is left of its stock. -/
def Shop.row (shop : Shop) (id : Int) : Option Product :=
  (shop.openings id).map fun product => { product with stock := shop.remaining id product }

/-- What becomes visible in the tables, and by which request. -/
inductive Event where
  | added (r : Nat) (product : Product)
  | placed (r : Nat) (order : Order)
  deriving Repr, DecidableEq

/-- What an event is to the shop. -/
def Event.posting : Event → Journal.Posting Int Product Order
  | .added _ product => .opening product.id product
  | .placed _ order => .entry order

/-- The shop that handles one event after the other. -/
def shopMachine : Machine Shop Event where
  step shop event := shop.post event.posting

/-- The order of an event that places one. -/
def Event.order? : Event → Option Order
  | .added _ _ => none
  | .placed _ order => some order

/-- The number of the product of an event that adds one. -/
def Event.number? : Event → Option Int
  | .added _ product => some product.id
  | .placed _ _ => none

/-- What a step of the service makes visible. -/
def visible (s : State) : Label → List Event
  | .act r (.insertProduct id createdAt _) =>
    match s.requests r with
    | .called (.createProduct name price stock) => [.added r ⟨id, name, price, stock, createdAt⟩]
    | _ => []
  | .act r .commit =>
    match s.requests r with
    | .inserted _ _ writes => [.placed r writes.order]
    | _ => []
  -- A commit that was reported as failed can still be applied.
  | .act r (.settle true) =>
    match s.requests r with
    | .lingering _ _ (some writes) _ => [.placed r writes.order]
    | _ => []
  | _ => []

/-- The tables show what the shop has. -/
structure Shows (s : State) (shop : Shop) : Prop where
  orders : s.orders = shop.entries
  products : ∀ id, s.products id = shop.row id

/-- A stored row is what is left of a product in the shop. -/
theorem Shows.stocked {shop : Shop} (shows_ : Shows s shop) {id : Int} {product : Product}
    (found : s.products id = some product) :
    ∃ opening, shop.openings id = some opening ∧
      product = { opening with stock := shop.remaining id opening } := by
  -- A row is shown by the opening of its account.
  rw [shows_.products id, Shop.row, Option.map_eq_some_iff] at found
  obtain ⟨opening, opened, rfl⟩ := found
  exact ⟨opening, opened, rfl⟩

/-- A new row is a product that the shop did not have. -/
theorem Shows.added {shop : Shop} (shows_ : Shows s shop) (product : Product)
    (fresh : s.products product.id = none) (stocked : 0 ≤ product.stock) :
    ∃ grown, shop.post (.opening product.id product) = some grown ∧
      Shows (s.store product) grown := by
  have unopened : shop.openings product.id = none := by
    rw [shows_.products, Shop.row, Option.map_eq_none_iff] at fresh
    exact fresh
  refine ⟨_, shop.post_opening unopened stocked, shows_.orders, ?_⟩
  intro id
  by_cases same : id = product.id
  · -- Nothing has been sold of the new product.
    subst same
    have unsold : shopBook.drawn shop.entries product.id = 0 := shop.drawn_unopened unopened
    simp only [State.store, Shop.row, Journal.opens, Journal.remaining, update_self,
      Option.map_some, unsold, Int.sub_zero]
    rfl
  · simp only [State.store, Shop.row, Journal.opens, Journal.remaining,
      update_other s.products _ same, update_other shop.openings _ same]
    exact shows_.products id

/-- What a complete transaction writes is an order that the shop has enough stock for. -/
theorem Shows.placed {shop : Shop} (shows_ : Shows s shop) (locked : Locked s)
    {productID quantity : Int} {writes : Writes}
    (complete : Complete s productID quantity writes) :
    ∃ sold, shop.post (.entry writes.order) = some sold ∧ Shows (s.install writes) sold := by
  obtain ⟨product, drawn, orderly⟩ := complete
  obtain ⟨opening, opened, left⟩ := shows_.stocked drawn.read
  have account : shopBook.account writes.order = productID := orderly.ofProduct
  have amount : shopBook.amount writes.order = quantity := orderly.ofQuantity
  -- The price of the row is that of the product, and its stock is what is left.
  have price : totalOf product quantity = totalOf opening quantity := by rw [left]; rfl
  have stock : product.stock = shop.remaining productID opening := by rw [left]
  have permitted : shopBook.permits opening writes.order = true := by
    have total := orderly.total
    have charged := orderly.charged
    have positive := orderly.positive
    simp only [shopBook, decide_eq_true_eq, orderly.ofQuantity, total]
    exact ⟨positive, charged, price⟩
  subst account
  have enough : shopBook.amount writes.order ≤
      shop.remaining (shopBook.account writes.order) opening := by
    rw [amount, ← stock]
    exact drawn.enough
  refine ⟨_, shop.post_entry opened permitted enough, ?_, ?_⟩
  · simp [State.install, Journal.draws, shows_.orders]
  · intro id
    by_cases same : id = shopBook.account writes.order
    · subst same
      rw [install_self locked drawn, Shop.row]
      simp only [Journal.draws, opened, Option.map_some, Option.some.injEq]
      have less := shop.remaining_draws_self opened permitted enough
      rw [amount] at less
      rw [Journal.draws] at less
      rw [less, left]
    · rw [install_other locked ⟨product, drawn, orderly⟩ same, shows_.products id, Shop.row,
        Shop.row]
      refine Option.map_congr fun known held => ?_
      rw [shop.remaining_draws_other opened permitted enough same]

/-- A run of one event. -/
theorem shopMachine_one {shop after : Shop} {event : Event}
    (posted : shop.post event.posting = some after) :
    shopMachine.run shop [event] = some after := by
  simp [Machine.run_cons, shopMachine, posted]

/-- A step of a request is seen by the shop as what it makes visible. -/
theorem Move.shown {action : Action} {shop : Shop} (locked : Locked s) (shows_ : Shows s shop)
    (moved : Move s r action next) :
    ∃ after, shopMachine.run shop (visible s (.act r action)) = some after ∧
      Shows next after := by
  -- Three moves are shown, and each of them is a posting that the shop accepts.
  have holds := locked.holds r
  cases moved with
  | @insertProduct name price stock id createdAt _ phase _ stocked _ _ fresh _ =>
    obtain ⟨grown, posted, agrees⟩ :=
      shows_.added ⟨id, name, price, stock, createdAt⟩ fresh stocked
    refine ⟨grown, ?_, agrees.orders, agrees.products⟩
    rw [visible, phase]
    exact shopMachine_one posted
  | commit phase =>
    rw [phase] at holds
    obtain ⟨sold, posted, agrees⟩ := shows_.placed locked holds.2
    refine ⟨sold, ?_, agrees.orders, agrees.products⟩
    rw [visible, phase]
    exact shopMachine_one posted
  | apply phase =>
    rw [phase] at holds
    obtain ⟨sold, posted, agrees⟩ := shows_.placed locked holds.2
    refine ⟨sold, ?_, agrees.orders, agrees.products⟩
    rw [visible, phase]
    exact shopMachine_one posted
  | _ => exact ⟨shop, rfl, shows_.orders, shows_.products⟩

/-- In every run the tables show what a shop has that handled the visible events in order. -/
theorem shows_run {labels : List Label} (reached : machine.run State.init labels = some s) :
    ∃ shop : Shop, shopMachine.run Journal.empty (machine.observed visible State.init labels) =
      some shop ∧ Shows s shop := by
  -- The shop follows the service step by step, with what each step shows.
  have initial : Shows State.init (Journal.empty : Shop) := ⟨rfl, fun _ => rfl⟩
  refine machine.run_simulates visible Shows initial ?_ reached
  intro labels state label next shop prior agrees taken
  have stepped : Step state label next := step_cases taken
  cases stepped with
  | act moved => exact moved.shown (locked_run prior) agrees
  | _ => exact ⟨shop, rfl, agrees.orders, agrees.products⟩

/-- The orders are those that were placed, and every product of the shop was added to it once. -/
theorem shop_posted {events : List Event} {shop : Shop}
    (ran : shopMachine.run Journal.empty events = some shop) :
    shop.entries = events.filterMap Event.order? ∧
      (∀ id product, shop.openings id = some product →
        product.id = id ∧ ∃ r, Event.added r product ∈ events) ∧
      (events.filterMap Event.number?).Nodup := by
  -- The shop is the journal machine under the names that the service has for postings.
  have posted : (Journal.machine shopBook).run Journal.empty (events.map Event.posting) =
      some shop :=
    (Journal.machine shopBook).run_embed id Event.posting (fun _ _ _ taken => taken) ran
  obtain ⟨entries, openings⟩ := Journal.machine_posted posted
  refine ⟨?_, ?_, ?_⟩
  · rw [entries, List.filterMap_map]
    refine List.filterMap_congr fun event _ => ?_
    cases event <;> rfl
  · intro id product opened
    obtain ⟨event, member, same⟩ := List.mem_map.mp (openings id product opened)
    cases event with
    | added r added =>
      cases same
      exact ⟨rfl, r, member⟩
    | placed r order => cases same
  · have once := Journal.machine_opened_once posted
    rw [List.filterMap_map] at once
    have same : events.filterMap (Journal.Posting.account? ∘ Event.posting) =
        events.filterMap Event.number? :=
      List.filterMap_congr fun event _ => by cases event <;> rfl
    rwa [same] at once

/--
However the requests interleave, the tables are those of a shop that handles what becomes visible
one event after the other, and that never sells what it does not have.
-/
theorem service_refines_shop (labels : List Label) (s : State)
    (reached : machine.run State.init labels = some s) :
    ∃ shop : Shop, shopMachine.run Journal.empty (machine.observed visible State.init labels) =
        some shop ∧ s.orders = shop.entries ∧ ∀ id, s.products id = shop.row id := by
  -- The relation at the end of the run, spelled out.
  obtain ⟨shop, ran, agrees⟩ := shows_run reached
  exact ⟨shop, ran, agrees.orders, agrees.products⟩

/-- Two customers want the only piece of a product, and both transactions begin. -/
def raceForLast : List Label :=
  [.connect, .receive 0 (.createProduct (.ok ⟨"tea", 250, 1⟩)), .act 0 (.insertProduct 7 3 none),
    .receive 1 (.createOrder (.ok ⟨7, 1⟩)), .receive 2 (.createOrder (.ok ⟨7, 1⟩)),
    .act 1 .begin, .act 2 .begin, .act 1 .lockProduct, .act 1 .decrement,
    .act 1 (.insertOrder 1 5), .act 1 .commit, .act 2 .lockProduct, .act 2 .decrement,
    .act 2 (.rollback none), .act 1 (.invalidate true)]

/-- The shop sells the piece once. -/
theorem service_refines_shop_race : ∃ s, machine.run State.init raceForLast = some s ∧
    s.orders = [⟨1, 7, 1, 250, 5⟩] ∧
    ∃ shop : Shop, shopMachine.run Journal.empty
        (machine.observed visible State.init raceForLast) = some shop ∧
      s.orders = shop.entries ∧ ∀ id, s.products id = shop.row id := by
  -- One of the two orders gets the last piece.
  obtain ⟨s, reached, sold⟩ := machine.run_observe State.init raceForLast
    (fun s => s.orders = [⟨1, 7, 1, 250, 5⟩]) (by decide +kernel)
  exact ⟨s, reached, sold, service_refines_shop raceForLast s reached⟩

end Bootkit.Orders

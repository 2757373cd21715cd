import Bootkit.Orders.Sales

/-! What the client of a request is told, and what the request has done to the tables. -/

namespace Bootkit.Orders

open Go

variable {s next : State} {r : Nat}

/-- Whose event it is. -/
def Event.by : Event → Nat
  | .added r _ => r
  | .placed r _ => r

/-- What one request has made visible along a schedule. -/
def effects (labels : List Label) (r : Nat) : List Event :=
  (machine.observed visible State.init labels).filter fun event => event.by = r

/-- Whether Postgres may have done what it did not confirm. -/
def Action.unconfirmed : Action → Bool
  | .insertProduct _ _ (some _) => true
  | .commitFails _ => true
  | _ => false

/-- A request asked Postgres for something and never learned whether it was done. -/
def Unsure (labels : List Label) (r : Nat) : Prop :=
  ∃ action, .act r action ∈ labels ∧ action.unconfirmed = true

/-- The order of a request was committed, and dropping the cached product panicked behind it. -/
structure Crashed (labels : List Label) (r : Nat) : Prop where
  committed : .act r .commit ∈ labels
  unconnected : ∃ moment, machine.Took State.init labels (.act r .panic) moment ∧
    moment.client = false

/-- What a request has made visible when it has its answer. -/
def Request.Told (labels : List Label) (r : Nat) (events : List Event) (request : Request) :
    Answer → Prop
  | .order order =>
    match request with
    | .createOrder productID quantity =>
      events = [.placed r order] ∧ order.productID = productID ∧ order.quantity = quantity
    | _ => events = []
  | .product product =>
    match request with
    | .createProduct name price stock =>
      events = [.added r product] ∧ product.name = name ∧ product.price = price ∧
        product.stock = stock
    | _ => events = []
  | .failed err => events = [] ∨ events.length = 1 ∧ foreign err = true ∧ Unsure labels r
  | .panicked => events = [] ∨ events.length = 1 ∧ Crashed labels r

/-- What a request in a phase has made visible. -/
def Phase.Effect (labels : List Label) (r : Nat) (events : List Event) : Phase → Prop
  | .committed productID quantity order =>
    events = [.placed r order] ∧ order.productID = productID ∧ order.quantity = quantity ∧
      .act r .commit ∈ labels
  | .lingering _ _ writes err =>
    events = [] ∧ (writes ≠ none → foreign err = true ∧ Unsure labels r)
  | .answered request answer => request.Told labels r events answer
  | _ => events = []

/-- Who is not sure stays so. -/
theorem Unsure.extend {labels : List Label} (unsure : Unsure labels r) (label : Label) :
    Unsure (labels ++ [label]) r := by
  -- The reply that leaves the matter open is still among the labels.
  obtain ⟨action, member, unconfirmed⟩ := unsure
  exact ⟨action, List.mem_append_left _ member, unconfirmed⟩

/-- Who has crashed stays so. -/
theorem Crashed.extend {labels : List Label} (crashed : Crashed labels r) (label : Label) :
    Crashed (labels ++ [label]) r := by
  -- The commit and the moment of the panic are in the past.
  obtain ⟨moment, took, unconnected⟩ := crashed.unconnected
  exact ⟨List.mem_append_left _ crashed.committed, moment, took.extend label, unconnected⟩

/-- A longer schedule in which a request makes nothing visible keeps what is known of it. -/
theorem Phase.Effect.extend {labels : List Label} {events : List Event} {phase : Phase}
    (effect : phase.Effect labels r events) (label : Label) :
    phase.Effect (labels ++ [label]) r events := by
  -- No phase says more about the labels than that some were there.
  cases phase with
  | committed productID quantity order =>
    obtain ⟨placed, ordered, amount, committed⟩ := effect
    exact ⟨placed, ordered, amount, List.mem_append_left _ committed⟩
  | lingering productID quantity writes err =>
    obtain ⟨nothing, doubt⟩ := effect
    exact ⟨nothing, fun written => ⟨(doubt written).1, (doubt written).2.extend label⟩⟩
  | answered request answer =>
    cases answer with
    | failed err =>
      rcases effect with nothing | ⟨one, unknown, unsure⟩
      · exact .inl nothing
      · exact .inr ⟨one, unknown, unsure.extend label⟩
    | panicked =>
      rcases effect with nothing | ⟨one, crashed⟩
      · exact .inl nothing
      · exact .inr ⟨one, crashed.extend label⟩
    | product product => exact effect
    | order order => exact effect
  | _ => exact effect

/-- Only the request that moves makes something visible. -/
theorem visible_by {label : Label} {event : Event} (seen : event ∈ visible s label) :
    label.mover = some event.by := by
  -- Each of the three kinds of events names the request whose step it is.
  unfold visible at seen
  split at seen
  · split at seen
    · obtain rfl := List.mem_singleton.mp seen
      rfl
    · cases seen
  · split at seen
    · obtain rfl := List.mem_singleton.mp seen
      rfl
    · cases seen
  · split at seen
    · obtain rfl := List.mem_singleton.mp seen
      rfl
    · cases seen
  · cases seen

/-- One more step adds what its request makes visible. -/
theorem effects_concat {labels : List Label} (reached : machine.run State.init labels = some s)
    (label : Label) (r : Nat) :
    effects (labels ++ [label]) r =
      effects labels r ++ (visible s label).filter fun event => event.by = r := by
  -- The events of a longer run are those of the run and those of its last step.
  rw [effects, machine.observed_concat visible reached, List.filter_append]
  rfl

/-- A step of somebody else makes nothing visible for a request. -/
theorem effects_other {labels : List Label} (reached : machine.run State.init labels = some s)
    {label : Label} (other : label.mover ≠ some r) :
    effects (labels ++ [label]) r = effects labels r := by
  -- A step shows events of the request that takes it, and of no other.
  have none : (visible s label).filter (fun event => event.by = r) = [] := by
    rw [List.filter_eq_nil_iff]
    intro event seen mine
    rw [visible_by seen, of_decide_eq_true mine] at other
    exact other rfl
  rw [effects_concat reached, none, List.append_nil]

/-- A step that makes nothing visible. -/
theorem effects_quiet {labels : List Label} (reached : machine.run State.init labels = some s)
    {label : Label} (quiet : visible s label = []) (r : Nat) :
    effects (labels ++ [label]) r = effects labels r := by
  rw [effects_concat reached, quiet, List.filter_nil, List.append_nil]

/-- A step that makes one event of a request visible. -/
theorem effects_one {labels : List Label} (reached : machine.run State.init labels = some s)
    {label : Label} {event : Event} (one : visible s label = [event])
    (before : effects labels r = [])
    (mine : event.by = r) : effects (labels ++ [label]) r = [event] := by
  -- The request has shown nothing before.
  rw [effects_concat reached, one, before]
  simp [mine]

/-- An error of the driver stays one behind any label. -/
theorem foreign_annotate {err : Err} (label : String) (unknown : foreign err = true) :
    foreign (err.annotate label) = true := by
  simpa [foreign, Err.annotate, Err.is, Err.anyIs] using unknown

/-- A query that fails with an error of the driver returns one. -/
theorem foreign_scanErr {label : String} {err : Err} (unknown : foreign err = true) :
    foreign (scanErr label err) = true := by
  -- A foreign error is not the one for no rows, so that it is annotated and stays foreign.
  have other : err.is errNoRows = false := by
    simp only [foreign, Bool.and_eq_true, Bool.not_eq_true'] at unknown
    exact unknown.2
  rw [scanErr, other]
  exact foreign_annotate label unknown

/-- An operation that fails has made nothing visible. -/
theorem Fails.effect {labels : List Label} {err : Err} {before after : Phase}
    {events : List Event} (fails : Fails err before after)
    (effect : before.Effect labels r events) : after.Effect labels r events := by
  cases fails <;> first | exact effect | exact .inl effect

/-- A step of a request leaves it in a phase that tells what it has made visible. -/
theorem Move.effect {labels : List Label} {action : Action}
    (reached : machine.run State.init labels = some s)
    (effect : (s.requests r).Effect labels r (effects labels r))
    (moved : Move s r action next) :
    (next.requests r).Effect (labels ++ [.act r action]) r
      (effects (labels ++ [.act r action]) r) := by
  have holds := (locked_run reached).holds r
  have quiet : visible s (.act r action) = [] →
      effects (labels ++ [.act r action]) r = effects labels r :=
    fun none => effects_quiet reached none r
  cases moved with
  | fail unknown fails =>
    rw [State.move_self, quiet rfl]
    exact (fails.effect effect).extend _
  | @insertProduct name price stock id createdAt lost phase _ _ _ _ _ unknown =>
    rw [phase] at effect
    have added : effects (labels ++ [.act r (.insertProduct id createdAt lost)]) r =
        [.added r ⟨id, name, price, stock, createdAt⟩] :=
      effects_one reached (by rw [visible, phase]) effect rfl
    rw [State.move_self, added]
    cases lost with
    | none => exact ⟨rfl, rfl, rfl, rfl⟩
    | some err =>
      -- The row is there, and the client is told that something went wrong.
      exact .inr ⟨rfl, foreign_annotate "insert product" (unknown err rfl), _,
        List.mem_append_right _ List.mem_cons_self, rfl⟩
  | commit phase =>
    rw [phase] at effect holds
    obtain ⟨product, -, orderly⟩ := holds.2
    rw [State.move_self, effects_one reached (by rw [visible, phase]) effect rfl]
    exact ⟨rfl, orderly.ofProduct, orderly.ofQuantity, List.mem_append_right _ List.mem_cons_self⟩
  | commitFails phase unknown =>
    rw [phase] at effect
    rw [State.move_self, quiet rfl]
    exact ⟨effect, fun _ => ⟨foreign_annotate _ unknown, _,
      List.mem_append_right _ List.mem_cons_self, rfl⟩⟩
  | rollbackFails phase unknown =>
    rw [phase] at effect
    rw [State.move_self, quiet rfl]
    exact ⟨effect, fun written => absurd rfl written⟩
  | apply phase =>
    rw [phase] at effect
    obtain ⟨nothing, doubt⟩ := effect
    obtain ⟨unknown, unsure⟩ := doubt (by simp)
    rw [State.move_self, effects_one reached (by rw [visible, phase]) nothing rfl]
    exact .inr ⟨rfl, unknown, unsure.extend _⟩
  | discard phase =>
    rw [phase] at effect
    rw [State.move_self, quiet rfl]
    exact .inl effect.1
  | invalidate phase | invalidateFails phase =>
    rw [phase] at effect
    rw [State.move_self, quiet rfl]
    exact ⟨effect.1, effect.2.1, effect.2.2.1⟩
  | deletePanics phase unconnected =>
    -- The order is there, and the client is told that something went wrong.
    rw [phase] at effect
    rw [State.move_self, quiet rfl, effect.1]
    exact .inr ⟨rfl, List.mem_append_left _ effect.2.2.2, s, .last reached _, unconnected⟩
  | _ =>
    rw [‹s.requests r = _›] at effect
    rw [State.move_self, quiet rfl]
    first | exact effect | exact .inl effect

/-- In every run the phase of a request tells what it has made visible. -/
theorem effect_run {labels : List Label} (reached : machine.run State.init labels = some s)
    (r : Nat) : (s.requests r).Effect labels r (effects labels r) := by
  have initial : (State.init.requests r).Effect [] r (effects [] r) := rfl
  refine machine.run_history (fun labels s => (s.requests r).Effect labels r (effects labels r))
    initial ?_ labels s reached
  intro labels state label next prior effect taken
  have stepped : Step state label next := step_cases taken
  -- A step of another request shows nothing of this one, and does not move it.
  by_cases mine : label.mover = some r
  · rcases stepped.own mine with ⟨http, rfl, phase, rfl⟩ | ⟨action, rfl, moved⟩
    · rw [phase] at effect
      rw [State.move_self, effects_quiet prior rfl]
      cases handle http <;> exact effect
    · exact moved.effect prior effect
  · rw [(stepped.frame (locked_run prior)).requests r (Ne.symm mine), effects_other prior mine]
    exact effect.extend label

/-- What the handler made of the request that a phase belongs to. -/
def Phase.origin : Phase → Option (Except Response Request)
  | .idle => none
  | .rejected response => some (.error response)
  | .called request => some (.ok request)
  | .missed id => some (.ok (.getProduct id))
  | .loaded id _ _ => some (.ok (.getProduct id))
  | .begun productID quantity => some (.ok (.createOrder productID quantity))
  | .locked productID quantity _ => some (.ok (.createOrder productID quantity))
  | .decremented productID quantity _ _ => some (.ok (.createOrder productID quantity))
  | .inserted productID quantity _ => some (.ok (.createOrder productID quantity))
  | .failing productID quantity _ => some (.ok (.createOrder productID quantity))
  | .lingering productID quantity _ _ => some (.ok (.createOrder productID quantity))
  | .committed productID quantity _ => some (.ok (.createOrder productID quantity))
  | .answered request _ => some (.ok request)

/-- An operation that fails is of the same request. -/
theorem Fails.origin {err : Err} {before after : Phase} (fails : Fails err before after) :
    after.origin = before.origin := by
  cases fails <;> rfl

/-- A request stays the one that it is. -/
theorem Move.origin {action : Action} (moved : Move s r action next) :
    (next.requests r).origin = (s.requests r).origin := by
  -- No move changes which request is being served.
  cases moved with
  | fail unknown fails =>
    rw [State.move_self]
    exact fails.origin
  | _ =>
    rw [State.move_self, ‹s.requests r = _›]
    rfl

/-- A request that has entered is what its handler made of it. -/
@[simp] theorem Phase.origin_entered (handled : Except Response Request) :
    (Phase.entered handled).origin = some handled := by
  cases handled <;> rfl

/-- In every run a request is what the handler made of what was received. -/
theorem origin_run {labels : List Label} (reached : machine.run State.init labels = some s)
    {r : Nat} {http : HttpRequest} (received : .receive r http ∈ labels) :
    (s.requests r).origin = some (handle http) := by
  refine machine.run_history (fun labels s => .receive r http ∈ labels →
    (s.requests r).origin = some (handle http)) nofun ?_ labels s reached received
  intro labels state label next prior known taken received
  have stepped : Step state label next := step_cases taken
  by_cases mine : label.mover = some r
  · rcases stepped.own mine with ⟨other, rfl, phase, rfl⟩ | ⟨action, rfl, moved⟩
    · rcases List.mem_append.mp received with earlier | now
      · -- An idle request has not been received before.
        have contradiction := known earlier
        rw [phase] at contradiction
        cases contradiction
      · obtain rfl : http = other := by simpa using now
        rw [State.move_self, Phase.origin_entered]
    · rw [moved.origin]
      exact known (by simpa using received)
  · rw [(stepped.frame (locked_run prior)).requests r (Ne.symm mine)]
    rcases List.mem_append.mp received with earlier | now
    · exact known earlier
    · obtain rfl := List.mem_singleton.mp now
      exact absurd rfl mine

/-- Whether an event is what a request asked for and what its client is shown. -/
def Event.Answers : Event → HttpRequest → ResponseBody → Prop
  | .added _ product, .createProduct (.ok body), .product shown =>
    shown = product ∧ product.name = body.name ∧ product.price = body.priceCents ∧
      product.stock = body.stock
  | .placed _ order, .createOrder (.ok body), .order shown =>
    shown = order ∧ order.productID = body.productID ∧ order.quantity = body.quantity
  | _, _, _ => False

/-- What the handlers make of a request. -/
inductive Handled : HttpRequest → Except Response Request → Prop
  | invalid (http : HttpRequest) (message : String) :
      Handled http (.error (invalidRequest message))
  | createProduct {body : CreateProductRequest} (named : body.name ≠ "")
      (priced : 0 ≤ body.priceCents) (stocked : 0 ≤ body.stock) :
      Handled (.createProduct (.ok body))
        (.ok (.createProduct body.name body.priceCents body.stock))
  | getProduct {param : String} {id : Int} (parsed : pathID param = some id) :
      Handled (.getProduct param) (.ok (.getProduct id))
  | createOrder {body : CreateOrderRequest} (known : 0 < body.productID)
      (positive : 0 < body.quantity) :
      Handled (.createOrder (.ok body)) (.ok (.createOrder body.productID body.quantity))
  | getOrder {param : String} {id : Int} (parsed : pathID param = some id) :
      Handled (.getOrder param) (.ok (.getOrder id))

/-- Every request is handled in one of these ways. -/
theorem handle_cases (http : HttpRequest) : Handled http (handle http) := by
  cases http with
  | createProduct body =>
    cases body with
    | error message => exact .invalid _ message
    | ok body =>
      simp only [handle]
      -- The checks are made one after the other, and the first that fails is reported.
      split
      · exact .invalid _ _
      · next named =>
        split
        · exact .invalid _ _
        · split
          · exact .invalid _ _
          · exact .createProduct named (by omega) (by omega)
  | getProduct param =>
    simp only [handle]
    split
    · exact .invalid _ _
    · next id parsed => exact .getProduct parsed
  | createOrder body =>
    cases body with
    | error message => exact .invalid _ message
    | ok body =>
      simp only [handle]
      split
      · exact .invalid _ _
      · split
        · exact .invalid _ _
        · exact .createOrder (by omega) (by omega)
  | getOrder param =>
    simp only [handle]
    split
    · exact .invalid _ _
    · next id parsed => exact .getOrder parsed

/-- What a handler made of a request is one of the ways to handle it. -/
theorem handled_of_eq {http : HttpRequest} {result : Except Response Request}
    (handled : handle http = result) : Handled http result := by
  -- Every request is handled in one of the ways that were listed.
  rw [← handled]
  exact handle_cases http

/-- The errors that the handlers do not know are internal ones. -/
theorem renderServiceError_foreign {err : Err} (unknown : foreign err = true) :
    (renderServiceError err).status = 500 := by
  -- It matches neither of the errors that the renderer knows.
  simp only [foreign, Bool.and_eq_true, Bool.not_eq_true'] at unknown
  simp [renderServiceError, unknown.1.1, unknown.1.2, writeError]

/-- Every other error of the service is answered in one of three ways. -/
theorem renderServiceError_status (err : Err) :
    (renderServiceError err).status = 404 ∨ (renderServiceError err).status = 409 ∨
      (renderServiceError err).status = 500 := by
  -- By the order in which the renderer asks.
  unfold renderServiceError
  split
  · exact .inl rfl
  · split
    · exact .inr (.inl rfl)
    · exact .inr (.inr rfl)

/-- What a status code says about what a request has made visible. -/
def Told (labels : List Label) (r : Nat) (http : HttpRequest) (response : Response) : Prop :=
  (response.status = 201 ∧ ∃ event, effects labels r = [event] ∧
    event.Answers http response.body) ∨
  (response.status ∈ [200, 400, 404, 409] ∧ effects labels r = []) ∨
  (response.status = 500 ∧ (effects labels r = [] ∨
    (effects labels r).length = 1 ∧ (Unsure labels r ∨ Crashed labels r)))

/-- A service error is told as one by a request that has made nothing visible. -/
theorem told_nothing {labels : List Label} {http : HttpRequest} (err : Err)
    (nothing : effects labels r = []) : Told labels r http (renderServiceError err) := by
  -- Nothing was shown, and no error renders as a creation.
  rcases renderServiceError_status err with status | status | status
  · exact .inr (.inl ⟨by simp [status], nothing⟩)
  · exact .inr (.inl ⟨by simp [status], nothing⟩)
  · exact .inr (.inr ⟨status, .inl nothing⟩)

/-- What the handlers write for an answer says what the request has made visible. -/
theorem told_answer {labels : List Label} {http : HttpRequest} {request : Request}
    {answer : Answer} (accepted : handle http = .ok request)
    (told : request.Told labels r (effects labels r) answer) :
    Told labels r http (respond request answer) := by
  -- By the answer; a success is a creation only if the request was one.
  cases answer with
  | failed err =>
    rcases told with nothing | ⟨one, unknown, unsure⟩
    · exact told_nothing err nothing
    · exact .inr (.inr ⟨renderServiceError_foreign unknown, .inr ⟨one, .inl unsure⟩⟩)
  | panicked =>
    rcases told with nothing | ⟨one, crashed⟩
    · exact .inr (.inr ⟨rfl, .inl nothing⟩)
    · exact .inr (.inr ⟨rfl, .inr ⟨one, .inr crashed⟩⟩)
  | product product =>
    cases request with
    | createProduct name price stock =>
      obtain ⟨added, named, priced, stocked⟩ := told
      have handled := handled_of_eq accepted
      cases handled
      exact .inl ⟨rfl, _, added, rfl, named, priced, stocked⟩
    | _ => exact .inr (.inl ⟨by simp [respond], told⟩)
  | order order =>
    cases request with
    | createOrder productID quantity =>
      obtain ⟨placed, ordered, amount⟩ := told
      have handled := handled_of_eq accepted
      cases handled
      exact .inl ⟨rfl, _, placed, rfl, ordered, amount⟩
    | _ => exact .inr (.inl ⟨by simp [respond], told⟩)

/--
What a client is told is what its request has done to the tables, in every run.

A 201 shows the one row that was written; nothing was written behind a 400, 404 or 409, then or
later; and only a 500 can leave a client in doubt: when Postgres did not confirm what it was asked
for, or when the cache had no client to drop the product with behind a confirmed commit.
-/
theorem answers_tell_effects (labels : List Label) (s : State) (r : Nat) (http : HttpRequest)
    (response : Response) (reached : machine.run State.init labels = some s)
    (received : .receive r http ∈ labels)
    (answered : (s.requests r).response = some response) :
    (response.status = 201 ∧ ∃ event, effects labels r = [event] ∧
      event.Answers http response.body) ∨
    (response.status ∈ [200, 400, 404, 409] ∧ effects labels r = []) ∨
    (response.status = 500 ∧ (effects labels r = [] ∨
      (effects labels r).length = 1 ∧ (Unsure labels r ∨ Crashed labels r))) := by
  have effect := effect_run reached r
  have origin := origin_run reached received
  -- Only three phases have an answer.
  cases phase : s.requests r with
  | rejected refusal =>
    rw [phase] at effect origin answered
    obtain rfl : refusal = response := Option.some.inj answered
    have handled := handled_of_eq (Option.some.inj origin).symm
    cases handled
    exact .inr (.inl ⟨by simp [invalidRequest, writeError], effect⟩)
  | lingering productID quantity writes err =>
    rw [phase] at effect answered
    obtain rfl : renderServiceError err = response := Option.some.inj answered
    exact told_nothing err effect.1
  | answered request answer =>
    rw [phase] at effect origin answered
    obtain rfl : respond request answer = response := Option.some.inj answered
    exact told_answer (Option.some.inj origin).symm effect
  | _ =>
    rw [phase] at answered
    cases answered

/-- The customer who comes second is told so, and has ordered nothing. -/
theorem answers_tell_effects_race : ∃ s response,
    machine.run State.init raceForLast = some s ∧
    (s.requests 2).response = some response ∧ response.status = 409 ∧
    effects raceForLast 2 = [] := by
  -- The second order of the race is refused, and a refusal has shown nothing.
  obtain ⟨s, reached, refused⟩ := machine.run_observe State.init raceForLast
    (fun s => (s.requests 2).response = some ⟨409, .error "insufficient_stock"
      "insufficient stock: have 0, want 1"⟩) (by decide +kernel)
  have told := answers_tell_effects raceForLast s 2 (.createOrder (.ok ⟨7, 1⟩)) _ reached
    (by simp [raceForLast]) refused
  refine ⟨s, _, reached, refused, rfl, ?_⟩
  rcases told with ⟨status, -⟩ | ⟨-, nothing⟩ | ⟨status, -⟩
  · cases status
  · exact nothing
  · cases status

/-- A product is ordered before the cache is connected. -/
def orderUnconnected : List Label :=
  [.receive 0 (.createProduct (.ok ⟨"tea", 250, 5⟩)), .act 0 (.insertProduct 7 3 none),
    .receive 1 (.createOrder (.ok ⟨7, 2⟩)), .act 1 .begin, .act 1 .lockProduct,
    .act 1 .decrement, .act 1 (.insertOrder 1 5), .act 1 .commit, .act 1 .panic]

-- The order is placed, Postgres has confirmed it, and its client is told that something failed.
example : (machine.run State.init orderUnconnected).any (fun s =>
    s.orders = [⟨1, 7, 2, 500, 5⟩] ∧ (s.requests 1).response = some ⟨500, .empty⟩) = true := by
  decide +kernel

end Bootkit.Orders

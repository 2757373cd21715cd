import Bootkit.Orders.Cache

/-! Dropping the cached product behind every commit keeps an undisturbed cache coherent. -/

namespace Bootkit.Orders

open Go

variable {s next : State} {r : Nat}

/-- The product whose cached copy a request is about to drop. -/
def Phase.invalidates : Phase → Option Int
  | .committed productID _ _ => some productID
  | _ => none

/-- Somebody is about to drop the cached copy of a product. -/
def Invalidating (requests : Nat → Phase) (id : Int) : Prop :=
  ∃ r, (requests r).invalidates = some id

/-- Every cached product is the committed row, or is about to be dropped by a connected cache. -/
def Coherent (s : State) : Prop :=
  ∀ id entry, s.cache (productCacheKey id) = some entry → s.client = true ∧
    (s.products id = some entry.product ∨ Invalidating s.requests id)

/--
Whether a step leaves the scheme of the service intact: the cache is not populated with a row that
was overtaken, no deletion fails, and no commit is applied that was reported as failed.
-/
def undisturbed (s : State) : Label → Bool
  | .act r (.cacheSet true) =>
    match s.requests r with
    | .loaded id product _ => s.products id = some product
    | _ => true
  | .act _ (.invalidate deleted) => deleted
  | .act _ (.settle applied) => !applied
  | _ => true

/-- A request that drops no cached product can move without changing who does. -/
theorem Invalidating.move {requests : Nat → Phase} {id : Int} {phase : Phase}
    (pending : Invalidating requests id) (other : (requests r).invalidates ≠ some id) :
    Invalidating (update requests r phase) id := by
  -- The request that is to invalidate the entry is not the one that moves.
  obtain ⟨holder, invalidates⟩ := pending
  have apart : holder ≠ r := by
    intro same
    rw [same] at invalidates
    exact other invalidates
  exact ⟨holder, by rwa [update_other _ _ apart]⟩

/-- A step that leaves the rows and the cache alone keeps the cache coherent. -/
theorem Coherent.move {phase : Phase} (coherent : Coherent s)
    (none : (s.requests r).invalidates = none) : Coherent (s.move r phase) := by
  -- The cache and the rows stay, and whoever is to invalidate an entry still is.
  intro id entry cached
  obtain ⟨connected, stored | pending⟩ := coherent id entry cached
  · exact ⟨connected, .inl stored⟩
  · exact ⟨connected, .inr (pending.move (by rw [none]; exact nofun))⟩

/-- An operation that fails drops no cached product. -/
theorem Fails.invalidates {err : Err} {before after : Phase} (fails : Fails err before after) :
    before.invalidates = none := by
  cases fails <;> rfl

/-- An undisturbed step of a request keeps the cache coherent. -/
theorem Move.coherent {action : Action} (locked : Locked s) (coherent : Coherent s)
    (calm : undisturbed s (.act r action) = true) (moved : Move s r action next) :
    Coherent next := by
  have holds := locked.holds r
  cases moved with
  | fail unknown fails => exact coherent.move fails.invalidates
  | @insertProduct _ _ _ number _ _ phase _ _ _ _ fresh _ =>
    intro id entry cached
    obtain ⟨connected, stored | pending⟩ := coherent id entry cached
    · -- The new row is stored where there was none.
      have elsewhere : id ≠ number := by
        intro same
        rw [same, fresh] at stored
        cases stored
      exact ⟨connected, .inl ((update_other s.products _ elsewhere).trans stored)⟩
    · exact ⟨connected, .inr (pending.move (by rw [phase]; exact nofun))⟩
  | @populate number product since phase connected =>
    rw [undisturbed, phase] at calm
    have current : s.products number = some product := of_decide_eq_true calm
    intro id entry cached
    by_cases same : id = number
    · subst same
      obtain rfl := Option.some.inj ((update_self s.cache _ _).symm.trans cached)
      exact ⟨connected, .inl current⟩
    · have elsewhere : productCacheKey id ≠ productCacheKey number :=
        fun key => same (productCacheKey_injective key)
      obtain ⟨-, stored | pending⟩ :=
        coherent id entry ((update_other s.cache _ elsewhere).symm.trans cached)
      · exact ⟨connected, .inl stored⟩
      · exact ⟨connected, .inr (pending.move (by rw [phase]; exact nofun))⟩
  | @commit productID quantity writes phase =>
    rw [phase] at holds
    intro id entry cached
    obtain ⟨connected, known⟩ := coherent id entry cached
    refine ⟨connected, ?_⟩
    by_cases same : id = productID
    · -- The row has changed, and this request is going to drop its cached copy.
      subst same
      exact .inr ⟨r, by rw [State.move_self]; rfl⟩
    · rcases known with stored | pending
      · exact .inl ((install_other locked holds.2 same).trans stored)
      · exact .inr (pending.move (by rw [phase]; exact nofun))
  | apply phase => cases calm
  | @invalidate productID quantity order phase =>
    intro id entry cached
    by_cases same : id = productID
    · subst same
      cases (update_self s.cache _ _).symm.trans cached
    · obtain ⟨connected, stored | pending⟩ := coherent id entry (setCache_none cached)
      · exact ⟨connected, .inl stored⟩
      · refine ⟨connected, .inr (pending.move ?_)⟩
        rw [phase]
        exact fun equal => same (Option.some.inj equal).symm
  | invalidateFails phase => cases calm
  | deletePanics phase unconnected =>
    -- Nothing was ever cached, so nothing stale stays behind.
    intro id entry cached
    have connected := (coherent id entry cached).1
    rw [unconnected] at connected
    cases connected
  | _ =>
    exact fun id entry cached => coherent.move (by rw [‹s.requests r = _›]; rfl) id entry cached

/-- In every undisturbed run the cache is coherent. -/
theorem coherent_run {labels : List Label} (reached : machine.run State.init labels = some s)
    (calm : machine.Obeys (fun s label => undisturbed s label = true) State.init labels) :
    Coherent s := by
  have initial : Coherent State.init := by
    intro id entry cached
    cases cached
  refine machine.run_obeying (fun _ s => Coherent s) initial ?_ labels s calm reached
  intro labels state label next prior coherent calm taken
  have stepped : Step state label next := step_cases taken
  -- Outside of requests an entry can only go.
  cases stepped with
  | tick d => exact coherent
  | connect => exact fun id entry cached => ⟨rfl, (coherent id entry cached).2⟩
  | evict key => exact fun id entry cached => coherent id entry (setCache_none cached)
  | receive phase => exact coherent.move (by rw [phase]; rfl)
  | act moved => exact moved.coherent (locked_run prior) coherent calm

/--
Unless something disturbs the scheme of the service, what the cache returns is the committed row,
whenever nobody is between a commit and the deletion behind it.
-/
theorem cache_coherent (labels : List Label) (s : State) (id : Int) (product : Product)
    (reached : machine.run State.init labels = some s)
    (calm : machine.Obeys (fun s label => undisturbed s label = true) State.init labels)
    (settled : ¬ Invalidating s.requests id) (hit : s.cached id = some product) :
    s.products id = some product := by
  -- A hit is an entry, and with nobody about to invalidate it the entry is the row.
  obtain ⟨entry, cached, alive⟩ := Option.bind_eq_some_iff.mp hit
  have same : entry.product = product := by
    split at alive
    · exact Option.some.inj alive
    · cases alive
  rcases (coherent_run reached calm id entry cached).2 with stored | pending
  · rw [stored, same]
  · exact absurd pending settled

/-- A product is read, ordered and read again. -/
def readOrderRead : List Label :=
  [.connect, .receive 0 (.createProduct (.ok ⟨"tea", 250, 5⟩)), .act 0 (.insertProduct 7 3 none),
    .receive 1 (.getProduct "7"), .act 1 .cacheMiss, .act 1 .selectProduct,
    .act 1 (.cacheSet true), .receive 2 (.createOrder (.ok ⟨7, 2⟩)), .act 2 .begin,
    .act 2 .lockProduct, .act 2 .decrement, .act 2 (.insertOrder 1 5), .act 2 .commit,
    .act 2 (.invalidate true), .receive 3 (.getProduct "7"), .act 3 .cacheMiss,
    .act 3 .selectProduct, .act 3 (.cacheSet true)]

/-- The second reader leaves the row behind that the order has written. -/
theorem cache_coherent_after_order : ∃ s, machine.run State.init readOrderRead = some s ∧
    s.cached 7 = some ⟨7, "tea", 250, 3, 3⟩ ∧ s.products 7 = some ⟨7, "tea", 250, 3, 3⟩ := by
  obtain ⟨s, reached, hit, early⟩ := machine.run_observe State.init readOrderRead
    (fun s => s.cached 7 = some ⟨7, "tea", 250, 3, 3⟩ ∧
      ∀ r ∈ List.range 4, (s.requests r).invalidates = none) (by decide +kernel)
  have settled : ¬ Invalidating s.requests 7 := by
    intro pending
    obtain ⟨r, invalidates⟩ := pending
    by_cases known : r < 4
    · rw [early r (List.mem_range.mpr known)] at invalidates
      cases invalidates
    · rw [idle_run reached (by simp [readOrderRead]; omega)] at invalidates
      cases invalidates
  refine ⟨s, reached, hit, cache_coherent readOrderRead s 7 _ reached ?_ settled hit⟩
  exact (machine.obeys_iff _ _ _).mp (by decide +kernel)

-- A reader that is overtaken leaves a row behind that nobody drops.
example : (machine.run State.init overtakenRead).any (fun s =>
    s.cached 7 = some ⟨7, "tea", 250, 5, 3⟩ ∧ s.products 7 = some ⟨7, "tea", 250, 3, 3⟩) =
      true := by
  decide +kernel

end Bootkit.Orders

import Bootkit.Orders.Locks

/-! What a client reads of a product is a committed row, and not an old one. -/

namespace Bootkit.Orders

open Go

variable {s next : State} {r : Nat}

/-- Two products are never cached under one key. -/
theorem productCacheKey_injective {id other : Int}
    (same : productCacheKey id = productCacheKey other) : id = other := by
  -- Behind the same words the two ids are written alike.
  have written : toString id = toString other := by
    have lists := congrArg String.toList same
    simp only [productCacheKey, String.toList_append] at lists
    exact String.toList_inj.mp (List.append_cancel_left lists)
  exact toString_injective written

/-- A row that was read earlier is the row as it is now, with at least as much stock. -/
def Ages (read row : Product) : Prop :=
  row = { read with stock := row.stock } ∧ row.stock ≤ read.stock

/-- A row is as old as itself. -/
theorem Ages.refl (product : Product) : Ages product product := ⟨rfl, Int.le_refl _⟩

/-- Rows get older step by step. -/
theorem Ages.trans {first second third : Product} (one : Ages first second)
    (two : Ages second third) : Ages first third := by
  -- Neither step changes anything but the stock.
  obtain ⟨same, less⟩ := one
  obtain ⟨again, lesser⟩ := two
  refine ⟨?_, Int.le_trans lesser less⟩
  rw [again, same]

/-- The writes of a complete transaction only take stock from a row. -/
theorem install_ages {productID quantity id : Int} {writes : Writes} {row : Product}
    (locked : Locked s) (complete : Complete s productID quantity writes)
    (found : s.products id = some row) :
    ∃ later, (s.install writes).products id = some later ∧ Ages row later := by
  -- The row of the order has its stock lowered, and the other rows stay.
  by_cases same : id = productID
  · subst same
    obtain ⟨product, drawn, orderly⟩ := complete
    obtain rfl : product = row := Option.some.inj (drawn.read.symm.trans found)
    refine ⟨_, install_self locked drawn, rfl, ?_⟩
    have positive := orderly.positive
    show product.stock - quantity ≤ product.stock
    omega
  · exact ⟨row, (install_other locked complete same).trans found, Ages.refl row⟩

/-- A step keeps every row, which can only lose stock. -/
theorem Step.ages {label : Label} {id : Int} {row : Product} (locked : Locked s)
    (stepped : Step s label next) (found : s.products id = some row) :
    ∃ later, next.products id = some later ∧ Ages row later := by
  cases stepped with
  | @act r action _ moved =>
    have holds := locked.holds r
    cases moved with
    | @insertProduct _ _ _ number _ _ _ _ _ _ _ fresh _ =>
      -- The new row is stored where there was none.
      have elsewhere : id ≠ number := by
        intro same
        rw [same, fresh] at found
        cases found
      exact ⟨row, (update_other s.products _ elsewhere).trans found, Ages.refl row⟩
    | commit phase =>
      rw [phase] at holds
      exact install_ages locked holds.2 found
    | apply phase =>
      rw [phase] at holds
      exact install_ages locked holds.2 found
    | _ => exact ⟨row, found, Ages.refl row⟩
  | _ => exact ⟨row, found, Ages.refl row⟩

/-- A row that was read is still there, with no more stock than it had. -/
structure Aged (id : Int) (read : Product) (s : State) : Prop where
  locked : Locked s
  row : ∃ row, s.products id = some row ∧ Ages read row

/-- A row that a run has passed is still there, with no more stock than it had. -/
theorem visited_ages {labels : List Label} {moment : State} {id : Int} {read : Product}
    (reached : machine.run State.init labels = some s)
    (visited : machine.Visited State.init labels moment)
    (found : moment.products id = some read) :
    ∃ row, s.products id = some row ∧ Ages read row := by
  obtain ⟨before, after, rfl, prior⟩ := visited
  rw [machine.run_append, prior] at reached
  -- The induction is on the rest of the run, from the moment at which the row was read.
  have initial : Aged id read moment := ⟨locked_run prior, read, found, Ages.refl read⟩
  have keeps : ∀ state label next, Aged id read state → machine.step state label = some next →
      Aged id read next := by
    intro state label next aged taken
    have stepped : Step state label next := step_cases taken
    obtain ⟨row, stored, older⟩ := aged.row
    obtain ⟨later, kept, aging⟩ := stepped.ages aged.locked stored
    exact ⟨stepped.locked aged.locked, later, kept, older.trans aging⟩
  exact (machine.run_invariant initial keeps reached).row

/-- Whether the cache is populated at most so long after the row was read. -/
def promptly (gap : Nat) (s : State) : Label → Bool
  | .act r (.cacheSet _) =>
    match s.requests r with
    | .loaded _ _ since => s.now ≤ since + gap
    | _ => true
  | _ => true

/-- A product was a committed row when the time was the given one, or later. -/
def WasStored (labels : List Label) (id : Int) (product : Product) (instant : Nat) : Prop :=
  ∃ moment, machine.Visited State.init labels moment ∧ moment.products id = some product ∧
    instant ≤ moment.now

/-- What was stored once stays so. -/
theorem WasStored.extend {labels : List Label} {id : Int} {product : Product} {instant : Nat}
    (stored : WasStored labels id product instant) (label : Label) :
    WasStored (labels ++ [label]) id product instant := by
  -- The moment is in the past.
  obtain ⟨moment, visited, found, late⟩ := stored
  exact ⟨moment, visited.extend label, found, late⟩

/-- What is loaded or cached was a committed row, not long before it expires. -/
structure Fresh (gap : Nat) (labels : List Label) (s : State) : Prop where
  loaded : ∀ r id product since, s.requests r = .loaded id product since →
    WasStored labels id product since
  cached : ∀ key entry, s.cache key = some entry → ∃ id, key = productCacheKey id ∧
    ∃ instant, WasStored labels id entry.product instant ∧
      entry.expiresAt ≤ instant + gap + productCacheTTL

/-- A step that adds nothing to the cache keeps what is known of it. -/
theorem Fresh.keep {gap : Nat} {labels : List Label} (fresh : Fresh gap labels s) (label : Label)
    (loaded : ∀ r id product since, next.requests r = .loaded id product since →
      s.requests r = .loaded id product since)
    (cached : ∀ key entry, next.cache key = some entry → s.cache key = some entry) :
    Fresh gap (labels ++ [label]) next where
  -- Nothing was loaded or cached by the step.
  loaded := fun r id product since here =>
    (fresh.loaded r id product since (loaded r id product since here)).extend label
  cached := by
    intro key entry here
    obtain ⟨id, named, instant, stored, bound⟩ := fresh.cached key entry (cached key entry here)
    exact ⟨id, named, instant, stored.extend label, bound⟩

/-- An entry that is dropped leaves the others. -/
theorem setCache_none {key other : String} {entry : CacheEntry}
    (found : update s.cache key none other = some entry) : s.cache other = some entry := by
  -- Deleting a key adds no entry.
  by_cases same : other = key
  · rw [same, update_self] at found
    cases found
  · rwa [update_other _ _ same] at found

/-- A request that moves to a phase in which nothing is loaded leaves the others as they are. -/
theorem loaded_moved {phase : Phase} (none : ∀ id product since, phase ≠ .loaded id product since) :
    ∀ other id product since, update s.requests r phase other = .loaded id product since →
      s.requests other = .loaded id product since := by
  -- The request that moves has not just loaded a row.
  intro other id product since here
  by_cases same : other = r
  · rw [same, update_self] at here
    exact absurd here (none id product since)
  · rwa [update_other _ _ same] at here

/-- An operation that fails loads nothing and answers with no product. -/
theorem Fails.reads {err : Err} {before after : Phase} (fails : Fails err before after) :
    (∀ id product since, after ≠ .loaded id product since) ∧
      ∀ request product, after ≠ .answered request (.product product) := by
  cases fails <;> simp

/-- A step of a request keeps the cache fresh. -/
theorem Move.fresh {gap : Nat} {labels : List Label} {action : Action}
    (reached : machine.run State.init labels = some s) (fresh : Fresh gap labels s)
    (prompt : promptly gap s (.act r action) = true) (moved : Move s r action next) :
    Fresh gap (labels ++ [.act r action]) next := by
  -- Only two moves matter: a load takes the row as it is now, and a prompt write puts what was
  -- loaded into the cache.
  cases moved with
  | fail unknown fails =>
    exact fresh.keep _ (loaded_moved fails.reads.1) fun _ _ found => found
  | @load id product phase found =>
    have kept : Fresh gap (labels ++ [.act r .selectProduct]) s :=
      fresh.keep _ (fun _ _ _ _ here => here) fun _ _ found => found
    refine ⟨?_, kept.cached⟩
    intro other number row since here
    by_cases same : other = r
    · subst same
      rw [State.move_self] at here
      cases here
      exact ⟨s, (Machine.Visited.here reached).extend _, found, Nat.le_refl _⟩
    · rw [State.move_other _ _ same] at here
      exact kept.loaded other number row since here
  | @populate id product since phase connected =>
    have kept : Fresh gap (labels ++ [.act r (.cacheSet true)])
        (s.move r (.answered (.getProduct id) (.product product))) :=
      fresh.keep _ (loaded_moved (by simp)) fun _ _ found => found
    refine ⟨kept.loaded, ?_⟩
    intro key entry found
    by_cases same : key = productCacheKey id
    · subst same
      obtain rfl := Option.some.inj ((update_self s.cache _ _).symm.trans found)
      rw [promptly, phase] at prompt
      have soon : s.now ≤ since + gap := of_decide_eq_true prompt
      refine ⟨id, rfl, since, (fresh.loaded r id product since phase).extend _, ?_⟩
      show s.now + productCacheTTL ≤ since + gap + productCacheTTL
      omega
    · exact kept.cached key entry ((update_other s.cache _ same).symm.trans found)
  | invalidate phase =>
    exact fresh.keep _ (loaded_moved (by simp)) fun _ _ found => setCache_none found
  | _ => exact fresh.keep _ (loaded_moved (by simp)) fun _ _ found => found

/-- In every run in which the cache is populated promptly it is fresh. -/
theorem fresh_run {gap : Nat} {labels : List Label}
    (reached : machine.run State.init labels = some s)
    (prompt : machine.Obeys (fun s label => promptly gap s label = true) State.init labels) :
    Fresh gap labels s := by
  have initial : Fresh gap [] State.init := by
    refine ⟨?_, ?_⟩
    · intro r id product since here
      cases here
    · intro key entry found
      cases found
  refine machine.run_obeying (fun labels s => Fresh gap labels s) initial ?_ labels s prompt reached
  intro labels state label next prior fresh soon taken
  have stepped : Step state label next := step_cases taken
  -- Apart from requests, only an eviction touches the cache.
  cases stepped with
  | tick d => exact fresh.keep _ (fun _ _ _ _ here => here) fun _ _ found => found
  | connect => exact fresh.keep _ (fun _ _ _ _ here => here) fun _ _ found => found
  | evict key => exact fresh.keep _ (fun _ _ _ _ here => here) fun _ _ found => setCache_none found
  | @receive r http phase =>
    refine fresh.keep _ (loaded_moved ?_) fun _ _ found => found
    cases handle http <;> simp [Phase.entered]
  | act moved => exact moved.fresh prior fresh soon

/--
What a client reads of a product was a committed row less than the lifetime of a cached entry and
the time to populate the cache ago, and it is the row as it is now but for the stock.

The stock that a client reads may be higher than it is, and it is never lower.
-/
theorem product_reads_bounded_stale (labels : List Label) (s next : State) (gap r : Nat)
    (action : Action) (id : Int) (product : Product)
    (reached : machine.run State.init labels = some s)
    (prompt : machine.Obeys (fun s label => promptly gap s label = true) State.init
      (labels ++ [.act r action]))
    (taken : machine.step s (.act r action) = some next)
    (answered : next.requests r = .answered (.getProduct id) (.product product)) :
    (∃ moment, machine.Visited State.init labels moment ∧ moment.products id = some product ∧
      s.now < moment.now + gap + productCacheTTL) ∧
    ∃ row, s.products id = some row ∧ row = { product with stock := row.stock } ∧
      row.stock ≤ product.stock := by
  have fresh := fresh_run reached prompt.init
  have soon := prompt labels (.act r action) [] s rfl reached
  have lifetime : 0 < productCacheTTL := by decide
  have earlier : ∃ instant, WasStored labels id product instant ∧
      s.now < instant + gap + productCacheTTL := by
    have moved : Move s r action next := actStep_move taken
    cases moved with
    | fail unknown fails =>
      rw [State.move_self] at answered
      exact absurd answered (fails.reads.2 _ _)
    | @cacheHit number found phase connected hit =>
      rw [State.move_self] at answered
      cases answered
      -- The entry has not expired, and nothing else is cached under its key.
      obtain ⟨entry, cached, alive⟩ := Option.bind_eq_some_iff.mp hit
      obtain ⟨other, named, instant, stored, bound⟩ := fresh.cached _ entry cached
      obtain rfl := productCacheKey_injective named
      split at alive
      · next unexpired =>
        cases alive
        exact ⟨instant, stored, by omega⟩
      · cases alive
    | @populate number row since phase connected =>
      rw [State.move_self] at answered
      cases answered
      rw [promptly, phase] at soon
      have prompt : s.now ≤ since + gap := of_decide_eq_true soon
      exact ⟨since, fresh.loaded r id product since phase, by omega⟩
    | @populateFails number row since phase connected =>
      rw [State.move_self] at answered
      cases answered
      rw [promptly, phase] at soon
      have prompt : s.now ≤ since + gap := of_decide_eq_true soon
      exact ⟨since, fresh.loaded r id product since phase, by omega⟩
    | _ =>
      rw [State.move_self] at answered
      cases answered
  obtain ⟨instant, ⟨moment, visited, found, late⟩, bound⟩ := earlier
  obtain ⟨row, stored, ages⟩ := visited_ages reached visited found
  exact ⟨⟨moment, visited, found, by omega⟩, row, stored, ages.1, ages.2⟩

/-- A reader is overtaken by an order between its query and its write to the cache. -/
def overtakenRead : List Label :=
  [.connect, .receive 0 (.createProduct (.ok ⟨"tea", 250, 5⟩)), .act 0 (.insertProduct 7 3 none),
    .receive 1 (.getProduct "7"), .act 1 .cacheMiss, .act 1 .selectProduct,
    .receive 2 (.createOrder (.ok ⟨7, 2⟩)), .act 2 .begin, .act 2 .lockProduct,
    .act 2 .decrement, .act 2 (.insertOrder 1 5), .act 2 .commit, .act 2 (.invalidate true),
    .tick 4, .act 1 (.cacheSet true), .tick 10, .receive 3 (.getProduct "7")]

/-- The next reader is shown more stock than there is, and not for long. -/
theorem product_reads_bounded_stale_overtaken : ∃ s next,
    machine.run State.init overtakenRead = some s ∧
    machine.step s (.act 3 .cacheHit) = some next ∧
    next.requests 3 = .answered (.getProduct 7) (.product ⟨7, "tea", 250, 5, 3⟩) ∧
    ∃ row, s.products 7 = some row ∧ row.stock ≤ 5 := by
  -- The order commits between the read and the write to the cache, and the next read is served the
  -- older row.
  obtain ⟨s, reached, served⟩ := machine.run_observe State.init overtakenRead
    (fun s => (machine.step s (.act 3 .cacheHit)).any (fun next =>
      decide (next.requests 3 = .answered (.getProduct 7) (.product ⟨7, "tea", 250, 5, 3⟩))) =
        true) (by decide +kernel)
  obtain ⟨next, taken, answered⟩ := (Option.any_eq_true _ _).mp served
  have shown := of_decide_eq_true answered
  obtain ⟨-, row, found, -, less⟩ := product_reads_bounded_stale overtakenRead s next 4 3 .cacheHit
    7 _ reached ((machine.obeys_iff _ _ _).mp (by decide +kernel)) taken shown
  exact ⟨s, next, reached, taken, shown, row, found, less⟩

end Bootkit.Orders

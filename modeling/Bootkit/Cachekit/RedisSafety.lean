import Bootkit.Adapters.ConnectorLaws
import Bootkit.Cachekit.Redis

/-! When an operation of the cache finds a client to work with. -/

namespace Bootkit

open Go

/-- The steps of an operation, as a relation between states. -/
inductive CacheMove (s : CacheState) (j : Nat) : CacheAction → CacheState → Prop
  | issue {op : CacheOperation} (phase : s.operations j = .idle) :
    CacheMove s j (.issue op) (s.setOperation j (if op = .set then .encoding else .ready op))
  | encode (phase : s.operations j = .encoding) :
    CacheMove s j (.encode none) (s.setOperation j (.ready .set))
  | refuse {err : Err} (phase : s.operations j = .encoding) :
    CacheMove s j (.encode (some err)) (s.setOperation j (.returned (some err)))
  | use {op : CacheOperation} {client : Nat} (phase : s.operations j = .ready op)
      (found : s.adapter.field = some client) :
    CacheMove s j .use (s.setOperation j (.using op client))
  | panic {op : CacheOperation} (phase : s.operations j = .ready op)
      (absent : s.adapter.field = none) : CacheMove s j .use (s.setOperation j .panicked)
  | reply {op : CacheOperation} {client : Nat} {err decoded : Option Err}
      (phase : s.operations j = .using op client) :
    CacheMove s j (.reply err decoded) (s.setOperation j (.returned (op.outcome err decoded)))

/-- Every step of an operation is one of its moves. -/
theorem cacheOperationStep_move {s next : CacheState} {j : Nat} {action : CacheAction}
    (taken : cacheOperationStep s j action = some next) : CacheMove s j action next := by
  -- Each action has one phase in which it is taken, and a nil client makes a case of its own.
  cases action with
  | issue op =>
    simp only [cacheOperationStep] at taken
    split at taken <;> cases taken
    exact .issue (by assumption)
  | encode err =>
    simp only [cacheOperationStep] at taken
    split at taken <;> cases taken
    · exact .encode (by assumption)
    · exact .refuse (by assumption)
  | use =>
    simp only [cacheOperationStep] at taken
    split at taken <;> cases taken
    · exact .use (by assumption) (by assumption)
    · exact .panic (by assumption) (by assumption)
  | reply err decoded =>
    simp only [cacheOperationStep] at taken
    split at taken <;> cases taken
    exact .reply (by assumption)

/-- What a schedule is for the adapter: operations are no steps of it. -/
def CacheLabel.onAdapter : CacheLabel → Option ConnectorLabel
  | .adapter label => some label
  | .operation _ _ => none

/-- An operation leaves the adapter and the other operations alone. -/
theorem CacheMove.frame {s next : CacheState} {j : Nat} {action : CacheAction}
    (moved : CacheMove s j action next) :
    next.adapter = s.adapter ∧ ∀ i, i ≠ j → next.operations i = s.operations i := by
  cases moved <;> exact ⟨rfl, fun i other => update_other s.operations _ other⟩

/-- The adapter behind the operations makes runs of an adapter. -/
theorem cacheAdapter_run {retryAttempts retryBackoff : Int} {labels : List CacheLabel}
    {s : CacheState}
    (reached : (cacheMachine retryAttempts retryBackoff).run newRedisCache labels = some s) :
    (connectorMachine (redisConnector retryAttempts retryBackoff)).run newConnector
      (labels.filterMap CacheLabel.onAdapter) = some s.adapter := by
  -- An operation reads the adapter and never writes to it.
  refine (cacheMachine retryAttempts retryBackoff).run_project CacheState.adapter
    CacheLabel.onAdapter ?_ reached
  intro s label next taken
  cases label with
  | adapter label =>
    obtain ⟨adapter, moved, rfl⟩ := Option.map_eq_some_iff.mp taken
    exact moved
  | operation j action =>
    have moved : CacheMove s j action next := cacheOperationStep_move taken
    exact moved.frame.1

/-- Some call of the connect closure has assigned the client. -/
def ClientAssigned (labels : List CacheLabel) : Prop :=
  ∃ k, CacheLabel.adapter (.connect k .assign) ∈ labels

/-- The client is set exactly when some call has assigned it. -/
theorem field_iff_assigned {retryAttempts retryBackoff : Int} {labels : List CacheLabel}
    {s : CacheState}
    (reached : (cacheMachine retryAttempts retryBackoff).run newRedisCache labels = some s) :
    s.adapter.field ≠ none ↔ ClientAssigned labels := by
  have history := assignHistory_run (cacheAdapter_run reached)
  have sound := connectorInvariant_run (cacheAdapter_run reached)
  -- The schedule of the adapter holds the same assignments.
  have same : ∀ k, ConnectorLabel.connect k .assign ∈ labels.filterMap CacheLabel.onAdapter ↔
      CacheLabel.adapter (.connect k .assign) ∈ labels := by
    intro k
    rw [List.mem_filterMap]
    constructor
    · rintro ⟨label, member, kept⟩
      cases label with
      | adapter label =>
        obtain rfl := Option.some.inj kept
        exact member
      | operation j action => cases kept
    · exact fun member => ⟨_, member, rfl⟩
  constructor
  · intro found
    obtain ⟨k, member⟩ := history.caused found
    exact ⟨k, (same k).mp member⟩
  · rintro ⟨k, member⟩
    exact sound.assigned k (history.marked k ((same k).mpr member))

/-- Every use of the client comes after some call has assigned it. -/
def UsesAssigned (labels : List CacheLabel) : Prop :=
  ∀ before j after, labels = before ++ .operation j .use :: after → ClientAssigned before

/-- An operation that panicked stays so. -/
theorem panicked_stays {retryAttempts retryBackoff : Int} {labels : List CacheLabel}
    {s finish : CacheState} {j : Nat} (panicked : s.operations j = .panicked)
    (reached : (cacheMachine retryAttempts retryBackoff).run s labels = some finish) :
    finish.operations j = .panicked := by
  refine (cacheMachine retryAttempts retryBackoff).run_history
    (fun _ t => t.operations j = .panicked) panicked ?_ labels finish reached
  intro _ t label next _ panicked taken
  cases label with
  | adapter label =>
    obtain ⟨adapter, -, rfl⟩ := Option.map_eq_some_iff.mp taken
    exact panicked
  | operation i action =>
    have moved : CacheMove t i action next := cacheOperationStep_move taken
    by_cases own : j = i
    · -- No step of an operation starts from there.
      subst own
      cases moved <;> simp_all
    · rw [moved.frame.2 j own]
      exact panicked

/-- An operation panics only in a use that no assignment came before. -/
theorem panicked_unassigned {retryAttempts retryBackoff : Int} {labels : List CacheLabel}
    {s : CacheState}
    (reached : (cacheMachine retryAttempts retryBackoff).run newRedisCache labels = some s) :
    ∀ j, s.operations j = .panicked → ¬ UsesAssigned labels := by
  refine (cacheMachine retryAttempts retryBackoff).run_history
    (fun labels s => ∀ j, s.operations j = .panicked → ¬ UsesAssigned labels) ?_ ?_ labels s
    reached
  · intro j panicked
    cases panicked
  · -- An operation panics at the moment it uses a nil client, and the client is nil only before it
    -- is assigned.
    intro labels s label next prior before taken j panicked guarded
    have earlier : UsesAssigned labels :=
      fun first i rest split => guarded first i (rest ++ [label]) (by simp [split])
    cases label with
    | adapter label =>
      obtain ⟨adapter, -, rfl⟩ := Option.map_eq_some_iff.mp taken
      exact before j panicked earlier
    | operation i action =>
      have moved : CacheMove s i action next := cacheOperationStep_move taken
      by_cases own : j = i
      · subst own
        cases moved with
        | panic phase absent =>
          have found := (field_iff_assigned prior).mpr (guarded labels j [] rfl)
          exact found absent
        | @issue op phase =>
          by_cases set : op = .set <;> simp [CacheState.setOperation, set] at panicked
        | _ => simp [CacheState.setOperation] at panicked
      · rw [moved.frame.2 j own] at panicked
        exact before j panicked earlier

/-- A use that no assignment came before panics. -/
theorem unassigned_panics {retryAttempts retryBackoff : Int} {before after : List CacheLabel}
    {s : CacheState} {j : Nat}
    (reached : (cacheMachine retryAttempts retryBackoff).run newRedisCache
      (before ++ .operation j .use :: after) = some s)
    (unassigned : ¬ ClientAssigned before) : s.operations j = .panicked := by
  -- At that use the client is nil, and a panic is final.
  obtain ⟨t, next, prior, taken, rest⟩ :=
    (cacheMachine retryAttempts retryBackoff).run_split reached
  refine panicked_stays ?_ rest
  have moved : CacheMove t j .use next := cacheOperationStep_move taken
  cases moved with
  | use phase found =>
    exact absurd ((field_iff_assigned prior).mp (by simp [found])) unassigned
  | panic phase absent => exact update_self t.operations j _

/-- An operation that uses a client uses one that some call of `Start` has connected. -/
theorem using_captured {retryAttempts retryBackoff : Int} {labels : List CacheLabel}
    {s : CacheState}
    (reached : (cacheMachine retryAttempts retryBackoff).run newRedisCache labels = some s) :
    ∀ j op client, s.operations j = .using op client →
      ∃ k, (s.adapter.connects k).captured = some client := by
  refine (cacheMachine retryAttempts retryBackoff).run_history
    (fun _ s => ∀ j op client, s.operations j = .using op client →
      ∃ k, (s.adapter.connects k).captured = some client) ?_ ?_ labels s reached
  · intro j op client used
    cases used
  · -- An operation takes its client from the field, and the field is written by a closure that has
    -- captured the client; later steps keep what was captured.
    intro labels s label next prior holds taken j op client used
    have sound := connectorInvariant_run (cacheAdapter_run prior)
    cases label with
    | adapter label =>
      obtain ⟨adapter, moved, rfl⟩ := Option.map_eq_some_iff.mp taken
      obtain ⟨k, captured⟩ := holds j op client used
      exact ⟨k, (connects_kept moved sound k).2 client captured⟩
    | operation i action =>
      have moved : CacheMove s i action next := cacheOperationStep_move taken
      rw [moved.frame.1]
      by_cases own : j = i
      · subst own
        cases moved with
        | @use op client phase found =>
          obtain ⟨-, rfl⟩ : op = _ ∧ client = _ := by
            simpa [CacheState.setOperation] using used
          exact sound.field client found
        | @issue op phase =>
          by_cases set : op = .set <;> simp [CacheState.setOperation, set] at used
        | _ => simp [CacheState.setOperation] at used
      · rw [moved.frame.2 j own] at used
        exact holds j op client used

/--
The operations of a cache dereference no absent client exactly if each comes after a connection.

What counts is when an operation uses the client, not when it was issued.
-/
theorem cache_operations_safe (retryAttempts retryBackoff : Int) (labels : List CacheLabel)
    (s : CacheState)
    (reached : (cacheMachine retryAttempts retryBackoff).run newRedisCache labels = some s) :
    ((∀ j, s.operations j ≠ .panicked) ↔ UsesAssigned labels) ∧
    ∀ j op client, s.operations j = .using op client → s.adapter.pinged client = true := by
  have sound := connectorInvariant_run (cacheAdapter_run reached)
  refine ⟨⟨?_, ?_⟩, ?_⟩
  · -- A use before the assignment would have panicked.
    intro safe before j after split
    by_contra unassigned
    rw [split] at reached
    exact safe j (unassigned_panics reached unassigned)
  · intro guarded j panicked
    exact panicked_unassigned reached j panicked guarded
  · -- What an operation uses was captured, and what is captured was pinged before.
    intro j op client used
    obtain ⟨k, captured⟩ := using_captured reached j op client used
    exact sound.captured k client captured

/-- A read after readiness was announced. -/
theorem cache_operations_safe_ready : ∃ s, (cacheMachine 0 0).run newRedisCache
    (announcedLabels.map .adapter ++ [.operation 0 (.issue (.get "user:1")), .operation 0 .use]) =
      some s ∧ s.operations 0 = .using (.get "user:1") 0 ∧ s.adapter.pinged 0 = true := by
  -- A read after the announcement finds the client that was pinged.
  obtain ⟨s, reached, used⟩ := (cacheMachine 0 0).run_observe newRedisCache
    (announcedLabels.map .adapter ++ [.operation 0 (.issue (.get "user:1")), .operation 0 .use])
    (fun s => s.operations 0 = .using (.get "user:1") 0) (by decide +kernel)
  have law := cache_operations_safe 0 0 _ s reached
  exact ⟨s, reached, used, law.2 0 _ 0 used⟩

/-- A read while the cache is still connecting panics. -/
theorem cache_read_panics : ∃ labels s,
    (cacheMachine 0 0).run newRedisCache labels = some s ∧
    s.adapter.lifecycle.starters 0 = .connecting ∧ s.operations 0 = .panicked := by
  -- The read comes while `Connect` is still at its first attempt.
  obtain ⟨s, reached, panicked⟩ := (cacheMachine 0 0).run_observe newRedisCache
    (firstAttempt.map .adapter ++ [.operation 0 (.issue (.get "user:1")), .operation 0 .use])
    (fun s => s.adapter.lifecycle.starters 0 = .connecting ∧ s.operations 0 = .panicked)
    (by decide +kernel)
  exact ⟨_, s, reached, panicked⟩

end Bootkit

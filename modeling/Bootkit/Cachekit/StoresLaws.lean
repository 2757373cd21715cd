import Bootkit.Cachekit.Stores
import Bootkit.Go.Trace

/-! The stand-in for the cache on Redis answers every sequence of calls as the cache does. -/

namespace Bootkit

open Go

section

variable {Value Dest : Type}

/-- A value is written without an expiration, if the call writes one. -/
def CacheCall.Persistent : CacheCall Value Dest → Prop
  | .set _ _ expiration => expiration = 0
  | _ => True

/-- Whether a call changes what is kept under a key: a value that is encoded, or a deletion. -/
def CacheCall.changes (codec : Codec Value Dest) (key : String) : CacheCall Value Dest → Bool
  | .set written value _ => written == key && (codec.marshal value).isOk
  | .delete deleted => deleted == key
  | _ => false

/-- The last successful write of a key had these bytes, and the key was not deleted since. -/
def Holds (codec : Codec Value Dest) (calls : List (Nat × CacheCall Value Dest)) (key : String)
    (bytes : List UInt8) : Prop :=
  ∃ before now value expiration after,
    calls = before ++ (now, .set key value expiration) :: after ∧
    codec.marshal value = .ok bytes ∧ ∀ later ∈ after, later.2.changes codec key = false

/-- One more call wrote the bytes, or it left them. -/
theorem holds_concat (codec : Codec Value Dest) (calls : List (Nat × CacheCall Value Dest))
    (now : Nat) (call : CacheCall Value Dest) (key : String) (bytes : List UInt8) :
    Holds codec (calls ++ [(now, call)]) key bytes ↔
      (∃ value expiration, call = .set key value expiration ∧ codec.marshal value = .ok bytes) ∨
        call.changes codec key = false ∧ Holds codec calls key bytes := by
  -- The write that counts is the last call, or it lies among the earlier ones.
  constructor
  · rintro ⟨before, at_, value, expiration, after, split, encoded, kept⟩
    rcases split_concat split with ⟨-, written, -⟩ | ⟨rest, rfl, earlier⟩
    · exact .inl ⟨value, expiration, (congrArg Prod.snd written).symm, encoded⟩
    · refine .inr ⟨kept (now, call) (by simp), before, at_, value, expiration, rest, earlier,
        encoded, ?_⟩
      intro later member
      exact kept later (by simp [member])
  · rintro (⟨value, expiration, rfl, encoded⟩ | ⟨untouched, before, at_, value, expiration, after,
      rfl, encoded, kept⟩)
    · exact ⟨calls, now, value, expiration, [], rfl, encoded, by simp⟩
    · refine ⟨before, at_, value, expiration, after ++ [(now, call)], by simp, encoded, ?_⟩
      intro later member
      rcases List.mem_append.mp member with earlier | last
      · exact kept later earlier
      · rw [List.mem_singleton.mp last]
        exact untouched

variable (expiry : RedisExpiry) (defaultCodec : Codec Value Dest)

/-- No call changes the codec of the stand-in. -/
theorem memory_codec (c : MemoryCache Value Dest) (request : Nat × CacheCall Value Dest) :
    ((memoryObject defaultCodec).call c request).1.codec = c.codec := by
  -- Only the data changes.
  obtain ⟨now, call⟩ := request
  cases call with
  | set key value expiration =>
    simp only [memoryObject, MemoryCache.set]
    split <;> rfl
  | get key dest | delete key | exists_ key => rfl

/-- What one call does to the value of a key in the stand-in. -/
theorem memory_data (c : MemoryCache Value Dest) (now : Nat) (call : CacheCall Value Dest)
    (key : String) (bytes : List UInt8) :
    ((memoryObject defaultCodec).call c (now, call)).1.data key = some bytes ↔
      (∃ value expiration, call = .set key value expiration ∧
        (codecOrDefault defaultCodec c.codec).marshal value = .ok bytes) ∨
      call.changes (codecOrDefault defaultCodec c.codec) key = false ∧
        c.data key = some bytes := by
  -- A key is written or deleted by a call of its own, and left by every other call.
  cases call with
  | get read dest | exists_ read => simp [memoryObject, CacheCall.changes]
  | delete deleted =>
    by_cases same : key = deleted
    · subst same
      simp [memoryObject, MemoryCache.delete, CacheCall.changes]
    · simp [memoryObject, MemoryCache.delete, CacheCall.changes, same, Ne.symm same]
  | set written value expiration =>
    cases encoded : (codecOrDefault defaultCodec c.codec).marshal value with
    | error err =>
      -- Nothing is written, and the call counts as one that changes nothing.
      have unchanged : CacheCall.changes (codecOrDefault defaultCodec c.codec) key
          (.set written value expiration : CacheCall Value Dest) = false := by
        simp [CacheCall.changes, encoded, Except.isOk, Except.toBool]
      simp only [memoryObject, MemoryCache.set, encoded, unchanged, true_and]
      refine ⟨.inr, ?_⟩
      rintro (⟨other, _, made, ok⟩ | held)
      · cases made
        rw [encoded] at ok
        cases ok
      · exact held
    | ok fresh =>
      by_cases same : key = written
      · subst same
        simp [memoryObject, MemoryCache.set, encoded, CacheCall.changes, Except.isOk,
          Except.toBool]
      · simp [memoryObject, MemoryCache.set, encoded, CacheCall.changes, same, Ne.symm same]

/-- After any calls, the stand-in keeps what was last written and not deleted since. -/
theorem memory_holds (codec : Option (Codec Value Dest))
    (calls : List (Nat × CacheCall Value Dest)) :
    ((memoryObject defaultCodec).run (newMemoryCache codec) calls).1.codec = codec ∧
    ∀ key bytes, ((memoryObject defaultCodec).run (newMemoryCache codec) calls).1.data key =
        some bytes ↔ Holds (codecOrDefault defaultCodec codec) calls key bytes := by
  -- The codec is part of the history, since it decides which writes succeed.
  refine (memoryObject defaultCodec).run_history (fun calls c => c.codec = codec ∧
    ∀ key bytes, c.data key = some bytes ↔
      Holds (codecOrDefault defaultCodec codec) calls key bytes) ?_ ?_ calls
  · refine ⟨rfl, ?_⟩
    intro key bytes
    simp [newMemoryCache, Holds]
  · rintro calls c ⟨now, call⟩ - ⟨same, held⟩
    refine ⟨(memory_codec defaultCodec c (now, call)).trans same, ?_⟩
    intro key bytes
    rw [memory_data, holds_concat, same, held key bytes]

/-- A database has what the stand-in has, and nothing in it expires. -/
def Mirrors (c : MemoryCache Value Dest) (r : RedisCache Value Dest) : Prop :=
  r.codec = c.codec ∧ ∀ key, r.db.entries key = (c.data key).map fun bytes => ⟨bytes, none⟩

variable {c : MemoryCache Value Dest} {r : RedisCache Value Dest}

/-- What is live in such a database is what the stand-in has. -/
theorem Mirrors.live (mirrors : Mirrors c r) (now : Nat) (key : String) :
    r.db.live now key = c.data key := by
  -- What is mirrored has no deadline.
  rw [RedisDb.live, mirrors.2 key]
  cases c.data key <;> rfl

/-- Both caches read the same. -/
theorem Mirrors.get (mirrors : Mirrors c r) (now : Nat) (key : String) (dest : Dest) :
    r.get defaultCodec now key dest = c.get defaultCodec key dest := by
  -- A key that Redis does not have is reported by its own error, which is translated.
  have miss : (Err.new redisNil).is redisNil = true := by decide
  simp only [RedisCache.get, RedisDb.get, mirrors.live, MemoryCache.get, mirrors.1]
  cases c.data key with
  | none => simp [CacheOperation.outcome, miss, cacheMiss]
  | some bytes => rfl

/-- Both caches find the same keys. -/
theorem Mirrors.exists_ (mirrors : Mirrors c r) (now : Nat) (key : String) :
    r.exists_ now key = c.exists_ key := by
  -- Redis counts one live key where the map has an entry, and none where it has not.
  simp only [RedisCache.exists_, RedisDb.existsCount, mirrors.live, MemoryCache.exists_]
  cases c.data key <;> rfl

/-- Both databases have the same values after one of them changes alike in both. -/
theorem Mirrors.update (mirrors : Mirrors c r) (key : String) (bytes : Option (List UInt8)) :
    Mirrors { c with data := Go.update c.data key bytes }
      { r with db := ⟨Go.update r.db.entries key (bytes.map fun bytes => ⟨bytes, none⟩)⟩ } := by
  -- The key itself has the new bytes on both sides, and the other keys are mirrored as before.
  refine ⟨mirrors.1, ?_⟩
  intro other
  by_cases same : other = key
  · subst same
    simp
  · simp [same, mirrors.2 other]

/-- One call that writes nothing to expire is answered alike and keeps both alike. -/
theorem mirrors_call (c : MemoryCache Value Dest) (r : RedisCache Value Dest)
    (request : Nat × CacheCall Value Dest) (persistent : request.2.Persistent)
    (mirrors : Mirrors c r) :
    ((memoryObject defaultCodec).call c request).2 =
        ((redisObject expiry defaultCodec).call r request).2 ∧
      Mirrors ((memoryObject defaultCodec).call c request).1
        ((redisObject expiry defaultCodec).call r request).1 := by
  -- Reads change neither side, and both sides write the same bytes.
  obtain ⟨now, call⟩ := request
  cases call with
  | get key dest =>
    refine ⟨?_, mirrors⟩
    simp only [memoryObject, redisObject, mirrors.get]
  | exists_ key =>
    refine ⟨?_, mirrors⟩
    simp only [memoryObject, redisObject, mirrors.exists_]
  | delete key => exact ⟨rfl, mirrors.update key none⟩
  | set key value expiration =>
    obtain rfl : expiration = 0 := persistent
    simp only [memoryObject, redisObject, MemoryCache.set, RedisCache.set, RedisDb.set,
      expiry.zero, mirrors.1]
    cases (codecOrDefault defaultCodec c.codec).marshal value with
    | error err => exact ⟨rfl, mirrors⟩
    | ok bytes =>
      have written := mirrors.update key (some bytes)
      rw [mirrors.1] at written
      exact ⟨rfl, written⟩

/-- The error of an answer. -/
def CacheReply.err : CacheReply Dest → Option Err
  | .changed err | .got _ err | .found _ err => err

/-- The steps of a call on a cache that is connected, with the replies of its database. -/
def RedisCache.actions (r : RedisCache Value Dest) (now : Nat) :
    CacheCall Value Dest → List CacheAction
  | .set _ value _ =>
    match (codecOrDefault defaultCodec r.codec).marshal value with
    | .error err => [.issue .set, .encode (some err)]
    | .ok _ => [.issue .set, .encode none, .use, .reply none none]
  | .get key dest =>
    match r.db.get now key with
    | .error err => [.issue (.get key), .use, .reply (some err) none]
    | .ok bytes => [.issue (.get key), .use,
        .reply none ((codecOrDefault defaultCodec r.codec).unmarshal bytes dest).2]
  | .delete _ => [.issue .delete, .use, .reply none none]
  | .exists_ _ => [.issue .exists_, .use, .reply none none]

/-- A call on a cache that is connected is an operation of the adapter that returns its error. -/
theorem redis_call_operation (retryAttempts retryBackoff : Int) {s : CacheState} {client j : Nat}
    (connected : s.adapter.field = some client) (idle : s.operations j = .idle)
    (r : RedisCache Value Dest) (now : Nat) (call : CacheCall Value Dest) :
    ∃ t, (cacheMachine retryAttempts retryBackoff).run s
        ((r.actions defaultCodec now call).map (CacheLabel.operation j)) = some t ∧
      t.operations j = .returned ((redisObject expiry defaultCodec).call r (now, call)).2.err := by
  -- A connected cache passes its gate, and the database answers as modelled.
  cases call with
  | set key value expiration =>
    cases encoded : (codecOrDefault defaultCodec r.codec).marshal value <;>
      simp [RedisCache.actions, encoded, Machine.run_cons, cacheMachine, cacheStep,
        cacheOperationStep, CacheState.setOperation, idle, connected, redisObject, RedisCache.set,
        CacheReply.err]
  | get key dest =>
    cases read : r.db.get now key <;>
      simp [RedisCache.actions, read, Machine.run_cons, cacheMachine, cacheStep,
        cacheOperationStep, CacheState.setOperation, idle, connected, redisObject, RedisCache.get,
        CacheReply.err]
  | delete key | exists_ key =>
    simp [RedisCache.actions, Machine.run_cons, cacheMachine, cacheStep, cacheOperationStep,
      CacheState.setOperation, idle, connected, redisObject, RedisCache.delete,
      RedisCache.exists_, CacheReply.err]

/-- What is returned for a key: the decoded value that is held, or that there is none. -/
def Serves (codec : Codec Value Dest) (calls : List (Nat × CacheCall Value Dest))
    (get : String → Dest → Dest × Option Err) (exists_ : String → Bool × Option Err) : Prop :=
  ∀ key,
    (∃ bytes, Holds codec calls key bytes ∧ (∀ dest, get key dest = codec.unmarshal bytes dest) ∧
      exists_ key = (true, none)) ∨
    (∀ bytes, ¬Holds codec calls key bytes) ∧
      (∀ dest, get key dest = (dest, some (cacheMiss key))) ∧ exists_ key = (false, none)

/-- The stand-in serves what was last written. -/
theorem memory_serves (codec : Option (Codec Value Dest))
    (calls : List (Nat × CacheCall Value Dest)) :
    Serves (codecOrDefault defaultCodec codec) calls
      (((memoryObject defaultCodec).run (newMemoryCache codec) calls).1.get defaultCodec)
      ((memoryObject defaultCodec).run (newMemoryCache codec) calls).1.exists_ := by
  -- What is kept under a key is known from the calls, so the lookup decides the case.
  obtain ⟨same, held⟩ := memory_holds defaultCodec codec calls
  generalize ((memoryObject defaultCodec).run (newMemoryCache codec) calls).1 = c at same held
  intro key
  cases kept : c.data key with
  | none =>
    refine .inr ⟨?_, ?_, ?_⟩
    · intro bytes holds
      rw [(held key bytes).mpr holds] at kept
      cases kept
    · intro dest
      simp only [MemoryCache.get, kept]
    · simp only [MemoryCache.exists_, kept, Option.isSome_none]
  | some bytes =>
    refine .inl ⟨bytes, (held key bytes).mp kept, ?_, ?_⟩
    · intro dest
      simp only [MemoryCache.get, kept, same]
    · simp only [MemoryCache.exists_, kept, Option.isSome_some]

end

/--
The cache in memory answers every sequence of calls as the cache on Redis does.

The calls are made at any times, with any codec or the default one, and write nothing to expire.
In both caches a key has the bytes of the last write of it that succeeded, unless it was deleted
since; a key that is not found is reported by a wrapped `ErrCacheMiss`.
-/
theorem memory_cache_faithful {Value Dest : Type} (expiry : RedisExpiry)
    (defaultCodec : Codec Value Dest) (codec : Option (Codec Value Dest))
    (calls : List (Nat × CacheCall Value Dest))
    (persistent : ∀ request ∈ calls, request.2.Persistent) :
    let memory := (memoryObject defaultCodec).run (newMemoryCache codec) calls
    let redis := (redisObject expiry defaultCodec).run (connectedRedisCache codec) calls
    let used := codecOrDefault defaultCodec codec
    -- All the answers so far are the same.
    memory.2 = redis.2 ∧
    -- What a key is served with next is the same, and decided by the calls so far.
    Serves used calls (memory.1.get defaultCodec) memory.1.exists_ ∧
    (∀ now, Serves used calls (redis.1.get defaultCodec now) (redis.1.exists_ now)) ∧
    (∀ key, (cacheMiss key).is errCacheMiss = true) ∧
    -- A value that cannot be encoded changes nothing.
    ∀ key value err, used.marshal value = .error err →
      memory.1.set defaultCodec key value = (memory.1, some err) ∧
      ∀ now expiration,
        redis.1.set expiry defaultCodec now key value expiration = (redis.1, some err) := by
  -- The caches stay alike, so what is shown for one of them holds for the other.
  intro memory redis used
  have start : Mirrors (newMemoryCache codec) (connectedRedisCache codec) := ⟨rfl, fun _ => rfl⟩
  obtain ⟨answers, mirrors⟩ : memory.2 = redis.2 ∧ Mirrors memory.1 redis.1 :=
    Object.run_simulates (fun request => request.2.Persistent) Mirrors
      (mirrors_call expiry defaultCodec) start calls persistent
  have serves := memory_serves defaultCodec codec calls
  have same : memory.1.codec = codec := (memory_holds defaultCodec codec calls).1
  refine ⟨answers, serves, ?_, ?_, ?_⟩
  · intro now key
    have reads : ∀ dest, redis.1.get defaultCodec now key dest =
        memory.1.get defaultCodec key dest := mirrors.get defaultCodec now key
    rw [mirrors.exists_ now key]
    simp only [reads]
    exact serves key
  · intro key
    simp [cacheMiss, Err.annotate, Err.is, Err.anyIs]
  · intro key value err failed
    constructor
    · simp only [MemoryCache.set, same]
      rw [failed]
    · intro now expiration
      simp only [RedisCache.set, mirrors.1, same]
      rw [failed]

/-- A codec for bytes that refuses the empty value. -/
def plainCodec : Codec (List UInt8) (List UInt8) where
  marshal := fun value => if value = [] then .error (.wrap "empty value" []) else .ok value
  unmarshal := fun bytes _ => (bytes, none)

/-- A positive expiration is taken as it is, and one of the others keeps the earlier deadline. -/
def exactExpiry : RedisExpiry where
  deadline := fun now expiration replaced =>
    if 0 < expiration then some (now + expiration.toNat)
    else if expiration = -1 then replaced else none
  zero := by simp

/-- A key that was written, failed to be written again, and was deleted in the end. -/
theorem memory_cache_faithful_deleted :
    let calls : List (Nat × CacheCall (List UInt8) (List UInt8)) :=
      [(1, .set "k" [7] 0), (2, .set "k" [] 0), (3, .get "k" []), (4, .delete "k"),
        (5, .exists_ "k"), (6, .get "k" [])]
    ((memoryObject plainCodec).run (newMemoryCache none) calls).2 =
      ((redisObject exactExpiry plainCodec).run (connectedRedisCache none) calls).2 ∧
    ((memoryObject plainCodec).run (newMemoryCache none) calls).2 =
      [.changed none, .changed (some (.wrap "empty value" [])), .got [7] none, .changed none,
        .found false none, .got [] (some (cacheMiss "k"))] := by
  -- No write asks for an expiration, so that the law applies; the answers are then computed.
  intro calls
  have persistent : ∀ request ∈ calls, request.2.Persistent := by
    simp [calls, CacheCall.Persistent]
  exact ⟨(memory_cache_faithful exactExpiry plainCodec none calls persistent).1, rfl⟩

end Bootkit

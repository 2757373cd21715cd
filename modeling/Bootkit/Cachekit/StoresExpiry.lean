import Bootkit.Cachekit.StoresLaws

/-! Where the stand-in, which keeps everything, and the cache on Redis answer differently. -/

namespace Bootkit

open Go

section

variable {Value Dest : Type}

/-- The key that a call reads. -/
def CacheCall.reads : CacheCall Value Dest → Option String
  | .get key _ | .exists_ key => some key
  | _ => none

variable (expiry : RedisExpiry) (defaultCodec : Codec Value Dest)
  (codec : Option (Codec Value Dest))

/--
The last successful write of a key made this entry, and the key was not deleted since.

The entry expires when Redis decided it would, from the time and the expiration of the write and
from the deadline that the key had until then.
-/
def Kept (calls : List (Nat × CacheCall Value Dest)) (key : String) (entry : RedisEntry) : Prop :=
  ∃ before now value expiration after,
    calls = before ++ (now, .set key value expiration) :: after ∧
    (codecOrDefault defaultCodec codec).marshal value = .ok entry.bytes ∧
    entry.expiresAt = expiry.deadline now expiration
      (((redisObject expiry defaultCodec).run (connectedRedisCache codec) before).1.db.deadline
        now key) ∧
    ∀ later ∈ after, later.2.changes (codecOrDefault defaultCodec codec) key = false

/-- The last successful write of a key has expired, and the key was not deleted since. -/
def Lapsed (calls : List (Nat × CacheCall Value Dest)) (key : String) (now : Nat) : Prop :=
  ∃ bytes deadline, Kept expiry defaultCodec codec calls key ⟨bytes, some deadline⟩ ∧
    deadline ≤ now

/-- A key holds the bytes of the entry that is kept for it. -/
theorem holds_iff_kept (calls : List (Nat × CacheCall Value Dest)) (key : String)
    (bytes : List UInt8) :
    Holds (codecOrDefault defaultCodec codec) calls key bytes ↔
      ∃ expiresAt, Kept expiry defaultCodec codec calls key ⟨bytes, expiresAt⟩ := by
  -- The same call wrote the bytes; one side also says which deadline went with them.
  constructor
  · rintro ⟨before, now, value, expiration, after, split, encoded, kept⟩
    exact ⟨_, before, now, value, expiration, after, split, encoded, rfl, kept⟩
  · rintro ⟨_, before, now, value, expiration, after, split, encoded, -, kept⟩
    exact ⟨before, now, value, expiration, after, split, encoded, kept⟩

/-- One more call made the entry, or it left it. -/
theorem kept_concat (calls : List (Nat × CacheCall Value Dest)) (now : Nat)
    (call : CacheCall Value Dest) (key : String) (entry : RedisEntry) :
    Kept expiry defaultCodec codec (calls ++ [(now, call)]) key entry ↔
      (∃ value expiration, call = .set key value expiration ∧
        (codecOrDefault defaultCodec codec).marshal value = .ok entry.bytes ∧
        entry.expiresAt = expiry.deadline now expiration
          (((redisObject expiry defaultCodec).run (connectedRedisCache codec) calls).1.db.deadline
            now key)) ∨
      call.changes (codecOrDefault defaultCodec codec) key = false ∧
        Kept expiry defaultCodec codec calls key entry := by
  -- The write that counts is the last call, or it lies among the earlier ones.
  constructor
  · rintro ⟨before, at_, value, expiration, after, split, encoded, dated, kept⟩
    rcases split_concat split with ⟨rfl, written, -⟩ | ⟨rest, rfl, earlier⟩
    · obtain ⟨rfl, rfl⟩ : at_ = now ∧ CacheCall.set key value expiration = call := by
        simpa using written
      exact .inl ⟨value, expiration, rfl, encoded, dated⟩
    · refine .inr ⟨kept (now, call) (by simp), before, at_, value, expiration, rest, earlier,
        encoded, dated, ?_⟩
      intro later member
      exact kept later (by simp [member])
  · rintro (⟨value, expiration, rfl, encoded, dated⟩ | ⟨untouched, before, at_, value, expiration,
      after, rfl, encoded, dated, kept⟩)
    · exact ⟨calls, now, value, expiration, [], rfl, encoded, dated, by simp⟩
    · refine ⟨before, at_, value, expiration, after ++ [(now, call)], by simp, encoded, dated, ?_⟩
      intro later member
      rcases List.mem_append.mp member with earlier | last
      · exact kept later earlier
      · rw [List.mem_singleton.mp last]
        exact untouched

/-- No call changes the codec of the cache on Redis. -/
theorem redis_codec (r : RedisCache Value Dest) (request : Nat × CacheCall Value Dest) :
    ((redisObject expiry defaultCodec).call r request).1.codec = r.codec := by
  -- Only the database changes.
  obtain ⟨now, call⟩ := request
  cases call with
  | set key value expiration =>
    simp only [redisObject, RedisCache.set]
    split <;> rfl
  | get key dest | delete key | exists_ key => rfl

/-- What one call does to the entry of a key in Redis. -/
theorem redis_entries (r : RedisCache Value Dest) (now : Nat) (call : CacheCall Value Dest)
    (key : String) (entry : RedisEntry) :
    ((redisObject expiry defaultCodec).call r (now, call)).1.db.entries key = some entry ↔
      (∃ value expiration, call = .set key value expiration ∧
        (codecOrDefault defaultCodec r.codec).marshal value = .ok entry.bytes ∧
        entry.expiresAt = expiry.deadline now expiration (r.db.deadline now key)) ∨
      call.changes (codecOrDefault defaultCodec r.codec) key = false ∧
        r.db.entries key = some entry := by
  -- A key is written or deleted by a call of its own, and left by every other call.
  obtain ⟨bytes, expiresAt⟩ := entry
  cases call with
  | get read dest | exists_ read => simp [redisObject, CacheCall.changes]
  | delete deleted =>
    by_cases same : key = deleted
    · subst same
      simp [redisObject, RedisCache.delete, RedisDb.del, CacheCall.changes]
    · simp [redisObject, RedisCache.delete, RedisDb.del, CacheCall.changes, same, Ne.symm same]
  | set written value expiration =>
    cases encoded : (codecOrDefault defaultCodec r.codec).marshal value with
    | error err =>
      -- Nothing is written, and the call counts as one that changes nothing.
      have unchanged : CacheCall.changes (codecOrDefault defaultCodec r.codec) key
          (.set written value expiration : CacheCall Value Dest) = false := by
        simp [CacheCall.changes, encoded, Except.isOk, Except.toBool]
      simp only [redisObject, RedisCache.set, encoded, unchanged, true_and]
      refine ⟨.inr, ?_⟩
      rintro (⟨other, _, made, ok, -⟩ | held)
      · cases made
        rw [encoded] at ok
        cases ok
      · exact held
    | ok fresh =>
      by_cases same : key = written
      · subst same
        simp [redisObject, RedisCache.set, RedisDb.set, encoded, CacheCall.changes, Except.isOk,
          Except.toBool, eq_comm]
      · simp [redisObject, RedisCache.set, RedisDb.set, encoded, CacheCall.changes, same,
          Ne.symm same]

/-- After any calls Redis has the entries that were last written and not deleted since. -/
theorem redis_keeps (calls : List (Nat × CacheCall Value Dest)) :
    ((redisObject expiry defaultCodec).run (connectedRedisCache codec) calls).1.codec = codec ∧
    ∀ key entry,
      ((redisObject expiry defaultCodec).run (connectedRedisCache codec) calls).1.db.entries key =
        some entry ↔ Kept expiry defaultCodec codec calls key entry := by
  -- The codec is part of the history, since it decides which writes succeed.
  refine (redisObject expiry defaultCodec).run_history (fun calls r => r.codec = codec ∧
    ∀ key entry, r.db.entries key = some entry ↔
      Kept expiry defaultCodec codec calls key entry) ?_ ?_ calls
  · refine ⟨rfl, ?_⟩
    intro key entry
    simp [connectedRedisCache, RedisDb.empty, Kept]
  · rintro calls r ⟨now, call⟩ ran ⟨same, kept⟩
    refine ⟨(redis_codec expiry defaultCodec r (now, call)).trans same, ?_⟩
    intro key entry
    rw [redis_entries, kept_concat, ran, same, kept key entry]

/-- The stand-in has the bytes of every entry that Redis has, expired or not. -/
theorem memory_keeps_bytes (calls : List (Nat × CacheCall Value Dest)) (key : String) :
    ((memoryObject defaultCodec).run (newMemoryCache codec) calls).1.data key =
      (((redisObject expiry defaultCodec).run (connectedRedisCache codec) calls).1.db.entries
        key).map RedisEntry.bytes := by
  -- Both stores hold what the last successful write left there, by the laws of either.
  apply Option.ext
  intro bytes
  rw [(memory_holds defaultCodec codec calls).2 key bytes, holds_iff_kept expiry,
    Option.map_eq_some_iff]
  constructor
  · rintro ⟨expiresAt, kept⟩
    exact ⟨⟨bytes, expiresAt⟩,
      ((redis_keeps expiry defaultCodec codec calls).2 key _).mpr kept, rfl⟩
  · rintro ⟨⟨_, expiresAt⟩, stored, rfl⟩
    exact ⟨expiresAt, ((redis_keeps expiry defaultCodec codec calls).2 key _).mp stored⟩

variable {c : MemoryCache Value Dest} {r : RedisCache Value Dest}

/-- A call that reads nothing, or a key that is live where it is kept, is answered alike. -/
theorem call_alike (same : r.codec = c.codec) {now : Nat} {call : CacheCall Value Dest}
    (live : ∀ key, call.reads = some key → r.db.live now key = c.data key) :
    ((memoryObject defaultCodec).call c (now, call)).2 =
      ((redisObject expiry defaultCodec).call r (now, call)).2 := by
  -- A key that Redis does not have is reported by its own error, which is translated.
  have miss : (Err.new redisNil).is redisNil = true := by decide
  cases call with
  | set key value expiration =>
    simp only [memoryObject, redisObject, MemoryCache.set, RedisCache.set, same]
    cases (codecOrDefault defaultCodec c.codec).marshal value <;> rfl
  | delete key => rfl
  | get key dest =>
    simp only [memoryObject, redisObject, RedisCache.get, RedisDb.get, live key rfl,
      MemoryCache.get, same]
    cases c.data key with
    | none => simp [CacheOperation.outcome, miss, cacheMiss]
    | some bytes => rfl
  | exists_ key =>
    simp only [memoryObject, redisObject, MemoryCache.exists_, RedisCache.exists_,
      RedisDb.existsCount, live key rfl]
    cases c.data key <;> rfl

/-- A key that is not live is not found in Redis. -/
theorem redis_missed {now : Nat} {key : String} (gone : r.db.live now key = none) :
    (∀ dest, ((redisObject expiry defaultCodec).call r (now, .get key dest)).2 =
        .got dest (some (.wrap (key ++ ": cache miss") [.new errCacheMiss]))) ∧
      ((redisObject expiry defaultCodec).call r (now, .exists_ key)).2 = .found false none := by
  -- A key that is not live is answered as redis.Nil, which the cache turns into its own miss.
  have miss : (Err.new redisNil).is redisNil = true := by decide
  constructor
  · intro dest
    have text : cacheMiss key = .wrap (key ++ ": cache miss") [.new errCacheMiss] := by
      simp [cacheMiss, Err.annotate, Err.text, errCacheMiss, String.append_assoc]
    simp [redisObject, RedisCache.get, RedisDb.get, gone, CacheOperation.outcome, miss, ← text,
      cacheMiss]
  · simp [redisObject, RedisCache.exists_, RedisDb.existsCount, gone, CacheOperation.outcome]

/-- A key that the stand-in has is found, whatever the time. -/
theorem memory_found {key : String} {bytes : List UInt8} (found : c.data key = some bytes)
    (now : Nat) :
    (∀ dest, ((memoryObject defaultCodec).call c (now, .get key dest)).2 =
        .got ((codecOrDefault defaultCodec c.codec).unmarshal bytes dest).1
          ((codecOrDefault defaultCodec c.codec).unmarshal bytes dest).2) ∧
      ((memoryObject defaultCodec).call c (now, .exists_ key)).2 = .found true none := by
  -- Both calls look at the bytes only.
  constructor
  · intro dest
    simp [memoryObject, MemoryCache.get, found]
  · simp [memoryObject, MemoryCache.exists_, found]

/-- An entry whose deadline has come is not live. -/
theorem live_late {now deadline : Nat} {key : String} {bytes : List UInt8}
    (stored : r.db.entries key = some ⟨bytes, some deadline⟩) (late : deadline ≤ now) :
    r.db.live now key = none := by
  simp [RedisDb.live, stored, Nat.not_lt.mpr late]

/-- What is kept and has not lapsed is live. -/
theorem live_of_kept {calls : List (Nat × CacheCall Value Dest)} {now : Nat} {key : String}
    (kept : ∀ entry, r.db.entries key = some entry →
      Kept expiry defaultCodec codec calls key entry)
    (bytes : c.data key = (r.db.entries key).map RedisEntry.bytes)
    (current : ¬ Lapsed expiry defaultCodec codec calls key now) :
    r.db.live now key = c.data key := by
  -- An entry with a deadline is one that was kept, and its deadline has not passed.
  rw [bytes, RedisDb.live]
  cases stored : r.db.entries key with
  | none => rfl
  | some entry =>
    obtain ⟨written, expiresAt⟩ := entry
    cases expiresAt with
    | none => rfl
    | some deadline =>
      have early : now < deadline := by
        by_contra late
        exact current ⟨written, deadline, kept _ stored, by omega⟩
      simp [early]

end

/--
The cache in memory and the cache on Redis differ in nothing but expiry.

However the client library and the server turn expirations into deadlines, after any calls at any
times and with any expirations the next call is answered alike unless it reads a key whose last
successful write has expired. Such a key is not found in Redis, while the stand-in still finds it
and decodes the bytes that were written.
-/
theorem stand_in_differs_by_expiry {Value Dest : Type} (expiry : RedisExpiry)
    (defaultCodec : Codec Value Dest) (codec : Option (Codec Value Dest))
    (calls : List (Nat × CacheCall Value Dest)) (now : Nat) (call : CacheCall Value Dest) :
    let used := codecOrDefault defaultCodec codec
    let inMemory := ((memoryObject defaultCodec).call
      ((memoryObject defaultCodec).run (newMemoryCache codec) calls).1 (now, call)).2
    let inRedis := ((redisObject expiry defaultCodec).call
      ((redisObject expiry defaultCodec).run (connectedRedisCache codec) calls).1 (now, call)).2
    ((∀ key, call.reads = some key → ¬ Lapsed expiry defaultCodec codec calls key now) →
      inMemory = inRedis) ∧
    ∀ key bytes deadline, Kept expiry defaultCodec codec calls key ⟨bytes, some deadline⟩ →
      deadline ≤ now →
      (∀ dest, call = .get key dest →
        inRedis = .got dest (some (.wrap (key ++ ": cache miss") [.new errCacheMiss])) ∧
        inMemory = .got (used.unmarshal bytes dest).1 (used.unmarshal bytes dest).2) ∧
      (call = .exists_ key → inRedis = .found false none ∧ inMemory = .found true none) := by
  -- Both caches have the same entries, so what is live decides every difference.
  intro used inMemory inRedis
  obtain ⟨codecM, -⟩ := memory_holds defaultCodec codec calls
  obtain ⟨codecR, kept⟩ := redis_keeps expiry defaultCodec codec calls
  have bytes := memory_keeps_bytes expiry defaultCodec codec calls
  constructor
  · intro current
    apply call_alike expiry defaultCodec (codecR.trans codecM.symm)
    intro key reads
    exact live_of_kept expiry defaultCodec codec (fun entry => (kept key entry).mp) (bytes key)
      (current key reads)
  · intro key written deadline lapsed late
    have stored := (kept key _).mpr lapsed
    have missed := redis_missed expiry defaultCodec (live_late stored late)
    have found := bytes key
    rw [stored, Option.map_some] at found
    have told := memory_found defaultCodec found now
    rw [codecM] at told
    constructor
    · rintro dest rfl
      exact ⟨missed.1 dest, told.1 dest⟩
    · rintro rfl
      exact ⟨missed.2, told.2⟩

/-- A value that was written for five moments is found for five moments. -/
theorem stand_in_differs_by_expiry_later :
    let calls : List (Nat × CacheCall (List UInt8) (List UInt8)) := [(1, .set "k" [7] 5)]
    let redis := ((redisObject exactExpiry plainCodec).run (connectedRedisCache none) calls).1
    let memory := ((memoryObject plainCodec).run (newMemoryCache none) calls).1
    ((memoryObject plainCodec).call memory (5, .get "k" [])).2 =
      ((redisObject exactExpiry plainCodec).call redis (5, .get "k" [])).2 ∧
    ((redisObject exactExpiry plainCodec).call redis (6, .get "k" [])).2 =
      .got [] (some (.wrap "k: cache miss" [.new errCacheMiss])) ∧
    ((memoryObject plainCodec).call memory (6, .get "k" [])).2 = .got [7] none := by
  intro calls redis memory
  have written : Kept exactExpiry plainCodec none calls "k" ⟨[7], some 6⟩ :=
    ⟨[], 1, [7], 5, [], rfl, rfl, rfl, by simp⟩
  have expired := (stand_in_differs_by_expiry exactExpiry plainCodec none calls 6 (.get "k" [])).2
    "k" [7] 6 written (Nat.le_refl 6)
  refine ⟨?_, expired.1 [] rfl⟩
  apply (stand_in_differs_by_expiry exactExpiry plainCodec none calls 5 (.get "k" [])).1
  rintro key - ⟨bytes, deadline, ⟨before, now, value, expiration, after, split, -, dated, -⟩, late⟩
  -- There is only one write, and it expires at six.
  cases before with
  | cons head tail => simp [calls] at split
  | nil =>
    obtain ⟨⟨rfl, -, -, rfl⟩, -⟩ : (1 = now ∧ "k" = key ∧ [7] = value ∧ 5 = expiration) ∧
        [] = after := by
      simpa [calls] using split
    obtain rfl : deadline = 6 := by simpa [exactExpiry] using dated
    omega

end Bootkit

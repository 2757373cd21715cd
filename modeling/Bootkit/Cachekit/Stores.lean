import Bootkit.Cachekit.Redis
import Bootkit.Go.Object

/-! The operations of the cache on Redis and of its stand-in, with the values that they keep. -/

namespace Bootkit

open Go

/-- How values are turned into bytes and back. -/
structure Codec (Value Dest : Type) where
  marshal : Value → Except Err (List UInt8)
  -- What the destination holds afterwards, with the error that is returned.
  unmarshal : List UInt8 → Dest → Dest × Option Err

/-- The codec that was configured, or else the default of the package. -/
def codecOrDefault {Value Dest : Type} (defaultCodec : Codec Value Dest)
    (codec : Option (Codec Value Dest)) : Codec Value Dest :=
  codec.getD defaultCodec

/-- What both caches return for a key that is not found. -/
def cacheMiss (key : String) : Err :=
  (Err.new errCacheMiss).annotate key

/--
When what is written to Redis expires: what the client library sends for an expiration, rounded as
it rounds it, and what the server makes of that.
-/
structure RedisExpiry where
  -- From the time of the write, its expiration, and the deadline of the entry that it replaces.
  deadline : Nat → Int → Option Nat → Option Nat
  -- An expiration of zero is none.
  zero : ∀ now replaced, deadline now 0 replaced = none

/-- A value in Redis. -/
structure RedisEntry where
  bytes : List UInt8
  expiresAt : Option Nat
  deriving Repr, DecidableEq

/-- A Redis database. -/
structure RedisDb where
  entries : String → Option RedisEntry

namespace RedisDb

/-- An empty database. -/
def empty : RedisDb where
  entries := fun _ => none

/-- The value of a key that has not expired. -/
def live (db : RedisDb) (now : Nat) (key : String) : Option (List UInt8) :=
  (db.entries key).bind fun entry =>
    if entry.expiresAt.all (now < ·) then some entry.bytes else none

/-- The deadline of a key that has not expired. -/
def deadline (db : RedisDb) (now : Nat) (key : String) : Option Nat :=
  (db.entries key).bind fun entry => entry.expiresAt.filter (now < ·)

/-- The command that reads a key. -/
def get (db : RedisDb) (now : Nat) (key : String) : Except Err (List UInt8) :=
  match db.live now key with
  | some bytes => .ok bytes
  | none => .error (.new redisNil)

/-- The command that writes a key. -/
def set (expiry : RedisExpiry) (db : RedisDb) (now : Nat) (key : String) (bytes : List UInt8)
    (expiration : Int) : RedisDb where
  entries := update db.entries key
    (some ⟨bytes, expiry.deadline now expiration (db.deadline now key)⟩)

/-- The command that deletes a key. -/
def del (db : RedisDb) (key : String) : RedisDb where
  entries := update db.entries key none

/-- The command that counts how many of its keys exist, here of one. -/
def existsCount (db : RedisDb) (now : Nat) (key : String) : Nat :=
  if (db.live now key).isSome then 1 else 0

end RedisDb

section

variable {Value Dest : Type}

/-- A cache that is connected to a database. -/
structure RedisCache (Value Dest : Type) where
  codec : Option (Codec Value Dest)
  db : RedisDb

/-- A cache that keeps its values in memory. -/
structure MemoryCache (Value Dest : Type) where
  data : String → Option (List UInt8)
  codec : Option (Codec Value Dest)

/-- A new stand-in is empty. -/
def newMemoryCache (codec : Option (Codec Value Dest)) : MemoryCache Value Dest where
  data := fun _ => none
  codec := codec

/-- A cache that is connected to an empty database. -/
def connectedRedisCache (codec : Option (Codec Value Dest)) : RedisCache Value Dest where
  codec := codec
  db := .empty

variable (expiry : RedisExpiry) (defaultCodec : Codec Value Dest)

namespace RedisCache

/-- A value is encoded and written. -/
def set (r : RedisCache Value Dest) (now : Nat) (key : String) (value : Value)
    (expiration : Int) : RedisCache Value Dest × Option Err :=
  match (codecOrDefault defaultCodec r.codec).marshal value with
  | .error err => (r, some err)
  | .ok bytes => ({ r with db := r.db.set expiry now key bytes expiration },
      CacheOperation.set.outcome none none)

/-- A value is read and decoded into the destination. -/
def get (r : RedisCache Value Dest) (now : Nat) (key : String) (dest : Dest) :
    Dest × Option Err :=
  match r.db.get now key with
  | .error err => (dest, (CacheOperation.get key).outcome (some err) none)
  | .ok bytes =>
    let (dest, decoded) := (codecOrDefault defaultCodec r.codec).unmarshal bytes dest
    (dest, (CacheOperation.get key).outcome none decoded)

/-- A key is deleted. -/
def delete (r : RedisCache Value Dest) (key : String) : RedisCache Value Dest × Option Err :=
  ({ r with db := r.db.del key }, CacheOperation.delete.outcome none none)

/-- Whether a key exists is whether the count is positive. -/
def exists_ (r : RedisCache Value Dest) (now : Nat) (key : String) : Bool × Option Err :=
  (r.db.existsCount now key > 0, CacheOperation.exists_.outcome none none)

end RedisCache

namespace MemoryCache

/-- A value is encoded and kept, whatever its expiration. -/
def set (c : MemoryCache Value Dest) (key : String) (value : Value) :
    MemoryCache Value Dest × Option Err :=
  match (codecOrDefault defaultCodec c.codec).marshal value with
  | .error err => (c, some err)
  | .ok bytes => ({ c with data := update c.data key (some bytes) }, none)

/-- A value is looked up and decoded into the destination. -/
def get (c : MemoryCache Value Dest) (key : String) (dest : Dest) : Dest × Option Err :=
  match c.data key with
  | none => (dest, some (cacheMiss key))
  | some bytes => (codecOrDefault defaultCodec c.codec).unmarshal bytes dest

/-- A key is deleted. -/
def delete (c : MemoryCache Value Dest) (key : String) : MemoryCache Value Dest × Option Err :=
  ({ c with data := update c.data key none }, none)

/-- Whether a key exists. -/
def exists_ (c : MemoryCache Value Dest) (key : String) : Bool × Option Err :=
  ((c.data key).isSome, none)

end MemoryCache

/-- The calls of a cache. -/
inductive CacheCall (Value Dest : Type) where
  | set (key : String) (value : Value) (expiration : Int)
  | get (key : String) (dest : Dest)
  | delete (key : String)
  | exists_ (key : String)

/-- What a call returns, with what a destination holds afterwards. -/
inductive CacheReply (Dest : Type) where
  | changed (err : Option Err)
  | got (dest : Dest) (err : Option Err)
  | found (present : Bool) (err : Option Err)

/-- The cache on Redis, called at the given times. -/
def redisObject :
    Object (RedisCache Value Dest) (Nat × CacheCall Value Dest) (CacheReply Dest) where
  call := fun r (now, call) =>
    match call with
    | .set key value expiration =>
      let (r, err) := r.set expiry defaultCodec now key value expiration
      (r, .changed err)
    | .get key dest =>
      let (dest, err) := r.get defaultCodec now key dest
      (r, .got dest err)
    | .delete key =>
      let (r, err) := r.delete key
      (r, .changed err)
    | .exists_ key =>
      let (present, err) := r.exists_ now key
      (r, .found present err)

/-- The stand-in, which does not look at the time. -/
def memoryObject :
    Object (MemoryCache Value Dest) (Nat × CacheCall Value Dest) (CacheReply Dest) where
  call := fun c (_, call) =>
    match call with
    | .set key value _ =>
      let (c, err) := c.set defaultCodec key value
      (c, .changed err)
    | .get key dest =>
      let (dest, err) := c.get defaultCodec key dest
      (c, .got dest err)
    | .delete key =>
      let (c, err) := c.delete key
      (c, .changed err)
    | .exists_ key =>
      let (present, err) := c.exists_ key
      (c, .found present err)

end

end Bootkit

import WikiGateway.Cache.Basic
import WikiGateway.Cache.Server
import WikiGateway.Text.Md5

/-!
A cache that several gateways share by way of a server. Pages are stored under digests of their
titles and expire on the server; a set of these keys, scored by the times when they were put in,
tells which to drive out when there are too many.
-/
namespace WikiGateway

/-- The limits of a shared cache. They are taken as they are asked for. -/
structure SharedCache where
  capacity : Int
  ttl : Int

namespace SharedCache

variable {τ : Type} [Instant τ]

/-- The key under which a page is stored. -/
def key (title : String) : String := "page:" ++ Md5.digest title

/-- The set of the keys in use. -/
def index : String := "page:index"

def ofLimits (capacity ttl : Option Int) : SharedCache :=
  ⟨Cache.orUsual Cache.defaultCapacity capacity, Cache.orUsual Cache.defaultTtl ttl⟩

/-- Runs an operation of the server; what stops it counts as a lost connection. -/
def guarded {α : Type} (say : String → String) (act : Action (Server τ) α) : Action (Server τ) α :=
  tryCatch act fun f => throw (.failure (.cacheConnection (say f.reason) []))

/-- A cache on a server that answers. -/
def connect (capacity ttl : Option Int) : Action (Server τ) SharedCache := do
  guarded id Server.ping
  return ofLimits capacity ttl

def get (title : String) (now : τ) : Action (Server τ) (Option String) :=
  guarded ("read failed: " ++ ·) (Server.get (key title) now)

/-- Drives out the pages that came in first, if there are more than the capacity. -/
def evict (c : SharedCache) (now : τ) : Action (Server τ) Unit := do
  let overflow := (← Server.zcard index : Nat) - c.capacity
  if 0 < overflow then
    let keys ← Server.zpopmin index overflow
    if keys ≠ [] then
      let _ ← Server.delete keys now

/-- Puts a page and its key in, takes the keys of expired pages out, and makes room. -/
def store (c : SharedCache) (title text : String) (now : τ) : Action (Server τ) Unit := do
  let setex : Command τ := .setex (key title) c.ttl text
  Server.issue setex
  let zadd : Command τ := .zadd index (key title) now
  Server.issue zadd
  match Instant.seconds? (τ := τ) c.ttl with
  | none => throw .tooLarge
  | some ttl =>
    let expire : Command τ := .zremrangebyscore index (Instant.sub now ttl)
    Server.issue expire
    Server.execute [setex, zadd, expire] now
    c.evict now

def put (c : SharedCache) (title text : String) (now : τ) : Action (Server τ) Bool := do
  guarded ("write failed: " ++ ·) (c.store title text now)
  return true

/-- Takes a page out; tells whether it was there. A failure counts as no. -/
def delete (title : String) (now : τ) : Action (Server τ) Bool :=
  tryCatch (do
    let _ ← Server.zrem index (key title)
    return 0 < (← Server.delete [key title] now)) fun _ => return false

def isHealthy : Action (Server τ) Bool :=
  tryCatch (do Server.ping; return true) fun _ => return false

/-- The shared cache as a cache of the gateway. -/
def cache (c : SharedCache) : Cache (Server τ) τ String where
  get title now := get title now
  put title text now := c.put title text now
  isHealthy := isHealthy

end SharedCache

end WikiGateway

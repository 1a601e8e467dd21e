import WikiGateway.Cache.Basic
import WikiGateway.OrderedMap

/-!
A cache in memory. It holds a limited number of pages, each for a limited time; a new page makes
room for itself by driving out what is too old and then what came in first.
-/
namespace WikiGateway

/-- Pages with their texts and the times when they were put in, oldest entry first. -/
structure MemoryCache (τ α : Type) where
  capacity : Nat
  /-- How long a page is kept, in seconds. -/
  ttl : Nat
  entries : OrderedMap (α × τ)

namespace MemoryCache

variable {τ α : Type} [Instant τ]

/-- An empty cache with the limits asked for; neither may be negative. -/
def ofLimits (capacity ttl : Option Int) : Except Fault (MemoryCache τ α) :=
  let capacity := Cache.orUsual Cache.defaultCapacity capacity
  let ttl := Cache.orUsual Cache.defaultTtl ttl
  if capacity ≤ 0 ∨ ttl ≤ 0 then .error (.badValue "capacity and ttl_seconds must be positive")
  else .ok ⟨capacity.toNat, ttl.toNat, .empty⟩

def size (c : MemoryCache τ α) : Nat := c.entries.size

/-- Whether something put in at `time` is too old at `now`. -/
def isExpired (c : MemoryCache τ α) (now time : τ) : Bool :=
  Instant.reaches (Instant.sub now time) c.ttl

/-- The text of a page that is in the cache and not too old. -/
def get? (c : MemoryCache τ α) (title : String) (now : τ) : Option α :=
  match c.entries.find? title with
  | none => none
  | some (text, time) => if c.isExpired now time then none else some text

/-- Puts a page in as the newest, in place of what there was under its title. -/
def put (c : MemoryCache τ α) (title : String) (text : α) (now : τ) : MemoryCache τ α :=
  let others := (c.entries.erase title).filter fun _ e => !c.isExpired now e.2
  { c with entries := (others.drop (others.size + 1 - c.capacity)).insert title (text, now) }

/-- Takes a page out; tells whether it was there, too old or not. -/
def delete (c : MemoryCache τ α) (title : String) : Bool × MemoryCache τ α :=
  (c.entries.contains title, { c with entries := c.entries.erase title })

def clear (c : MemoryCache τ α) : MemoryCache τ α := { c with entries := .empty }

/-- The cache in memory as a cache of the gateway. -/
def cache : Cache (MemoryCache τ α) τ α where
  get title now := return (← get).get? title now
  put title text now := do
    modify fun c => c.put title text now
    return true
  isHealthy := return true

end MemoryCache

end WikiGateway

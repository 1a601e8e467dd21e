import WikiGateway.OrderedMap
import WikiGateway.Failure
import WikiGateway.Instant

/-!
A server for keys with values that expire and for sets with scored members. Commands are noted
before they act, and the server may refuse any of them.
-/
namespace WikiGateway

/-- The commands of the server; the last three are queued, and act when the queue is executed. -/
inductive Command (τ : Type)
  | ping
  | get (key : String)
  | delete (keys : List String)
  | zcard (set : String)
  | zrem (set member : String)
  | zpopmin (set : String) (count : Int)
  | execute
  | setex (key : String) (ttl : Int) (value : String)
  | zadd (set member : String) (score : τ)
  | zremrangebyscore (set : String) (max : τ)

def Command.name {τ : Type} : Command τ → String
  | ping => "ping" | get .. => "get" | delete .. => "delete" | zcard .. => "zcard"
  | zrem .. => "zrem" | zpopmin .. => "zpopmin" | execute => "execute" | setex .. => "setex"
  | zadd .. => "zadd" | zremrangebyscore .. => "zremrangebyscore"

structure Server (τ : Type) where
  /-- Values with the times at which they expire. -/
  values : OrderedMap (String × τ)
  /-- Sets: the members of each with their scores. -/
  sets : OrderedMap (OrderedMap τ)
  log : Array (Command τ)
  /-- Whether a command is refused, by its number in the log and its name. -/
  refuses : Nat → String → Bool

namespace Server

variable {τ : Type} [Instant τ]

def empty (refuses : Nat → String → Bool) : Server τ := ⟨.empty, .empty, #[], refuses⟩

/-- Notes a command and refuses it if it is to be refused. -/
def issue (c : Command τ) : Action (Server τ) Unit := do
  let s ← getThe (Server τ)
  set { s with log := s.log.push c }
  if s.refuses s.log.size c.name then throw (.broken (c.name ++ " failed"))

def members (s : Server τ) (name : String) : OrderedMap τ := (s.sets.find? name).getD .empty

def ping : Action (Server τ) Unit := issue .ping

/-- The value of a key that has not expired. -/
def get (key : String) (now : τ) : Action (Server τ) (Option String) := do
  issue (.get key)
  return match (← getThe (Server τ)).values.find? key with
    | none => none
    | some (value, expiry) => if Ranked.lt now expiry then some value else none

/-- Takes keys out; tells how many of them had not expired. -/
def delete (keys : List String) (now : τ) : Action (Server τ) Nat := do
  issue (.delete keys)
  let s ← getThe (Server τ)
  let isLive (d : OrderedMap (String × τ)) (k : String) : Bool :=
    match d.find? k with
    | none => false
    | some (_, expiry) => Ranked.lt now expiry
  let (values, count) := keys.foldl (fun (d, n) k => (d.erase k, if isLive d k then n + 1 else n))
    (s.values, 0)
  set { s with values }
  return count

def zcard (name : String) : Action (Server τ) Nat := do
  issue (.zcard name)
  return ((← getThe (Server τ)).members name).size

/-- Takes a member out of a set; tells how many that were. -/
def zrem (name member : String) : Action (Server τ) Nat := do
  issue (.zrem name member)
  let s ← getThe (Server τ)
  let ms := s.members name
  set { s with sets := s.sets.insert name (ms.erase member) }
  return if ms.contains member then 1 else 0

/-- The order of scored members: by score, then by name. -/
def scoredBefore (a b : String × τ) : Bool :=
  Ranked.lt a.2 b.2 || (!Ranked.lt b.2 a.2 && decide (a.1 ≤ b.1))

/-- Takes out the members with the lowest scores, so many of them. -/
def zpopmin (name : String) (count : Int) : Action (Server τ) (List String) := do
  issue (.zpopmin name count)
  let s ← getThe (Server τ)
  let ms := s.members name
  let lowest := ((ms.entries.mergeSort scoredBefore).take count.toNat).map Prod.fst
  set { s with sets := s.sets.insert name (lowest.foldl OrderedMap.erase ms) }
  return lowest

/-- What a queued command does. A value with a life too long to be added to a time is refused. -/
def apply (now : τ) (s : Server τ) : Command τ → Except Fault (Server τ)
  | .setex key ttl value =>
    match Instant.seconds? (τ := τ) ttl with
    | none => .error .tooLarge
    | some life => .ok { s with values := s.values.insert key (value, Instant.add now life) }
  | .zadd name member score =>
    .ok { s with sets := s.sets.insert name ((s.members name).insert member score) }
  | .zremrangebyscore name max =>
    let keep := (s.members name).filter fun _ score =>
      !(Ranked.le Instant.zero score && Ranked.le score max)
    .ok { s with sets := s.sets.insert name keep }
  | _ => .ok s

/-- Lets queued commands act, one after the other. -/
def execute (queue : List (Command τ)) (now : τ) : Action (Server τ) Unit := do
  issue .execute
  for c in queue do
    let s ← apply now (← getThe (Server τ)) c
    set s

end Server

end WikiGateway

import WikiGateway.Budget
import WikiGateway.Source

/-!
Paths from page to page along links. The search goes breadth first and ends when it comes upon the
page sought, when no page is left to look at, or when its time is used up.
-/
namespace WikiGateway

namespace Path

inductive Status
  | samePage | found | frontierExhausted | deadlineExceeded
  deriving DecidableEq, Repr

def Status.name : Status → String
  | samePage => "same_page"
  | found => "found"
  | frontierExhausted => "frontier_exhausted"
  | deadlineExceeded => "deadline_exceeded"

/-- How a search ended. Without a path the list of pages is empty. -/
structure Outcome (τ : Type) where
  status : Status
  start : String
  stop : String
  path : List String
  /-- How many pages were asked for their links. -/
  expanded : Nat
  elapsedMillis : τ
  report : Option (Budget.Report τ)

def Outcome.hops {τ : Type} (o : Outcome τ) : Nat := o.path.length - 1

def Outcome.isSuccess {τ : Type} (o : Outcome τ) : Bool :=
  o.status = .found || o.status = .samePage

/-- What a search knows: the pages to look at, in order, and for each page come upon the page whose
links led to it. -/
structure State (ν : Type) where
  frontier : List ν
  parents : OrderedMap String
  expanded : Nat

variable {ν : Type} [Named ν]

def State.initial (start : String) : State ν :=
  ⟨[Named.ofText start], OrderedMap.empty.insert start start, 0⟩

/-- Takes note of a link of `page`; a title already known is left alone. -/
def State.note (s : State ν) (page : String) (link : ν) : State ν :=
  match Named.text? link with
  | none => { s with frontier := s.frontier ++ [link] }
  | some title =>
    if s.parents.contains title then s
    else { s with frontier := s.frontier ++ [link], parents := s.parents.insert title page }

/-- Goes through the links of `page` up to `stop`; tells whether it was among them. -/
def State.noteLinks (stop page : String) : List ν → State ν → Except Fault (Bool × State ν)
  | [], s => .ok (false, s)
  | link :: links, s =>
    if !Named.isAtomic link then .error .wrongShape
    else
      let s := s.note page link
      if Named.text? link = some stop then .ok (true, s) else noteLinks stop page links s

/-- The pages from `node` back to `start`, by way of what led to each. -/
def trace (parents : OrderedMap String) (start : String) : (fuel : Nat) → (node : String) →
    Except Fault (List String)
  | 0, node => if node = start then .ok [node] else .error .unfinished
  | fuel + 1, node =>
    if node = start then .ok [node]
    else
      match parents.find? node with
      | none => .error .missingMember
      | some parent => return node :: (← trace parents start fuel parent)

/-- The path that led to `stop`. -/
def State.pathTo (s : State ν) (start stop : String) : Except Fault (List String) :=
  (trace s.parents start s.parents.size stop).map List.reverse

variable {ω τ : Type} [Instant τ]

/-- Looks at page after page, at most `fuel` times. The clock is read before each page. -/
def search (source : Source ω ν) (clock : ω → τ) (budget : Budget τ) (start stop : String) :
    (fuel : Nat) → State ν → Action ω (Outcome τ)
  | 0, _ => throw .unfinished
  | fuel + 1, s => do
    let now := clock (← get)
    if budget.isExhausted now then
      let marked ← budget.mark "deadline" now
      return ⟨.deadlineExceeded, start, stop, [], s.expanded, Instant.toMillis (marked.elapsed now),
        some (marked.report now)⟩
    match s.frontier with
    | [] => return ⟨.frontierExhausted, start, stop, [], s.expanded,
        Instant.toMillis (budget.elapsed now), none⟩
    | page :: frontier =>
      let title ← Named.title page
      let links ← source.linksOn title
      let s := { s with frontier, expanded := s.expanded + 1 }
      let (found, s) ← State.noteLinks stop title links s
      if found then
        let path ← s.pathTo start stop
        let now := clock (← get)
        return ⟨.found, start, stop, path, s.expanded, Instant.toMillis (budget.elapsed now), none⟩
      else search source clock budget start stop fuel s

/-- A shortest path from `start` to `stop` along links, within a budget of time. `fuel` bounds the
number of pages looked at. -/
def find (source : Source ω ν) (clock : ω → τ) (total : τ) (fuel : Nat) (start stop : String) :
    Action ω (Outcome τ) := do
  if start = stop then return ⟨.samePage, start, start, [start], 0, Instant.zero, none⟩
  let budget := (Budget.ofTotal total).start (clock (← get))
  search source clock budget start stop fuel (.initial start)

end Path

namespace Neighbourhood

variable {ω ν : Type} [Named ν]

/-- Adds to `known` and `next` the links that are new. -/
def noteLinks : List ν → (known next : List ν) → Except Fault (List ν × List ν)
  | [], known, next => .ok (known, next)
  | link :: links, known, next =>
    if !Named.isAtomic link then .error .wrongShape
    else if Named.isAmong known link then noteLinks links known next
    else noteLinks links (link :: known) (next ++ [link])

/-- Asks each page of a level for its links; gives the pages known then and those of the next
level. -/
def expand (source : Source ω ν) : (level known next : List ν) → Action ω (List ν × List ν)
  | [], known, next => return (known, next)
  | page :: level, known, next => do
    let links ← source.linksOn (← Named.title page)
    let (known, next) ← noteLinks links known next
    expand source level known next

/-- Goes out level by level, at most `hops` times, until a level is empty. -/
def grow (source : Source ω ν) : (hops : Nat) → (level known : List ν) → Action ω (List ν)
  | 0, _, known => return known
  | hops + 1, level, known => do
    let (known, next) ← expand source level known []
    if next.isEmpty then return known else grow source hops next known

/-- The pages that can be reached from `title` over at most `hops` links, itself included, in
order. -/
def pages (source : Source ω ν) (title : String) (hops : Int) : Action ω (List ν) := do
  let start := [Named.ofText title]
  Named.sort (← grow source hops.toNat start start)

end Neighbourhood

end WikiGateway

import WikiGateway.Cache.Basic
import WikiGateway.Ledger.Statistics
import WikiGateway.Path
import WikiGateway.Query.Evaluation

/-!
The gateway between its clients and a wiki. A request is noted in the ledger before anything else is
done about it, and so it counts whatever comes of it.
-/
namespace WikiGateway

/-- What a gateway works with. -/
structure Gateway (ω κ τ ν : Type) where
  source : Source ω ν
  cache : Cache κ τ ν
  clock : ω → τ
  /-- How much time a search for a path has. -/
  searchTime : τ
  /-- No fewer than the pages that a search for a path can come upon. -/
  searchSteps : ω → Nat
  /-- The seconds over which load and trends are looked at. -/
  window : Int

namespace Gateway

/-- The changing parts of a gateway: the world of its source, its cache and its ledger. -/
structure State (ω κ τ : Type) where
  world : ω
  cached : κ
  ledger : Ledger τ

/-- What a gateway can be asked for. -/
inductive Request
  | search (term : String) (limit : Int)
  | page (title : String)
  | connectedPages (title : String) (hops : Int)
  | zeitgeist (limit : Int)
  | trending (limit : Int)
  | peakLoad
  /-- A path; the empty one if none was found. -/
  | path (start stop : String)
  /-- A path, and how the search for it ended. -/
  | findPath (start stop : String)
  | query (text : Option String)
  deriving DecidableEq, Repr

namespace Request

/-- The entry point under which the ledger counts a request. -/
def entryPoint : Request → String
  | search .. => "search"
  | page .. => "get_page"
  | connectedPages .. => "get_connected_pages"
  | zeitgeist .. => "zeitgeist"
  | trending .. => "trending"
  | peakLoad => "peak_load_30s"
  | path .. | findPath .. => "get_path"
  | query .. => "execute_query"

theorem entryPoint_mem (r : Request) : r.entryPoint ∈ Ledger.entryPoints := by
  cases r <;> simp [entryPoint, Ledger.entryPoints]

/-- The term that a request uses, if it uses one. -/
def term? : Request → Option String
  | search term _ => some term
  | page title => some title
  | _ => none

end Request

inductive Answer (τ ν : Type)
  /-- What the source gave. -/
  | titles (ts : List ν)
  /-- Terms of searches, or the titles on a path. -/
  | texts (ts : List String)
  | page (title : String) (text : ν)
  | count (n : Nat)
  | outcome (o : Path.Outcome τ)

variable {ω κ τ ν α : Type}

/-- Puts a question to the source. -/
def ask (question : Action ω α) : Action (State ω κ τ) α :=
  question.onPart State.world fun world s => { s with world }

/-- Uses the cache; where the cache fails as caches do, `instead` is the answer. -/
def useCache (act : Action κ α) (instead : α) : Action (State ω κ τ) α :=
  tryCatch (act.onPart State.cached fun cached s => { s with cached }) fun f =>
    if f.isA .cache then return instead else throw f

variable (g : Gateway ω κ τ ν)

def now : Action (State ω κ τ) τ := return g.clock (← get).world

/-- Notes that a request came in: its entry point and the term that it uses. -/
def note (request : Request) : Action (State ω κ τ) Unit := do
  let now ← g.now
  let s ← get
  let ledger ← s.ledger.recordInvocation request.entryPoint now
  set { s with ledger := request.term?.elim ledger fun term => ledger.recordTerm term now }

/-- At most `limit` titles that answer a search term. -/
def search (term : String) (limit : Int) : Action (State ω κ τ) (List ν) :=
  if limit ≤ 0 then return []
  else List.take limit.toNat <$> ask (g.source.search term limit)

variable [Named ν]

/-- The text of a page: from the cache, or from the source and then kept. -/
def pageText (title : String) : Action (State ω κ τ) ν := do
  match (← useCache (g.cache.get title (← g.now)) none).filter Named.isGiven with
  | some text => return text
  | none =>
    let text ← ask (g.source.pageText title)
    let _ ← useCache (g.cache.put title text (← g.now)) false
    return text

variable [Instant τ]

/-- Searches for a shortest path along links. -/
def findPath (start stop : String) : Action (State ω κ τ) (Path.Outcome τ) := do
  let steps := g.searchSteps (← get).world
  ask (Path.find g.source g.clock g.searchTime steps start stop)

/-- Does what a request asks for. -/
def serve : Request → Action (State ω κ τ) (Answer τ ν)
  | .search term limit => .titles <$> g.search term limit
  | .page title => .page title <$> g.pageText title
  | .connectedPages title hops => .titles <$> ask (Neighbourhood.pages g.source title hops)
  | .zeitgeist limit => return .texts ((← get).ledger.zeitgeist limit)
  | .trending limit => do
    return .texts (← (← get).ledger.trending g.window limit (← g.now))
  | .peakLoad => do return .count (← (← get).ledger.peakLoad g.window (← g.now))
  | .path start stop => do return .texts (← g.findPath start stop).path
  | .findPath start stop => .outcome <$> g.findPath start stop
  | .query text => .titles <$> ask (Query.execute g.source text)

/-- Answers a request. -/
def answer (request : Request) : Action (State ω κ τ) (Answer τ ν) := do
  g.note request
  g.serve request

end Gateway

end WikiGateway

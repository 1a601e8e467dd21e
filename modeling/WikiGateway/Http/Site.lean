import WikiGateway.Http.Route
import WikiGateway.Telemetry.Saving

/-!
The site: the gateway and the store behind the routes. A request that is turned away does not reach
them. What stops the gateway becomes a response if the wiki is the cause, and else stays a fault.
-/
namespace WikiGateway.Http

/-- The changing parts of a site. -/
structure Site (ω κ : Type) where
  gateway : Gateway.State ω κ Float
  store : Store
  /-- Whether the database of the store can be opened. -/
  databaseOpens : Bool

namespace Site

variable {ω κ ν : Type} [Named ν]

def serviceName : String := "Wiki Mediator"

def version : String := "1.0.0"

def success : String := "success"

/-- What the gateway answered, as a response. -/
def respond : Gateway.Answer Float ν → Response
  | .titles ts => .ofMembers TitleList.read
      (TitleList.membersOf success (.arr (ts.map Named.toJson)) none none)
  | .texts ts => .ofMembers TitleList.read (TitleList.mk success ts none none).members
  | .page title text => .ofMembers Page.read (Page.membersOf title (Named.toJson text))
  | .count n => .ofMembers PeakLoad.read (PeakLoad.mk n).members
  | .outcome o => .ofMembers PathAnswer.read
      (PathAnswer.mk o.start o.stop o.path o.status.name o.hops (some o.elapsedMillis)).members

/-- Asks the gateway; a failure of the wiki is passed on as that of a gateway. -/
def ask (g : Gateway ω κ Float ν) (request : Gateway.Request) : Action (Site ω κ) Response :=
  let answer := (g.answer request).onPart Site.gateway fun gateway s => { s with gateway }
  tryCatch (respond <$> answer) fun f =>
    match f with
    | .failure e => if e.isA .contentSource then return .refusal 502 e.message else throw f
    | f => throw f

/-- Tells of each record whether it was saved or loaded. -/
def report (records : List (Telemetry.Record × Bool)) : Response :=
  let status := if records.all (·.2) then success else "partial"
  .ofMembers Snapshot.read (Snapshot.mk status (records.map fun (r, b) => (r.name, b))).members

def saveAll : StateM (Site ω κ) (List (Telemetry.Record × Bool)) := do
  let s ← get
  let (records, store) := (Telemetry.saveAll s.gateway.ledger).run s.store
  set { s with store }
  return records

def loadAll : Action (Site ω κ) (List (Telemetry.Record × Bool)) := do
  (Telemetry.loadAll (← get).store).onPart (fun s => s.gateway.ledger) fun ledger s =>
    { s with gateway := { s.gateway with ledger } }

/-- How well a site is of which so many of its two supports stand. -/
def healthName (cacheWell storeWell : Bool) : String :=
  if cacheWell && storeWell then "ok" else if cacheWell || storeWell then "degraded" else "error"

/-- How the site is, the time aside. A cache that does not answer is not well. -/
def health (g : Gateway ω κ Float ν) : Action (Site ω κ) Response := do
  let check := g.cache.isHealthy.onPart (fun s => s.gateway.cached) fun cached s =>
    { s with gateway := { s.gateway with cached } }
  let cacheWell ← tryCatch check fun _ => return false
  let status := healthName cacheWell (← get).databaseOpens
  return .answer 200 (.obj [("status", .str status), ("version", .str version)])

def root : Response :=
  .answer 200 (.obj [("service", .str serviceName), ("version", .str version),
    ("docs", .str "/docs")])

/-- Carries out an order. -/
def perform (g : Gateway ω κ Float ν) : Order → Action (Site ω κ) Response
  | .ask request => ask g request
  | .snapshot => report <$> liftM (saveAll : StateM (Site ω κ) _)
  | .restore => report <$> loadAll
  | .health => health g
  | .root => return root

/-- Handles a request, if the name of its server can be read. A response is lost, after all was done
that was asked for, if it cannot be told from where it comes. -/
def handle (g : Gateway ω κ Float ν) (r : Request) : Action (Site ω κ) Response := do
  let _ ← r.origin.shownHost
  let response ← match Order.ofRequest r with
    | .error response => pure response
    | .ok order => perform g order
  if response.isSent then r.origin.checkBrackets
  return response

end Site

end WikiGateway.Http

import WikiGateway.Gateway.Basic
import WikiGateway.Http.Message
import WikiGateway.Limits

/-! The routes: which requests there are, and what each of them asks for. -/
namespace WikiGateway.Http

inductive Route
  | search | page | connectedPages | path | query
  | zeitgeist | trending | peakLoad | snapshot | restore
  | health | root
  deriving DecidableEq, Repr

namespace Route

def all : List Route :=
  [search, page, connectedPages, path, query, zeitgeist, trending, peakLoad, snapshot, restore,
    health, root]

def address : Route → String
  | search => "/api/v1/wiki/search"
  | page => "/api/v1/wiki/page"
  | connectedPages => "/api/v1/wiki/connected"
  | path => "/api/v1/wiki/path"
  | query => "/api/v1/wiki/query"
  | zeitgeist => "/api/v1/stats/zeitgeist"
  | trending => "/api/v1/stats/trending"
  | peakLoad => "/api/v1/stats/peak-load"
  | snapshot => "/api/v1/stats/snapshot"
  | restore => "/api/v1/stats/restore"
  | health => "/health"
  | root => "/"

def method : Route → String
  | query | snapshot | restore => "POST"
  | _ => "GET"

/-- A path without the slashes at its end. -/
def withoutSlashes (path : String) : String :=
  String.ofList (path.toList.reverse.dropWhile (· == '/')).reverse

/-- The route at a path. One end of a line after it does not count. -/
def at? (path : String) : Option Route :=
  all.find? fun route => path == route.address || path == route.address ++ "\n"

/-- The route at the path of a request. Slashes at its end lead to the same place, if the request
can be sent on to there. -/
def ofPath (r : Request) : Except Response Route :=
  let path := withoutSlashes r.path
  match at? r.path, at? path with
  | some route, _ => .ok route
  | none, some route =>
    match r.origin.checkMove (path ++ if r.query.isEmpty then "" else "?" ++ r.query) with
    | .ok () => .ok route
    | .error f => .error (.stopped f)
  | none, none => .error .notFound

/-- The route of a request. -/
def ofRequest (r : Request) : Except Response Route := do
  let route ← ofPath r
  if route.method = r.method then return route else throw .methodNotAllowed

def readsBody : Route → Bool
  | query => true
  | _ => false

/-- Whether requests are told when they arrive. -/
def isTold : Route → Bool
  | health | root => false
  | _ => true

end Route

/-- What a request asks for. -/
inductive Order
  | ask (request : Gateway.Request)
  | snapshot
  | restore
  | health
  | root

namespace Order

/-- The most titles that are given where no limit is asked for. -/
def usualLimit : Int := 10

def usualHops : Int := 1

/-- Reads the parameters of a request, or what came in its body. -/
def read (r : Request) (body : Option Json) : Route → Except Response (Validated Order)
  | .search =>
    .ok ((fun q n => ask (.search q n)) <$> r.text "query" <*> r.whole "limit" usualLimit)
  | .page => .ok ((fun t => ask (.page t)) <$> r.text "title")
  | .connectedPages =>
    .ok ((fun t n => ask (.connectedPages t n)) <$> r.text "title" <*> r.whole "hops" usualHops)
  | .path => .ok ((fun a b => ask (.findPath a b)) <$> r.text "start" <*> r.text "stop")
  | .query => do
    let form ← Request.model body QueryForm.read
    return .valid (ask (.query (some form.query)))
  | .zeitgeist => .ok ((fun n => ask (.zeitgeist n)) <$> r.whole "limit" usualLimit)
  | .trending => .ok ((fun n => ask (.trending n)) <$> r.whole "limit" usualLimit)
  | .peakLoad => .ok (.valid (ask .peakLoad))
  | .snapshot => .ok (.valid snapshot)
  | .restore => .ok (.valid restore)
  | .health => .ok (.valid health)
  | .root => .ok (.valid root)

/-- Whether the gateway may be asked for this. -/
def checkRequest : Gateway.Request → Except Fault Unit
  | .search term limit => do
    Limits.checkText "query" (some term)
    Limits.checkLimit limit
  | .page title => Limits.checkTitle "title" (some title)
  | .connectedPages title hops => do
    Limits.checkTitle "title" (some title)
    Limits.checkHops hops
  | .path start stop | .findPath start stop => do
    Limits.checkTitle "start" (some start)
    Limits.checkTitle "stop" (some stop)
  | .zeitgeist limit | .trending limit => Limits.checkLimit limit
  | .peakLoad | .query _ => .ok ()

/-- An order within the limits, or the refusal of one that is not. -/
def check : Order → Except Response Unit
  | ask request =>
    match checkRequest request with
    | .ok () => .ok ()
    | .error f => .error (.refusal 400 f.reason)
  | _ => .ok ()

/-- The order of a request, or the response to a request that is turned away. The body is read
first, then the request is told, and only then what it asks for is looked at. -/
def ofRequest (r : Request) : Except Response Order := do
  let route ← Route.ofRequest r
  let body ← if route.readsBody then r.content else pure none
  if route.isTold then
    let _ ← r.origin.text.mapError Response.stopped
  match ← read r body route with
  | .invalid ps => throw (.rejected ps)
  | .valid order =>
    order.check
    return order

end Order

end WikiGateway.Http

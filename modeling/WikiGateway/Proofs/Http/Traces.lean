import WikiGateway.Http.Site
import WikiGateway.Proofs.Gateway.Counts
import WikiGateway.Proofs.Http.Orders

/-! What requests leave behind at a site: those that are turned away nothing, and each of the others
one call of the entry point of its route. -/
namespace WikiGateway

namespace Ledger

variable {τ : Type} {l : Ledger τ} {method : String}

/-- The times at which an entry point was called. -/
def callsOf (l : Ledger τ) (method : String) : List τ := (l.invocations.find? method).getD []

theorem Ready.callsOf_changes (h : l.Ready) (hmethod : method ∈ entryPoints)
    (request : Gateway.Request) (now : τ) :
    (l.changedBy (request.changes now)).callsOf method =
      l.callsOf method ++ if request.entryPoint = method then [now] else [] := by
  have hcalls : (l.changedBy (request.changes now)).invocations =
      (l.changed (.invocation request.entryPoint now)).invocations := by
    rw [Gateway.Request.changes, Ledger.changedBy, List.foldl_cons]
    cases request.term? with
    | none => rfl
    | some term =>
      have hterm : (Change.term term now).part ≠ .invocations := by rintro ⟨⟩
      exact invocations_changed hterm
  rw [callsOf, hcalls, h.2.find?_changed (h.1 ▸ hmethod), Option.getD_some]
  by_cases hsame : request.entryPoint = method <;>
    simp [callsOf, Change.invocations?, Change.call?, hsame]

theorem Ready.find?_invocationCounts (h : l.Ready) (hmethod : method ∈ entryPoints) :
    l.invocationCounts.find? method = some (l.callsOf method).length := by
  obtain ⟨times, htimes⟩ := OrderedMap.mem_keys_iff.mp (h.2.mem_keys_iff.mpr (h.1 ▸ hmethod))
  rw [invocationCounts, OrderedMap.find?_map, callsOf, htimes]
  rfl

end Ledger

namespace Http

open WikiGateway.Action

namespace Site

variable {ω κ ν : Type} [Named ν] {g : Gateway ω κ Float ν} {s : Site ω κ} {r : Request}
  {route : Route} {response : Response} {request : Gateway.Request}

theorem runIn_handle (h : r.Arrives route) : (handle g r).runIn s =
    match Order.ofRequest r with
    | .error response => (.ok response, s)
    | .ok order => (perform g order).runIn s := by
  obtain ⟨name, hhost⟩ := h.host
  have hsent (response : Response) (s : Site ω κ) :
      (do
        if response.isSent then liftM r.origin.checkBrackets
        return response : Action (Site ω κ) Response).runIn s = (.ok response, s) := by
    rw [h.brackets]
    cases response.isSent <;> rfl
  rw [handle, hhost]
  cases Order.ofRequest r with
  | error response => exact hsent response s
  | ok order =>
    simp only [runIn_bind, runIn_lift]
    rcases (perform g order).runIn s with ⟨_ | _, _⟩
    · rfl
    · exact hsent _ _

/-- Whatever comes of it, to ask the gateway changes nothing but the gateway. -/
theorem runIn_ask_state (g : Gateway ω κ Float ν) (request : Gateway.Request) (s : Site ω κ) :
    ((ask g request).runIn s).2 = { s with gateway := ((g.answer request).runIn s.gateway).2 } := by
  rw [ask, runIn_tryCatch, runIn_map, runIn_onPart]
  cases hanswer : ((g.answer request).runIn s.gateway).1 with
  | ok answer => rfl
  | error f =>
    cases f with
    | failure e =>
      simp only [Except.map]
      split <;> rfl
    | _ => rfl

theorem not_refuses_ofMembers {α : Type} (read : Members → Validated α) (members : Members) :
    ¬ (Response.ofMembers read members).Refuses := by
  rw [Response.ofMembers]
  split <;> rintro (⟨body, ⟨⟩⟩ | ⟨ps, ⟨⟩⟩)

theorem not_refuses_respond (answer : Gateway.Answer Float ν) : ¬ (respond answer).Refuses := by
  cases answer <;> exact not_refuses_ofMembers _ _

/-- The gateway never blames the request. -/
theorem not_refuses_ask (h : ((ask g request).runIn s).1 = .ok response) : ¬ response.Refuses := by
  rw [ask, runIn_tryCatch, runIn_map, runIn_onPart] at h
  cases hanswer : ((g.answer request).runIn s.gateway).1 with
  | ok answer =>
    rw [hanswer] at h
    cases h
    exact not_refuses_respond answer
  | error f =>
    rw [hanswer] at h
    cases f with
    | failure e =>
      simp only [Except.map] at h
      split at h
      · cases h
        rintro (⟨body, ⟨⟩⟩ | ⟨ps, ⟨⟩⟩)
      · cases h
    | _ => cases h

theorem not_refuses_handle (h : r.Arrives route) (hsuits : r.Suits route)
    (hresponse : ((handle g r).runIn s).1 = .ok response) : ¬ response.Refuses := by
  obtain ⟨request, horder, -⟩ := Order.ofRequest_of_suits h hsuits
  rw [runIn_handle h, horder] at hresponse
  exact not_refuses_ask hresponse

/-- What happens to a site: it gets a request, or the world around it changes. -/
inductive Event (ω : Type)
  | request (r : Request)
  | world (world : ω)

namespace Event

/-- Whether an event is a request that suits the route to which it comes. -/
def isAccepted (route : Route) : Event ω → Bool
  | .request r => (Route.ofRequest r).toOption == some route && decide (r.Suits route)
  | .world _ => false

/-- A request arrives at a route. -/
def Arrives : Event ω → Prop
  | .request r => ∃ route, r.Arrives route
  | .world _ => True

end Event

def after (g : Gateway ω κ Float ν) (s : Site ω κ) : Event ω → Site ω κ
  | .request r => ((handle g r).runIn s).2
  | .world world => { s with gateway := { s.gateway with world } }

def afterAll (g : Gateway ω κ Float ν) (s : Site ω κ) (events : List (Event ω)) : Site ω κ :=
  events.foldl (after g) s

variable {method : String} {event : Event ω} {events : List (Event ω)}

theorem ledger_ask (h : s.gateway.ledger.Ready) (request : Gateway.Request) :
    ((ask g request).runIn s).2.gateway.ledger =
      s.gateway.ledger.changedBy (request.changes (g.clock s.gateway.world)) := by
  rw [runIn_ask_state]
  exact g.ledger_after h (.call request)

/-- A request is counted if it suits its route, and then once and there. -/
theorem ledger_handle (h : r.Arrives route) (hready : s.gateway.ledger.Ready) :
    let ledger := ((handle g r).runIn s).2.gateway.ledger
    ledger.Ready ∧ ∀ method ∈ Ledger.entryPoints, ledger.callsOf method =
      s.gateway.ledger.callsOf method ++
        if r.Suits route ∧ route.entryPoint? = some method then [g.clock s.gateway.world]
        else [] := by
  intro ledger
  by_cases hsuits : r.Suits route
  · obtain ⟨request, horder, hentry⟩ := Order.ofRequest_of_suits h hsuits
    have hledger : ledger =
        s.gateway.ledger.changedBy (request.changes (g.clock s.gateway.world)) := by
      simp only [ledger, runIn_handle h, horder]
      exact ledger_ask hready request
    refine ⟨hledger ▸ hready.changedBy _, fun method hmethod => ?_⟩
    rw [hledger, hready.callsOf_changes hmethod, hentry]
    simp [hsuits]
  · obtain ⟨response, horder, -⟩ := Order.ofRequest_of_not_suits h hsuits
    have hledger : ledger = s.gateway.ledger := by
      simp only [ledger, runIn_handle h, horder]
    refine ⟨hledger ▸ hready, fun method _ => ?_⟩
    simp [hledger, hsuits]

theorem isAccepted_iff {route' : Route} (h : r.Arrives route')
    (hmethod : route.entryPoint? = some method) :
    Event.isAccepted route (.request r : Event ω) = true ↔
      r.Suits route' ∧ route'.entryPoint? = some method := by
  have hroute : (Route.ofRequest r).toOption = some route' := by rw [h.atRoute]; rfl
  rw [Event.isAccepted, hroute, Bool.and_eq_true, beq_iff_eq, Option.some.injEq, decide_eq_true_iff]
  constructor
  · rintro ⟨rfl, hsuits⟩
    exact ⟨hsuits, hmethod⟩
  · rintro ⟨hsuits, hmethod'⟩
    have hsame := (Route.find?_entryPoint? hmethod').symm.trans (Route.find?_entryPoint? hmethod)
    cases hsame
    exact ⟨rfl, hsuits⟩

theorem ledger_after (h : event.Arrives) (hready : s.gateway.ledger.Ready) :
    (after g s event).gateway.ledger.Ready ∧
    ∀ route method, route.entryPoint? = some method →
      ((after g s event).gateway.ledger.callsOf method).length =
        (s.gateway.ledger.callsOf method).length + [event].countP (Event.isAccepted route) := by
  cases event with
  | request r =>
    obtain ⟨route', harrives⟩ := h
    obtain ⟨hafter, hcalls⟩ := ledger_handle (g := g) harrives hready
    refine ⟨hafter, fun route method hmethod => ?_⟩
    rw [after, hcalls method (Route.entryPoint?_mem hmethod), List.length_append,
      List.countP_singleton]
    simp only [isAccepted_iff harrives hmethod]
    split <;> rfl
  | world world => exact ⟨hready, fun _ _ _ => rfl⟩

/-- Each count grows by the requests that suit the route to which they come. -/
theorem ledger_afterAll (h : ∀ event ∈ events, event.Arrives) (hready : s.gateway.ledger.Ready) :
    (afterAll g s events).gateway.ledger.Ready ∧
    ∀ route method, route.entryPoint? = some method →
      ((afterAll g s events).gateway.ledger.callsOf method).length =
        (s.gateway.ledger.callsOf method).length + events.countP (Event.isAccepted route) := by
  induction events generalizing s with
  | nil => exact ⟨hready, fun _ _ _ => rfl⟩
  | cons event events ih =>
    obtain ⟨hevent, hevents⟩ := List.forall_mem_cons.mp h
    obtain ⟨hafter, hstep⟩ := ledger_after (g := g) hevent hready
    obtain ⟨hreadyAll, hrest⟩ := ih hevents hafter
    refine ⟨hreadyAll, fun route method hmethod => ?_⟩
    calc ((afterAll g s (event :: events)).gateway.ledger.callsOf method).length
      _ = ((after g s event).gateway.ledger.callsOf method).length +
          events.countP (Event.isAccepted route) := hrest route method hmethod
      _ = (s.gateway.ledger.callsOf method).length +
          ([event].countP (Event.isAccepted route) + events.countP (Event.isAccepted route)) := by
        rw [hstep route method hmethod, Nat.add_assoc]
      _ = (s.gateway.ledger.callsOf method).length +
          (event :: events).countP (Event.isAccepted route) := by
        rw [← List.countP_append, List.singleton_append]

/-- Whatever the source and the cache do, a request that does not suit its route is turned away, and
so at every site, with nothing done about it. Any other is counted once, at the time at which it
came in and under the entry point of its route, and is never blamed. So each count is the number of
the requests that suit the route to which they came. -/
theorem requests_traced (g : Gateway ω κ Float ν) (world : ω) (cached : κ) (start : Float)
    (store : Store) (databaseOpens : Bool) (h : ∀ event ∈ events, event.Arrives) :
    let s : Site ω κ := ⟨⟨world, cached, .opened start⟩, store, databaseOpens⟩
    (∀ before r rest route, events = before ++ .request r :: rest →
      Route.ofRequest r = .ok route →
      let here := afterAll g s before
      let run := (handle g r).runIn here
      (¬ r.Suits route → ∃ response, r.TurnedAway response ∧
        ∀ (g' : Gateway ω κ Float ν) (s' : Site ω κ), (handle g' r).runIn s' = (.ok response, s')) ∧
      (r.Suits route → (∀ response, run.1 = .ok response → ¬ response.Refuses) ∧
        ∀ method ∈ Ledger.entryPoints, run.2.gateway.ledger.callsOf method =
          here.gateway.ledger.callsOf method ++
            if route.entryPoint? = some method then [g.clock here.gateway.world] else [])) ∧
    ∀ route method, route.entryPoint? = some method →
      (afterAll g s events).gateway.ledger.invocationCounts.find? method =
        some (events.countP (Event.isAccepted route)) := by
  intro s
  have hready : s.gateway.ledger.Ready := Ledger.ready_opened start
  refine ⟨?_, fun route method hmethod => ?_⟩
  · rintro before r rest route rfl hroute here run
    obtain ⟨route', harrives⟩ : (Event.request r : Event ω).Arrives := h _ (by simp)
    obtain rfl : route' = route := Except.ok.inj (harrives.atRoute.symm.trans hroute)
    have hbefore : ∀ event ∈ before, event.Arrives := fun event hevent =>
      h event (List.mem_append_left _ hevent)
    have hhere : here.gateway.ledger.Ready := (ledger_afterAll hbefore hready).1
    constructor
    · intro hsuits
      obtain ⟨response, horder, hturned⟩ := Order.ofRequest_of_not_suits harrives hsuits
      refine ⟨response, hturned, fun g' s' => ?_⟩
      rw [runIn_handle harrives, horder]
    · intro hsuits
      refine ⟨fun _ => not_refuses_handle harrives hsuits, fun method hmethod => ?_⟩
      have hcalls := (ledger_handle (g := g) harrives hhere).2 method hmethod
      simpa only [hsuits, true_and] using hcalls
  · obtain ⟨hfinal, hcount⟩ := ledger_afterAll (g := g) h hready
    have hmem := Route.entryPoint?_mem hmethod
    have hnone : s.gateway.ledger.callsOf method = [] := by
      simp [s, Ledger.callsOf, Ledger.opened, Ledger.find?_seriesOf, OrderedMap.find?_empty, hmem]
    rw [hfinal.find?_invocationCounts hmem, hcount route method hmethod, hnone]
    simp

/-- A request that names no server. -/
theorem arrives_of_usual (horigin : r.origin = .usual) (hroute : Route.ofRequest r = .ok route)
    (hasks : route.entryPoint?.isSome) : r.Arrives route where
  atRoute := hroute
  asks := hasks
  host := ⟨"testserver", by rw [horigin]; rfl⟩
  told := ⟨"http://testserver", by rw [horigin]; rfl⟩
  brackets := by rw [horigin]; rfl

/-- A body that is sent to be answered as a query. -/
def posted (body : String) : Request :=
  ⟨"POST", .usual, "/api/v1/wiki/query", "", Encoding.encode body⟩

/-- A request for a page that names none. -/
def untitled : Request := ⟨"GET", .usual, "/api/v1/wiki/page", "", []⟩

theorem param?_of_noQuery (h : r.query = "") (name : String) : r.param? name = none := by
  have hsplit : "".splitOn "&" = [""] := by
    rw [String.splitOn, if_neg (by decide), String.splitOnAux]
    decide +kernel
  rw [Request.param?, Address.readParams, h, hsplit]
  rfl

theorem not_suits_untitled : ¬ untitled.Suits .page := by
  rintro ⟨title, htitle, -⟩
  rw [param?_of_noQuery rfl] at htitle
  cases htitle

/-- No page is named, one query is blank, and the wiki does not answer the other one. -/
theorem requests_traced_failingWiki :
    let gone : Fault := .failure (.contentSource "gone" none [])
    let wiki : Table Float := ⟨[], [], [], [], [], [], [⟨.categoryMembers, none, gone⟩], 1⟩
    let g : Gateway (Session Float) Unit Float String :=
      ⟨wiki.source, Cache.faulty none none none true, Session.now, 300, fun _ => 2, 30⟩
    let events : List (Event (Session Float)) :=
      [.request untitled, .request (posted "\x7b\"query\": \" \"\x7d"), .world ⟨10, #[]⟩,
        .request (posted "\x7b\"query\": \"get page where category is 'A'\"\x7d"),
        .request ⟨"GET", .usual, "/api/v1/stats/peak-load", "", []⟩]
    let counts := (afterAll g ⟨⟨⟨0, #[]⟩, (), .opened 0⟩, .healthy .empty, true⟩
      events).gateway.ledger.invocationCounts
    (∀ event ∈ events, event.Arrives) ∧ counts.find? "get_page" = some 0 ∧
      counts.find? "execute_query" = some 1 ∧ counts.find? "peak_load_30s" = some 1 := by
  intro gone wiki g events counts
  have hposted (body : String) : (posted body).Arrives .query := arrives_of_usual rfl rfl rfl
  have hevents : ∀ event ∈ events, event.Arrives := by
    simp only [events, List.forall_mem_cons, List.not_mem_nil, IsEmpty.forall_iff, implies_true,
      and_true]
    exact ⟨⟨.page, arrives_of_usual rfl rfl rfl⟩, ⟨.query, hposted _⟩, trivial, ⟨.query, hposted _⟩,
      ⟨.peakLoad, arrives_of_usual rfl rfl rfl⟩⟩
  obtain ⟨-, hcounts⟩ := requests_traced g ⟨0, #[]⟩ () 0 (.healthy .empty) true hevents
  refine ⟨hevents, ?_, ?_, ?_⟩
  · have hpage : events.countP (Event.isAccepted .page) = 0 := by
      simp only [events, List.countP_cons, List.countP_nil, Event.isAccepted, not_suits_untitled]
      decide +kernel
    rw [← hpage]
    exact hcounts .page "get_page" rfl
  · have hquery : events.countP (Event.isAccepted .query) = 1 := by decide +kernel
    rw [← hquery]
    exact hcounts .query "execute_query" rfl
  · have hload : events.countP (Event.isAccepted .peakLoad) = 1 := by decide +kernel
    rw [← hload]
    exact hcounts .peakLoad "peak_load_30s" rfl

end Site

end Http

end WikiGateway

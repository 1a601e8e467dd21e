import WikiGateway.Proofs.Gateway.Pages
import WikiGateway.Proofs.Ledger.History

/-! Every request to a gateway is counted once, at the time at which it came in, whatever comes of
it. -/
namespace WikiGateway

namespace OrderedMap

variable {α : Type}

/-- A map is given by its keys and what is found under each. -/
theorem entries_eq_map_keys {d : OrderedMap α} {f : String → α}
    (h : ∀ k ∈ d.keys, d.find? k = some (f k)) : d.entries = d.keys.map fun k => (k, f k) := by
  have hentry (e : String × α) (he : e ∈ d.entries) : (e.1, f e.1) = e := by
    have hvalue := h e.1 (List.mem_map_of_mem he)
    rw [find?_eq_some_iff.mpr he] at hvalue
    exact Prod.ext rfl (Option.some.inj hvalue).symm
  rw [keys, List.map_map]
  exact ((List.map_congr_left hentry).trans (List.map_id _)).symm

end OrderedMap

namespace Gateway

variable {ω κ τ ν : Type} {g : Gateway ω κ τ ν} {s : State ω κ τ} {events : List (Event ω τ)}

/-- A request for which the ledger counts a use of the term. -/
def Request.uses (term : String) : Request → Bool
  | search t _ => t = term
  | page t => t = term
  | _ => false

/-- The entry points, with the requests that come in by each. -/
def kinds : List (String × (Request → Bool)) := [
  ("search", (· matches .search ..)),
  ("get_page", (· matches .page ..)),
  ("get_connected_pages", (· matches .connectedPages ..)),
  ("zeitgeist", (· matches .zeitgeist ..)),
  ("trending", (· matches .trending ..)),
  ("peak_load_30s", (· matches .peakLoad)),
  ("get_path", (· matches .path .. | .findPath ..)),
  ("execute_query", (· matches .query ..))]

/-- Whether an event is a request of a kind. -/
def Event.isCall (kind : Request → Bool) : Event ω τ → Bool
  | call request => kind request
  | world _ | ledger _ => false

/-- The times of the requests of a kind. -/
def timesOf (kind : Request → Bool) (requests : List (Request × τ)) : List τ :=
  (requests.filter (kind ·.1)).map Prod.snd

theorem kinds_eq :
    kinds = Ledger.entryPoints.map fun name => (name, fun r => decide (r.entryPoint = name)) := by
  have hkind {kind : Request → Bool} {name : String}
      (h : ∀ r, kind r = decide (r.entryPoint = name)) :
      kind = fun r => decide (r.entryPoint = name) := funext h
  simp only [kinds, Ledger.entryPoints, List.map_cons, List.map_nil, List.cons.injEq,
    Prod.mk.injEq, true_and, and_true]
  refine ⟨hkind ?_, hkind ?_, hkind ?_, hkind ?_, hkind ?_, hkind ?_, hkind ?_, hkind ?_⟩ <;>
    intro r <;> cases r <;> rfl

/-- Requests replace nothing in a ledger. -/
theorem latest_changes {α : Type} (replaced : Ledger.Change τ → Option α)
    (hcall : ∀ method now, replaced (.invocation method now) = none)
    (hterm : ∀ term now, replaced (.term term now) = none) (requests : List (Request × τ)) :
    Ledger.latest replaced (requests.flatMap fun r => r.1.changes r.2) = none ∧
    Ledger.since replaced (requests.flatMap fun r => r.1.changes r.2) =
      requests.flatMap fun r => r.1.changes r.2 := by
  have hall : ∀ c ∈ requests.flatMap fun r => r.1.changes r.2, replaced c = none := by
    intro c hc
    obtain ⟨r, -, hr⟩ := List.mem_flatMap.mp hc
    rcases List.mem_cons.mp hr with rfl | hr
    · exact hcall _ _
    · obtain ⟨term, -, rfl⟩ := List.mem_map.mp hr
      exact hterm term _
  constructor
  · have hnone := List.filterMap_eq_nil_iff.mpr hall
    rw [Ledger.latest, hnone, List.getLast?_nil]
  · rw [Ledger.since, List.rtakeWhile_eq_self_iff]
    intro c hc
    simp [hall c hc]

theorem filterMap_changes {noted : Ledger.Change τ → Option τ} {kind : Request → Bool}
    (h : ∀ (request : Request) (now : τ), (request.changes now).filterMap noted =
      if kind request then [now] else []) (requests : List (Request × τ)) :
    (requests.flatMap fun r => r.1.changes r.2).filterMap noted = timesOf kind requests := by
  induction requests with
  | nil => rfl
  | cons r requests ih =>
    rw [timesOf] at ih
    rw [List.flatMap_cons, List.filterMap_append, h, ih, timesOf]
    by_cases hkind : kind r.1 <;> simp [hkind]

variable {start : τ}

theorem entries_invocations (requests : List (Request × τ)) :
    ((Ledger.opened start).changedBy
      (requests.flatMap fun r => r.1.changes r.2)).invocations.entries =
        kinds.map fun (name, kind) => (name, timesOf kind requests) := by
  obtain ⟨hmethods, hcomplete⟩ := (Ledger.ready_opened start).changedBy
    (requests.flatMap fun r => r.1.changes r.2)
  have hdistinct : Ledger.entryPoints.eraseDups = Ledger.entryPoints := by decide
  have hkeys := hcomplete.trans ((congrArg List.eraseDups hmethods).trans hdistinct)
  obtain ⟨hlatest, hsince⟩ := latest_changes Ledger.Change.invocations?
    (fun _ _ => rfl) (fun _ _ => rfl) requests
  have hnoted (name : String) (request : Request) (now : τ) :
      (request.changes now).filterMap (Ledger.Change.call? name) =
        if decide (request.entryPoint = name) then [now] else [] := by
    by_cases hname : request.entryPoint = name <;> cases hterm : request.term? <;>
      simp [Request.changes, Ledger.Change.call?, hname, hterm]
  rw [OrderedMap.entries_eq_map_keys (f := fun name =>
    timesOf (fun r => decide (r.entryPoint = name)) requests), hkeys, kinds_eq, List.map_map]
  · rfl
  · intro name hname
    rw [Ledger.find?_invocations_changedBy start (hkeys ▸ hname), hlatest, hsince,
      filterMap_changes (hnoted name)]
    rfl

theorem find?_terms (requests : List (Request × τ)) (term : String) :
    (((Ledger.opened start).changedBy
      (requests.flatMap fun r => r.1.changes r.2)).terms.find? term).getD [] =
        timesOf (Request.uses term) requests := by
  obtain ⟨hlatest, hsince⟩ := latest_changes Ledger.Change.terms?
    (fun _ _ => rfl) (fun _ _ => rfl) requests
  have hnoted (request : Request) (now : τ) :
      (request.changes now).filterMap (Ledger.Change.use? term) =
        if Request.uses term request then [now] else [] := by
    cases request with
    | search t limit | page t =>
      by_cases ht : t = term <;>
        simp [Request.changes, Request.term?, Request.uses, Ledger.Change.use?, List.filterMap_cons,
          ht]
    | _ => rfl
  rw [Ledger.find?_terms_changedBy, hlatest, hsince, filterMap_changes hnoted]
  rfl

variable [Named ν] [Instant τ]

/-- The requests among events, each with the time at which it came in. -/
def requests (g : Gateway ω κ τ ν) (s : State ω κ τ) : List (Event ω τ) → List (Request × τ)
  | [] => []
  | event :: events =>
    (match event with
      | .call request => [(request, g.clock s.world)]
      | .world _ | .ledger _ => []) ++ g.requests (g.after s event) events

theorem length_timesOf (kind : Request → Bool) :
    (timesOf kind (g.requests s events)).length = events.countP (Event.isCall kind) := by
  induction events generalizing s with
  | nil => rfl
  | cons event events ih =>
    have hrest := ih (s := g.after s event)
    rw [timesOf, List.length_map] at hrest
    cases event with
    | call request =>
      by_cases hkind : kind request <;>
        simp [requests, timesOf, Event.isCall, hkind, hrest]
    | world world => simp [requests, timesOf, Event.isCall, hrest]
    | ledger change => simp [requests, timesOf, Event.isCall, hrest]

/-- As long as the ledger is not changed from outside, it changes by requests. -/
theorem changesOfAll_eq (h : ∀ change, .ledger change ∉ events) :
    g.changesOfAll s events = (g.requests s events).flatMap fun r => r.1.changes r.2 := by
  induction events generalizing s with
  | nil => rfl
  | cons event events ih =>
    have hrest := ih (s := g.after s event) fun change hmem =>
      h change (List.mem_cons_of_mem _ hmem)
    cases event with
    | call request => simp [changesOfAll, changesOf, requests, hrest]
    | world world => simp [changesOfAll, changesOf, requests, hrest]
    | ledger change => exact absurd List.mem_cons_self (h change)

variable {world : ω} {cached : κ}

theorem ledger_requests (h : ∀ change, .ledger change ∉ events) :
    (g.afterAll ⟨world, cached, .opened start⟩ events).ledger = (Ledger.opened start).changedBy
      ((g.requests ⟨world, cached, .opened start⟩ events).flatMap fun r => r.1.changes r.2) := by
  have hledger := g.ledger_afterAll (s := ⟨world, cached, .opened start⟩)
    (Ledger.ready_opened start) events
  rwa [changesOfAll_eq h] at hledger

/-- Whatever the source and the cache do, and whatever comes of the requests, the ledger holds the
times at which the requests to each entry point came in, and for each term those of the searches for
it and the requests for the page of that name. -/
theorem requests_counted (g : Gateway ω κ τ ν) (world : ω) (cached : κ) (start : τ)
    {events : List (Event ω τ)} (h : ∀ change, .ledger change ∉ events) :
    let s : State ω κ τ := ⟨world, cached, .opened start⟩
    let l := (g.afterAll s events).ledger
    l.invocations.entries = kinds.map (fun (name, kind) =>
      (name, timesOf kind (g.requests s events))) ∧
    (∀ term, (l.terms.find? term).getD [] = timesOf (Request.uses term) (g.requests s events)) ∧
    l.invocationCounts.entries = kinds.map (fun (name, kind) =>
      (name, events.countP (Event.isCall kind))) ∧
    ∀ term, (l.termCounts.find? term).getD 0 =
      events.countP (Event.isCall (Request.uses term)) := by
  intro s l
  have hl : l = (Ledger.opened start).changedBy
      ((g.requests s events).flatMap fun r => r.1.changes r.2) := ledger_requests h
  have hcalls : l.invocations.entries = kinds.map fun (name, kind) =>
      (name, timesOf kind (g.requests s events)) := by
    rw [hl, entries_invocations]
  have hterms (term : String) : (l.terms.find? term).getD [] =
      timesOf (Request.uses term) (g.requests s events) := by
    rw [hl, find?_terms]
  refine ⟨hcalls, hterms, ?_, fun term => ?_⟩
  · simp [Ledger.invocationCounts, OrderedMap.map, hcalls, length_timesOf]
  · have hcount := congrArg List.length (hterms term)
    rw [length_timesOf] at hcount
    rw [← hcount, Ledger.termCounts, OrderedMap.find?_map]
    cases l.terms.find? term <;> rfl

/-- The cache takes no page, the text of "B" cannot be told, and one query is no query at all. -/
theorem requests_counted_halfTold :
    let full : Fault := .failure (.database "full" none [])
    let g : Gateway (Session ℚ) Unit ℚ String :=
      ⟨Table.halfTold.source, Cache.faulty none (some full) none false, Session.now, 300,
        fun _ => 2, 30⟩
    let events := [.call (.page "A"), .call (.page "B"), .world ⟨10, #[]⟩, .call (.search "B" 0),
      .call (.findPath "A" "B"), .call (.path "A" "A"), .call (.query (some "(")), .call .peakLoad]
    let l := (g.afterAll ⟨⟨0, #[]⟩, (), .opened 0⟩ events).ledger
    (∀ change, .ledger change ∉ events) ∧
    l.invocations.entries = [("search", [10]), ("get_page", [0, 1]), ("get_connected_pages", []),
      ("zeitgeist", []), ("trending", []), ("peak_load_30s", [11]), ("get_path", [10, 11]),
      ("execute_query", [11])] ∧
    (l.terms.find? "B").getD [] = [1, 10] ∧ (l.termCounts.find? "B").getD 0 = 2 := by
  intro full g events l
  have hevents : ∀ change, .ledger change ∉ events := by simp [events]
  obtain ⟨hcalls, hterms, -, hcounts⟩ := requests_counted g ⟨0, #[]⟩ () 0 hevents
  refine ⟨hevents, ?_, ?_, ?_⟩
  · rw [hcalls]
    decide +kernel
  · rw [hterms]
    decide +kernel
  · rw [hcounts]
    decide +kernel

end Gateway

end WikiGateway

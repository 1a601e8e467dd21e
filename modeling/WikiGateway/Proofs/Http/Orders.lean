import WikiGateway.Http.Route
import WikiGateway.Proofs.Http.Parameters

/-! Which requests are let through to the gateway: those whose parameters, or whose bodies, suit
their routes. All others are turned away. -/
namespace WikiGateway.Http

namespace Route

variable {route : Route} {method : String}

/-- The entry point under which the gateway counts what is asked for at a route. -/
def entryPoint? : Route → Option String
  | search => "search"
  | page => "get_page"
  | connectedPages => "get_connected_pages"
  | path => "get_path"
  | query => "execute_query"
  | zeitgeist => "zeitgeist"
  | trending => "trending"
  | peakLoad => "peak_load_30s"
  | snapshot | restore | health | root => none

theorem entryPoint?_mem (h : route.entryPoint? = some method) : method ∈ Ledger.entryPoints := by
  cases route <;> cases h <;> decide

/-- No two routes have one entry point. -/
theorem find?_entryPoint? (h : route.entryPoint? = some method) :
    all.find? (fun route => route.entryPoint? == some method) = some route := by
  cases route <;> cases h <;> rfl

end Route

namespace Request

/-- A parameter is there, and suits. -/
def HasText (r : Request) (name : String) (suits : String → Prop) : Prop :=
  ∃ s ∈ r.param? name, suits s

/-- A parameter holds a whole number from zero on, or is not there. -/
def HasNumber (r : Request) (name : String) (default most : Int) : Prop :=
  ∃ n ∈ r.number? name default, 0 ≤ n ∧ n ≤ most

/-- What a request asks the gateway for at a route. -/
inductive Asks (r : Request) : Route → Gateway.Request → Prop
  | search {q : String} {n : Int} (hq : r.param? "query" = some q)
      (hn : r.number? "limit" 10 = some n) : Asks r .search (.search q n)
  | page {t : String} (ht : r.param? "title" = some t) : Asks r .page (.page t)
  | connectedPages {t : String} {n : Int} (ht : r.param? "title" = some t)
      (hn : r.number? "hops" 1 = some n) : Asks r .connectedPages (.connectedPages t n)
  | path {a b : String} (ha : r.param? "start" = some a) (hb : r.param? "stop" = some b) :
      Asks r .path (.findPath a b)
  | query {q : String} (hq : r.queryText? = some q) (hfilled : Limits.IsFilled q) :
      Asks r .query (.query (some q))
  | zeitgeist {n : Int} (hn : r.number? "limit" 10 = some n) : Asks r .zeitgeist (.zeitgeist n)
  | trending {n : Int} (hn : r.number? "limit" 10 = some n) : Asks r .trending (.trending n)
  | peakLoad : Asks r .peakLoad .peakLoad

/-- What a request asks for suits its route. -/
def Suits (r : Request) : Route → Prop
  | .search => r.HasText "query" Limits.TextSuits ∧ r.HasNumber "limit" 10 500
  | .page => r.HasText "title" Limits.TitleSuits
  | .connectedPages => r.HasText "title" Limits.TitleSuits ∧ r.HasNumber "hops" 1 3
  | .path => r.HasText "start" Limits.TitleSuits ∧ r.HasText "stop" Limits.TitleSuits
  | .query => ∃ q ∈ r.queryText?, Limits.IsFilled q
  | .zeitgeist | .trending => r.HasNumber "limit" 10 500
  | _ => True

instance (r : Request) (name : String) (suits : String → Prop) [DecidablePred suits] :
    Decidable (r.HasText name suits) := inferInstanceAs (Decidable (∃ s ∈ r.param? name, suits s))

instance (r : Request) (name : String) (default most : Int) :
    Decidable (r.HasNumber name default most) :=
  inferInstanceAs (Decidable (∃ n ∈ r.number? name default, 0 ≤ n ∧ n ≤ most))

instance (r : Request) : DecidablePred r.Suits
  | .search | .connectedPages | .path => inferInstanceAs (Decidable (_ ∧ _))
  | .page => inferInstanceAs (Decidable (r.HasText "title" Limits.TitleSuits))
  | .query => inferInstanceAs (Decidable (∃ q ∈ r.queryText?, Limits.IsFilled q))
  | .zeitgeist | .trending => inferInstanceAs (Decidable (r.HasNumber "limit" 10 500))
  | .peakLoad | .snapshot | .restore | .health | .root => inferInstanceAs (Decidable True)

/-- A request comes to one of the routes at which the gateway is asked, from where a server is named
that can be read and told. -/
structure Arrives (r : Request) (route : Route) : Prop where
  atRoute : Route.ofRequest r = .ok route
  asks : route.entryPoint?.isSome
  host : ∃ name, r.origin.shownHost = .ok name
  told : ∃ text, r.origin.text = .ok text
  brackets : r.origin.checkBrackets = .ok ()

end Request

namespace Order

variable {r : Request} {route : Route} {order : Order} {response : Response}

theorem check_ask {request : Gateway.Request} :
    (ask request).check = .ok () ↔ checkRequest request = .ok () := by
  rw [check]
  cases checkRequest request <;> simp

/-- The body that is read for a route. -/
def bodyFor (r : Request) (route : Route) : Except Response (Option Json) :=
  if route.readsBody then r.content else .ok none

/-- An order that was read, if it is within the limits. -/
def settle : Validated Order → Except Response Order
  | .invalid ps => .error (.rejected ps)
  | .valid order => order.check >>= fun _ => .ok order

theorem settle_eq_ok {v : Validated Order} :
    settle v = .ok order ↔ v = .valid order ∧ order.check = .ok () := by
  cases v with
  | invalid ps => simp [settle]
  | valid order' =>
    simp only [settle, Attempt.unit_bind_eq_ok, Except.ok.injEq, Validated.valid.injEq]
    constructor
    · rintro ⟨h, rfl⟩
      exact ⟨rfl, h⟩
    · rintro ⟨rfl, h⟩
      exact ⟨h, rfl⟩

theorem asks_of_read (h : route.entryPoint?.isSome) {body : Option Json}
    (hbody : bodyFor r route = .ok body) (hread : read r body route = .ok (.valid order)) :
    ∃ request, order = .ask request ∧ r.Asks route request := by
  cases route with
  | search =>
    obtain ⟨q, n, hq, hn, rfl⟩ := Validated.map₂_eq_valid.mp (Except.ok.inj hread)
    exact ⟨_, rfl, .search (Request.text_eq_valid.mp hq) (Request.whole_eq_valid.mp hn)⟩
  | page =>
    obtain ⟨t, ht, rfl⟩ := Validated.map_eq_valid.mp (Except.ok.inj hread)
    exact ⟨_, rfl, .page (Request.text_eq_valid.mp ht)⟩
  | connectedPages =>
    obtain ⟨t, n, ht, hn, rfl⟩ := Validated.map₂_eq_valid.mp (Except.ok.inj hread)
    exact ⟨_, rfl, .connectedPages (Request.text_eq_valid.mp ht) (Request.whole_eq_valid.mp hn)⟩
  | path =>
    obtain ⟨a, b, ha, hb, rfl⟩ := Validated.map₂_eq_valid.mp (Except.ok.inj hread)
    exact ⟨_, rfl, .path (Request.text_eq_valid.mp ha) (Request.text_eq_valid.mp hb)⟩
  | query =>
    obtain ⟨form, hform, hvalid⟩ := Attempt.bind_eq_ok.mp hread
    cases hvalid
    obtain ⟨members, rfl, hq, hfilled⟩ := Request.model_eq_ok.mp hform
    exact ⟨_, rfl, .query (Request.queryText?_eq_some.mpr ⟨members, hbody, hq⟩) hfilled⟩
  | zeitgeist =>
    obtain ⟨n, hn, rfl⟩ := Validated.map_eq_valid.mp (Except.ok.inj hread)
    exact ⟨_, rfl, .zeitgeist (Request.whole_eq_valid.mp hn)⟩
  | trending =>
    obtain ⟨n, hn, rfl⟩ := Validated.map_eq_valid.mp (Except.ok.inj hread)
    exact ⟨_, rfl, .trending (Request.whole_eq_valid.mp hn)⟩
  | peakLoad =>
    cases hread
    exact ⟨_, rfl, .peakLoad⟩
  | snapshot | restore | health | root => cases h

theorem read_of_asks {request : Gateway.Request} (h : r.Asks route request) :
    ∃ body, bodyFor r route = .ok body ∧ read r body route = .ok (.valid (.ask request)) := by
  cases h with
  | search hq hn =>
    exact ⟨none, rfl, congrArg Except.ok (Validated.map₂_eq_valid.mpr
      ⟨_, _, Request.text_eq_valid.mpr hq, Request.whole_eq_valid.mpr hn, rfl⟩)⟩
  | page ht =>
    exact ⟨none, rfl, congrArg Except.ok (Validated.map_eq_valid.mpr
      ⟨_, Request.text_eq_valid.mpr ht, rfl⟩)⟩
  | connectedPages ht hn =>
    exact ⟨none, rfl, congrArg Except.ok (Validated.map₂_eq_valid.mpr
      ⟨_, _, Request.text_eq_valid.mpr ht, Request.whole_eq_valid.mpr hn, rfl⟩)⟩
  | path ha hb =>
    exact ⟨none, rfl, congrArg Except.ok (Validated.map₂_eq_valid.mpr
      ⟨_, _, Request.text_eq_valid.mpr ha, Request.text_eq_valid.mpr hb, rfl⟩)⟩
  | query hq hfilled =>
    obtain ⟨members, hbody, hmember⟩ := Request.queryText?_eq_some.mp hq
    exact ⟨_, hbody, Attempt.bind_eq_ok.mpr
      ⟨⟨_⟩, Request.model_eq_ok.mpr ⟨members, rfl, hmember, hfilled⟩, rfl⟩⟩
  | zeitgeist hn | trending hn =>
    exact ⟨none, rfl, congrArg Except.ok (Validated.map_eq_valid.mpr
      ⟨_, Request.whole_eq_valid.mpr hn, rfl⟩)⟩
  | peakLoad => exact ⟨none, rfl, rfl⟩

theorem entryPoint?_of_asks {request : Gateway.Request} (h : r.Asks route request) :
    route.entryPoint? = some request.entryPoint := by
  cases h <;> rfl

theorem suits_iff_of_asks {request : Gateway.Request} (h : r.Asks route request) :
    r.Suits route ↔ checkRequest request = .ok () := by
  cases h with
  | search hq hn =>
    simp [Request.Suits, Request.HasText, Request.HasNumber, hq, hn, checkRequest,
      Attempt.unit_bind_eq_ok, Limits.checkText_eq_ok, Limits.checkLimit, Limits.checkRange_eq_ok,
      Limits.maxLimit]
  | connectedPages ht hn =>
    simp [Request.Suits, Request.HasText, Request.HasNumber, ht, hn, checkRequest,
      Attempt.unit_bind_eq_ok, Limits.checkTitle_eq_ok, Limits.checkHops, Limits.checkRange_eq_ok,
      Limits.maxHops]
  | page ht => simp [Request.Suits, Request.HasText, ht, checkRequest, Limits.checkTitle_eq_ok]
  | path ha hb =>
    simp [Request.Suits, Request.HasText, ha, hb, checkRequest, Attempt.unit_bind_eq_ok,
      Limits.checkTitle_eq_ok]
  | query hq hfilled => simp [Request.Suits, hq, hfilled, checkRequest]
  | zeitgeist hn | trending hn =>
    simp [Request.Suits, Request.HasNumber, hn, checkRequest, Limits.checkLimit,
      Limits.checkRange_eq_ok, Limits.maxLimit]
  | peakLoad => simp [Request.Suits, checkRequest]

theorem exists_asks_of_suits (h : route.entryPoint?.isSome) (hsuits : r.Suits route) :
    ∃ request, r.Asks route request := by
  cases route with
  | search =>
    obtain ⟨⟨q, hq, -⟩, n, hn, -⟩ := hsuits
    exact ⟨_, .search hq hn⟩
  | page =>
    obtain ⟨t, ht, -⟩ := hsuits
    exact ⟨_, .page ht⟩
  | connectedPages =>
    obtain ⟨⟨t, ht, -⟩, n, hn, -⟩ := hsuits
    exact ⟨_, .connectedPages ht hn⟩
  | path =>
    obtain ⟨⟨a, ha, -⟩, b, hb, -⟩ := hsuits
    exact ⟨_, .path ha hb⟩
  | query =>
    obtain ⟨q, hq, hfilled⟩ := hsuits
    exact ⟨_, .query hq hfilled⟩
  | zeitgeist =>
    obtain ⟨n, hn, -⟩ := hsuits
    exact ⟨_, .zeitgeist hn⟩
  | trending =>
    obtain ⟨n, hn, -⟩ := hsuits
    exact ⟨_, .trending hn⟩
  | peakLoad => exact ⟨_, .peakLoad⟩
  | snapshot | restore | health | root => cases h

theorem refuses_of_settle {v : Validated Order} (h : settle v = .error response) :
    response.Refuses := by
  cases v with
  | invalid ps =>
    cases h
    exact Or.inr ⟨ps, rfl⟩
  | valid order =>
    rw [settle, Attempt.bind_eq_error] at h
    obtain hcheck | ⟨-, -, ⟨⟩⟩ := h
    cases order with
    | ask request =>
      rw [check] at hcheck
      split at hcheck
      · cases hcheck
      · cases hcheck
        exact Or.inl ⟨_, rfl⟩
    | snapshot | restore | health | root => cases hcheck

theorem ofRequest_eq (h : r.Arrives route) :
    ofRequest r = bodyFor r route >>= fun body => read r body route >>= settle := by
  obtain ⟨text, htext⟩ := h.told
  simp only [ofRequest, h.atRoute, htext]
  cases route <;> rfl

theorem ofRequest_eq_ok (h : r.Arrives route) : ofRequest r = .ok order ↔
    ∃ request, order = .ask request ∧ r.Asks route request ∧ r.Suits route := by
  simp only [ofRequest_eq h, Attempt.bind_eq_ok, settle_eq_ok]
  constructor
  · rintro ⟨body, hbody, _, hread, rfl, hcheck⟩
    obtain ⟨request, rfl, hasks⟩ := asks_of_read h.asks hbody hread
    exact ⟨request, rfl, hasks, (suits_iff_of_asks hasks).mpr (check_ask.mp hcheck)⟩
  · rintro ⟨request, rfl, hasks, hsuits⟩
    obtain ⟨body, hbody, hread⟩ := read_of_asks hasks
    exact ⟨body, hbody, _, hread, rfl, check_ask.mpr ((suits_iff_of_asks hasks).mp hsuits)⟩

/-- What comes of a request that is not let through. -/
theorem turnedAway_of_ofRequest (h : r.Arrives route) (horder : ofRequest r = .error response) :
    r.TurnedAway response := by
  simp only [ofRequest_eq h, Attempt.bind_eq_error] at horder
  obtain hbody | ⟨body, hbody, hread | ⟨v, -, hsettle⟩⟩ := horder
  · cases route with
    | query => exact Or.inl (Request.refuses_of_content hbody)
    | _ => cases hbody
  · cases route with
    | query =>
      obtain hmodel | ⟨form, -, ⟨⟩⟩ := Attempt.bind_eq_error.mp hread
      exact Request.model_eq_error hbody hmodel
    | _ => cases hread
  · exact Or.inl (refuses_of_settle hsettle)

theorem ofRequest_of_suits (h : r.Arrives route) (hsuits : r.Suits route) :
    ∃ request, ofRequest r = .ok (.ask request) ∧ route.entryPoint? = some request.entryPoint := by
  obtain ⟨request, hasks⟩ := exists_asks_of_suits h.asks hsuits
  exact ⟨request, (ofRequest_eq_ok h).mpr ⟨request, rfl, hasks, hsuits⟩, entryPoint?_of_asks hasks⟩

theorem ofRequest_of_not_suits (h : r.Arrives route) (hsuits : ¬ r.Suits route) :
    ∃ response, ofRequest r = .error response ∧ r.TurnedAway response := by
  cases horder : ofRequest r with
  | ok order =>
    obtain ⟨request, -, -, hasks⟩ := (ofRequest_eq_ok h).mp horder
    exact absurd hasks hsuits
  | error response => exact ⟨response, rfl, turnedAway_of_ofRequest h horder⟩

end Order

end WikiGateway.Http

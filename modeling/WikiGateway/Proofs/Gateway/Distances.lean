import Mathlib.Data.Rat.Floor
import WikiGateway.Instant.Exact
import WikiGateway.Proofs.Gateway.History
import WikiGateway.Proofs.Neighbourhood
import WikiGateway.Proofs.Path.Shortest

/-! Searches for paths and for the pages around one agree on how far apart pages are. -/
namespace WikiGateway.Gateway

open Links WikiGateway.Action

variable {ω κ τ : Type} {g : Gateway ω κ τ String} {s s' : State ω κ τ}
  {links : String → List String} {start stop : String} {o : Path.Outcome τ}

/-- How a search within its time ends: there was nothing to search for, or it went through all that
it had to. -/
def Settled (links : String → List String) (start stop : String) (o : Path.Outcome τ) : Prop :=
  (o.status = .samePage ∧ start = stop ∧ o.path = [start]) ∨ Path.Concluded links start stop o

theorem Settled.status (h : Settled links start stop o) :
    o.isSuccess = true ∨ o.status = .frontierExhausted := by
  rcases h with ⟨hsame, -⟩ | ⟨hfound, -⟩ | ⟨hexhausted, -⟩
  · exact Or.inl (by simp [Path.Outcome.isSuccess, hsame])
  · exact Or.inl (by simp [Path.Outcome.isSuccess, hfound])
  · exact Or.inr hexhausted

/-- A path that was found is as long as its ends are apart. -/
theorem Settled.hops_eq (h : Settled links start stop o)
    (ho : o.isSuccess = true) :
    Reachable links start stop ∧ o.hops = distance links start stop := by
  rcases h with ⟨-, rfl, hpath⟩ | ⟨-, hreach, hshortest⟩ | ⟨hexhausted, -⟩
  · refine ⟨reachable_start, ?_⟩
    rw [Path.Outcome.hops, hpath, distance_start]
    rfl
  · exact ⟨hreach, Path.hops_eq_distance hshortest⟩
  · simp [Path.Outcome.isSuccess, hexhausted] at ho

theorem Settled.not_reachable (h : Settled links start stop o)
    (ho : o.status = .frontierExhausted) : ¬ Reachable links start stop := by
  rcases h with ⟨hsame, -⟩ | ⟨hfound, -⟩ | ⟨-, hmissing, -⟩
  · simp [hsame] at ho
  · simp [hfound] at ho
  · exact hmissing

variable [Instant τ]

/-- A search that has the time and the steps ends. -/
theorem exists_findPath (hsource : Path.Answers g.source links)
    (hfinite : {p | Reachable links start p}.Finite)
    (hsteps : {p | Reachable links start p}.ncard < g.searchSteps s.world)
    (htime : start ≠ stop → Path.InTime g.source g.clock
      ((Budget.ofTotal g.searchTime).start (g.clock s.world)) stop (.initial start) s.world) :
    ∃ o, ((g.findPath start stop).runIn s).1 = .ok o ∧ Settled links start stop o := by
  have hrun : ((g.findPath start stop).runIn s).1 = ((Path.find g.source g.clock g.searchTime
      (g.searchSteps s.world) start stop).runIn s.world).1 := rfl
  rw [hrun]
  by_cases heq : start = stop
  · have hsame : ((Path.find g.source g.clock g.searchTime (g.searchSteps s.world) start
        stop).runIn s.world).1 = .ok ⟨.samePage, start, start, [start], 0, Instant.zero, none⟩ := by
      rw [Path.find, if_pos heq]
      rfl
    exact ⟨_, hsame, Or.inl ⟨rfl, heq, rfl⟩⟩
  · have hcard : hfinite.toFinset.card < g.searchSteps s.world := by
      rwa [← Set.ncard_eq_toFinset_card _ hfinite]
    obtain hshort | ⟨o, ho, -, hok⟩ :=
      Path.find_concluded heq hsource (htime heq) (g.searchSteps s.world)
    · have hle := Path.find_unfinished heq hsource
        (fun p hp _ => hfinite.mem_toFinset.mpr hp) hshort
      omega
    · exact ⟨o, hok, Or.inr ho⟩

theorem exists_answer_findPath (hs : s.ledger.Ready) (hsource : Path.Answers g.source links)
    (hfinite : {p | Reachable links start p}.Finite)
    (hsteps : {p | Reachable links start p}.ncard < g.searchSteps s.world)
    (htime : start ≠ stop → Path.InTime g.source g.clock
      ((Budget.ofTotal g.searchTime).start (g.clock s.world)) stop (.initial start) s.world) :
    ∃ o, ((g.answer (.findPath start stop)).runIn s).1 = .ok (.outcome o) ∧
      Settled links start stop o := by
  -- Counting the request changes the ledger only, and the search does not look at it.
  let counted : State ω κ τ := { s with
    ledger := s.ledger.changedBy (Request.changes (.findPath start stop) (g.clock s.world)) }
  obtain ⟨o, hrun, ho⟩ := exists_findPath (s := counted) hsource hfinite hsteps htime
  refine ⟨o, ?_, ho⟩
  rw [runIn_answer hs, serve, runIn_map, hrun]
  rfl

theorem exists_answer_connectedPages (hs : s.ledger.Ready)
    (hsource : Path.Answers g.source links) (start : String) (hops : Int) :
    ∃ pages, ((g.answer (.connectedPages start hops)).runIn s).1 = .ok (.titles pages) ∧
      ∀ q, q ∈ pages ↔ Reachable links start q ∧ distance links start q ≤ hops.toNat := by
  obtain ⟨pages, fetched, hrun, -, hsurrounds⟩ :=
    Neighbourhood.exists_pages hsource start hops s.world
  refine ⟨pages, ?_, hsurrounds.mem_known⟩
  rw [runIn_answer hs, serve, runIn_map, runIn_ask, hrun]
  rfl

/-- A page to which a path was found is among the pages within some links exactly if the path has no
more links than that; a page to which there is no path never is. -/
theorem hops_le_iff_mem_connectedPages (hsource : Path.Answers g.source links)
    (hfinite : {p | Reachable links start p}.Finite)
    (hsteps : {p | Reachable links start p}.ncard < g.searchSteps s.world)
    (htime : start ≠ stop → Path.InTime g.source g.clock
      ((Budget.ofTotal g.searchTime).start (g.clock s.world)) stop (.initial start) s.world)
    (hs : s.ledger.Ready) (hs' : s'.ledger.Ready) :
    ∃ o, ((g.answer (.findPath start stop)).runIn s).1 = .ok (.outcome o) ∧
      (o.isSuccess = true ∨ o.status = .frontierExhausted) ∧
      ∀ hops : Int, ∃ pages,
        ((g.answer (.connectedPages start hops)).runIn s').1 = .ok (.titles pages) ∧
        (o.isSuccess = true → (stop ∈ pages ↔ (o.hops : Int) ≤ max 0 hops)) ∧
        (o.status = .frontierExhausted → stop ∉ pages) := by
  obtain ⟨o, hpath, ho⟩ := exists_answer_findPath hs hsource hfinite hsteps htime
  refine ⟨o, hpath, ho.status, ?_⟩
  intro hops
  obtain ⟨pages, hconnected, hmem⟩ := exists_answer_connectedPages hs' hsource start hops
  refine ⟨pages, hconnected, ?_, ?_⟩
  · intro hsuccess
    obtain ⟨hreach, hhops⟩ := ho.hops_eq hsuccess
    rw [hmem, hhops, and_iff_right hreach]
    omega
  · intro hexhausted hstop
    exact ho.not_reachable hexhausted ((hmem stop).mp hstop).1

/-- A gateway to the wiki with circles in its links. -/
def encircled : Gateway (Session ℚ) Unit ℚ String where
  source := Path.looped.source
  cache := Cache.faulty none none none true
  clock := Session.now
  searchTime := 300
  searchSteps := fun _ => Path.looped.linkCount
  window := 30

/-- From A to D it takes two links, whenever the pages around A are asked for. -/
theorem hops_le_iff_mem_encircled :
    let links := Path.looped.linksOf
    let s : State (Session ℚ) Unit ℚ := ⟨⟨0, #[]⟩, (), .opened 0⟩
    let s' : State (Session ℚ) Unit ℚ := ⟨⟨500, #[]⟩, (), .opened 0⟩
    Path.Answers encircled.source links ∧
    {p | Reachable links "A" p}.Finite ∧
    {p | Reachable links "A" p}.ncard < encircled.searchSteps s.world ∧
    Path.InTime encircled.source encircled.clock
      ((Budget.ofTotal encircled.searchTime).start (encircled.clock s.world)) "D" (.initial "A")
      s.world ∧
    s.ledger.Ready ∧ s'.ledger.Ready ∧
    ∃ o, ((encircled.answer (.findPath "A" "D")).runIn s).1 = .ok (.outcome o) ∧
      (o.isSuccess = true ∨ o.status = .frontierExhausted) ∧
      ∀ hops : Int, ∃ pages,
        ((encircled.answer (.connectedPages "A" hops)).runIn s').1 = .ok (.titles pages) ∧
        (o.isSuccess = true → ("D" ∈ pages ↔ (o.hops : Int) ≤ max 0 hops)) ∧
        (o.status = .frontierExhausted → "D" ∉ pages) := by
  intro links s s'
  have hsource : Path.Answers encircled.source links :=
    fun title w => by rw [encircled, Table.runIn_linksOn rfl]
  have hsubset : {p | Reachable links "A" p} ⊆
      (({"A", "B", "C", "D", "E"} : Finset String) : Set String) := fun p => Path.reachable_looped
  have hfinite := (Finset.finite_toSet _).subset hsubset
  have hsteps : {p | Reachable links "A" p}.ncard < encircled.searchSteps s.world := by
    have hle := Set.ncard_le_ncard hsubset (Finset.finite_toSet _)
    rw [Set.ncard_coe_finset] at hle
    exact lt_of_le_of_lt hle (by decide)
  have htime : Path.InTime encircled.source encircled.clock
      ((Budget.ofTotal encircled.searchTime).start (encircled.clock s.world)) "D" (.initial "A")
      s.world := by
    apply Path.inTime_of_still
    · intro title w
      rw [encircled, Table.runIn_linksOn rfl]
      simp [Table.after, Path.looped]
    · simp [Budget.isExhausted, Budget.elapsed, Budget.start, Budget.ofTotal, encircled]
  have hopened := Ledger.ready_opened (0 : ℚ)
  exact ⟨hsource, hfinite, hsteps, htime, hopened, hopened,
    hops_le_iff_mem_connectedPages hsource hfinite hsteps (fun _ => htime) hopened hopened⟩

end WikiGateway.Gateway

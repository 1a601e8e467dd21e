import WikiGateway.Proofs.Gateway.Distances
import WikiGateway.Proofs.Path.Fetches

/-! The pages around one: which they are, and which of them a gateway asks for their links. -/
namespace WikiGateway

namespace Neighbourhood

variable {ω ν : Type} [Named ν] {source : Source ω ν}

theorem watches_expand (level known next : List ν) :
    Action.Watches (expand source.watched level known next) (expand source level known next) := by
  induction level generalizing known next with
  | nil => exact Action.watches_pure _
  | cons page level ih =>
    rw [expand, expand]
    refine (Action.watches_lift _).bind fun title => ?_
    refine (Action.watches_noting _ _).bind fun links => ?_
    exact (Action.watches_lift _).bind fun noted => ih noted.1 noted.2

theorem watches_grow (hops : Nat) (level known : List ν) :
    Action.Watches (grow source.watched hops level known) (grow source hops level known) := by
  induction hops generalizing level known with
  | zero => exact Action.watches_pure _
  | succ hops ih =>
    rw [grow, grow]
    refine (watches_expand level known []).bind fun found => ?_
    dsimp only
    split
    · exact Action.watches_pure _
    · exact ih _ _

/-- A source that is watched while pages are looked for is asked what it is asked alone. -/
theorem watches_pages (source : Source ω ν) (title : String) (hops : Int) :
    Action.Watches (pages source.watched title hops) (pages source title hops) :=
  (watches_grow _ _ _).bind fun _ => Action.watches_lift _

/-- Watched or not, a source is asked for the links of the same pages. -/
theorem exists_fetched {source : Source ω String} {links : String → List String}
    (hsource : Path.Answers source links) (title : String) (hops : Int) (w : ω) :
    ∃ found fetched, (pages source title hops).runIn w =
        (.ok found, Path.afterLinks source w fetched) ∧
      (pages source.watched title hops).runIn ⟨w, []⟩ =
        (.ok found, ⟨Path.afterLinks source w fetched, fetched.map Call.links⟩) ∧
      found.Pairwise (· < ·) ∧ Surrounds links title 0 hops.toNat found fetched := by
  have hwatched : Path.Answers source.watched links := fun page v => hsource page v.world
  obtain ⟨found, fetched, hrun, hsorted, hsurrounds⟩ := exists_pages hwatched title hops ⟨w, []⟩
  rw [Path.afterLinks_watched, List.nil_append] at hrun
  have halone := watches_pages source title hops ⟨w, []⟩
  rw [hrun] at halone
  exact ⟨found, fetched, halone.symm, hrun, hsorted, hsurrounds⟩

end Neighbourhood

namespace Gateway

open Links WikiGateway.Action

variable {ω κ τ ν : Type}

/-- A gateway to a wiki that is watched. -/
def watched (g : Gateway ω κ τ ν) : Gateway (Watched ω) κ τ ν where
  source := g.source.watched
  cache := g.cache
  clock v := g.clock v.world
  searchTime := g.searchTime
  searchSteps v := g.searchSteps v.world
  window := g.window

/-- A gateway of which the wiki is watched, once it was asked for what `calls` says. -/
def State.watched (s : State ω κ τ) (calls : List Call) : State (Watched ω) κ τ :=
  ⟨⟨s.world, calls⟩, s.cached, s.ledger⟩

variable {g : Gateway ω κ τ String} {s : State ω κ τ} {links : String → List String}
  {title : String}

/-- A gateway that is asked for the pages around one counts the request and looks for them. -/
theorem runIn_answer_connectedPages [Instant τ] (hs : s.ledger.Ready) (title : String)
    (hops : Int) :
    (g.answer (.connectedPages title hops)).runIn s =
      (((Neighbourhood.pages g.source title hops).runIn s.world).1.map .titles,
        ⟨((Neighbourhood.pages g.source title hops).runIn s.world).2, s.cached,
          s.ledger.changed (.invocation "get_connected_pages" (g.clock s.world))⟩) := by
  rw [runIn_answer hs, serve, runIn_map, runIn_ask]
  rfl

/-- The pages around one are those at most so many links away, in order. A gateway asks each of them
that is nearer than that for its links, once, and asks nothing else; where no page is further away
than there are pages, more links make no difference to what it does. -/
theorem connectedPages_ball [Instant τ] (hs : s.ledger.Ready)
    (hsource : Path.Answers g.source links) (title : String) :
    (∀ hops : Int, ∃ (pages fetched : List String) (s' : State ω κ τ),
      (g.answer (.connectedPages title hops)).runIn s = (.ok (.titles pages), s') ∧
      (g.watched.answer (.connectedPages title hops)).runIn (s.watched []) =
        (.ok (.titles pages), s'.watched (fetched.map Call.links)) ∧
      pages.Pairwise (· < ·) ∧
      (∀ p, p ∈ pages ↔ Reachable links title p ∧ (distance links title p : Int) ≤ max 0 hops) ∧
      fetched.Nodup ∧
      ∀ p, p ∈ fetched ↔ Reachable links title p ∧ (distance links title p : Int) < max 0 hops) ∧
    ({p | Reachable links title p}.Finite →
      ∀ hops : Int, ({p | Reachable links title p}.ncard : Int) ≤ hops →
        (g.answer (.connectedPages title hops)).runIn s =
          (g.answer (.connectedPages title {p | Reachable links title p}.ncard)).runIn s) := by
  constructor
  · intro hops
    obtain ⟨pages, fetched, halone, hwatched, hsorted, hsurrounds⟩ :=
      Neighbourhood.exists_fetched hsource title hops s.world
    have hready : (s.watched []).ledger.Ready := hs
    let s' : State ω κ τ := ⟨Path.afterLinks g.source s.world fetched, s.cached,
      s.ledger.changed (.invocation "get_connected_pages" (g.clock s.world))⟩
    refine ⟨pages, fetched, s', ?_, ?_, hsorted, ?_, hsurrounds.nodup_fetched, ?_⟩
    · rw [runIn_answer_connectedPages hs, halone]
      rfl
    · have hasked : (Neighbourhood.pages g.watched.source title hops).runIn (s.watched []).world =
          (.ok pages, ⟨s'.world, fetched.map Call.links⟩) := hwatched
      rw [runIn_answer_connectedPages hready, hasked]
      rfl
    · intro p
      rw [hsurrounds.mem_known]
      exact and_congr_right fun _ => by omega
    · intro p
      rw [hsurrounds.mem_fetched]
      exact and_congr_right fun _ => by omega
  · intro hfinite hops hle
    have hsame := Neighbourhood.pages_of_ncard_le hsource hfinite hle s.world
    rw [runIn_answer_connectedPages hs, runIn_answer_connectedPages hs, hsame]

/-- Around the circles of links, a million links lead no further than five. -/
theorem connectedPages_ball_encircled :
    let links := Path.looped.linksOf
    let s : State (Session ℚ) Unit ℚ := ⟨⟨0, #[]⟩, (), .opened 0⟩
    let total := {p | Reachable links "A" p}.ncard
    s.ledger.Ready ∧ Path.Answers encircled.source links ∧
    {p | Reachable links "A" p}.Finite ∧ (total : Int) ≤ 1000000 ∧
    (∃ (pages fetched : List String) (s' : State (Session ℚ) Unit ℚ),
      (encircled.answer (.connectedPages "A" 2)).runIn s = (.ok (.titles pages), s') ∧
      (encircled.watched.answer (.connectedPages "A" 2)).runIn (s.watched []) =
        (.ok (.titles pages), s'.watched (fetched.map Call.links)) ∧
      pages.Pairwise (· < ·) ∧
      (∀ p, p ∈ pages ↔ Reachable links "A" p ∧ (distance links "A" p : Int) ≤ max 0 2) ∧
      fetched.Nodup ∧
      ∀ p, p ∈ fetched ↔ Reachable links "A" p ∧ (distance links "A" p : Int) < max 0 2) ∧
    (encircled.answer (.connectedPages "A" 1000000)).runIn s =
      (encircled.answer (.connectedPages "A" total)).runIn s := by
  intro links s total
  have hready : s.ledger.Ready := Ledger.ready_opened 0
  have hsource : Path.Answers encircled.source links :=
    fun title w => by rw [encircled, Table.runIn_linksOn rfl]
  have hfinite := Path.looped.finite_reachable "A"
  have htotal : total ≤ 5 := by
    have hle := Set.ncard_le_ncard (fun p => Path.reachable_looped)
      (Finset.finite_toSet {"A", "B", "C", "D", "E"})
    rwa [Set.ncard_coe_finset] at hle
  have hfar : (total : Int) ≤ 1000000 := by omega
  obtain ⟨hball, hends⟩ := connectedPages_ball hready hsource "A"
  exact ⟨hready, hsource, hfinite, hfar, hball 2, hends hfinite 1000000 hfar⟩

end Gateway

end WikiGateway

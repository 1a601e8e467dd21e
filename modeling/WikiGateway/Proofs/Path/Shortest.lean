import Mathlib.Data.Rat.Floor
import WikiGateway.Instant.Exact
import WikiGateway.Proofs.Path.Search
import WikiGateway.Proofs.Table

/-! A search that is given the time finds a shortest path, or else goes through all that it can
reach. -/
namespace WikiGateway.Path

open Links

variable {ω τ : Type} [Instant τ] {source : Source ω String} {clock : ω → τ} {total : τ}
  {links : String → List String} {start stop : String} {w : ω} {o : Outcome τ} {fuel : Nat}

/-- Given enough steps, the search ends with `o`. -/
def Ends (source : Source ω String) (clock : ω → τ) (total : τ) (start stop : String) (w : ω)
    (o : Outcome τ) : Prop :=
  ∃ enough w', ∀ fuel, enough ≤ fuel →
    (find source clock total fuel start stop).runIn w = (.ok o, w')

theorem Ends.unique {o' : Outcome τ} (h : Ends source clock total start stop w o)
    (h' : Ends source clock total start stop w o') : o = o' := by
  obtain ⟨n, v, hn⟩ := h
  obtain ⟨n', v', hn'⟩ := h'
  have he := (hn (max n n') (le_max_left n n')).symm.trans (hn' (max n n') (le_max_right n n'))
  simpa using congrArg Prod.fst he

theorem runIn_find (hne : start ≠ stop) :
    (find source clock total fuel start stop).runIn w =
      (search source clock ((Budget.ofTotal total).start (clock w)) start stop fuel
        (.initial start)).runIn w := by
  simp [find, Action.runIn_bind, hne]

/-- A search begun from the start either runs out of steps or ends as it should. -/
theorem find_concluded (hne : start ≠ stop) (hsource : Answers source links)
    (htime : InTime source clock ((Budget.ofTotal total).start (clock w)) stop (.initial start) w)
    (fuel : Nat) :
    ((find source clock total fuel start stop).runIn w).1 = .error .unfinished ∨
    ∃ o, Concluded links start stop o ∧ Ends source clock total start stop w o ∧
      ((find source clock total fuel start stop).runIn w).1 = .ok o := by
  rw [runIn_find hne]
  obtain hshort | ⟨o, w', ho, hmore⟩ :=
    search_concluded fuel hsource rfl htime (searching_initial hne)
  · exact Or.inl hshort
  · refine Or.inr ⟨o, ho, ⟨fuel, w', ?_⟩, by rw [hmore fuel le_rfl]⟩
    intro more hle
    rw [runIn_find hne, hmore more hle]

theorem Ends.concluded (h : Ends source clock total start stop w o) (hne : start ≠ stop)
    (hsource : Answers source links)
    (htime : InTime source clock ((Budget.ofTotal total).start (clock w)) stop (.initial start) w) :
    Concluded links start stop o := by
  obtain ⟨n, w', hrun⟩ := id h
  obtain hshort | ⟨o', ho', hends, -⟩ := find_concluded hne hsource htime n
  · rw [hrun n le_rfl] at hshort
    cases hshort
  · exact h.unique hends ▸ ho'

/-- A search that does not end has not more steps than there are pages for it to look at. -/
theorem find_unfinished (hne : start ≠ stop) (hsource : Answers source links)
    {pages : Finset String}
    (hpages : ∀ p, Reachable links start p →
      (Reachable links start stop → distance links start p < distance links start stop) → p ∈ pages)
    (hshort : ((find source clock total fuel start stop).runIn w).1 = .error .unfinished) :
    fuel ≤ pages.card := by
  rw [runIn_find hne] at hshort
  exact search_unfinished hsource rfl (searching_initial hne) hpages hshort

/-- A search ends if there are finitely many pages nearer than the one sought or, where that one
cannot be reached, finitely many pages to reach. -/
theorem exists_ends (hne : start ≠ stop) (hsource : Answers source links)
    (htime : InTime source clock ((Budget.ofTotal total).start (clock w)) stop (.initial start) w)
    (hfinite : Reachable links start stop ∨ {p | Reachable links start p}.Finite) :
    ∃ o, Concluded links start stop o ∧ Ends source clock total start stop w o := by
  obtain ⟨pages, hpages⟩ : ∃ pages : Finset String, ∀ p, Reachable links start p →
      (Reachable links start stop → distance links start p < distance links start stop) →
        p ∈ pages := by
    rcases hfinite with hstop | hfinite
    · have hnearer := finite_nearer links start (distance links start stop)
      exact ⟨hnearer.toFinset, fun p hp hd => hnearer.mem_toFinset.mpr ⟨hp, hd hstop⟩⟩
    · exact ⟨hfinite.toFinset, fun p hp _ => hfinite.mem_toFinset.mpr hp⟩
  obtain hshort | ⟨o, ho, hends, -⟩ := find_concluded hne hsource htime (pages.card + 1)
  · exact absurd (find_unfinished hne hsource hpages hshort) (Nat.not_succ_le_self _)
  · exact ⟨o, ho, hends⟩

/-- The search finds `stop` exactly if it can be reached, and then by a shortest path. Where it
cannot, and the pages that can are finitely many, each of them is looked at once. No number of steps
leads to another end. -/
theorem find_shortest (hne : start ≠ stop) (hsource : Answers source links)
    (htime : InTime source clock ((Budget.ofTotal total).start (clock w)) stop (.initial start) w) :
    ((∃ o, Ends source clock total start stop w o ∧ o.status = .found) ↔
      Reachable links start stop) ∧
    (∀ o, Ends source clock total start stop w o → o.status = .found →
      IsShortest links start stop o.path) ∧
    ({p | Reachable links start p}.Finite → ¬ Reachable links start stop →
      ∃ o, Ends source clock total start stop w o ∧ o.status = .frontierExhausted ∧ o.path = [] ∧
        o.expanded = {p | Reachable links start p}.ncard) ∧
    (∀ fuel, ((find source clock total fuel start stop).runIn w).1 = .error .unfinished ∨
      ∃ o, Ends source clock total start stop w o ∧
        ((find source clock total fuel start stop).runIn w).1 = .ok o) := by
  refine ⟨⟨?_, ?_⟩, ?_, ?_, ?_⟩
  · rintro ⟨o, hends, hfound⟩
    rcases hends.concluded hne hsource htime with ⟨-, hstop, -⟩ | ⟨hexhausted, -⟩
    · exact hstop
    · simp [hfound] at hexhausted
  · intro hstop
    obtain ⟨o, ⟨hfound, -⟩ | ⟨-, hmissing, -⟩, hends⟩ :=
      exists_ends hne hsource htime (Or.inl hstop)
    · exact ⟨o, hends, hfound⟩
    · exact (hmissing hstop).elim
  · intro o hends hfound
    rcases hends.concluded hne hsource htime with ⟨-, -, hshortest⟩ | ⟨hexhausted, -⟩
    · exact hshortest
    · simp [hfound] at hexhausted
  · intro hfinite hmissing
    obtain ⟨o, ⟨-, hstop, -⟩ | ⟨hexhausted, -, hpath, hexpanded⟩, hends⟩ :=
      exists_ends hne hsource htime (Or.inr hfinite)
    · exact (hmissing hstop).elim
    · exact ⟨o, hends, hexhausted, hpath, hexpanded⟩
  · intro fuel
    obtain hshort | ⟨o, -, hends, hok⟩ := find_concluded hne hsource htime fuel
    · exact Or.inl hshort
    · exact Or.inr ⟨o, hends, hok⟩

/-- Pages with links to themselves, back to where one came from and to the same page twice. Of the
two ways from A to D the longer one begins with the earlier link. -/
def looped : Table ℚ where
  links := [("A", ["A", "B", "B", "E"]), ("B", ["C", "A"]), ("C", ["D"]), ("E", ["E", "A", "D"])]
  categories := []
  pageCategories := []
  editors := []
  texts := []
  results := []
  troubles := []
  cost := 0

theorem find_shortest_looped :
    "A" ≠ "D" ∧ Answers looped.source looped.linksOf ∧
    InTime looped.source Session.now ((Budget.ofTotal 300).start 0) "D" (.initial "A") ⟨0, #[]⟩ ∧
    ∃ o, Ends looped.source Session.now 300 "A" "D" ⟨0, #[]⟩ o ∧ o.status = .found ∧
      IsShortest looped.linksOf "A" "D" o.path := by
  have hne : "A" ≠ "D" := by decide
  have hsource : Answers looped.source looped.linksOf :=
    fun title w => by rw [Table.runIn_linksOn rfl]
  have htime : InTime looped.source Session.now ((Budget.ofTotal 300).start 0) "D" (.initial "A")
      ⟨0, #[]⟩ := by
    apply inTime_of_still
    · intro title w
      rw [Table.runIn_linksOn rfl]
      simp [Table.after, looped]
    · simp [Budget.isExhausted, Budget.elapsed, Budget.start, Budget.ofTotal]
  have hreach : Reachable looped.linksOf "A" "D" :=
    (reachable_start.link (p := "A") (q := "E") (by decide)).link (by decide)
  obtain ⟨hfound, hpath, -⟩ := find_shortest (w := ⟨0, #[]⟩) hne hsource htime
  obtain ⟨o, hends, ho⟩ := hfound.mpr hreach
  exact ⟨hne, hsource, htime, o, hends, ho, hpath o hends ho⟩

/-- The links of these pages do not lead any further. -/
theorem reachable_looped {p : String} (h : Reachable looped.linksOf "A" p) :
    p ∈ (({"A", "B", "C", "D", "E"} : Finset String) : Set String) := by
  apply h.mem_of_closed
  · decide
  · decide

end WikiGateway.Path

import WikiGateway.Proofs.Path.Shortest
import WikiGateway.Proofs.Watched

/-! The pages of which a search asks for the links: each once, and those nearer to the start
first. -/
namespace WikiGateway.Path

open Links

section General

variable {ω τ ν : Type} [Instant τ] [Named ν] {source : Source ω ν} {clock : ω → τ}
  {budget : Budget τ} {start stop : String}

omit [Named ν] in
theorem afterLinks_watched (source : Source ω ν) (v : Watched ω) (pages : List String) :
    afterLinks source.watched v pages =
      ⟨afterLinks source v.world pages, v.calls ++ pages.map Call.links⟩ := by
  induction pages generalizing v with
  | nil => simp [afterLinks]
  | cons page pages ih =>
    refine (ih ((source.watched.linksOn page).runIn v).2).trans ?_
    simp [Source.watched, Action.runIn_noting, afterLinks]

/-- A search that is watched does what it does alone. -/
theorem watches_search (fuel : Nat) (s : State ν) :
    Action.Watches (search source.watched (fun v => clock v.world) budget start stop fuel s)
      (search source clock budget start stop fuel s) := by
  induction fuel generalizing s with
  | zero => exact Action.watches_throw _
  | succ fuel ih =>
    rw [search, search]
    refine Action.watches_get_bind fun v => ?_
    dsimp only
    split
    · exact (Action.watches_lift _).bind fun marked => Action.watches_pure _
    · split
      · exact Action.watches_pure _
      · refine (Action.watches_lift _).bind fun title => ?_
        refine (Action.watches_noting _ _).bind fun links => ?_
        refine (Action.watches_lift _).bind fun noted => ?_
        split
        · refine (Action.watches_lift _).bind fun path => ?_
          exact Action.watches_get_bind fun v => Action.watches_pure _
        · exact ih _

theorem watches_find (source : Source ω ν) (clock : ω → τ) (total : τ) (fuel : Nat)
    (start stop : String) :
    Action.Watches (find source.watched (fun v => clock v.world) total fuel start stop)
      (find source clock total fuel start stop) := by
  rw [find, find]
  split
  · exact Action.watches_pure _
  · exact Action.watches_get_bind fun v => watches_search _ _

/-- Whatever a search asks, it keeps what its questions keep. -/
theorem keeps_search {P : ω → Prop} (h : ∀ title, Action.Keeps P (source.linksOn title))
    (clock : ω → τ) (budget : Budget τ) (fuel : Nat) (s : State ν) :
    Action.Keeps P (search source clock budget start stop fuel s) := by
  induction fuel generalizing s with
  | zero => exact Action.keeps_throw _
  | succ fuel ih =>
    rw [search]
    refine Action.keeps_get.bind fun w => ?_
    dsimp only
    split
    · exact (Action.keeps_lift _).bind fun marked => Action.keeps_pure _
    · split
      · exact Action.keeps_pure _
      · refine (Action.keeps_lift _).bind fun title => ?_
        refine (h title).bind fun links => ?_
        refine (Action.keeps_lift _).bind fun noted => ?_
        split
        · refine (Action.keeps_lift _).bind fun path => ?_
          exact Action.keeps_get.bind fun w => Action.keeps_pure _
        · exact ih _

/-- What was asked before a search was asked first after it. -/
theorem calls_search_watched (clock : Watched ω → τ) (budget : Budget τ) (fuel : Nat) (s : State ν)
    (v : Watched ω) :
    v.calls <+: ((search source.watched clock budget start stop fuel s).runIn v).2.calls := by
  have hasked (title : String) :
      Action.Keeps (fun v' => v.calls <+: v'.calls) (source.watched.linksOn title) :=
    fun _ hcalls => hcalls.trans (List.prefix_append _ _)
  exact keeps_search hasked clock budget fuel s v List.prefix_rfl

end General

section Texts

variable {ω τ : Type} [Instant τ] {source : Source ω String} {clock : ω → τ} {total : τ}
  {links : String → List String} {start stop : String} {w : ω} {fuel : Nat}
  {r : Except Fault (Outcome τ)} {fetched : List String}

/-- A search comes to `r` and leaves `w'` behind. Watched, it asks for the links of the pages
`fetched`, one after the other, and nothing else. -/
structure Fetches (source : Source ω String) (clock : ω → τ) (total : τ) (fuel : Nat)
    (start stop : String) (w : ω) (r : Except Fault (Outcome τ)) (w' : ω)
    (fetched : List String) : Prop where
  alone : (find source clock total fuel start stop).runIn w = (r, w')
  watched : (find source.watched (fun v => clock v.world) total fuel start stop).runIn ⟨w, []⟩ =
    (r, ⟨w', fetched.map Call.links⟩)

theorem fetches_of_watched
    (h : (find source.watched (fun v => clock v.world) total fuel start stop).runIn ⟨w, []⟩ =
      (r, afterLinks source.watched ⟨w, []⟩ fetched)) :
    Fetches source clock total fuel start stop w r (afterLinks source w fetched) fetched := by
  rw [afterLinks_watched, List.nil_append] at h
  have halone := watches_find source clock total fuel start stop ⟨w, []⟩
  rw [h] at halone
  exact ⟨halone.symm, h⟩

/-- A search asks for the links of pages in order, as long as it has time. -/
theorem exists_fetches (hne : start ≠ stop) (hsource : Answers source links) (clock : ω → τ)
    (total : τ) (fuel : Nat) (w : ω) :
    ∃ fetched, InOrder links start stop fetched ∧
      HadTime source clock ((Budget.ofTotal total).start (clock w)) w fetched ∧
      (Fetches source clock total fuel start stop w (.error .unfinished)
          (afterLinks source w fetched) fetched ∧ fetched.length = fuel ∨
        ∃ o, (∀ more, fuel ≤ more → Fetches source clock total more start stop w (.ok o)
            (afterLinks source w fetched) fetched) ∧
          Accounts links start stop fetched o ∧
          (Concluded links start stop o ∨ CutShort ((Budget.ofTotal total).start (clock w))
            (clock (afterLinks source w fetched)) o)) := by
  have hwatched : Answers source.watched links := fun title v => hsource title v.world
  have hstarted : ((Budget.ofTotal total).start (clock w)).startedAt = some (clock w) := rfl
  obtain ⟨fetched, horder, hhad, hend⟩ :=
    search_run hwatched (fun v => clock v.world) hstarted (searching_initial hne) fuel ⟨w, []⟩
  refine ⟨fetched, horder, ?_, ?_⟩
  · intro k hk
    have htime := hhad k hk
    rwa [afterLinks_watched] at htime
  · rcases hend with ⟨hshort, hlength⟩ | ⟨o, hends, haccounts, hcase⟩
    · exact Or.inl ⟨fetches_of_watched ((runIn_find hne).trans hshort), hlength⟩
    · refine Or.inr ⟨o, ?_, haccounts, hcase.imp_right fun hcut => ?_⟩
      · intro more hle
        exact fetches_of_watched ((runIn_find hne).trans (hends more hle))
      · have hexhausted := hcut.1
        rwa [afterLinks_watched] at hexhausted

/-- However far a search gets, it asks for the links of no page twice and never goes back to pages
nearer to the start. When it has found a path, it has asked at all pages that are at least two links
nearer than `stop`, and at none that is as far away; when nothing is left, at all that can be
reached. -/
theorem find_breadthFirst (hne : start ≠ stop) (hsource : Answers source links) (clock : ω → τ)
    (total : τ) (fuel : Nat) (w : ω) :
    ∃ r w' fetched, Fetches source clock total fuel start stop w r w' fetched ∧
      fetched.Nodup ∧ (∀ p ∈ fetched, Reachable links start p) ∧
      fetched.Pairwise (fun p q => distance links start p ≤ distance links start q) ∧
      (r = .error .unfinished ∧ fetched.length = fuel ∨
        ∃ o, r = .ok o ∧ o.expanded = fetched.length ∧
          (o.status = .found →
            (∀ p, Reachable links start p → distance links start p + 2 ≤ o.hops → p ∈ fetched) ∧
            ∀ p ∈ fetched, distance links start p < o.hops) ∧
          (o.status = .frontierExhausted → ∀ p, p ∈ fetched ↔ Reachable links start p)) := by
  obtain ⟨fetched, horder, -, hend⟩ := exists_fetches hne hsource clock total fuel w
  rcases hend with ⟨hshort, hlength⟩ | ⟨o, hends, haccounts, hcase⟩
  · exact ⟨_, _, fetched, hshort, horder.nodup, horder.reachable, horder.sorted,
      Or.inl ⟨rfl, hlength⟩⟩
  · refine ⟨_, _, fetched, hends fuel le_rfl, horder.nodup, horder.reachable, horder.sorted,
      Or.inr ⟨o, rfl, haccounts.expanded, ?_, haccounts.exhausted⟩⟩
    intro hfound
    obtain ⟨hstop, hshortest⟩ :
        Reachable links start stop ∧ IsShortest links start stop o.path := by
      rcases hcase with (⟨-, hstop, hshortest⟩ | ⟨hexhausted, -⟩) | ⟨-, hstatus, -⟩
      · exact ⟨hstop, hshortest⟩
      · simp [hfound] at hexhausted
      · simp [hfound] at hstatus
    rw [hops_eq_distance hshortest]
    exact ⟨haccounts.found hfound, horder.nearer hstop⟩

/-- Around the circles of links, too, no page is asked about twice. -/
theorem find_breadthFirst_looped :
    "A" ≠ "D" ∧ Answers looped.source looped.linksOf ∧
    ∃ o w' fetched, Fetches looped.source Session.now 300 6 "A" "D" ⟨0, #[]⟩ (.ok o) w' fetched ∧
      fetched.Nodup ∧ fetched.Pairwise (fun p q =>
        distance looped.linksOf "A" p ≤ distance looped.linksOf "A" q) ∧
      o.expanded = fetched.length := by
  have hne : "A" ≠ "D" := by decide
  have hsource : Answers looped.source looped.linksOf :=
    fun title w => by rw [Table.runIn_linksOn rfl]
  refine ⟨hne, hsource, ?_⟩
  obtain ⟨r, w', fetched, hfetches, hnodup, -, hsorted, hend⟩ :=
    find_breadthFirst hne hsource Session.now 300 6 ⟨0, #[]⟩
  rcases hend with ⟨rfl, -⟩ | ⟨o, rfl, hexpanded, -⟩
  · have hle := find_unfinished hne hsource
      (fun p hp _ => Finset.mem_coe.mp (reachable_looped hp)) (congrArg Prod.fst hfetches.alone)
    exact absurd hle (by decide)
  · exact ⟨o, w', fetched, hfetches, hnodup, hsorted, hexpanded⟩

end Texts

end WikiGateway.Path

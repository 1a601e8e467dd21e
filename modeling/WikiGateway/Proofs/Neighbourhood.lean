import WikiGateway.Proofs.Named
import WikiGateway.Proofs.Path.Search

/-!
The pages within some links of a start, found level by level. After `n` levels the pages known are
those at most `n` links away, and the next level is made of those that are `n` links away.
-/
namespace WikiGateway.Neighbourhood

open Links

variable {ω : Type} {source : Source ω String} {links : String → List String}
  {start page q : String} {ls level known next : List String} {n : Nat} {w : ω}

/-- What noting links does to the pages known and to those of the next level. -/
structure Noted (found : String → Prop) (known next known' next' : List String) : Prop where
  mem_known : ∀ q, q ∈ known' ↔ q ∈ known ∨ found q
  mem_next : ∀ q, q ∈ next' ↔ q ∈ next ∨ found q ∧ q ∉ known

theorem noted_nothing (known next : List String) :
    Noted (fun _ => False) known next known next where
  mem_known := by simp
  mem_next := by simp

/-- What is noted after other pages is noted as if all of them were noted at once. -/
theorem Noted.trans {found found' : String → Prop} {known' next' known'' next'' : List String}
    (h : Noted found known next known' next') (h' : Noted found' known' next' known'' next'') :
    Noted (fun q => found q ∨ found' q) known next known'' next'' where
  mem_known := by
    intro q
    rw [h'.mem_known, h.mem_known, or_assoc]
  mem_next := by
    intro q
    rw [h'.mem_next, h.mem_next, h.mem_known]
    tauto

theorem Noted.congr {found found' : String → Prop} {known' next' : List String}
    (h : Noted found known next known' next') (hfound : ∀ q, found q ↔ found' q) :
    Noted found' known next known' next' where
  mem_known := fun q => (h.mem_known q).trans (or_congr_right (hfound q))
  mem_next := fun q => (h.mem_next q).trans (or_congr_right (and_congr_left' (hfound q)))

/-- A page that was not known before is known now, and is one of the next level. -/
theorem noted_new (hnew : page ∉ known) (next : List String) :
    Noted (· = page) known next (page :: known) (next ++ [page]) where
  mem_known := by
    intro q
    rw [List.mem_cons, or_comm]
  mem_next := by
    intro q
    rw [List.mem_append, List.mem_singleton]
    refine or_congr_right ⟨?_, And.left⟩
    rintro rfl
    exact ⟨rfl, hnew⟩

theorem noted_known (hknown : page ∈ known) (next : List String) :
    Noted (· = page) known next known next where
  mem_known := by
    intro q
    refine ⟨Or.inl, ?_⟩
    rintro (hq | rfl)
    · exact hq
    · exact hknown
  mem_next := by
    intro q
    refine ⟨Or.inl, ?_⟩
    rintro (hq | ⟨rfl, hq⟩)
    · exact hq
    · exact (hq hknown).elim

/-- Each of the pages known is noted once, and so is each of the next level, which is among them. -/
structure Distinct (known next : List String) : Prop where
  nodup_known : known.Nodup
  nodup_next : next.Nodup
  subset : ∀ q ∈ next, q ∈ known

theorem Distinct.push (h : Distinct known next) (hnew : page ∉ known) :
    Distinct (page :: known) (next ++ [page]) where
  nodup_known := List.nodup_cons.mpr ⟨hnew, h.nodup_known⟩
  nodup_next := by
    have hfresh : page ∉ next := fun hmem => hnew (h.subset page hmem)
    exact List.nodup_append_comm.mp (List.nodup_cons.mpr ⟨hfresh, h.nodup_next⟩)
  subset := by
    intro q hq
    rcases List.mem_append.mp hq with hq | hq
    · exact List.mem_cons_of_mem page (h.subset q hq)
    · exact List.mem_cons.mpr (Or.inl (List.mem_singleton.mp hq))

/-- Texts can always be told apart, so that noting links does not fail. -/
theorem exists_noteLinks (ls known next : List String) :
    ∃ known' next', noteLinks ls known next = .ok (known', next') ∧
      Noted (· ∈ ls) known next known' next' ∧ (Distinct known next → Distinct known' next') := by
  induction ls generalizing known next with
  | nil => exact ⟨known, next, rfl, (noted_nothing known next).congr (by simp), id⟩
  | cons link ls ih =>
    have hcons (q : String) : q = link ∨ q ∈ ls ↔ q ∈ link :: ls := List.mem_cons.symm
    by_cases hlink : link ∈ known
    · obtain ⟨known', next', hrun, hnoted, hdistinct⟩ := ih known next
      refine ⟨known', next', ?_, ((noted_known hlink next).trans hnoted).congr hcons, hdistinct⟩
      rw [← hrun]
      simp [noteLinks, Named.isAtomic, hlink]
    · obtain ⟨known', next', hrun, hnoted, hdistinct⟩ := ih (link :: known) (next ++ [link])
      refine ⟨known', next', ?_, ((noted_new hlink next).trans hnoted).congr hcons,
        fun h => hdistinct (h.push hlink)⟩
      rw [← hrun]
      simp [noteLinks, Named.isAtomic, hlink]

/-- Each page of a level is asked for its links, and no other page. -/
theorem exists_expand (hsource : Path.Answers source links) (level known next : List String)
    (w : ω) :
    ∃ known' next', (expand source level known next).runIn w =
        (.ok (known', next'), Path.afterLinks source w level) ∧
      Noted (fun q => ∃ p ∈ level, q ∈ links p) known next known' next' ∧
      (Distinct known next → Distinct known' next') := by
  induction level generalizing known next w with
  | nil => exact ⟨known, next, rfl, (noted_nothing known next).congr (by simp), id⟩
  | cons page level ih =>
    have hw : (source.linksOn page).runIn w = (.ok (links page), Path.afterLinks source w [page]) :=
      Prod.ext (hsource page w) rfl
    obtain ⟨known', next', hnote, hpage, hdistinct⟩ := exists_noteLinks (links page) known next
    obtain ⟨known'', next'', hrun, hrest, hdistinct'⟩ :=
      ih known' next' (Path.afterLinks source w [page])
    refine ⟨known'', next'', ?_, (hpage.trans hrest).congr ?_, hdistinct' ∘ hdistinct⟩
    · refine Eq.trans ?_ hrun
      simp [expand, Action.runIn_bind, hw, hnote]
    · intro q
      simp

/-- The pages known are those at most `n` links away, and the level is made of those that are `n`
links away. -/
structure AtLevel (links : String → List String) (start : String) (n : Nat)
    (level known : List String) : Prop where
  mem_known : ∀ q, q ∈ known ↔ Reachable links start q ∧ distance links start q ≤ n
  mem_level : ∀ q, q ∈ level ↔ Reachable links start q ∧ distance links start q = n

theorem eq_start_of_distance (h : Reachable links start q) (hzero : distance links start q = 0) :
    q = start := by
  by_contra hne
  have := distance_pos h hne
  omega

theorem atLevel_start (links : String → List String) (start : String) :
    AtLevel links start 0 [start] [start] := by
  have hstart (q : String) :
      q ∈ [start] ↔ Reachable links start q ∧ distance links start q = 0 := by
    rw [List.mem_singleton]
    constructor
    · rintro rfl
      exact ⟨reachable_start, distance_start⟩
    · rintro ⟨hq, hzero⟩
      exact eq_start_of_distance hq hzero
  refine ⟨fun q => ?_, hstart⟩
  rw [hstart, Nat.le_zero]

/-- A page one link further than a level is linked from a page of it. -/
theorem AtLevel.exists_link (h : AtLevel links start n level known)
    (hq : Reachable links start q) (hd : distance links start q = n + 1) :
    ∃ p ∈ level, q ∈ links p := by
  have hne : q ≠ start := by
    rintro rfl
    rw [distance_start] at hd
    omega
  obtain ⟨p, hp, hlink, hdist⟩ := exists_nearer hq hne
  exact ⟨p, (h.mem_level p).mpr ⟨hp, by omega⟩, hlink⟩

theorem AtLevel.distance_le_of_link (h : AtLevel links start n level known)
    (hq : ∃ p ∈ level, q ∈ links p) :
    Reachable links start q ∧ distance links start q ≤ n + 1 := by
  obtain ⟨p, hp, hlink⟩ := hq
  obtain ⟨hreach, hd⟩ := (h.mem_level p).mp hp
  refine ⟨hreach.link hlink, ?_⟩
  rw [← hd]
  exact distance_link_le hreach hlink

/-- The level one link further is made of what is linked from the level and not known yet. -/
theorem AtLevel.further {known' next' : List String} (h : AtLevel links start n level known)
    (hnoted : Noted (fun q => ∃ p ∈ level, q ∈ links p) known [] known' next') :
    AtLevel links start (n + 1) next' known' := by
  constructor
  · intro q
    rw [hnoted.mem_known, h.mem_known]
    constructor
    · rintro (⟨hq, hd⟩ | hq)
      · exact ⟨hq, by omega⟩
      · exact h.distance_le_of_link hq
    · rintro ⟨hq, hd⟩
      by_cases hnear : distance links start q ≤ n
      · exact Or.inl ⟨hq, hnear⟩
      · exact Or.inr (h.exists_link hq (by omega))
  · intro q
    rw [hnoted.mem_next, h.mem_known]
    constructor
    · rintro (hq | ⟨hq, hnew⟩)
      · simp at hq
      · obtain ⟨hreach, hd⟩ := h.distance_le_of_link hq
        have hgt : ¬ distance links start q ≤ n := fun hle => hnew ⟨hreach, hle⟩
        exact ⟨hreach, by omega⟩
    · rintro ⟨hq, hd⟩
      refine Or.inr ⟨h.exists_link hq hd, ?_⟩
      rintro ⟨-, hle⟩
      omega

/-- Where a level is empty, no page is further away. -/
theorem AtLevel.distance_lt (h : AtLevel links start n [] known) (hq : Reachable links start q) :
    distance links start q < n := by
  by_contra hge
  obtain ⟨p, hp, hd⟩ := exists_at_distance hq (not_lt.mp hge)
  simpa using (h.mem_level p).mpr ⟨hp, hd⟩

/-- On the way to a page there are as many pages as it is links away. -/
theorem distance_lt_ncard (hfinite : {p | Reachable links start p}.Finite)
    (hq : Reachable links start q) :
    distance links start q < {p | Reachable links start p}.ncard := by
  have hall (n : Nat) (hn : n ∈ Set.Iic (distance links start q)) :
      ∃ p ∈ {p | Reachable links start p}, distance links start p = n :=
    exists_at_distance hq hn
  have hle := Set.ncard_le_ncard (t := distance links start '' {p | Reachable links start p})
    hall (hfinite.image _)
  have hcard : (Set.Iic (distance links start q)).ncard = distance links start q + 1 := by
    rw [← Finset.coe_Iic, Set.ncard_coe_finset, Nat.card_Iic]
  have himage := Set.ncard_image_le (f := distance links start) hfinite
  omega

/-- The pages known, and those of which the links were asked for, after a search has gone out from
level `n` to level `m`. -/
structure Surrounds (links : String → List String) (start : String) (n m : Nat)
    (known fetched : List String) : Prop where
  nodup_known : known.Nodup
  mem_known : ∀ q, q ∈ known ↔ Reachable links start q ∧ distance links start q ≤ m
  nodup_fetched : fetched.Nodup
  mem_fetched : ∀ q, q ∈ fetched ↔
    Reachable links start q ∧ n ≤ distance links start q ∧ distance links start q < m

/-- Nothing is asked about the last level. -/
theorem AtLevel.surrounds (h : AtLevel links start n level known) (hknown : known.Nodup) :
    Surrounds links start n n known [] where
  nodup_known := hknown
  mem_known := h.mem_known
  nodup_fetched := List.nodup_nil
  mem_fetched := by
    intro q
    refine iff_of_false List.not_mem_nil ?_
    rintro ⟨-, hge, hlt⟩
    omega

/-- Where a level is empty, it does not matter how many more were to follow. -/
theorem Surrounds.beyond {fetched : List String} (h : Surrounds links start n n known fetched)
    (hlast : ∀ q, Reachable links start q → distance links start q < n) (m : Nat) (hle : n ≤ m) :
    Surrounds links start n m known fetched where
  nodup_known := h.nodup_known
  mem_known := by
    intro q
    rw [h.mem_known]
    refine and_congr_right fun hq => ?_
    have := hlast q hq
    omega
  nodup_fetched := h.nodup_fetched
  mem_fetched := by
    intro q
    rw [h.mem_fetched]
    refine and_congr_right fun hq => ?_
    have := hlast q hq
    omega

/-- The pages of a level are asked for their links before those that are further away. -/
theorem Surrounds.outwards {m : Nat} {fetched known' : List String}
    (h : Surrounds links start (n + 1) m known' fetched)
    (hlevel : AtLevel links start n level known) (hnodup : level.Nodup) (hlt : n < m) :
    Surrounds links start n m known' (level ++ fetched) where
  nodup_known := h.nodup_known
  mem_known := h.mem_known
  nodup_fetched := by
    refine List.nodup_append.mpr ⟨hnodup, h.nodup_fetched, ?_⟩
    rintro p hp q hq rfl
    have hat := ((hlevel.mem_level p).mp hp).2
    have hbeyond := ((h.mem_fetched p).mp hq).2.1
    omega
  mem_fetched := by
    intro q
    rw [List.mem_append, hlevel.mem_level, h.mem_fetched, ← and_or_left]
    refine and_congr_right fun hq => ?_
    omega

/-- Going out from a level over more links leads to the pages that are so much further away, and
asks for the links of all pages on the way. -/
theorem exists_grow (hsource : Path.Answers source links) (hops : Nat)
    (h : AtLevel links start n level known) (hdistinct : Distinct known level) (w : ω) :
    ∃ known' fetched, (grow source hops level known).runIn w =
        (.ok known', Path.afterLinks source w fetched) ∧
      Surrounds links start n (n + hops) known' fetched := by
  induction hops generalizing n level known w with
  | zero => exact ⟨known, [], rfl, h.surrounds hdistinct.nodup_known⟩
  | succ hops ih =>
    obtain ⟨known', next', hrun, hnoted, hnew⟩ := exists_expand hsource level known [] w
    have hnext := h.further hnoted
    have hdistinct' := hnew ⟨hdistinct.nodup_known, List.nodup_nil, by simp⟩
    have hlt : n < n + (hops + 1) := by omega
    have hfar : n + 1 + hops = n + (hops + 1) := by omega
    cases next' with
    | nil =>
      refine ⟨known', level, by simp [grow, Action.runIn_bind, hrun], ?_⟩
      have hlast := (hnext.surrounds hdistinct'.nodup_known).beyond (fun q => hnext.distance_lt)
        (n + (hops + 1)) (by omega)
      simpa using hlast.outwards h hdistinct.nodup_next hlt
    | cons page rest =>
      obtain ⟨known'', fetched, hgrow, hsurrounds⟩ :=
        ih hnext hdistinct' (Path.afterLinks source w level)
      have hafter : Path.afterLinks source w (level ++ fetched) =
          Path.afterLinks source (Path.afterLinks source w level) fetched := List.foldl_append
      refine ⟨known'', level ++ fetched, ?_, ?_⟩
      · simp [grow, Action.runIn_bind, hrun, hgrow, hafter]
      · rw [hfar] at hsurrounds
        exact hsurrounds.outwards h hdistinct.nodup_next hlt

/-- A search that may go out as far as the pages lie ends by itself: allowed to go on, it does the
same. -/
theorem grow_of_le (hsource : Path.Answers source links) {rounds : Nat}
    (h : AtLevel links start n level known)
    (hfar : ∀ q, Reachable links start q → distance links start q < n + rounds) (w : ω) {more : Nat}
    (hle : rounds ≤ more) :
    (grow source more level known).runIn w = (grow source rounds level known).runIn w := by
  induction rounds generalizing n level known w more with
  | zero =>
    obtain rfl : level = [] := by
      refine List.eq_nil_iff_forall_not_mem.mpr fun q hq => ?_
      obtain ⟨hreach, hd⟩ := (h.mem_level q).mp hq
      have := hfar q hreach
      omega
    cases more <;> rfl
  | succ rounds ih =>
    obtain ⟨more, rfl⟩ : ∃ m, more = m + 1 := ⟨more - 1, by omega⟩
    obtain ⟨known', next', hrun, hnoted, -⟩ := exists_expand hsource level known [] w
    have hnext := h.further hnoted
    cases next' with
    | nil => simp [grow, Action.runIn_bind, hrun]
    | cons page rest =>
      have hrest := ih hnext (fun q hq => by have := hfar q hq; omega)
        (Path.afterLinks source w level) (Nat.le_of_succ_le_succ hle)
      simp [grow, Action.runIn_bind, hrun, hrest]

/-- The answer holds the pages at most as far away as asked for, the start included, in order; of
those nearer than that the links are asked for. -/
theorem exists_pages (hsource : Path.Answers source links) (start : String) (hops : Int) (w : ω) :
    ∃ found fetched, (Neighbourhood.pages source start hops).runIn w =
        (.ok found, Path.afterLinks source w fetched) ∧
      found.Pairwise (· < ·) ∧ Surrounds links start 0 hops.toNat found fetched := by
  have hstart : Distinct [start] [start] :=
    ⟨List.nodup_singleton start, List.nodup_singleton start, fun _ hq => hq⟩
  obtain ⟨known, fetched, hrun, hsurrounds⟩ :=
    exists_grow hsource hops.toNat (atLevel_start links start) hstart w
  rw [Nat.zero_add] at hsurrounds
  refine ⟨sortTexts known, fetched, ?_, pairwise_lt_sortTexts hsurrounds.nodup_known,
    (perm_sortTexts known).nodup_iff.mpr hsurrounds.nodup_known, ?_, hsurrounds.nodup_fetched,
    hsurrounds.mem_fetched⟩
  · simp [Neighbourhood.pages, Named.ofText, Action.runIn_bind, hrun]
  · intro q
    rw [mem_sortTexts, hsurrounds.mem_known]

/-- Over more links than there are pages to be reached, a search does what it does over so many. -/
theorem pages_of_ncard_le (hsource : Path.Answers source links)
    (hfinite : {p | Reachable links start p}.Finite) {hops : Int}
    (hle : ({p | Reachable links start p}.ncard : Int) ≤ hops) (w : ω) :
    (Neighbourhood.pages source start hops).runIn w =
      (Neighbourhood.pages source start {p | Reachable links start p}.ncard).runIn w := by
  have hgrow := grow_of_le hsource (atLevel_start links start)
    (fun q hq => (distance_lt_ncard hfinite hq).trans_eq (Nat.zero_add _).symm) w
    (Int.le_toNat (by omega) |>.mpr hle)
  simp only [Neighbourhood.pages, Named.ofText, Action.runIn_bind, id, hgrow, Int.toNat_natCast]

end WikiGateway.Neighbourhood

import Mathlib.Data.Rat.Floor
import WikiGateway.Instant.Exact
import WikiGateway.Proofs.Path.Fetches

/-! What a budget of time does to a search. It ends every search of which the questions take time,
and it cuts off what a search with more time would do, but leads it nowhere else. -/
namespace WikiGateway.Path

open Links

section Longer

variable {ω τ ν α : Type}

/-- One search comes to what another comes to, unless its time is up. What it has asked by then, the
other one asks first, too. -/
def CutOff (short long : Except Fault (Outcome τ) × Watched ω) : Prop :=
  short = long ∨
    ∃ o, short.1 = .ok o ∧ o.status = .deadlineExceeded ∧ short.2.calls <+: long.2.calls

theorem CutOff.refl (r : Except Fault (Outcome τ) × Watched ω) : CutOff r r := Or.inl rfl

theorem CutOff.bind {f g : α → Action (Watched ω) (Outcome τ)} {act : Action (Watched ω) α}
    {v : Watched ω} (h : ∀ a v, CutOff ((f a).runIn v) ((g a).runIn v)) :
    CutOff ((act >>= f).runIn v) ((act >>= g).runIn v) := by
  rw [Action.runIn_bind, Action.runIn_bind]
  rcases act.runIn v with ⟨e | a, v'⟩
  · exact CutOff.refl _
  · exact h a v'

variable [Instant τ] [Named ν] {short long : Budget τ}

/-- Of two searches begun together, the one with less time is at most cut off. -/
theorem search_longer (source : Source ω ν) {startedAt : τ}
    (hshort : short.startedAt = some startedAt) (hlong : long.startedAt = some startedAt)
    (hlater : ∀ now, long.isExhausted now = true → short.isExhausted now = true)
    (clock : Watched ω → τ) (start stop : String) (fuel : Nat) (s : State ν) (v : Watched ω) :
    CutOff ((search source.watched clock short start stop fuel s).runIn v)
      ((search source.watched clock long start stop fuel s).runIn v) := by
  induction fuel generalizing s v with
  | zero => exact CutOff.refl _
  | succ fuel ih =>
    cases htime : short.isExhausted (clock v) with
    | true =>
      obtain ⟨o, hcut, -, hrun⟩ := search_deadline source.watched start stop s hshort htime
      rw [hrun fuel]
      exact Or.inr ⟨o, rfl, hcut.status, calls_search_watched clock long (fuel + 1) s v⟩
    | false =>
      have hleft : long.isExhausted (clock v) = false := by
        by_contra hexhausted
        rw [hlater _ (Bool.eq_true_of_not_eq_false hexhausted)] at htime
        cases htime
      have hspent : short.elapsed = long.elapsed := by
        funext now
        rw [Budget.elapsed, Budget.elapsed, hshort, hlong]
      simp only [search, Action.runIn_bind, Action.runIn_get, htime, hleft, hspent,
        Bool.false_eq_true, if_false]
      cases s.frontier with
      | nil => exact CutOff.refl _
      | cons page rest =>
        refine CutOff.bind fun title v => CutOff.bind fun links v => CutOff.bind fun noted v => ?_
        split
        · exact CutOff.refl _
        · exact ih noted.2 v

end Longer

section Ended

variable {ω τ : Type} [Instant τ] {source : Source ω String} {clock : ω → τ} {total : τ}
  {links : String → List String} {start stop : String} {w : ω} {o : Outcome τ}
  {fetched : List String}

/-- Given enough steps, a search ends with `o`, and has asked for the links of the pages
`fetched`. -/
def EndsAfter (source : Source ω String) (clock : ω → τ) (total : τ) (start stop : String) (w : ω)
    (o : Outcome τ) (fetched : List String) : Prop :=
  ∃ enough w', ∀ fuel, enough ≤ fuel →
    Fetches source clock total fuel start stop w (.ok o) w' fetched

/-- Where only so many pages can be reached, a search ends, in time or not. -/
theorem exists_endsAfter (hne : start ≠ stop) (hsource : Answers source links)
    (hfinite : {p | Reachable links start p}.Finite) (clock : ω → τ) (total : τ) (w : ω) :
    ∃ o fetched, EndsAfter source clock total start stop w o fetched ∧
      Accounts links start stop fetched o ∧
      (Concluded links start stop o ∨ CutShort ((Budget.ofTotal total).start (clock w))
        (clock (afterLinks source w fetched)) o) := by
  obtain ⟨fetched, -, -, ⟨hshort, -⟩ | ⟨o, hends, haccounts, hcase⟩⟩ :=
    exists_fetches hne hsource clock total (hfinite.toFinset.card + 1) w
  · have hle := find_unfinished hne hsource (fun p hp _ => hfinite.mem_toFinset.mpr hp)
      (congrArg Prod.fst hshort.alone)
    exact absurd hle (Nat.not_succ_le_self _)
  · exact ⟨o, fetched, ⟨_, _, hends⟩, haccounts, hcase⟩

/-- Of two searches begun together, the one with less time comes to the same or asks first what the
other one does. -/
theorem EndsAfter.cutOff {short long : τ} {o' : Outcome τ} {fetched' : List String}
    (h : EndsAfter source clock short start stop w o fetched)
    (h' : EndsAfter source clock long start stop w o' fetched') (hne : start ≠ stop)
    (hlater : ∀ now, ((Budget.ofTotal long).start (clock w)).isExhausted now = true →
      ((Budget.ofTotal short).start (clock w)).isExhausted now = true) :
    o' = o ∧ fetched' = fetched ∨ o.status = .deadlineExceeded ∧ fetched <+: fetched' := by
  obtain ⟨n, v, hn⟩ := h
  obtain ⟨n', v', hn'⟩ := h'
  have hshort := (hn (max n n') (le_max_left n n')).watched
  have hlong := (hn' (max n n') (le_max_right n n')).watched
  rw [runIn_find hne] at hshort hlong
  have hcut := search_longer source rfl rfl hlater (fun v => clock v.world) start stop (max n n')
    (.initial start) ⟨w, []⟩
  rw [hshort, hlong] at hcut
  rcases hcut with hsame | ⟨o₁, ho, hstatus, hprefix⟩
  · obtain ⟨rfl, -, hcalls⟩ := by simpa using hsame
    have hfetched := congrArg (List.map Call.argument) hcalls
    exact Or.inl ⟨rfl, by simpa using hfetched.symm⟩
  · obtain rfl : o = o₁ := by simpa using ho
    exact Or.inr ⟨hstatus, by simpa using hprefix.map Call.argument⟩

end Ended

section Exact

variable {ω τ : Type} [Field τ] [LinearOrder τ] [IsStrictOrderedRing τ] [FloorSemiring τ]
  {source : Source ω String} {links : String → List String} {total : τ} {start stop : String}
  {o : Outcome τ}

omit [IsStrictOrderedRing τ] in
theorem isExhausted_start {startedAt now : τ} :
    ((Budget.ofTotal total).start startedAt).isExhausted now = true ↔ total ≤ now - startedAt := by
  simp [Budget.isExhausted, Budget.elapsed, Budget.start, Budget.ofTotal]

/-- When the time is up, nothing is left of it. -/
theorem CutShort.exists_report {startedAt now : τ}
    (h : CutShort ((Budget.ofTotal total).start startedAt) now o) :
    ∃ report, o.report = some report ∧ report.isExhausted = true ∧ report.remaining = 0 ∧
      total ≤ report.elapsed ∧ o.elapsedMillis = report.elapsed * 1000 := by
  obtain ⟨marks, hreport⟩ := h.report
  have hspent := isExhausted_start.mp h.exhausted
  refine ⟨_, hreport, h.exhausted, ?_, hspent, h.elapsed⟩
  have hleft : ¬ (0 < total - (now - startedAt)) := not_lt.mpr (sub_nonpos.mpr hspent)
  simp [Budget.report, Budget.remaining, Budget.elapsed, Budget.start, Budget.ofTotal, hleft]

/-- A search that comes to its end in time is the same with more time. One that runs out of time has
asked about pages that do not link to `stop`, and with more time the search asks about them, too,
before it asks about any other. -/
theorem find_longer {short long : τ} (hne : start ≠ stop) (hsource : Answers source links)
    (hfinite : {p | Reachable links start p}.Finite) (hle : short ≤ long) (clock : ω → τ) (w : ω) :
    ∃ o o' fetched fetched', EndsAfter source clock short start stop w o fetched ∧
      EndsAfter source clock long start stop w o' fetched' ∧
      ((o.status = .found ∨ o.status = .frontierExhausted) ∧ o' = o ∧ fetched' = fetched ∨
        o.status = .deadlineExceeded ∧ o.path = [] ∧ o.expanded = fetched.length ∧
        (∃ report, o.report = some report ∧ report.isExhausted = true ∧ report.remaining = 0 ∧
          short ≤ report.elapsed ∧ o.elapsedMillis = report.elapsed * 1000) ∧
        (∀ p ∈ fetched, stop ∉ links p) ∧ fetched <+: fetched') := by
  obtain ⟨o, fetched, hends, haccounts, hcase⟩ := exists_endsAfter hne hsource hfinite clock short w
  obtain ⟨o', fetched', hends', -⟩ := exists_endsAfter hne hsource hfinite clock long w
  refine ⟨o, o', fetched, fetched', hends, hends', ?_⟩
  have hlater (now : τ) (hspent : ((Budget.ofTotal long).start (clock w)).isExhausted now = true) :
      ((Budget.ofTotal short).start (clock w)).isExhausted now = true :=
    isExhausted_start.mpr (hle.trans (isExhausted_start.mp hspent))
  have hcut := hends.cutOff hends' hne hlater
  rcases hcase with hconcluded | hcutShort
  · have hstatus : o.status = .found ∨ o.status = .frontierExhausted :=
      hconcluded.imp And.left And.left
    rcases hcut with ⟨ho, hfetched⟩ | ⟨hdeadline, -⟩
    · exact Or.inl ⟨hstatus, ho, hfetched⟩
    · simp [hdeadline] at hstatus
  · have hprefix : fetched <+: fetched' := by
      rcases hcut with ⟨-, rfl⟩ | ⟨-, hprefix⟩
      · exact List.prefix_rfl
      · exact hprefix
    exact Or.inr ⟨hcutShort.status, hcutShort.path, haccounts.expanded, hcutShort.exists_report,
      haccounts.missed hcutShort.status, hprefix⟩

/-- The pages with circles in their links, about which every question takes two seconds. -/
def slow : Table ℚ := { looped with cost := 2 }

theorem find_longer_slow :
    "A" ≠ "D" ∧ Answers slow.source slow.linksOf ∧
    {p | Reachable slow.linksOf "A" p}.Finite ∧ (3 : ℚ) ≤ 300 ∧
    ∃ o o' fetched fetched', EndsAfter slow.source Session.now 3 "A" "D" ⟨0, #[]⟩ o fetched ∧
      EndsAfter slow.source Session.now 300 "A" "D" ⟨0, #[]⟩ o' fetched' ∧
      (o' = o ∧ fetched' = fetched ∨ o.status = .deadlineExceeded ∧ fetched <+: fetched') := by
  have hne : "A" ≠ "D" := by decide
  have hsource : Answers slow.source slow.linksOf :=
    fun title w => by rw [Table.runIn_linksOn rfl]
  have hfinite := Table.finite_reachable slow "A"
  have hle : (3 : ℚ) ≤ 300 := by norm_num
  refine ⟨hne, hsource, hfinite, hle, ?_⟩
  obtain ⟨o, o', fetched, fetched', hends, hends', hcase⟩ :=
    find_longer hne hsource hfinite hle Session.now ⟨0, #[]⟩
  refine ⟨o, o', fetched, fetched', hends, hends', ?_⟩
  rcases hcase with ⟨-, ho, hfetched⟩ | ⟨hstatus, -, -, -, -, hprefix⟩
  · exact Or.inl ⟨ho, hfetched⟩
  · exact Or.inr ⟨hstatus, hprefix⟩

omit [FloorSemiring τ] in
/-- The clock moves on by what the questions take at least. -/
theorem clock_afterLinks_ge {clock : ω → τ} {cost : τ}
    (hcost : ∀ title w, clock w + cost ≤ clock ((source.linksOn title).runIn w).2)
    (pages : List String) (w : ω) :
    clock w + pages.length * cost ≤ clock (afterLinks source w pages) := by
  induction pages generalizing w with
  | nil => simp [afterLinks]
  | cons page pages ih =>
    have hnext := ih (afterLinks source w [page])
    have hpage : clock w + cost ≤ clock (afterLinks source w [page]) := hcost page w
    calc clock w + (page :: pages).length * cost
        = clock w + cost + pages.length * cost := by rw [List.length_cons]; push_cast; ring
      _ ≤ clock (afterLinks source w [page]) + pages.length * cost := by gcongr
      _ ≤ clock (afterLinks source w (page :: pages)) := hnext

/-- With time left before each, no more pages are asked about than the time allows. -/
theorem HadTime.length_le {clock : ω → τ} {cost : τ} {w : ω} {pages : List String}
    (h : HadTime source clock ((Budget.ofTotal total).start (clock w)) w pages) (hpos : 0 < cost)
    (hcost : ∀ title w, clock w + cost ≤ clock ((source.linksOn title).runIn w).2) :
    pages.length ≤ ⌈total / cost⌉₊ := by
  cases hlength : pages.length with
  | zero => exact Nat.zero_le _
  | succ n =>
    have hleft : ¬ total ≤ clock (afterLinks source w (pages.take n)) - clock w := by
      rw [← isExhausted_start, h n (by omega)]
      exact Bool.false_ne_true
    have hclock := clock_afterLinks_ge hcost (pages.take n) w
    rw [List.length_take_of_le (by omega)] at hclock
    have hspent : n * cost < total := by linarith
    exact Nat.lt_ceil.mpr ((lt_div_iff₀ hpos).mpr hspent)

/-- However far the links lead, a search ends if each question takes at least some time. It asks
about no more pages than can be asked about, one after the other, before the time is up. -/
theorem find_within_budget {clock : ω → τ} {cost : τ} (hsource : Answers source links)
    (hpos : 0 < cost)
    (hcost : ∀ title w, clock w + cost ≤ clock ((source.linksOn title).runIn w).2) (total : τ)
    (start stop : String) (w : ω) :
    ∃ o w' fetched, (∀ fuel, ⌈total / cost⌉₊ < fuel →
        Fetches source clock total fuel start stop w (.ok o) w' fetched) ∧
      o.expanded = fetched.length ∧ fetched.length ≤ ⌈total / cost⌉₊ := by
  by_cases hne : start = stop
  · refine ⟨⟨.samePage, start, start, [start], 0, 0, none⟩, w, [], ?_, rfl, Nat.zero_le _⟩
    intro fuel _
    constructor <;> simp [find, hne]
  · obtain ⟨fetched, -, hhad, hend⟩ :=
      exists_fetches hne hsource clock total (⌈total / cost⌉₊ + 1) w
    have hle := hhad.length_le hpos hcost
    rcases hend with ⟨-, hlength⟩ | ⟨o, hends, haccounts, -⟩
    · omega
    · exact ⟨o, _, fetched, hends, haccounts.expanded, hle⟩

/-- Pages without end, each with a link to one that was never seen before. A question about their
links takes two seconds. -/
def endless : Source ℚ String where
  search _ _ := return []
  pageText _ := return ""
  linksOn title := do
    modify (· + 2)
    return [title ++ "+"]
  categoryMembers _ := return []
  categoriesOn _ := return []
  lastEditor _ := return ""
  pageExists _ := return true

theorem find_within_budget_endless :
    Answers endless (fun title => [title ++ "+"]) ∧ (0 : ℚ) < 2 ∧
    (∀ title w, id w + 2 ≤ id ((endless.linksOn title).runIn w).2) ∧
    ∃ o w' fetched, (∀ fuel, 3 < fuel →
        Fetches endless id 5 fuel "A" "B" (0 : ℚ) (.ok o) w' fetched) ∧
      o.expanded = fetched.length ∧ fetched.length ≤ 3 := by
  have hsource : Answers endless (fun title => [title ++ "+"]) := fun _ _ => rfl
  have hpos : (0 : ℚ) < 2 := by norm_num
  have hcost (title : String) (w : ℚ) : id w + 2 ≤ id ((endless.linksOn title).runIn w).2 := le_rfl
  have hceil : ⌈(5 : ℚ) / 2⌉₊ = 3 := by
    rw [Nat.ceil_eq_iff (by norm_num)]
    norm_num
  refine ⟨hsource, hpos, hcost, ?_⟩
  rw [← hceil]
  exact find_within_budget hsource hpos hcost 5 "A" "B" 0

end Exact

end WikiGateway.Path

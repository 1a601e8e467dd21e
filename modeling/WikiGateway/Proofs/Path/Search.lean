import WikiGateway.Proofs.Action
import WikiGateway.Proofs.Path.Trace
import Mathlib.Data.Set.Card
import Mathlib.Logic.Relation

/-! Turns of the search loop, and how a search without failures comes out, in time or not. -/
namespace WikiGateway.Path

open Links

variable {ω τ : Type} [Instant τ] {source : Source ω String} {clock : ω → τ} {budget : Budget τ}
  {links : String → List String} {start stop page : String} {s t : State String} {w w' : ω}
  {rest ls path done : List String} {fuel : Nat}

/-- The source answers every question about links from one table, and never fails. -/
def Answers (source : Source ω String) (links : String → List String) : Prop :=
  ∀ title w, ((source.linksOn title).runIn w).1 = .ok (links title)

/-- The state in which the links of the next page are gone through. -/
def State.next (s : State String) (rest : List String) : State String :=
  { s with frontier := rest, expanded := s.expanded + 1 }

/-- One turn of the loop that looks at a page and goes on. -/
inductive Turn (source : Source ω String) (stop : String) :
    State String × ω → State String × ω → Prop
  | look {s t : State String} {w w' : ω} {page : String} {rest ls : List String}
      (hs : s.frontier = page :: rest)
      (hsource : (source.linksOn page).runIn w = (.ok ls, w'))
      (hnote : State.noteLinks stop page ls (s.next rest) = .ok (false, t)) :
      Turn source stop (s, w) (t, w')

/-- Whenever the loop looks at the clock, there is time left. -/
def InTime (source : Source ω String) (clock : ω → τ) (budget : Budget τ) (stop : String)
    (s : State String) (w : ω) : Prop :=
  ∀ t w', Relation.ReflTransGen (Turn source stop) (s, w) (t, w') →
    budget.isExhausted (clock w') = false

section Turns

variable {ν : Type} [Named ν] {source : Source ω ν} {s t : State ν} {page : ν} {rest ls : List ν}
  {title : String}

theorem search_nil (htime : budget.isExhausted (clock w) = false) (hs : s.frontier = []) :
    (search source clock budget start stop (fuel + 1) s).runIn w =
      (.ok ⟨.frontierExhausted, start, stop, [], s.expanded,
        Instant.toMillis (budget.elapsed (clock w)), none⟩, w) := by
  simp [search, Action.runIn_bind, htime, hs]

theorem search_found (htime : budget.isExhausted (clock w) = false) (hs : s.frontier = page :: rest)
    (htitle : Named.text? page = some title)
    (hsource : (source.linksOn title).runIn w = (.ok ls, w'))
    (hnote : State.noteLinks stop title ls
      { s with frontier := rest, expanded := s.expanded + 1 } = .ok (true, t))
    (hpath : t.pathTo start stop = .ok path) :
    (search source clock budget start stop (fuel + 1) s).runIn w =
      (.ok ⟨.found, start, stop, path, t.expanded,
        Instant.toMillis (budget.elapsed (clock w')), none⟩, w') := by
  simp [search, Action.runIn_bind, htime, hs, Named.title, htitle, hsource, hnote, hpath,
    Except.map]

theorem search_turn (htime : budget.isExhausted (clock w) = false) (hs : s.frontier = page :: rest)
    (htitle : Named.text? page = some title)
    (hsource : (source.linksOn title).runIn w = (.ok ls, w'))
    (hnote : State.noteLinks stop title ls
      { s with frontier := rest, expanded := s.expanded + 1 } = .ok (false, t)) :
    (search source clock budget start stop (fuel + 1) s).runIn w =
      (search source clock budget start stop fuel t).runIn w' := by
  simp [search, Action.runIn_bind, htime, hs, Named.title, htitle, hsource, hnote]

end Turns

/-- How a search comes out that meets no failure and is not out of time. -/
def Concluded (links : String → List String) (start stop : String) (o : Outcome τ) : Prop :=
  (o.status = .found ∧ Reachable links start stop ∧ IsShortest links start stop o.path) ∨
  (o.status = .frontierExhausted ∧ ¬ Reachable links start stop ∧ o.path = [] ∧
    o.expanded = {p | Reachable links start p}.ncard)

omit [Instant τ] in
/-- A shortest path is as long as its ends are apart. -/
theorem hops_eq_distance {o : Outcome τ} (h : IsShortest links start stop o.path) :
    o.hops = distance links start stop := by
  rw [Outcome.hops, h.length_eq]
  rfl

/-- How a search comes out that runs out of time. -/
structure CutShort (budget : Budget τ) (now : τ) (o : Outcome τ) : Prop where
  exhausted : budget.isExhausted now = true
  status : o.status = .deadlineExceeded
  path : o.path = []
  elapsed : o.elapsedMillis = Instant.toMillis (budget.elapsed now)
  report : ∃ marks, o.report = some ({ budget with marks }.report now)

theorem search_deadline {ν : Type} [Named ν] (source : Source ω ν) (start stop : String)
    (s : State ν) {startedAt : τ} (hstarted : budget.startedAt = some startedAt)
    (htime : budget.isExhausted (clock w) = true) :
    ∃ o, CutShort budget (clock w) o ∧ o.expanded = s.expanded ∧
      ∀ fuel, (search source clock budget start stop (fuel + 1) s).runIn w = (.ok o, w) := by
  let marks := budget.marks.insert "deadline" (Instant.sub (clock w) startedAt)
  let o : Outcome τ := ⟨.deadlineExceeded, start, stop, [], s.expanded,
    Instant.toMillis (budget.elapsed (clock w)), some ({ budget with marks }.report (clock w))⟩
  refine ⟨o, ⟨htime, rfl, rfl, rfl, marks, rfl⟩, rfl, fun fuel => ?_⟩
  simp [search, Action.runIn_bind, htime, Budget.mark, hstarted, o, marks, Budget.elapsed,
    Except.map]

/-- The world after questions for the links of some pages, one after the other. -/
def afterLinks {ν : Type} (source : Source ω ν) (w : ω) (pages : List String) : ω :=
  pages.foldl (fun w page => ((source.linksOn page).runIn w).2) w

theorem Searching.nodup_done (h : Searching links start stop done s) : done.Nodup := by
  have hkeys := s.parents.nodup
  rw [← OrderedMap.keys, h.keys_eq] at hkeys
  exact hkeys.of_append_left

theorem Searching.ncard_reachable (h : Searching links start stop done s) (hs : s.frontier = []) :
    {p | Reachable links start p}.ncard = s.expanded := by
  have hset : {p | Reachable links start p} = (done.toFinset : Set String) := by
    ext p
    simp [h.mem_done_iff hs]
  rw [hset, Set.ncard_coe_finset, List.toFinset_card_of_nodup h.nodup_done, h.expanded_eq]

/-- Pages in an order in which a search may look at them: none comes twice, none is nearer than one
before, and all are nearer than `stop`, if that can be reached. -/
structure InOrder (links : String → List String) (start stop : String) (pages : List String) :
    Prop where
  nodup : pages.Nodup
  reachable : ∀ p ∈ pages, Reachable links start p
  sorted : pages.Pairwise fun p q => distance links start p ≤ distance links start q
  nearer : Reachable links start stop →
    ∀ p ∈ pages, distance links start p < distance links start stop

/-- How many and which pages a search has looked at that comes out as `o`. -/
structure Accounts (links : String → List String) (start stop : String) (pages : List String)
    (o : Outcome τ) : Prop where
  expanded : o.expanded = pages.length
  found : o.status = .found → ∀ p, Reachable links start p →
    distance links start p + 2 ≤ distance links start stop → p ∈ pages
  exhausted : o.status = .frontierExhausted → ∀ p, p ∈ pages ↔ Reachable links start p
  missed : o.status = .deadlineExceeded → ∀ p ∈ pages, stop ∉ links p

theorem Searching.inOrder (h : Searching links start stop done s) :
    InOrder links start stop done where
  nodup := h.nodup_done
  reachable p hp := h.discovered.reachable p (h.keys_eq ▸ List.mem_append_left _ hp)
  sorted := (List.pairwise_append.mp h.sorted).1
  nearer := by
    intro hstop p hp
    by_contra hge
    have hfrontier := (List.pairwise_append.mp h.sorted).2.2 p hp
    exact h.unseen (h.complete_of_le hfrontier hstop (not_lt.mp hge))

/-- The next page of the frontier is in order, too. -/
theorem Searching.inOrder_next (h : Searching links start stop done s)
    (hs : s.frontier = page :: rest) : InOrder links start stop (done ++ [page]) := by
  have hkeys : s.parents.keys = done ++ page :: rest := hs ▸ h.keys_eq
  have hsub : (done ++ [page]).Sublist s.parents.keys := by
    rw [hkeys]
    exact ((List.nil_sublist rest).cons_cons page).append_left done
  refine ⟨hsub.nodup s.parents.nodup_keys, ?_, h.discovered.sorted.sublist hsub, ?_⟩
  · exact fun p hp => h.discovered.reachable p (hsub.subset hp)
  · intro hstop p hp
    rcases List.mem_append.mp hp with hp | hp
    · exact h.inOrder.nearer hstop p hp
    · obtain rfl := List.mem_singleton.mp hp
      exact h.nearer_than_stop hs hstop

/-- When `stop` is found, all pages were looked at that are at least two links nearer. -/
theorem Searching.mem_done_of_found (h : Searching links start stop done s)
    (hs : s.frontier = page :: rest) (hlink : stop ∈ links page) {p : String}
    (hp : Reachable links start p)
    (hd : distance links start p + 2 ≤ distance links start stop) : p ∈ done := by
  have hstop := (h.noting hs).distance_of_new hlink h.unseen
  have hknown := h.complete hs hp (by omega)
  rw [h.keys_eq] at hknown
  rcases List.mem_append.mp hknown with hdone | hfrontier
  · exact hdone
  · have := h.frontier_le hs p hfrontier
    omega

/-- Time does not run out where the questions take none. -/
theorem inTime_of_still
    (hstill : ∀ title w, clock ((source.linksOn title).runIn w).2 = clock w)
    (h : budget.isExhausted (clock w) = false) : InTime source clock budget stop s w := by
  have hclock : ∀ y, Relation.ReflTransGen (Turn source stop) (s, w) y → clock y.2 = clock w := by
    intro y hrun
    induction hrun with
    | refl => rfl
    | tail _ hturn ih =>
      cases hturn with
      | @look _ _ v _ page _ _ _ hsource _ =>
        have hpage := hstill page v
        rw [hsource] at hpage
        exact hpage.trans ih
  intro t w' hrun
  rwa [hclock _ hrun]

/-- One turn in time either concludes the search, with a look at one page more or none, or looks at
one more page and goes on. -/
theorem search_step (hsource : Answers source links)
    (htime : budget.isExhausted (clock w) = false) (h : Searching links start stop done s) :
    (∃ o last, Concluded links start stop o ∧ Accounts links start stop (done ++ last) o ∧
      InOrder links start stop (done ++ last) ∧ last.length ≤ 1 ∧
      ∀ fuel, (search source clock budget start stop (fuel + 1) s).runIn w =
        (.ok o, afterLinks source w last)) ∨
    (∃ page t, Turn source stop (s, w) (t, afterLinks source w [page]) ∧
      Searching links start stop (done ++ [page]) t ∧
      ∀ fuel, (search source clock budget start stop (fuel + 1) s).runIn w =
        (search source clock budget start stop fuel t).runIn (afterLinks source w [page])) := by
  cases hs : s.frontier with
  | nil =>
    refine Or.inl ⟨_, [], ?_, ?_, ?_, Nat.zero_le 1, fun fuel => search_nil htime hs⟩
    · have hmissing : ¬ Reachable links start stop := by
        intro hstop
        apply h.unseen
        rw [h.keys_eq, hs, List.append_nil]
        exact (h.mem_done_iff hs).mpr hstop
      exact Or.inr ⟨rfl, hmissing, rfl, (h.ncard_reachable hs).symm⟩
    · rw [List.append_nil]
      exact ⟨h.expanded_eq, by rintro ⟨⟩, fun _ p => h.mem_done_iff hs, by rintro ⟨⟩⟩
    · rw [List.append_nil]
      exact h.inOrder
  | cons page rest =>
    have hw : (source.linksOn page).runIn w = (.ok (links page), afterLinks source w [page]) :=
      Prod.ext (hsource page w) rfl
    obtain ⟨b, t, hnote⟩ := exists_noteLinks stop page (links page) (s.next rest)
    cases b with
    | true =>
      have hn := (h.noting hs).noteLinks (fun _ hl => hl) hnote
      have hstop := mem_keys_noteLinks_found hnote
      obtain ⟨path, hpath, hshortest⟩ := exists_pathTo hn.discovered hstop
      refine Or.inl ⟨_, [page], Or.inl ⟨rfl, hn.discovered.reachable stop hstop, hshortest⟩, ?_,
        h.inOrder_next hs, le_rfl, fun fuel => search_found htime hs rfl hw hnote hpath⟩
      have hlink : stop ∈ links page := (noteLinks_found_iff hnote).mp rfl
      refine ⟨?_, fun _ p hp hd => ?_, by rintro ⟨⟩, by rintro ⟨⟩⟩
      · rw [hn.expanded_eq, List.length_append, List.length_singleton]
      · exact List.mem_append_left _ (h.mem_done_of_found hs hlink hp hd)
    | false =>
      exact Or.inr ⟨page, t, .look hs hw hnote, h.look hs hnote,
        fun fuel => search_turn htime hs rfl hw hnote⟩

/-- While the search looked at the pages, one after the other, there was time left before each. -/
def HadTime (source : Source ω String) (clock : ω → τ) (budget : Budget τ) (w : ω)
    (pages : List String) : Prop :=
  ∀ k < pages.length, budget.isExhausted (clock (afterLinks source w (pages.take k))) = false

theorem hadTime_nil : HadTime source clock budget w [] := fun k hk => absurd hk k.not_lt_zero

theorem HadTime.cons {pages : List String} (htime : budget.isExhausted (clock w) = false)
    (h : HadTime source clock budget (afterLinks source w [page]) pages) :
    HadTime source clock budget w (page :: pages) := by
  intro k hk
  cases k with
  | zero => exact htime
  | succ k => exact h k (Nat.lt_of_succ_lt_succ hk)

/-- A search looks at pages in order as long as it has time. Either it does not end with the steps
that it has, and has looked at one page a step, or it ends and comes out the same with more steps,
out of time or not. -/
theorem search_run {startedAt : τ} (hsource : Answers source links) (clock : ω → τ)
    (hstarted : budget.startedAt = some startedAt) (h : Searching links start stop done s)
    (fuel : Nat) (w : ω) :
    ∃ pages, InOrder links start stop (done ++ pages) ∧ HadTime source clock budget w pages ∧
      ((search source clock budget start stop fuel s).runIn w =
          (.error .unfinished, afterLinks source w pages) ∧ pages.length = fuel ∨
        ∃ o, (∀ more, fuel ≤ more → (search source clock budget start stop more s).runIn w =
            (.ok o, afterLinks source w pages)) ∧
          Accounts links start stop (done ++ pages) o ∧
          (Concluded links start stop o ∨ CutShort budget (clock (afterLinks source w pages)) o ∧
            ∃ t, Relation.ReflTransGen (Turn source stop) (s, w)
              (t, afterLinks source w pages))) := by
  induction fuel generalizing s w done with
  | zero =>
    refine ⟨[], ?_, hadTime_nil, Or.inl ⟨rfl, rfl⟩⟩
    rw [List.append_nil]
    exact h.inOrder
  | succ fuel ih =>
    have hmore {o : Outcome τ} {v : ω} (hrun : ∀ fuel,
        (search source clock budget start stop (fuel + 1) s).runIn w = (.ok o, v)) (more : Nat)
        (hle : fuel + 1 ≤ more) :
        (search source clock budget start stop more s).runIn w = (.ok o, v) := by
      obtain ⟨k, rfl⟩ := Nat.exists_eq_add_of_le' hle
      exact hrun (k + fuel)
    cases htime : budget.isExhausted (clock w) with
    | true =>
      obtain ⟨o, hcut, hexpanded, hrun⟩ :=
        search_deadline source start stop s hstarted htime
      refine ⟨[], ?_, hadTime_nil, Or.inr ⟨o, hmore hrun, ?_, Or.inr ⟨hcut, s, .refl⟩⟩⟩ <;>
        rw [List.append_nil]
      · exact h.inOrder
      · have hstatus := hcut.status
        refine ⟨hexpanded.trans h.expanded_eq, by simp [hstatus], by simp [hstatus], ?_⟩
        exact fun _ p hp hlink => h.unseen (h.closed p hp stop hlink)
    | false =>
      obtain ⟨o, last, hconcluded, haccounts, horder, hlast, hrun⟩ |
          ⟨page, t, hturn, hnext, hrun⟩ := search_step hsource htime h
      · refine ⟨last, horder, ?_, Or.inr ⟨o, hmore hrun, haccounts, Or.inl hconcluded⟩⟩
        intro k hk
        obtain rfl : k = 0 := by omega
        exact htime
      · obtain ⟨pages, horder, hhad, hend⟩ := ih hnext (afterLinks source w [page])
        rw [List.append_assoc, List.singleton_append] at horder hend
        refine ⟨page :: pages, horder, hhad.cons htime, ?_⟩
        rcases hend with ⟨hshort, hlength⟩ | ⟨o, hends, haccounts, hcase⟩
        · exact Or.inl ⟨(hrun fuel).trans hshort, by rw [List.length_cons, hlength]⟩
        · refine Or.inr ⟨o, ?_, haccounts, hcase.imp_right ?_⟩
          · intro more hle
            obtain ⟨k, rfl⟩ := Nat.exists_eq_add_of_le' hle
            exact (hrun (k + fuel)).trans (hends _ (Nat.le_add_left _ _))
          · rintro ⟨hcut, u, hturns⟩
            exact ⟨hcut, u, .head hturn hturns⟩

/-- A search that does not run out of steps comes out the same with more of them. -/
theorem search_concluded {startedAt : τ} (fuel : Nat) (hsource : Answers source links)
    (hstarted : budget.startedAt = some startedAt)
    (htime : InTime source clock budget stop s w) (h : Searching links start stop done s) :
    ((search source clock budget start stop fuel s).runIn w).1 = .error .unfinished ∨
    ∃ o w', Concluded links start stop o ∧
      ∀ more, fuel ≤ more →
        (search source clock budget start stop more s).runIn w = (.ok o, w') := by
  obtain ⟨pages, -, -, ⟨hshort, -⟩ | ⟨o, hends, -, hconcluded | ⟨hcut, t, hturns⟩⟩⟩ :=
    search_run hsource clock hstarted h fuel w
  · exact Or.inl (congrArg Prod.fst hshort)
  · exact Or.inr ⟨o, _, hconcluded, hends⟩
  · have hleft := htime t _ hturns
    rw [hcut.exhausted] at hleft
    cases hleft

/-- A search that does not end has not more steps than there are pages for it to look at. -/
theorem search_unfinished {startedAt : τ} (hsource : Answers source links)
    (hstarted : budget.startedAt = some startedAt) (h : Searching links start stop done s)
    {pages : Finset String}
    (hpages : ∀ p, Reachable links start p →
      (Reachable links start stop → distance links start p < distance links start stop) → p ∈ pages)
    (hshort : ((search source clock budget start stop fuel s).runIn w).1 = .error .unfinished) :
    fuel + done.length ≤ pages.card := by
  obtain ⟨fetched, horder, -, ⟨-, hlength⟩ | ⟨o, hends, -⟩⟩ :=
    search_run hsource clock hstarted h fuel w
  · have hsub : (done ++ fetched).toFinset ⊆ pages := by
      intro p hp
      rw [List.mem_toFinset] at hp
      exact hpages p (horder.reachable p hp) fun hstop => horder.nearer hstop p hp
    have hle := Finset.card_le_card hsub
    rw [List.toFinset_card_of_nodup horder.nodup, List.length_append] at hle
    omega
  · simp [hends fuel le_rfl] at hshort

end WikiGateway.Path

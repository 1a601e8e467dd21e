import Mathlib.Data.List.Perm.Basic
import Mathlib.Data.Rat.Floor
import WikiGateway.Instant.Exact
import WikiGateway.Ledger.Statistics
import WikiGateway.Proofs.Ledger.Changes
import WikiGateway.Proofs.Ledger.Ranking

/-! The terms used most are told from the uses alone: which term was used when, in whatever order
the uses were recorded. Those used most of late are told from the late uses. -/
namespace WikiGateway

/-- A ranking is that of the terms that were used; how others are counted does not matter. -/
theorem topTerms_congr {counts other : OrderedMap Int}
    (h : (counts.filter fun _ n => decide (0 < n)).entries.Perm
      (other.filter fun _ n => decide (0 < n)).entries) (limit : Int) :
    topTerms counts limit = topTerms other limit := by
  have hused (c : OrderedMap Int) :
      topTerms (c.filter fun _ n => decide (0 < n)) limit = topTerms c limit := by
    have htwice : (c.filter fun _ n => decide (0 < n)).filter (fun _ n => decide (0 < n)) =
        c.filter fun _ n => decide (0 < n) := by
      refine OrderedMap.ext ?_
      simp only [OrderedMap.filter, List.filter_filter, Bool.and_self]
    rw [topTerms_eq, topTerms_eq, ranking, htwice, ranking]
  rw [← hused counts, ← hused other]
  exact (isTop_topTerms _ limit).unique ((isTop_topTerms _ limit).of_perm h)

namespace Ledger

variable {τ : Type}

/-- The uses in some series: the terms with the times at which they were used. -/
def usesOf (series : OrderedMap (List τ)) : List (String × τ) :=
  series.entries.flatMap fun e => e.2.map fun t => (e.1, t)

/-- The uses of terms that a ledger holds. -/
def uses (l : Ledger τ) : List (String × τ) := usesOf l.terms

/-- A term was used as often as its series says, and one without a series never. -/
theorem countP_usesOf (series : OrderedMap (List τ)) (term : String) :
    (usesOf series).countP (fun u => u.1 = term) = ((series.find? term).getD []).length := by
  obtain ⟨es, hes⟩ := series
  simp only [usesOf, OrderedMap.find?]
  induction es with
  | nil => rfl
  | cons e es ih =>
    obtain ⟨hnew, hes⟩ := List.nodup_cons.mp hes
    rw [List.flatMap_cons, List.countP_append, ih hes, List.countP_map, lookup_entry]
    by_cases hterm : term = e.1
    · subst hterm
      rw [OrderedMap.lookup_eq_none hnew, if_pos rfl]
      simp [Function.comp_def]
    · have hother : e.1 ≠ term := fun heq => hterm heq.symm
      simp [Function.comp_def, hterm, hother]

section Counts

variable [Instant τ] {l l' : Ledger τ} {term : String} {n : Int}

/-- The counts that matter to a ranking are those of the uses. -/
theorem mem_counted_iff : (term, n) ∈ ((l.termCounts.map Int.ofNat).filter
      fun _ n => decide (0 < n)).entries ↔
    0 < n ∧ (l.uses.countP (fun u => u.1 = term) : Int) = n := by
  have hcounts : (l.termCounts.map Int.ofNat).find? term =
      (l.terms.find? term).map fun ts => (ts.length : Int) := by
    rw [OrderedMap.find?_map, termCounts, OrderedMap.find?_map, Option.map_map]
    rfl
  rw [OrderedMap.filter, List.mem_filter, ← OrderedMap.find?_eq_some_iff, hcounts, uses,
    countP_usesOf, decide_eq_true_iff, and_comm]
  refine and_congr_right fun hpos => ?_
  cases l.terms.find? term with
  | none => simpa using hpos.ne
  | some ts => simp

/-- Ledgers with the same uses have the same terms at the top. -/
theorem zeitgeist_congr (h : l.uses.Perm l'.uses) (limit : Int) :
    l.zeitgeist limit = l'.zeitgeist limit := by
  have hperm : ((l.termCounts.map Int.ofNat).filter fun _ n => decide (0 < n)).entries.Perm
      ((l'.termCounts.map Int.ofNat).filter fun _ n => decide (0 < n)).entries := by
    refine (List.perm_ext_iff_of_nodup (OrderedMap.nodup _).of_map
      (OrderedMap.nodup _).of_map).mpr ?_
    rintro ⟨term, n⟩
    rw [mem_counted_iff, mem_counted_iff, h.countP_eq]
  rw [zeitgeist, zeitgeist, topTerms_congr hperm]

end Counts

/-- The uses after a change, of those before it. -/
def noted (us : List (String × τ)) : Change τ → List (String × τ)
  | .term term now => us ++ [(term, now)]
  | .terms series => usesOf series
  | .invocation .. | .invocations .. | .start .. => us

theorem perm_uses_changed (l : Ledger τ) (change : Change τ) :
    (l.changed change).uses.Perm (noted l.uses change) := by
  cases change with
  | term term now =>
    cases hseries : l.terms.find? term with
    | none =>
      have hnew : term ∉ l.terms.entries.map Prod.fst := by
        intro hmem
        obtain ⟨ts, hts⟩ := OrderedMap.mem_keys_iff.mp hmem
        rw [hseries] at hts
        cases hts
      have hentries : (l.recordTerm term now).terms.entries =
          l.terms.entries ++ [(term, [now])] := by
        rw [recordTerm, hseries]
        exact putEntry_new hnew [now]
      rw [changed, noted, uses, uses, usesOf, usesOf, hentries, List.flatMap_append]
      exact .refl _
    | some ts =>
      rw [changed, recordTerm, hseries]
      exact OrderedMap.perm_flatMap_insert hseries List.map_append
  | terms series => exact .refl _
  | invocation method now =>
    rw [changed, recordInvocation]
    cases l.invocations.find? method <;> exact .refl _
  | invocations series => exact .refl _
  | start time => exact .refl _

theorem noted_perm {us us' : List (String × τ)} (h : us.Perm us') (change : Change τ) :
    (noted us change).Perm (noted us' change) := by
  cases change with
  | term term now => exact h.append_right _
  | terms series => exact .refl _
  | invocation method now => exact h
  | invocations series => exact h
  | start time => exact h

/-- The uses after a history are those recorded and restored in it. -/
theorem perm_uses_changedBy (l : Ledger τ) (changes : List (Change τ)) :
    (l.changedBy changes).uses.Perm (changes.foldl noted l.uses) := by
  have hrun (us : List (String × τ)) (hus : l.uses.Perm us) :
      (l.changedBy changes).uses.Perm (changes.foldl noted us) := by
    induction changes generalizing l us with
    | nil => exact hus
    | cons change changes ih =>
      exact ih (l.changed change) _ ((perm_uses_changed l change).trans (noted_perm hus change))
  exact hrun l.uses (.refl _)

section Exact

variable [LinearOrder τ]

/-- The ledger without the times up to one, that one included. A term stays, though all its times
may be gone. -/
def forget (l : Ledger τ) (time : τ) : Ledger τ where
  start := l.start
  methods := l.methods
  invocations := l.invocations.map fun ts => ts.filter fun t => ¬ t ≤ time
  terms := l.terms.map fun ts => ts.filter fun t => ¬ t ≤ time

theorem uses_forget (l : Ledger τ) (time : τ) :
    (l.forget time).uses = l.uses.filter fun u => ¬ u.2 ≤ time := by
  have hterms : (l.forget time).terms.entries =
    l.terms.entries.map fun e => (e.1, e.2.filter fun t => ¬ t ≤ time) := rfl
  rw [uses, uses, usesOf, usesOf, hterms, List.flatMap_map, List.filter_flatMap]
  refine List.flatMap_congr fun e _ => ?_
  rw [List.filter_map]
  rfl

variable [Field τ] [FloorSemiring τ]

/-- What is left of old times is what is counted after them. -/
theorem termCounts_forget (l : Ledger τ) (time : τ) :
    (l.forget time).termCounts = l.termCounts (some time) := by
  have hcount (ts : List τ) :
      (ts.filter fun t => ¬ t ≤ time).length = Timestamps.countAfter (some time) ts := by
    simp only [Timestamps.countAfter, Instant.exact_lt, not_le, List.countP_eq_length_filter]
  refine OrderedMap.ext ?_
  simp only [termCounts, forget, OrderedMap.map, List.map_map, Function.comp_def, ← hcount]
  rfl

/-- The terms used most of late are those used most in the ledger without its old times. -/
theorem trending_eq_zeitgeist (l : Ledger τ) (window limit : Int) (now : τ) :
    l.trending window limit now = .ok ((l.forget (now - window)).zeitgeist limit) := by
  rw [trending, zeitgeist]
  split
  · rfl
  · rw [termCounts_forget]
    rfl

/-- The terms used most of late are those used most in the ledger without its times up to the
window. Both depend on nothing but which terms were used when, and a ledger holds the uses recorded
in its history, or recorded since the last ones that were restored, with those. -/
theorem statistics_of_uses (window limit : Int) (now : τ) :
    (∀ l : Ledger τ,
      l.trending window limit now = .ok ((l.forget (now - window)).zeitgeist limit)) ∧
    (∀ l l' : Ledger τ, l.uses.Perm l'.uses →
      l.zeitgeist limit = l'.zeitgeist limit ∧
        l.trending window limit now = l'.trending window limit now) ∧
    ∀ (start : τ) (methods : List String) (history : List (Change τ)),
      ((opened start methods).changedBy history).uses.Perm (history.foldl noted []) := by
  refine ⟨fun l => trending_eq_zeitgeist l window limit now, fun l l' h => ⟨?_, ?_⟩, ?_⟩
  · exact zeitgeist_congr h limit
  · have hlate : (l.forget (now - window)).uses.Perm (l'.forget (now - window)).uses := by
      rw [uses_forget, uses_forget]
      exact h.filter _
    rw [trending_eq_zeitgeist, trending_eq_zeitgeist, zeitgeist_congr hlate limit]
  · intro start methods history
    exact perm_uses_changedBy (opened start methods) history

end Exact

/-- Uses as they were recorded, and the same ones in a ledger that held others before some of them
were restored. -/
theorem statistics_of_uses_restored :
    let recorded : Ledger ℚ :=
      (opened 0).changedBy [.term "Ann" 1, .term "Bob" 2, .invocation "search" 3, .term "Ann" 40]
    let restored : Ledger ℚ := (opened 7).changedBy [.term "Cat" 8,
      .terms (.ofList [("Dan", []), ("Bob", [2]), ("Ann", [40])]), .start 0, .term "Ann" 1]
    recorded.uses.Perm restored.uses ∧ recorded.zeitgeist 5 = restored.zeitgeist 5 ∧
      recorded.trending 30 5 41 = restored.trending 30 5 41 := by
  intro recorded restored
  obtain ⟨-, hstatistics, hhistory⟩ := statistics_of_uses (τ := ℚ) 30 5 41
  have hrecorded := hhistory 0 entryPoints
    [.term "Ann" 1, .term "Bob" 2, .invocation "search" 3, .term "Ann" 40]
  have hrestored := hhistory 7 entryPoints [.term "Cat" 8,
    .terms (.ofList [("Dan", []), ("Bob", [2]), ("Ann", [40])]), .start 0, .term "Ann" 1]
  have hsame : [("Ann", (1 : ℚ)), ("Bob", 2), ("Ann", 40)].Perm
    [("Bob", 2), ("Ann", 40), ("Ann", 1)] := by decide
  have hperm : recorded.uses.Perm restored.uses := hrecorded.trans (hsame.trans hrestored.symm)
  exact ⟨hperm, hstatistics recorded restored hperm⟩

end Ledger

end WikiGateway

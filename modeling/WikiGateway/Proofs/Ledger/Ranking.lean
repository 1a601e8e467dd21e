import Mathlib.Data.List.Perm.Subperm
import Mathlib.Data.Prod.Lex
import WikiGateway.Ledger.Ranking
import WikiGateway.Proofs.Named

/-! The terms at the top of a ranking, as what is at the top determines them. -/
namespace WikiGateway

variable {counts other : OrderedMap Int} {limit : Int} {a b : String} {top : List String}

/-- A term that was used at all. -/
def IsUsed (counts : OrderedMap Int) (term : String) : Prop :=
  ∃ n, counts.find? term = some n ∧ 0 < n

/-- One term comes before another one: it was used more often, or as often and its text comes
first. -/
def Outranks (counts : OrderedMap Int) (a b : String) : Prop :=
  ∃ m n, counts.find? a = some m ∧ counts.find? b = some n ∧ (n < m ∨ m = n ∧ a < b)

/-- The terms at the top of the ranking: as many as are asked for and were used, in order, and none
that is left out comes before one of them. -/
structure IsTop (counts : OrderedMap Int) (limit : Int) (top : List String) : Prop where
  nodup : top.Nodup
  length : (top.length : Int) = min (max limit 0) (counts.filter fun _ n => decide (0 < n)).size
  used : ∀ term ∈ top, IsUsed counts term
  ranked : top.Pairwise (Outranks counts)
  best : ∀ term, IsUsed counts term → term ∉ top → ∀ kept ∈ top, ¬ Outranks counts term kept

theorem Outranks.asymm (h : Outranks counts a b) : ¬ Outranks counts b a := by
  obtain ⟨m, n, ha, hb, hlt⟩ := h
  rintro ⟨n', m', hb', ha', hlt'⟩
  obtain rfl : m = m' := Option.some.inj (ha.symm.trans ha')
  obtain rfl : n = n' := Option.some.inj (hb.symm.trans hb')
  rcases hlt with hlt | ⟨rfl, hlt⟩ <;> rcases hlt' with hlt' | ⟨heq, hlt'⟩
  · omega
  · omega
  · omega
  · exact hlt.asymm hlt'

theorem outranks_or_outranks (ha : IsUsed counts a) (hb : IsUsed counts b) (hne : a ≠ b) :
    Outranks counts a b ∨ Outranks counts b a := by
  obtain ⟨m, hm, -⟩ := ha
  obtain ⟨n, hn, -⟩ := hb
  rcases lt_trichotomy m n with hlt | heq | hgt
  · exact .inr ⟨n, m, hn, hm, .inl hlt⟩
  · rcases lt_or_gt_of_ne hne with hlt | hgt
    · exact .inl ⟨m, n, hm, hn, .inr ⟨heq, hlt⟩⟩
    · exact .inr ⟨n, m, hn, hm, .inr ⟨heq.symm, hgt⟩⟩
  · exact .inl ⟨m, n, hm, hn, .inl hgt⟩

/-- There is only one top of a ranking. -/
theorem IsTop.unique {xs ys : List String} (h : IsTop counts limit xs)
    (h' : IsTop counts limit ys) : xs = ys := by
  have hlength : xs.length = ys.length := by
    have := h.length.trans h'.length.symm
    omega
  have hperm : xs.Perm ys := by
    by_cases hsub : xs ⊆ ys
    · exact (List.subperm_of_subset h.nodup hsub).perm_of_length_le hlength.ge
    · obtain ⟨term, hterm, hleft⟩ : ∃ term ∈ xs, term ∉ ys := by
        simpa [List.subset_def] using hsub
      have hsub' : ys ⊆ xs := by
        intro kept hkept
        by_contra hnot
        have hne : term ≠ kept := fun heq => hleft (heq ▸ hkept)
        rcases outranks_or_outranks (h.used term hterm) (h'.used kept hkept) hne with hout | hout
        · exact h'.best term (h.used term hterm) hleft kept hkept hout
        · exact h.best kept (h'.used kept hkept) hnot term hterm hout
      exact ((List.subperm_of_subset h'.nodup hsub').perm_of_length_le hlength.le).symm
  exact hperm.eq_of_pairwise (fun a b _ _ hab hba => absurd hba hab.asymm) h.ranked h'.ranked

/-- Where a counted term stands in the ranking. -/
def standing (e : String × Int) : Int ×ₗ String := toLex (-e.2, e.1)

theorem standing_le_iff {x y : String × Int} :
    standing x ≤ standing y ↔ y.2 < x.2 ∨ x.2 = y.2 ∧ x.1 ≤ y.1 := by
  rw [standing, standing, Prod.Lex.toLex_le_toLex, Int.neg_lt_neg_iff, Int.neg_inj]

theorem ranksBefore_iff (x y : String × Int) :
    ranksBefore x y = true ↔ standing x ≤ standing y := by
  rw [standing_le_iff]
  simp only [ranksBefore, Bool.or_eq_true, Bool.and_eq_true, decide_eq_true_eq, beq_iff_eq]

theorem outranks_of_standing_le {x y : String × Int} (hx : x ∈ counts.entries)
    (hy : y ∈ counts.entries) (hle : standing x ≤ standing y) (hne : x.1 ≠ y.1) :
    Outranks counts x.1 y.1 := by
  refine ⟨x.2, y.2, OrderedMap.find?_eq_some_iff.mpr hx, OrderedMap.find?_eq_some_iff.mpr hy, ?_⟩
  exact (standing_le_iff.mp hle).imp_right fun h => ⟨h.1, lt_of_le_of_ne h.2 hne⟩

/-- The counted terms that were used, as they are ranked. -/
def ranking (counts : OrderedMap Int) : List (String × Int) :=
  (counts.filter fun _ n => decide (0 < n)).entries.mergeSort ranksBefore

theorem perm_ranking (counts : OrderedMap Int) :
    (ranking counts).Perm (counts.filter fun _ n => decide (0 < n)).entries :=
  List.mergeSort_perm _ _

theorem nodup_ranking (counts : OrderedMap Int) : ((ranking counts).map Prod.fst).Nodup :=
  ((perm_ranking counts).map Prod.fst).nodup_iff.mpr (OrderedMap.nodup_keys _)

theorem mem_ranking_iff {e : String × Int} :
    e ∈ ranking counts ↔ e ∈ counts.entries ∧ 0 < e.2 := by
  rw [(perm_ranking counts).mem_iff, OrderedMap.filter, List.mem_filter, decide_eq_true_iff]

theorem isUsed_iff_mem_ranking {term : String} :
    IsUsed counts term ↔ term ∈ (ranking counts).map Prod.fst := by
  rw [List.mem_map]
  constructor
  · rintro ⟨n, hfind, hpos⟩
    exact ⟨(term, n), mem_ranking_iff.mpr ⟨OrderedMap.find?_eq_some_iff.mp hfind, hpos⟩, rfl⟩
  · rintro ⟨e, hmem, rfl⟩
    obtain ⟨hentry, hpos⟩ := mem_ranking_iff.mp hmem
    exact ⟨e.2, OrderedMap.find?_eq_some_iff.mpr hentry, hpos⟩

theorem pairwise_ranking (counts : OrderedMap Int) :
    ((ranking counts).map Prod.fst).Pairwise (Outranks counts) := by
  have hstanding : (ranking counts).Pairwise fun x y => standing x ≤ standing y :=
    pairwise_mergeSort_of_key standing ranksBefore_iff _
  have hdistinct := List.pairwise_map.mp (nodup_ranking counts)
  refine List.pairwise_map.mpr ((hstanding.and hdistinct).imp_of_mem ?_)
  intro x y hx hy ⟨hle, hne⟩
  exact outranks_of_standing_le (mem_ranking_iff.mp hx).1 (mem_ranking_iff.mp hy).1 hle hne

theorem topTerms_eq (counts : OrderedMap Int) (limit : Int) :
    topTerms counts limit = ((ranking counts).map Prod.fst).take limit.toNat := rfl

/-- What is selected is the top of the ranking. -/
theorem isTop_topTerms (counts : OrderedMap Int) (limit : Int) :
    IsTop counts limit (topTerms counts limit) where
  nodup := (nodup_ranking counts).sublist (List.take_sublist _ _)
  length := by
    have hsize : ((ranking counts).map Prod.fst).length =
        (counts.filter fun _ n => decide (0 < n)).size := by
      rw [List.length_map, (perm_ranking counts).length_eq, OrderedMap.size]
    rw [topTerms_eq, List.length_take, hsize]
    omega
  used term hterm := isUsed_iff_mem_ranking.mpr (List.mem_of_mem_take hterm)
  ranked := (pairwise_ranking counts).sublist (List.take_sublist _ _)
  best term hterm hleft kept hkept := by
    have hsplit := pairwise_ranking counts
    rw [← List.take_append_drop limit.toNat ((ranking counts).map Prod.fst),
      List.pairwise_append] at hsplit
    have hmem := isUsed_iff_mem_ranking.mp hterm
    rw [← List.take_append_drop limit.toNat ((ranking counts).map Prod.fst),
      List.mem_append] at hmem
    exact (hsplit.2.2 kept hkept term (hmem.resolve_left hleft)).asymm

/-- What is at the top does not depend on the order in which the terms are written down. -/
theorem IsTop.of_perm (hperm : other.entries.Perm counts.entries) (h : IsTop counts limit top) :
    IsTop other limit top := by
  have hfind : other.find? = counts.find? := by
    funext term
    refine Option.ext fun n => ?_
    rw [OrderedMap.find?_eq_some_iff, OrderedMap.find?_eq_some_iff, hperm.mem_iff]
  have hsize : (other.filter fun _ n => decide (0 < n)).size =
      (counts.filter fun _ n => decide (0 < n)).size := (hperm.filter _).length_eq
  have hused : IsUsed other = IsUsed counts := by
    funext term
    rw [IsUsed, IsUsed, hfind]
  have houtranks : Outranks other = Outranks counts := by
    funext a b
    rw [Outranks, Outranks, hfind]
  exact ⟨h.nodup, hsize ▸ h.length, hused ▸ h.used, houtranks ▸ h.ranked,
    hused ▸ houtranks ▸ h.best⟩

/-- The terms selected are those at the top of the ranking, and nothing else is there; they do not
depend on the order in which the terms are written down, and more of them begin with the same
ones. -/
theorem topTerms_ranking (counts : OrderedMap Int) (limit : Int) :
    (∀ top, topTerms counts limit = top ↔ IsTop counts limit top) ∧
    (∀ other : OrderedMap Int, other.entries.Perm counts.entries →
      topTerms other limit = topTerms counts limit) ∧
    ∀ larger, limit ≤ larger → topTerms counts limit <+: topTerms counts larger := by
  refine ⟨fun top => ⟨?_, fun h => (isTop_topTerms counts limit).unique h⟩, ?_, ?_⟩
  · rintro rfl
    exact isTop_topTerms counts limit
  · intro other hperm
    exact (isTop_topTerms other limit).unique ((isTop_topTerms counts limit).of_perm hperm)
  · intro larger hle
    rw [topTerms_eq, topTerms_eq]
    exact List.take_prefix_take_left (by omega)

example : topTerms (.ofList [("b", 2), ("a", 2), ("d", 0), ("c", 3)]) 2 = ["c", "a"] := by cbv

end WikiGateway

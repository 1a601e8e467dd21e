import Mathlib.Data.List.Perm.Basic
import WikiGateway.Ledger.Timestamps

/-! Sorting and searching: whatever the comparisons say, sorting keeps all items; and where they put
the items in a row, halving finds the place at which a test ceases to hold. -/
namespace WikiGateway

namespace Sorting

variable {α : Type} {lt : α → α → Bool}

theorem settled?_perm {first second rest : List α} (h : settled? first second = some rest) :
    rest.Perm (first ++ second) := by
  unfold settled? at h
  split at h
  · cases h
    simp
  · cases h
    simp
  · cases h
    exact List.perm_append_singleton _ _
  · cases h

/-- Items that are taken from the start of a list. -/
theorem take_perm (n : Nat) (items taken rest : List α) :
    ((items.take n).reverse ++ taken ++ (items.drop n ++ rest)).Perm
      (taken ++ (items ++ rest)) := by
  have hsplit : items.take n ++ items.drop n = items := List.take_append_drop n items
  calc (items.take n).reverse ++ taken ++ (items.drop n ++ rest)
      |>.Perm (taken ++ items.take n ++ (items.drop n ++ rest)) :=
        ((List.reverse_perm _).append_right taken |>.trans List.perm_append_comm).append_right _
    _ = taken ++ (items ++ rest) := by
        rw [List.append_assoc, ← List.append_assoc (items.take n), hsplit]

theorem take_perm_second (n : Nat) (first items taken : List α) :
    ((items.take n).reverse ++ taken ++ (first ++ items.drop n)).Perm (taken ++ (first ++ items)) :=
  (List.perm_append_comm.append_left _).trans
    ((take_perm n items taken first).trans (List.perm_append_comm.append_left _))

theorem cons_perm_second (y : α) (first second taken : List α) :
    (y :: taken ++ (first ++ second)).Perm (taken ++ (first ++ y :: second)) :=
  List.perm_middle.symm.trans (List.perm_middle.symm.append_left taken)

/-- However two lists are merged, nothing is lost and nothing comes in. -/
theorem mergeLoop_perm (lt : α → α → Bool) (late : Bool) (pace : Pace) (eagerness : Nat)
    (first second taken : List α) :
    (mergeLoop lt late pace eagerness first second taken).1.Perm (taken ++ (first ++ second)) := by
  fun_induction mergeLoop lt late pace eagerness first second taken with
  | case1 pace eagerness first second taken rest hrest =>
    exact (List.reverse_perm taken).append (settled?_perm hrest)
  | case2 eagerness taken x xs y ys m n hlt _ ih => exact ih.trans (cons_perm_second y _ ys taken)
  | case3 eagerness taken x xs y ys m n hlt _ ih => exact ih.trans List.perm_middle.symm
  | case4 eagerness taken x xs y ys before hside n taken' first' rest hrest =>
    exact ((List.reverse_perm taken').append (settled?_perm hrest)).trans (take_perm n _ _ _)
  | case5 eagerness taken x xs y ys before hside n taken' first' _ pace eagerness' _ _ ih =>
    exact (ih.trans (cons_perm_second y first' ys taken')).trans (take_perm n _ _ _)
  | case6 eagerness taken x xs y ys before hside n taken' second' rest hrest =>
    exact ((List.reverse_perm taken').append (settled?_perm hrest)).trans (take_perm_second n _ _ _)
  | case7 eagerness taken x xs y ys before hside n taken' second' _ pace eagerness' _ _ ih =>
    exact (ih.trans List.perm_middle.symm).trans (take_perm_second n (x :: xs) (y :: ys) taken)
  | case8 pace eagerness taken first second =>
    rw [List.append_assoc]
    exact (List.reverse_perm taken).append_right _

/-- What is before and what is after the items that are merged stays where it is. -/
theorem framed_perm {n m : Nat} {a b merged : List α}
    (h : merged.Perm (a.drop n ++ b.reverse.drop m)) :
    (a.take n ++ merged ++ (b.reverse.take m).reverse).Perm (a ++ b) := by
  have hend : (b.reverse.drop m ++ (b.reverse.take m).reverse).Perm b := by
    refine ((List.reverse_perm _).symm.append_right _).trans (.of_eq ?_)
    rw [← List.reverse_append, List.take_append_drop, List.reverse_reverse]
  have hmiddle : a.take n ++ (a.drop n ++ b.reverse.drop m) ++ (b.reverse.take m).reverse =
      a ++ (b.reverse.drop m ++ (b.reverse.take m).reverse) := by
    rw [← List.append_assoc (a.take n), List.take_append_drop, List.append_assoc]
  exact (((h.append_left _).append_right _).trans (.of_eq hmiddle)).trans (hend.append_left a)

theorem merge_perm (lt : α → α → Bool) (eagerness : Nat) (a b : List α) :
    (merge lt eagerness a b).1.Perm (a ++ b) := by
  unfold merge
  split
  · simp
  · rename_i y ys
    dsimp only
    split
    · exact .refl _
    · rename_i x xs hdrop
      have hlast := congrArg List.reverse hdrop
      rw [List.reverse_reverse] at hlast
      split
      · split
        · exact .refl _
        · rename_i z zs hrest
          have hmerged := mergeLoop_perm lt true (.single 0 0) eagerness (x :: xs).reverse zs [z]
          refine framed_perm (hmerged.trans ?_)
          have hback := congrArg List.reverse hrest
          rw [List.reverse_reverse] at hback
          rw [hlast, hback]
          exact (cons_perm_second z _ zs []).trans
            ((List.reverse_perm (z :: zs)).symm.append_left _)
      · split
        · exact .refl _
        · refine framed_perm ((List.reverse_perm _).trans ((mergeLoop_perm ..).trans ?_))
          rw [hlast]
          have hswap (l : List α) : (l ++ xs).Perm (xs ++ l) := List.perm_append_comm
          exact ((hswap _).cons x).trans ((List.reverse_perm (x :: xs)).symm.append_right _)

theorem join_perm {lt : α → α → Bool} {eagerness eagerness' : Nat} {last before joined : Run α}
    (h : join lt eagerness last before = (joined, eagerness')) :
    joined.items.Perm (last.items ++ before.items) := by
  have hmerge := merge_perm lt eagerness before.items last.items
  cases h
  exact hmerge.trans List.perm_append_comm

theorem collapse_perm (lt : α → α → Bool) (power : Nat) (last : Run α) (runs : List (Run α))
    (eagerness : Nat) : ((collapse lt power last runs eagerness).1.flatMap (·.items)).Perm
      (last.items ++ runs.flatMap (·.items)) := by
  fun_induction collapse lt power last runs eagerness with
  | case1 last eagerness => exact .refl _
  | case2 last before runs eagerness hpower joined eagerness' hjoin ih =>
    rw [List.flatMap_cons, ← List.append_assoc]
    exact ih.trans ((join_perm hjoin).append_right _)
  | case3 last before runs eagerness hpower => exact .refl _

theorem mergeAll_perm (lt : α → α → Bool) (count eagerness : Nat) (runs : List (Run α)) :
    (mergeAll lt count eagerness runs).Perm (runs.flatMap (·.items)) := by
  fun_induction mergeAll lt count eagerness runs with
  | case1 count eagerness c b a runs hlonger joined eagerness' hjoin ih =>
    refine ih.trans ?_
    simp only [List.flatMap_cons]
    rw [← List.append_assoc b.items]
    exact ((join_perm hjoin).append_right _).append_left _
  | case2 count eagerness c b a runs hlonger joined eagerness' hjoin ih =>
    refine ih.trans ?_
    simp only [List.flatMap_cons]
    rw [← List.append_assoc c.items]
    exact (join_perm hjoin).append_right _
  | case3 count eagerness b a =>
    rw [List.flatMap_cons, List.flatMap_cons, List.flatMap_nil, List.append_nil]
    exact (merge_perm ..).trans List.perm_append_comm
  | case4 count eagerness runs => exact (List.reverse_perm runs).flatMap_right _

theorem boundary_le (late : Bool) (holds : Nat → Bool) {lo hi : Nat} (h : lo ≤ hi) :
    boundary late holds lo hi ≤ hi := by
  fun_induction boundary late holds lo hi with
  | case1 lo hi hlt mid hmid ih =>
    have hle : mid + 1 ≤ hi := by
      simp only [mid]
      split <;> omega
    exact ih hle
  | case2 lo hi hlt mid hmid ih =>
    have hle : lo ≤ mid ∧ mid ≤ hi := by
      simp only [mid]
      split <;> omega
    exact Nat.le_trans (ih hle.1) hle.2
  | case3 lo hi hlt => exact h

theorem insertSorted_perm (lt : α → α → Bool) (xs : Array α) (x : α) :
    (insertSorted lt xs x).toList.Perm (x :: xs.toList) := by
  have hplace := boundary_le true (fun i => xs[i]?.any fun y => !lt x y) (Nat.zero_le xs.size)
  rw [insertSorted, Array.insertIdxIfInBounds, dif_pos hplace, Array.toList_insertIdx]
  exact List.perm_insertIdx x xs.toList hplace

theorem foldl_insertSorted_perm (lt : α → α → Bool) (items : List α) (xs : Array α) :
    (items.foldl (insertSorted lt) xs).toList.Perm (xs.toList ++ items) := by
  induction items generalizing xs with
  | nil => simp
  | cons x items ih =>
    refine (ih _).trans (((insertSorted_perm lt xs x).append_right items).trans ?_)
    exact List.perm_middle.symm

theorem leadingRun_pos (lt : α → α → Bool) (x : α) (xs : List α) :
    0 < (leadingRun lt (x :: xs)).1 := by
  cases xs with
  | nil => exact Nat.one_pos
  | cons y ys =>
    rw [leadingRun]
    split <;> exact Nat.succ_pos _

/-- The first run is made of the items at the start of the list. -/
theorem firstRun_perm (lt : α → α → Bool) (least : Nat) (xs : List α) :
    ∃ n, (leadingRun lt xs).1 ≤ n ∧ (firstRun lt least xs).Perm (xs.take n) := by
  rcases hrun : leadingRun lt xs with ⟨n, descends⟩
  refine ⟨n + (least - n), Nat.le_add_right _ _, ?_⟩
  rw [firstRun, hrun, List.take_add]
  refine (foldl_insertSorted_perm ..).trans (.append_right _ ?_)
  rw [List.toList_toArray]
  cases descends with
  | true => exact List.reverse_perm _
  | false => exact .refl _

theorem runsOf_perm (lt : α → α → Bool) (n place : Nat) (runs : List (Run α)) (eagerness : Nat)
    (xs : List α) : (runsOf lt n place runs eagerness xs).Perm (runs.flatMap (·.items) ++ xs) := by
  fun_induction runsOf lt n place runs eagerness xs with
  | case1 place runs eagerness =>
    rw [List.append_nil]
    exact mergeAll_perm lt _ eagerness runs
  | case2 place runs eagerness x xs items runs' eagerness' hcollapse ih =>
    have hruns : (runs'.flatMap (·.items)).Perm (runs.flatMap (·.items)) := by
      split at hcollapse
      · cases hcollapse
        exact .refl _
      · rename_i last runs
        have hperm := collapse_perm lt (borderPower last.place last.items.length items.length n)
          last runs eagerness
        rw [hcollapse] at hperm
        exact hperm
    have hitems : (items ++ xs.drop (items.length - 1)).Perm (x :: xs) := by
      obtain ⟨m, hm, hfirst⟩ := firstRun_perm lt (minRun n) (x :: xs)
      have hpos := leadingRun_pos lt x xs
      have hlength : items.length = min m (xs.length + 1) := by
        rw [hfirst.length_eq, List.length_take, List.length_cons]
      have htake : (x :: xs).take m = (x :: xs).take items.length := by
        rw [List.take_eq_take_iff, hlength, List.length_cons]
        omega
      have hdrop : xs.drop (items.length - 1) = (x :: xs).drop items.length := by
        rw [List.drop_cons (by omega)]
      rw [hdrop]
      refine (hfirst.append_right _).trans (.of_eq ?_)
      rw [htake, List.take_append_drop]
    refine ih.trans ?_
    rw [List.flatMap_cons, List.append_assoc]
    exact (List.perm_append_comm_assoc ..).trans (hruns.append hitems)

/-- Sorting keeps all items, even where some cannot be compared. -/
theorem sort_perm (lt : α → α → Bool) (xs : List α) : (sort lt xs).Perm xs :=
  runsOf_perm lt xs.length 0 [] longStretch xs

/-- Halving finds the place before which a test holds and from which on it does not. -/
theorem boundary_eq (late : Bool) {holds : Nat → Bool} {lo hi n : Nat} (hlo : lo ≤ n) (hhi : n ≤ hi)
    (hbefore : ∀ i, i < n → holds i = true) (hfrom : ∀ i, n ≤ i → i < hi → holds i = false) :
    boundary late holds lo hi = n := by
  fun_induction boundary late holds lo hi with
  | case1 lo hi hlt mid hmid ih =>
    have hmem : mid < hi := by
      simp only [mid]
      split <;> omega
    have hn : mid < n := by
      by_contra hge
      have hnot := hfrom mid (by omega) hmem
      simp [hnot] at hmid
    exact ih hn hhi hfrom
  | case2 lo hi hlt mid hmid ih =>
    have hmem : lo ≤ mid ∧ mid < hi := by
      simp only [mid]
      split <;> omega
    have hn : n ≤ mid := by
      by_contra hgt
      exact hmid (hbefore mid (by omega))
    exact ih hlo hn fun i hi hlt => hfrom i hi (by omega)
  | case3 lo hi hlt => omega

/-- Where a test that holds of an item holds of all before it, it holds of as many at the start as
pass it at all. -/
theorem test_getElem_iff {test : α → Bool} {xs : List α}
    (h : xs.Pairwise fun a b => test b = true → test a = true) {i : Nat} (hi : i < xs.length) :
    test xs[i] = true ↔ i < xs.countP test := by
  induction xs generalizing i with
  | nil => simp at hi
  | cons x xs ih =>
    obtain ⟨hx, hxs⟩ := List.pairwise_cons.mp h
    by_cases hpass : test x = true
    · rw [List.countP_cons_of_pos hpass]
      cases i with
      | zero => simp [hpass]
      | succ i =>
        have hrest := ih hxs (by simpa using hi)
        simpa using hrest
    · have hnone : (x :: xs).countP test = 0 := by
        rw [List.countP_eq_zero]
        intro b hb
        rcases List.mem_cons.mp hb with rfl | hb
        · exact hpass
        · exact fun htest => hpass (hx b hb htest)
      have hfail := List.countP_eq_zero.mp hnone _ (List.getElem_mem hi)
      simp [hnone, hfail]

end Sorting

end WikiGateway

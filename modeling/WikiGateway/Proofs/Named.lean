import Mathlib.Data.List.Nodup
import Mathlib.Data.String.Basic
import WikiGateway.Named

/-! Texts in order and without repetition. -/
namespace WikiGateway

/-- What is sorted by a key is in the order of the keys. -/
theorem pairwise_mergeSort_of_key {α κ : Type} [LinearOrder κ] {before : α → α → Bool} (key : α → κ)
    (h : ∀ a b, before a b = true ↔ key a ≤ key b) (xs : List α) :
    (xs.mergeSort before).Pairwise fun a b => key a ≤ key b := by
  have hsorted : (xs.mergeSort before).Pairwise fun a b => before a b = true := by
    refine List.pairwise_mergeSort (fun a b c hab hbc => ?_) (fun a b => ?_) xs
    · exact (h a c).mpr (((h a b).mp hab).trans ((h b c).mp hbc))
    · rw [Bool.or_eq_true, h, h]
      exact le_total (key a) (key b)
  exact hsorted.imp fun hab => (h _ _).mp hab

theorem perm_sortTexts (ss : List String) : (sortTexts ss).Perm ss := List.mergeSort_perm ss _

theorem mem_sortTexts {ss : List String} {s : String} : s ∈ sortTexts ss ↔ s ∈ ss :=
  (perm_sortTexts ss).mem_iff

theorem pairwise_le_sortTexts (ss : List String) : (sortTexts ss).Pairwise (· ≤ ·) :=
  pairwise_mergeSort_of_key id (fun _ _ => decide_eq_true_iff) ss

/-- Texts without repetition are in strict order once they are sorted. -/
theorem pairwise_lt_sortTexts {ss : List String} (h : ss.Nodup) :
    (sortTexts ss).Pairwise (· < ·) := by
  have hdistinct : (sortTexts ss).Nodup := (perm_sortTexts ss).nodup_iff.mpr h
  exact (pairwise_le_sortTexts ss).imp₂ (fun a b hle hne => lt_of_le_of_ne hle hne) hdistinct

variable {α : Type} [BEq α] [LawfulBEq α]

theorem nodup_eraseDups (xs : List α) : xs.eraseDups.Nodup := by
  induction hlength : xs.length using Nat.strong_induction_on generalizing xs with
  | _ n ih =>
    cases xs with
    | nil => exact List.nodup_nil
    | cons x xs =>
      rw [List.eraseDups_cons]
      have hshorter : (xs.filter fun y => !y == x).length < n := by
        have hle := List.length_filter_le (fun y => !y == x) xs
        rw [List.length_cons] at hlength
        omega
      refine List.nodup_cons.mpr ⟨?_, ih _ hshorter _ rfl⟩
      intro hmem
      have hpasses := (List.mem_filter.mp (List.mem_eraseDups.mp hmem)).2
      rw [beq_self_eq_true] at hpasses
      cases hpasses

/-- Where nothing repeats there is nothing to take out. -/
theorem eraseDups_eq_self {xs : List α} (h : xs.Nodup) : xs.eraseDups = xs := by
  induction xs with
  | nil => rfl
  | cons x xs ih =>
    obtain ⟨hnew, hxs⟩ := List.nodup_cons.mp h
    have hkept : (xs.filter fun y => !y == x) = xs := by
      refine List.filter_eq_self.mpr fun y hy => ?_
      have hne : y ≠ x := fun heq => hnew (heq ▸ hy)
      rw [beq_eq_false_iff_ne.mpr hne, Bool.not_false]
    rw [List.eraseDups_cons, hkept, ih hxs]

theorem eraseDups_append_cons {x : α} {xs : List α} (h : x ∈ xs) (ys : List α) :
    (xs ++ x :: ys).eraseDups = (xs ++ ys).eraseDups := by
  have hpresent : xs.contains x = true := List.contains_iff_mem.mpr h
  rw [List.eraseDups_append, List.eraseDups_append, List.cons_removeAll, hpresent]
  rfl

end WikiGateway

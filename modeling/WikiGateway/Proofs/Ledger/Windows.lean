import WikiGateway.Instant.Exact
import WikiGateway.Ledger.Statistics
import WikiGateway.Proofs.Sorting

/-! How many times lie in a window, and the search for the window in which most of them lie. -/
namespace WikiGateway

namespace Timestamps

theorem countP_add_countP {α : Type} (p q : α → Bool) (xs : List α) :
    xs.countP q + xs.countP (fun a => p a && !q a) =
      xs.countP p + xs.countP fun a => !p a && q a := by
  induction xs with
  | nil => rfl
  | cons x xs ih =>
    simp only [List.countP_cons]
    cases p x <;> cases q x <;> simp <;> omega

theorem countP_and_not_eq_zero {α : Type} {p q : α → Bool} {xs : List α}
    (h : ∀ x ∈ xs, p x = true → q x = true) : xs.countP (fun x => p x && !q x) = 0 := by
  rw [List.countP_eq_zero]
  intro x hx
  have hpq := h x hx
  cases hp : p x <;> simp_all

variable {τ : Type} [Ranked τ] {ts : List τ}

theorem sort_perm (ts : List τ) : (sort ts).Perm ts := by
  rw [sort]
  split
  · exact List.mergeSort_perm ts Ranked.le
  · exact Sorting.sort_perm Ranked.lt ts

variable {κ : Type} [LinearOrder κ] {rank : τ → κ} {S : Set τ}

/-- The times in a set are compared by their ranks. -/
structure RankedBy (rank : τ → κ) (S : Set τ) : Prop where
  le_iff : ∀ a ∈ S, ∀ b ∈ S, Ranked.le a b = true ↔ rank a ≤ rank b
  lt_iff : ∀ a ∈ S, ∀ b ∈ S, Ranked.lt a b = true ↔ rank a < rank b

theorem pairwise_sort (h : RankedBy rank S) (hts : ∀ t ∈ ts, t ∈ S) :
    (sort ts).Pairwise fun a b => rank a ≤ rank b := by
  have hordered : ts.all isOrdered = true := by
    rw [List.all_eq_true]
    exact fun t ht => (h.le_iff t (hts t ht) t (hts t ht)).mpr le_rfl
  have hmap : (ts.mergeSort Ranked.le).map rank = (ts.map rank).mergeSort fun a b => a ≤ b := by
    refine List.map_mergeSort fun a ha b hb => ?_
    rw [Bool.eq_iff_iff, h.le_iff a (hts a ha) b (hts b hb), decide_eq_true_iff]
  have hsorted : ((ts.map rank).mergeSort fun a b => a ≤ b).Pairwise fun a b => a ≤ b := by
    have htrans : ∀ a b c : κ, decide (a ≤ b) → decide (b ≤ c) → decide (a ≤ c) := by
      simpa using fun a b c => le_trans
    have htotal : ∀ a b : κ, decide (a ≤ b) || decide (b ≤ a) := by simpa using le_total
    exact (List.pairwise_mergeSort htrans htotal (ts.map rank)).imp of_decide_eq_true
  rw [sort, if_pos hordered]
  rw [← hmap] at hsorted
  exact List.pairwise_map.mp hsorted

/-- What times are compared with: one of the set, or something that no time is before. -/
def IsBound (S : Set τ) (t : τ) : Prop := t ∈ S ∨ ∀ a, Ranked.lt a t = false

theorem countBefore_sort (h : RankedBy rank S) (hts : ∀ t ∈ ts, t ∈ S) {t : τ} (ht : IsBound S t) :
    countBefore (sort ts).toArray t = ts.countP (Ranked.lt · t) := by
  have hbefore : (sort ts).Pairwise fun a b => Ranked.lt b t = true → Ranked.lt a t = true := by
    rcases ht with ht | ht
    · refine (pairwise_sort h hts).imp_of_mem fun ha hb hle hlt => ?_
      have hS {x : τ} (hx : x ∈ sort ts) : x ∈ S := hts x ((sort_perm ts).mem_iff.mp hx)
      rw [h.lt_iff _ (hS ha) t ht]
      exact hle.trans_lt ((h.lt_iff _ (hS hb) t ht).mp hlt)
    · exact List.pairwise_of_forall fun a b hlt => by simp [ht] at hlt
  rw [← (sort_perm ts).countP_eq, countBefore]
  refine Sorting.boundary_eq true (Nat.zero_le _) List.countP_le_length (fun i hi => ?_)
    fun i hle hi => ?_
  · have hlength := Nat.lt_of_lt_of_le hi List.countP_le_length
    simpa [hlength] using (Sorting.test_getElem_iff hbefore hlength).mpr hi
  · have hlength : i < (sort ts).length := hi
    have hfail := mt (Sorting.test_getElem_iff hbefore hlength).mp (Nat.not_lt.mpr hle)
    simpa [hlength] using hfail

/-- The times from `t` to before `u`. -/
theorem countBefore_sub (h : RankedBy rank S) (hts : ∀ t ∈ ts, t ∈ S) {t u : τ} (ht : IsBound S t)
    (hu : IsBound S u) :
    countBefore (sort ts).toArray u - countBefore (sort ts).toArray t =
      ts.countP fun x => !Ranked.lt x t && Ranked.lt x u := by
  have hnested : (∀ x ∈ ts, Ranked.lt x t = true → Ranked.lt x u = true) ∨
      ∀ x ∈ ts, Ranked.lt x u = true → Ranked.lt x t = true := by
    rcases ht with ht | ht
    · rcases hu with hu | hu
      · rcases le_total (rank t) (rank u) with hle | hle
        · left
          intro x hx hlt
          rw [h.lt_iff x (hts x hx) u hu]
          exact ((h.lt_iff x (hts x hx) t ht).mp hlt).trans_le hle
        · right
          intro x hx hlt
          rw [h.lt_iff x (hts x hx) t ht]
          exact ((h.lt_iff x (hts x hx) u hu).mp hlt).trans_le hle
      · right
        simp [hu]
    · left
      simp [ht]
  have hcount := countP_add_countP (Ranked.lt · t) (Ranked.lt · u) ts
  rw [countBefore_sort h hts ht, countBefore_sort h hts hu]
  rcases hnested with hsub | hsub
  · have hnone := countP_and_not_eq_zero hsub
    omega
  · have hnone := countP_and_not_eq_zero hsub
    simp only [Bool.and_comm] at hnone hcount ⊢
    omega

end Timestamps

namespace Ledger

variable {τ : Type} [Instant τ] {times : Array τ} {width last start : τ} {n peak : Nat}

/-- The time so many seconds after the start, each second added to the time before. -/
def secondsAfter (start : τ) : Nat → τ
  | 0 => start
  | n + 1 => Instant.add (secondsAfter start n) Instant.second

/-- How many of the sorted times are counted in the window from `t`. -/
def inWindow (times : Array τ) (width t : τ) : Nat :=
  Timestamps.countBefore times (Instant.add t width) - Timestamps.countBefore times t

/-- The seconds after the start pass a time with the `n`-th. -/
structure Passes (start last : τ) (n : Nat) : Prop where
  before : ∀ k < n, Ranked.le (secondsAfter start k) last = true
  passed : Ranked.le (secondsAfter start n) last = false

/-- The most times in any of the first `n` windows. -/
def mostIn (times : Array τ) (width start : τ) (n : Nat) : Nat :=
  ((List.range n).map fun k => inWindow times width (secondsAfter start k)).foldl max 0

theorem secondsAfter_add (start : τ) (i k : Nat) :
    secondsAfter start (i + k) = secondsAfter (secondsAfter start i) k := by
  induction k with
  | zero => rfl
  | succ k ih => rw [← Nat.add_assoc, secondsAfter, ih, secondsAfter]

theorem secondsAfter_succ (start : τ) (k : Nat) :
    secondsAfter start (k + 1) = secondsAfter (Instant.add start Instant.second) k := by
  rw [Nat.add_comm, secondsAfter_add]
  rfl

/-- Where a second makes no difference, the seconds stay at the start. -/
theorem secondsAfter_of_stuck (h : Instant.add start Instant.second = start) (k : Nat) :
    secondsAfter start k = start := by
  induction k with
  | zero => rfl
  | succ k ih => rw [secondsAfter, ih, h]

/-- Seconds that come back to a time go in circles from there on. -/
theorem exists_lt_secondsAfter_eq {i j : Nat} (hij : i < j)
    (h : secondsAfter start i = secondsAfter start j) (k : Nat) :
    ∃ m < j, secondsAfter start k = secondsAfter start m := by
  induction k using Nat.strong_induction_on with
  | _ k ih =>
    rcases Nat.lt_or_ge k j with hk | hk
    · exact ⟨k, hk, rfl⟩
    · obtain ⟨d, rfl⟩ := Nat.exists_eq_add_of_le hk
      obtain ⟨m, hm, hsame⟩ := ih (i + d) (by omega)
      refine ⟨m, hm, ?_⟩
      rw [secondsAfter_add, ← h, ← secondsAfter_add, hsame]

theorem passes_zero (h : Ranked.le start last = false) : Passes start last 0 where
  before k hk := absurd hk k.not_lt_zero
  passed := h

theorem Passes.tail (h : Passes start last (n + 1)) :
    Passes (Instant.add start Instant.second) last n where
  before k hk := by
    rw [← secondsAfter_succ]
    exact h.before (k + 1) (by omega)
  passed := by
    rw [← secondsAfter_succ]
    exact h.passed

theorem Passes.unique {m : Nat} (h : Passes start last n) (h' : Passes start last m) : n = m := by
  rcases lt_trichotomy n m with hlt | heq | hgt
  · have hbefore := h'.before n hlt
    simp [h.passed] at hbefore
  · exact heq
  · have hbefore := h.before m hgt
    simp [h'.passed] at hbefore

theorem Passes.exists_iff (h : Passes start last n) {P : Nat → Prop} :
    (∃ m, Passes start last m ∧ P m) ↔ P n := by
  constructor
  · rintro ⟨m, hm, hP⟩
    exact h.unique hm ▸ hP
  · exact fun hP => ⟨n, h, hP⟩

/-- If the steps suffice for the seconds to pass the last window, all windows before are searched. -/
theorem peakFrom_of_passes (h : Passes start last n) {steps : Nat} (hsteps : n ≤ steps)
    (peak : Nat) : peakFrom times width last steps start peak = some (((List.range n).map fun k =>
      inWindow times width (secondsAfter start k)).foldl max peak) := by
  induction n generalizing start steps peak with
  | zero =>
    have hpassed : Ranked.le start last = false := h.passed
    rw [peakFrom.eq_def, hpassed]
    rfl
  | succ n ih =>
    obtain ⟨steps, rfl⟩ := Nat.exists_eq_add_of_le' (Nat.one_le_of_lt hsteps)
    have hstart : Ranked.le start last = true := h.before 0 (Nat.succ_pos n)
    rw [peakFrom, if_pos hstart, ih h.tail (Nat.le_of_succ_le_succ hsteps), List.range_succ_eq_map,
      List.map_cons, List.foldl_cons, List.map_map]
    simp only [Function.comp_def, ← secondsAfter_succ]
    rfl

theorem peakFrom_eq_none (h : ∀ k, Ranked.le (secondsAfter start k) last = true)
    (steps peak : Nat) : peakFrom times width last steps start peak = none := by
  induction steps generalizing start peak with
  | zero =>
    have hstart : Ranked.le start last = true := h 0
    rw [peakFrom, if_pos hstart]
  | succ steps ih =>
    have hstart : Ranked.le start last = true := h 0
    rw [peakFrom, if_pos hstart]
    refine ih (fun k => ?_) _
    rw [← secondsAfter_succ]
    exact h (k + 1)

/-- Times of which the steps suffice for the seconds to pass any other, if ever they do. -/
class Stepped (τ : Type) [Instant τ] : Prop where
  le_steps {start last : τ} {n : Nat} : Passes start last n → n ≤ Instant.steps start last

theorem exists_passes_or (start last : τ) :
    (∃ n, Passes start last n) ∨ ∀ k, Ranked.le (secondsAfter start k) last = true := by
  by_cases hpassed : ∃ n, Ranked.le (secondsAfter start n) last = false
  · refine Or.inl ⟨Nat.find hpassed, fun k hk => ?_, Nat.find_spec hpassed⟩
    exact Bool.eq_true_of_not_eq_false (Nat.find_min hpassed hk)
  · right
    intro k
    exact Bool.eq_true_of_not_eq_false fun hk => hpassed ⟨k, hk⟩

theorem lt_foldl_max {xs : List Nat} {a b : Nat} :
    a < xs.foldl max b ↔ a < b ∨ ∃ x ∈ xs, a < x := by
  induction xs generalizing b with
  | nil => simp
  | cons x xs ih =>
    rw [List.foldl_cons, ih]
    simp only [List.mem_cons, exists_eq_or_imp, lt_max_iff]
    exact or_assoc

theorem mostIn_pos_iff : 0 < mostIn times width start n ↔
    ∃ k < n, 0 < inWindow times width (secondsAfter start k) := by
  simp [mostIn, lt_foldl_max]

theorem mostIn_eq_zero_iff : mostIn times width start n = 0 ↔
    ∀ k < n, inWindow times width (secondsAfter start k) = 0 := by
  rw [← not_iff_not, ← ne_eq, ← Nat.pos_iff_ne_zero, mostIn_pos_iff]
  simp [Nat.pos_iff_ne_zero]

/-- There is a window with the most times, and none with more. -/
theorem isGreatest_mostIn (h : 0 < n) :
    IsGreatest ((fun k => inWindow times width (secondsAfter start k)) '' {k | k < n})
      (mostIn times width start n) := by
  have hle : ∀ k < n, inWindow times width (secondsAfter start k) ≤ mostIn times width start n := by
    intro k hk
    by_contra hmore
    refine Nat.lt_irrefl (mostIn times width start n) (lt_foldl_max.mpr (Or.inr ?_))
    exact ⟨_, List.mem_map_of_mem (List.mem_range.mpr hk), Nat.not_le.mp hmore⟩
  refine ⟨?_, ?_⟩
  · by_contra hnone
    have hless : ∀ k < n,
        inWindow times width (secondsAfter start k) < mostIn times width start n := by
      intro k hk
      exact lt_of_le_of_ne (hle k hk) fun heq => hnone ⟨k, hk, heq⟩
    have hpos := Nat.zero_lt_of_lt (hless 0 h)
    have hpred : mostIn times width start n - 1 < mostIn times width start n := by omega
    rcases lt_foldl_max.mp hpred with hzero | ⟨m, hm, hlt⟩
    · exact absurd hzero (Nat.not_lt_zero _)
    · obtain ⟨k, hk, rfl⟩ := List.mem_map.mp hm
      have hk := hless k (List.mem_range.mp hk)
      omega
  · rintro m ⟨k, hk, rfl⟩
    exact hle k hk

end Ledger

end WikiGateway

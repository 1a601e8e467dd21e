import Mathlib.Data.Rat.Floor
import WikiGateway.Proofs.Ledger.Clock

/-! The peak load under a clock that never goes back. -/
namespace WikiGateway.Ledger

variable {τ : Type} [Field τ] [LinearOrder τ]

/-- How many times lie between two, the first included and the second not. -/
def within (ts : List τ) (t u : τ) : Nat := ts.countP fun x => t ≤ x ∧ x < u

/-- The windows that count begin whole seconds after the start: the first one, and those of which
all but the last second is over. -/
def Counts (start now : τ) (window : Int) (k : ℕ) : Prop :=
  k = 0 ∨ start + k ≤ now - (window - 1)

variable [FloorSemiring τ] [IsStrictOrderedRing τ] {l : Ledger τ} {start now : τ} {window : Int}
  {k : ℕ}

theorem counts_iff : Counts start now window k ↔ k ≤ ⌊now - (window - 1) - start⌋₊ := by
  rcases Nat.eq_zero_or_pos k with rfl | hk
  · simp [Counts]
  · rw [Nat.le_floor_iff' hk.ne', le_sub_iff_add_le', Counts]
    exact or_iff_right hk.ne'

/-- The last window that counts reaches beyond now. -/
theorem now_lt_last (start now : τ) (window : Int) :
    now < start + ⌊now - (window - 1) - start⌋₊ + window := by
  have hfloor := Nat.lt_floor_add_one (now - (window - 1) - start)
  linarith

/-- Whatever lies between the start and now, and in a span one second shorter than a window, lies in
a window that counts. -/
theorem exists_counts (start now : τ) (window : Int) (t : τ) :
    ∃ k, Counts start now window k ∧ ∀ x, start ≤ x → x ≤ now → t ≤ x → x < t + (window - 1) →
      start + k ≤ x ∧ x < start + k + window := by
  let last := ⌊now - (window - 1) - start⌋₊
  refine ⟨min ⌊t - start⌋₊ last, counts_iff.mpr (Nat.min_le_right _ _), ?_⟩
  intro x hstart hnow ht hend
  have hk : min ⌊t - start⌋₊ last ≤ ⌊x - start⌋₊ :=
    (Nat.min_le_left _ _).trans (Nat.floor_mono (sub_le_sub_right ht start))
  have hbegin := (Nat.le_floor_iff (sub_nonneg.mpr hstart)).mp hk
  refine ⟨le_sub_iff_add_le'.mp hbegin, ?_⟩
  rcases Nat.le_total ⌊t - start⌋₊ last with hle | hle
  · have hfloor := Nat.lt_floor_add_one (t - start)
    rw [Nat.min_eq_left hle]
    linarith
  · have hlast := now_lt_last start now window
    rw [Nat.min_eq_right hle]
    linarith

/-- All calls are between the start and now. -/
def Timely (l : Ledger τ) (now : τ) : Prop := ∀ t ∈ l.calls, l.start ≤ t ∧ t ≤ now

omit [FloorSemiring τ] in
/-- The first window of a young ledger holds all calls. -/
theorem within_first (h : l.Timely now) (hyoung : now - (window - 1) ≤ l.start) :
    within l.calls l.start (l.start + window) = l.calls.length := by
  rw [within, List.countP_eq_length]
  intro t ht
  obtain ⟨hstart, hnow⟩ := h t ht
  have hend : t < l.start + window := by linarith
  simp [hstart, hend]

theorem isGreatest_of_young (h : l.Timely now) (hyoung : now - (window - 1) ≤ l.start) :
    IsGreatest ((fun k : ℕ => within l.calls (l.start + k) (l.start + k + window)) ''
      {k | Counts l.start now window k}) l.calls.length := by
  refine ⟨⟨0, Or.inl rfl, ?_⟩, ?_⟩
  · rw [← within_first h hyoung]
    simp
  · rintro _ ⟨k, -, rfl⟩
    exact List.countP_le_length

/-- The peak load is the most calls in any window that counts, whether the ledger is younger than a
window or not. -/
theorem exists_isGreatest_peakLoad (h : l.Timely now) (window : Int) :
    ∃ peak, l.peakLoad window now = .ok peak ∧
      IsGreatest ((fun k : ℕ => within l.calls (l.start + k) (l.start + k + window)) ''
        {k | Counts l.start now window k}) peak := by
  have hwidth : (Instant.seconds? window : Option τ) = some (window : τ) := rfl
  have hback : (Instant.seconds? (window - 1) : Option τ) = some ((window - 1 : Int) : τ) := rfl
  have hcast : ((window - 1 : Int) : τ) = window - 1 := by push_cast; rfl
  rw [hcast] at hback
  rcases le_or_gt (now - (window - 1)) l.start with hyoung | hold
  · refine ⟨_, peakLoad_early hback (decide_eq_true hyoung), ?_⟩
    rw [length_timestamps]
    exact isGreatest_of_young h hyoung
  · have hlate : Ranked.le (Instant.sub now ((window : τ) - 1)) l.start = false :=
      decide_eq_false (not_le.mpr hold)
    refine ⟨_, peakLoad_of_passes hback hwidth hlate (passes_exact hold.le), ?_⟩
    have hmost : IsGreatest ((fun k : ℕ =>
          inWindow l.timestamps.toArray (window : τ) (secondsAfter l.start k)) ''
        {k | k < ⌊now - (window - 1) - l.start⌋₊ + 1})
        (mostIn l.timestamps.toArray (window : τ) l.start (⌊now - (window - 1) - l.start⌋₊ + 1)) :=
      isGreatest_mostIn (Nat.succ_pos _)
    have hcounts : {k | k < ⌊now - (window - 1) - l.start⌋₊ + 1} =
        {k | Counts l.start now window k} := by
      ext k
      exact Nat.lt_succ_iff.trans counts_iff.symm
    simp only [hcounts, inWindow_exact, secondsAfter_exact] at hmost
    exact hmost

namespace Clocked

variable {os : List (Occurrence τ)}

theorem timely_afterAll (hos : Forward os) (start : τ) (methods : List String) :
    ((opened start methods).afterAll os).ledger.Timely
      ((opened start methods).afterAll os).now := by
  intro t ht
  rw [start_afterAll]
  exact hos.callTimes_bounds (opened start methods) methods t
    ((perm_calls_opened start methods os).mem_iff.mp ht)

omit [IsStrictOrderedRing τ] in
theorem within_calls (start : τ) (methods : List String) (os : List (Occurrence τ)) (t u : τ) :
    within ((opened start methods).afterAll os).ledger.calls t u =
      within (callTimes methods start os) t u :=
  (perm_calls_opened start methods os).countP_eq _

end Clocked

/-- Under a clock that never goes back, the peak load of a ledger is the most calls that were made
in any window that begins whole seconds after the opening: in the first one, or in one of the others
of which all but the last second is over. -/
theorem isGreatest_peakLoad (window : Int) (start : τ) (methods : List String)
    {os : List (Occurrence τ)} (hos : Forward os) :
    let c := (Clocked.opened start methods).afterAll os
    let calls := callTimes methods start os
    ∃ peak, c.ledger.peakLoad window c.now = .ok peak ∧
      IsGreatest {n | ∃ k : ℕ, (k = 0 ∨ start + k ≤ c.now - (window - 1)) ∧
        within calls (start + k) (start + k + window) = n} peak := by
  intro c calls
  have hpeak := exists_isGreatest_peakLoad (Clocked.timely_afterAll hos start methods) window
  simp only [Clocked.within_calls, Clocked.start_afterAll] at hpeak
  exact hpeak

/-- Two calls less than three seconds apart, of which none of the windows has both, and one of a
method that there is not. -/
def twoCalls : List (Occurrence ℚ) :=
  [.wait (3 / 4), .call "search", .call "fly", .wait (5 / 2), .call "page", .wait 1]

theorem forward_twoCalls : Forward twoCalls := by
  intro span hspan
  simp only [twoCalls, List.mem_cons, Occurrence.wait.injEq, List.not_mem_nil, reduceCtorEq,
    false_or, or_false] at hspan
  obtain rfl | rfl | rfl := hspan <;> norm_num

theorem within_twoCalls : ∀ k : ℕ, k < 3 →
    within (callTimes ["search", "page"] 0 twoCalls) (0 + k) (0 + k + ((3 : Int) : ℚ)) = 1 := by
  decide +kernel

theorem isGreatest_peakLoad_twoCalls :
    let c := (Clocked.opened 0 ["search", "page"]).afterAll twoCalls
    let calls := callTimes ["search", "page"] 0 twoCalls
    Forward twoCalls ∧ c.ledger.peakLoad 3 c.now = .ok 1 ∧
    IsGreatest {n | ∃ k : ℕ, (k = 0 ∨ 0 + k ≤ c.now - (((3 : Int) : ℚ) - 1)) ∧
        within calls (0 + k) (0 + k + ((3 : Int) : ℚ)) = n} 1 := by
  intro c calls
  obtain ⟨peak, hpeak, hgreatest⟩ := isGreatest_peakLoad 3 0 ["search", "page"] forward_twoCalls
  obtain ⟨k, hcounts, hpeakAt⟩ := hgreatest.1
  have hlast : k < 3 := by
    have hnow : c.now - (((3 : Int) : ℚ) - 1) < 0 + (3 : ℕ) := by decide +kernel
    rcases hcounts with rfl | hk
    · decide
    · exact Nat.cast_lt.mp (lt_of_add_lt_add_left (hk.trans_lt hnow))
  obtain rfl : 1 = peak := (within_twoCalls k hlast).symm.trans hpeakAt
  exact ⟨forward_twoCalls, hpeak, hgreatest⟩

/-- Under a clock that never goes back, the peak load is at least the number of calls in any span
that is one second shorter than a window, wherever it begins, and it is the number of calls in some
span as long as a window. One of the windows that count has all calls of the seconds up to now. -/
theorem peakLoad_bursts (window : Int) (start : τ) (methods : List String)
    {os : List (Occurrence τ)} (hos : Forward os) :
    let c := (Clocked.opened start methods).afterAll os
    let calls := callTimes methods start os
    ∃ peak, c.ledger.peakLoad window c.now = .ok peak ∧
      (∀ t, within calls t (t + (window - 1)) ≤ peak) ∧
      (∃ t, within calls t (t + window) = peak) ∧
      ∃ k : ℕ, (k = 0 ∨ start + k ≤ c.now - (window - 1)) ∧
        within calls (start + k) (start + k + window) ≤ peak ∧
        ∀ t ∈ calls, c.now - (window - 1) ≤ t → start + k ≤ t ∧ t < start + k + window := by
  intro c calls
  have hcalls : ∀ t ∈ calls, start ≤ t ∧ t ≤ c.now :=
    hos.callTimes_bounds (Clocked.opened start methods) methods
  obtain ⟨peak, hpeak, hgreatest⟩ :=
    exists_isGreatest_peakLoad (Clocked.timely_afterAll hos start methods) window
  simp only [Clocked.within_calls, Clocked.start_afterAll] at hgreatest
  have hleast : ∀ k : ℕ, Counts start c.now window k →
      within calls (start + k) (start + k + window) ≤ peak := fun k hk =>
    hgreatest.2 ⟨k, hk, rfl⟩
  refine ⟨peak, hpeak, fun t => ?_, ?_, ?_⟩
  · obtain ⟨k, hcounts, hk⟩ := exists_counts start c.now window t
    refine le_trans (List.countP_mono_left ?_) (hleast k hcounts)
    intro x hx hspan
    obtain ⟨hfrom, hto⟩ := hcalls x hx
    obtain ⟨ht, hend⟩ := of_decide_eq_true hspan
    exact decide_eq_true (hk x hfrom hto ht hend)
  · obtain ⟨k, -, hk⟩ := hgreatest.1
    exact ⟨start + k, hk⟩
  · have hlast := now_lt_last start c.now window
    have hcounts : Counts start c.now window ⌊c.now - (window - 1) - start⌋₊ :=
      counts_iff.mpr le_rfl
    refine ⟨_, hcounts, hleast _ hcounts, ?_⟩
    intro t ht hnewest
    obtain ⟨hfrom, hto⟩ := hcalls t ht
    refine ⟨?_, hto.trans_lt hlast⟩
    rcases hcounts with hzero | hback
    · simpa [hzero] using hfrom
    · exact hback.trans hnewest

theorem peakLoad_bursts_twoCalls :
    let c := (Clocked.opened 0 ["search", "page"]).afterAll twoCalls
    let calls := callTimes ["search", "page"] 0 twoCalls
    Forward twoCalls ∧ within calls (3 / 4) (3 / 4 + ((3 : Int) : ℚ)) = 2 ∧
    ∃ peak, c.ledger.peakLoad 3 c.now = .ok peak ∧
      (∀ t, within calls t (t + (((3 : Int) : ℚ) - 1)) ≤ peak) ∧
      (∃ t, within calls t (t + ((3 : Int) : ℚ)) = peak) ∧
      ∃ k : ℕ, (k = 0 ∨ 0 + k ≤ c.now - (((3 : Int) : ℚ) - 1)) ∧
        within calls (0 + k) (0 + k + ((3 : Int) : ℚ)) ≤ peak ∧
        ∀ t ∈ calls, c.now - (((3 : Int) : ℚ) - 1) ≤ t →
          0 + k ≤ t ∧ t < 0 + k + ((3 : Int) : ℚ) :=
  ⟨forward_twoCalls, by decide +kernel, peakLoad_bursts 3 0 ["search", "page"] forward_twoCalls⟩

omit [FloorSemiring τ] in
/-- A window that counts goes on to count. -/
theorem Counts.later {later : τ} (h : Counts start now window k) (hle : now ≤ later) :
    Counts start later window k :=
  h.imp_right fun hback => hback.trans (sub_le_sub_right hle _)

omit [IsStrictOrderedRing τ] in
/-- No calls are lost. -/
theorem Clocked.within_calls_le {c : Clocked τ} (h : c.ledger.Complete)
    (later : List (Occurrence τ)) (t u : τ) :
    within c.ledger.calls t u ≤ within (c.afterAll later).ledger.calls t u := by
  have hcalls := (Clocked.perm_calls_afterAll h later).countP_eq fun x => t ≤ x ∧ x < u
  rw [List.countP_append] at hcalls
  exact (Nat.le_add_right _ _).trans hcalls.ge

/-- Under a clock that never goes back, the peak load never goes down, also when the ledger ceases
to be younger than a window. -/
theorem peakLoad_le_later (window : Int) (start : τ) (methods : List String)
    {os later : List (Occurrence τ)} (hos : Forward os) (hlater : Forward later) :
    let c := (Clocked.opened start methods).afterAll os
    let d := c.afterAll later
    ∃ peak peak', c.ledger.peakLoad window c.now = .ok peak ∧
      d.ledger.peakLoad window d.now = .ok peak' ∧ peak ≤ peak' := by
  intro c d
  have hcomplete : c.ledger.Complete :=
    Clocked.complete_afterAll (complete_opened start methods) os
  have hstart : d.ledger.start = c.ledger.start := Clocked.start_afterAll c later
  have htimely : d.ledger.Timely d.now := by
    have hall := Clocked.timely_afterAll (hos.append hlater) start methods
    rwa [Clocked.afterAll_append] at hall
  obtain ⟨peak, hpeak, hgreatest⟩ :=
    exists_isGreatest_peakLoad (Clocked.timely_afterAll hos start methods) window
  obtain ⟨peak', hpeak', hgreatest'⟩ := exists_isGreatest_peakLoad htimely window
  refine ⟨peak, peak', hpeak, hpeak', ?_⟩
  rw [hstart] at hgreatest'
  obtain ⟨k, hcounts, rfl⟩ := hgreatest.1
  calc within c.ledger.calls (c.ledger.start + k) (c.ledger.start + k + window)
      ≤ within d.ledger.calls (c.ledger.start + k) (c.ledger.start + k + window) :=
        Clocked.within_calls_le hcomplete later _ _
    _ ≤ peak' := hgreatest'.2 ⟨k, hcounts.later (hlater.now_le c), rfl⟩

/-- Asked before the second call, while the ledger is younger than a window, and again when it is
not. -/
theorem peakLoad_le_later_twoCalls :
    let c := (Clocked.opened 0 ["search", "page"]).afterAll (twoCalls.take 3)
    let d := c.afterAll (twoCalls.drop 3)
    Forward (twoCalls.take 3) ∧ Forward (twoCalls.drop 3) ∧
    c.now - (((3 : Int) : ℚ) - 1) ≤ 0 ∧ 0 < d.now - (((3 : Int) : ℚ) - 1) ∧
    ∃ peak peak', c.ledger.peakLoad 3 c.now = .ok peak ∧
      d.ledger.peakLoad 3 d.now = .ok peak' ∧ peak ≤ peak' := by
  have hos : Forward (twoCalls.take 3) :=
    fun span hmem => forward_twoCalls span (List.mem_of_mem_take hmem)
  have hlater : Forward (twoCalls.drop 3) :=
    fun span hmem => forward_twoCalls span (List.mem_of_mem_drop hmem)
  exact ⟨hos, hlater, by decide +kernel, by decide +kernel,
    peakLoad_le_later 3 0 ["search", "page"] hos hlater⟩

end WikiGateway.Ledger

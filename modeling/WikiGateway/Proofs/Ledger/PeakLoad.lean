import WikiGateway.Proofs.Decimal.Bits
import WikiGateway.Proofs.Decimal.Order
import WikiGateway.Proofs.Ledger.Windows

/-! The peak load, and when it counts the latest call. With exact times it always does. With doubles
the seconds may pass the last window too early, or never. -/
namespace WikiGateway.Ledger

variable {τ : Type}

section General

variable [Instant τ] {width : τ} {n : Nat} {l : Ledger τ} {window : Int} {back now : τ}

theorem peakLoad_early (hback : Instant.seconds? (window - 1) = some back)
    (hearly : Ranked.le (Instant.sub now back) l.start = true) :
    l.peakLoad window now = .ok l.timestamps.length := by
  simp only [peakLoad, span, hback, bind, Except.bind, hearly, if_true]
  rfl

theorem peakLoad_of_passes [Stepped τ] (hback : Instant.seconds? (window - 1) = some back)
    (hwidth : Instant.seconds? window = some width)
    (hlate : Ranked.le (Instant.sub now back) l.start = false)
    (hn : Passes l.start (Instant.sub now back) n) :
    l.peakLoad window now = .ok (mostIn l.timestamps.toArray width l.start n) := by
  have hfound : peakFrom l.timestamps.toArray width (Instant.sub now back)
      (Instant.steps l.start (Instant.sub now back)) l.start 0 =
        some (mostIn l.timestamps.toArray width l.start n) :=
    peakFrom_of_passes hn (Stepped.le_steps hn) 0
  simp only [peakLoad, span, hback, hwidth, bind, Except.bind, hlate, hfound]
  cases n with
  | zero =>
    have hpassed : Ranked.le l.start (Instant.sub now back) = false := hn.passed
    simp only [hpassed]
    rfl
  | succ n =>
    have hstart : Ranked.le l.start (Instant.sub now back) = true := hn.before 0 (Nat.succ_pos n)
    simp only [hstart]
    rfl

theorem peakLoad_unfinished (hback : Instant.seconds? (window - 1) = some back)
    (hwidth : Instant.seconds? window = some width)
    (hlate : Ranked.le (Instant.sub now back) l.start = false)
    (hnever : ∀ k, Ranked.le (secondsAfter l.start k) (Instant.sub now back) = true) :
    l.peakLoad window now = .error .unfinished := by
  have hnone : peakFrom l.timestamps.toArray width (Instant.sub now back)
      (Instant.steps l.start (Instant.sub now back)) l.start 0 = none :=
    peakFrom_eq_none hnever _ 0
  have hstart : Ranked.le l.start (Instant.sub now back) = true := hnever 0
  simp only [peakLoad, span, hback, hwidth, bind, Except.bind, hlate, hstart, hnone]
  rfl

theorem peakLoad_cases [Stepped τ] (hback : Instant.seconds? (window - 1) = some back)
    (hwidth : Instant.seconds? window = some width) (l : Ledger τ) (now : τ) :
    let last := Instant.sub now back
    (Ranked.le last l.start = true ∧ l.peakLoad window now = .ok l.timestamps.length) ∨
    (Ranked.le last l.start = false ∧ ∃ n, Passes l.start last n ∧
      l.peakLoad window now = .ok (mostIn l.timestamps.toArray width l.start n)) ∨
    (Ranked.le last l.start = false ∧ (∀ k, Ranked.le (secondsAfter l.start k) last = true) ∧
      l.peakLoad window now = .error .unfinished) := by
  intro last
  cases hearly : Ranked.le last l.start with
  | true => exact Or.inl ⟨rfl, peakLoad_early hback hearly⟩
  | false =>
    rcases exists_passes_or l.start last with ⟨n, hn⟩ | hnever
    · exact Or.inr (Or.inl ⟨rfl, n, hn, peakLoad_of_passes hback hwidth hearly hn⟩)
    · exact Or.inr (Or.inr ⟨rfl, hnever, peakLoad_unfinished hback hwidth hearly hnever⟩)

/-- The times at which the entry points were called, in no order. -/
def calls (l : Ledger τ) : List τ := l.invocations.entries.flatMap (·.2)

theorem length_timestamps (l : Ledger τ) : l.timestamps.length = l.calls.length :=
  (Timestamps.sort_perm l.calls).length_eq

end General

section Exact

variable [Field τ] [LinearOrder τ] [FloorSemiring τ] {l : Ledger τ} {now : τ} {window : Int}

theorem rankedBy_exact : Timestamps.RankedBy (id : τ → τ) .univ where
  le_iff := by simp
  lt_iff := by simp

theorem secondsAfter_exact (start : τ) (k : Nat) : secondsAfter start k = start + k := by
  induction k with
  | zero => simp [secondsAfter]
  | succ k ih => simp [secondsAfter, ih, add_assoc]

theorem inWindow_exact (l : Ledger τ) (width t : τ) :
    inWindow l.timestamps.toArray width t = l.calls.countP fun x => t ≤ x ∧ x < t + width := by
  have hcalls : ∀ x ∈ l.calls, x ∈ Set.univ := fun x _ => Set.mem_univ x
  have hsub := Timestamps.countBefore_sub rankedBy_exact hcalls (.inl (Set.mem_univ t))
    (.inl (Set.mem_univ (t + width)))
  refine hsub.trans (List.countP_congr fun x _ => ?_)
  simp

variable [IsStrictOrderedRing τ]

/-- Exact seconds pass every time. -/
theorem passes_exact {start last : τ} (h : start ≤ last) :
    Passes start last (⌊last - start⌋₊ + 1) where
  before k hk := by
    have hfloor : (k : τ) ≤ last - start :=
      (Nat.le_floor_iff (sub_nonneg.mpr h)).mp (Nat.lt_succ_iff.mp hk)
    simpa [secondsAfter_exact] using le_sub_iff_add_le'.mp hfloor
  passed := by
    have hfloor : last - start < (⌊last - start⌋₊ + 1 : Nat) := by
      exact_mod_cast Nat.lt_floor_add_one (last - start)
    simpa [secondsAfter_exact] using sub_lt_iff_lt_add'.mp hfloor

instance stepped_exact : Stepped τ where
  le_steps {start last n} h := by
    rcases le_or_gt start last with hle | hgt
    · exact (h.unique (passes_exact hle)).le
    · have hzero : Passes start last 0 := passes_zero (decide_eq_false (not_le.mpr hgt))
      exact (h.unique hzero).trans_le (Nat.zero_le _)

/-- With exact times a call that was made just now is in the last window. -/
theorem peakLoad_pos (hwindow : 1 ≤ window) (hnow : now ∈ l.calls) :
    ∃ peak, l.peakLoad window now = .ok peak ∧ 0 < peak := by
  have hwidth : (Instant.seconds? window : Option τ) = some (window : τ) := rfl
  have hback : (Instant.seconds? (window - 1) : Option τ) = some ((window - 1 : Int) : τ) := rfl
  cases hearly : Ranked.le (Instant.sub now ((window - 1 : Int) : τ)) l.start with
  | true =>
    refine ⟨_, peakLoad_early hback hearly, ?_⟩
    rw [length_timestamps]
    exact List.length_pos_of_mem hnow
  | false =>
    have hlate : l.start < now - ((window - 1 : Int) : τ) := not_le.mp (of_decide_eq_false hearly)
    have hpasses := passes_exact hlate.le
    refine ⟨_, peakLoad_of_passes hback hwidth hearly hpasses, ?_⟩
    rw [mostIn_pos_iff]
    refine ⟨⌊now - ((window - 1 : Int) : τ) - l.start⌋₊, Nat.lt_succ_self _, ?_⟩
    rw [inWindow_exact, List.countP_pos_iff]
    have hlast := hpasses.before _ (Nat.lt_succ_self _)
    have hnext := hpasses.passed
    simp only [secondsAfter_exact, Instant.exact_le, decide_eq_true_iff, decide_eq_false_iff_not,
      not_le] at hlast hnext ⊢
    push_cast at hlast hnext ⊢
    have hone : (1 : τ) ≤ window := by exact_mod_cast hwindow
    exact ⟨now, hnow, by linarith, by linarith⟩

end Exact

section Doubles

variable {l : Ledger Float}

/-- There are no more doubles than words that hold them, so the seconds come back to one. -/
theorem exists_secondsAfter_eq (start : Float) :
    ∃ i j, i < j ∧ j ≤ UInt64.size ∧ secondsAfter start i = secondsAfter start j := by
  have hcard : (Finset.range UInt64.size).card < (Finset.range (UInt64.size + 1)).card := by
    simp only [Finset.card_range, Nat.lt_succ_self]
  obtain ⟨i, hi, j, hj, hne, hbits⟩ := Finset.exists_ne_map_eq_of_card_lt_of_maps_to hcard
    (f := fun k => (secondsAfter start k).toBits.toNat)
    fun k _ => Finset.mem_coe.mpr (Finset.mem_range.mpr (UInt64.toNat_lt_size _))
  have hsame : secondsAfter start i = secondsAfter start j := Decimal.eq_of_bits hbits
  rcases Nat.lt_or_gt_of_ne hne with hij | hji
  · exact ⟨i, j, hij, Finset.mem_range_succ_iff.mp hj, hsame⟩
  · exact ⟨j, i, hji, Finset.mem_range_succ_iff.mp hi, hsame.symm⟩

instance stepped_doubles : Stepped Float where
  le_steps {start last n} h := by
    have hsize : Instant.steps start last = UInt64.size := rfl
    rw [hsize]
    by_contra hmany
    obtain ⟨i, j, hij, hj, hsame⟩ := exists_secondsAfter_eq start
    obtain ⟨m, hm, hn⟩ := exists_lt_secondsAfter_eq hij hsame n
    have hbefore := h.before m (by omega)
    rw [← hn, h.passed] at hbefore
    cases hbefore

/-- The doubles that are numbers. -/
def numbers : Set Float := {x | x.isNaN = false}

theorem rankedBy_doubles : Timestamps.RankedBy Decimal.rank numbers where
  le_iff _ ha _ hb := decide_eq_true_iff.trans (Decimal.le_iff_rank ha hb)
  lt_iff _ ha _ hb := decide_eq_true_iff.trans (Decimal.lt_iff_rank ha hb)

theorem isBound_double (t : Float) : Timestamps.IsBound numbers t := by
  cases hnan : t.isNaN with
  | false => exact Or.inl hnan
  | true => exact Or.inr fun a => decide_eq_false (Decimal.not_lt_of_isNaN (Or.inr hnan))

theorem inWindow_doubles (h : ∀ t ∈ l.calls, t.isNaN = false) (width t : Float) :
    inWindow l.timestamps.toArray width t =
      l.calls.countP fun x => !decide (x < t) && decide (x < t + width) :=
  Timestamps.countBefore_sub rankedBy_doubles h (isBound_double t) (isBound_double (t + width))

end Doubles

end WikiGateway.Ledger

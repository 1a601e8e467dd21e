import WikiGateway.Proofs.Decimal.Nearest

/-! The fewest digits of a double are a decimal that is rounded to it. -/
namespace WikiGateway.Decimal

open Float.Model Float.Model.UnpackedFloat

variable {x : Float} {s : Sign} {i : Interval} {q : ℚ} {m n d : ℕ} {e k p : ℤ}

/-- The interval around a double. -/
def around (m : ℕ) (e : ℤ) : Interval :=
  (Binary.mk m e (decide (m = 2 ^ 52 ∧ -1074 < e))).interval

theorem denominator_pos (m : ℕ) (e : ℤ) : 0 < (around m e).denominator :=
  Nat.pow_pos (by norm_num)

/-- The interval is given in quarters of a unit. -/
theorem quarters (m : ℕ) (e : ℤ) : (Nat.pow 2 (e - 2).toNat : ℕ) =
    (2 : ℚ) ^ e / 4 * (around m e).denominator := by
  have hpos : (0 : ℚ) < 2 ^ (2 - e).toNat := by positivity
  have hsplit : (2 : ℚ) ^ e / 4 = 2 ^ (e - 2).toNat / 2 ^ (2 - e).toNat := by
    have hneg : -(e - 2) = 2 - e := by omega
    rw [← hneg, ← zpow_eq_div (by norm_num), zpow_sub₀ (by norm_num)]
    norm_num
  have hden : ((around m e).denominator : ℚ) = 2 ^ (2 - e).toNat := by
    change ((Nat.pow 2 (2 - e).toNat : ℕ) : ℚ) = _
    rw [Nat.pow_eq]
    push_cast
    rfl
  rw [hsplit, hden, div_mul_cancel₀ _ hpos.ne', Nat.pow_eq]
  push_cast
  rfl

theorem value_eq (m : ℕ) (e : ℤ) :
    ((around m e).value : ℚ) = m * 2 ^ e * (around m e).denominator := by
  change ((4 * m * Nat.pow 2 (e - 2).toNat : ℕ) : ℚ) = _
  rw [Nat.cast_mul, quarters m e]
  push_cast
  ring

theorem high_eq (m : ℕ) (e : ℤ) :
    ((around m e).high : ℚ) = (m + 1 / 2) * 2 ^ e * (around m e).denominator := by
  change (((4 * m + 2) * Nat.pow 2 (e - 2).toNat : ℕ) : ℚ) = _
  rw [Nat.cast_mul, quarters m e]
  push_cast
  ring

theorem low_eq (hm : 0 < m) (e : ℤ) :
    ((around m e).low : ℚ) = (m - gapBelow m e) * 2 ^ e * (around m e).denominator := by
  change (((4 * m - if decide (m = 2 ^ 52 ∧ -1074 < e) then 1 else 2) *
    Nat.pow 2 (e - 2).toNat : ℕ) : ℚ) = _
  rw [Nat.cast_mul, quarters m e, gapBelow]
  split
  · rename_i hnarrow
    rw [if_pos (of_decide_eq_true hnarrow), Nat.cast_sub (by omega)]
    push_cast
    ring
  · rename_i hwide
    rw [if_neg (of_decide_eq_false (eq_false_of_ne_true hwide)), Nat.cast_sub (by omega)]
    push_cast
    ring

/-- Fractions compare as their cross products. -/
theorem cross_le {a b : ℕ} (hd : 0 < d) (hb : 0 < b) (ha : (a : ℚ) = q * b) :
    a * d ≤ n * b ↔ q ≤ n / d := by
  have hd' : (0 : ℚ) < d := by exact_mod_cast hd
  have hb' : (0 : ℚ) < b := by exact_mod_cast hb
  rw [le_div_iff₀ hd', ← mul_le_mul_iff_of_pos_right hb', ← Nat.cast_le (α := ℚ)]
  push_cast
  rw [ha, mul_right_comm]

theorem le_cross {a b : ℕ} (hd : 0 < d) (hb : 0 < b) (ha : (a : ℚ) = q * b) :
    n * b ≤ a * d ↔ n / d ≤ q := by
  have hd' : (0 : ℚ) < d := by exact_mod_cast hd
  have hb' : (0 : ℚ) < b := by exact_mod_cast hb
  rw [div_le_iff₀ hd', ← mul_le_mul_iff_of_pos_right hb', ← Nat.cast_le (α := ℚ)]
  push_cast
  rw [ha, mul_right_comm]

/-- What lies in the interval around a double is what is rounded to it. -/
theorem holds_iff (hm : 0 < m) (hd : 0 < d) :
    (around m e).holds n d = true ↔ RoundsTo (n / d) m e := by
  have hb := denominator_pos m e
  have hlow := cross_le (n := n) hd hb (low_eq hm e)
  have hhigh := le_cross (n := n) hd hb (high_eq m e)
  have hlow' := le_cross (n := n) hd hb (low_eq hm e)
  have hhigh' := cross_le (n := n) hd hb (high_eq m e)
  have hclosed : (around m e).closed = decide (m % 2 = 0) := rfl
  rw [Interval.holds, hclosed]
  by_cases heven : m % 2 = 0
  · rw [decide_eq_true heven, if_pos rfl]
    simp only [Bool.and_eq_true, decide_eq_true_iff, hlow, hhigh]
    exact ⟨fun h => ⟨h.1, h.2, by omega⟩, fun h => ⟨h.low, h.high⟩⟩
  · rw [decide_eq_false heven, if_neg Bool.false_ne_true]
    simp only [Bool.and_eq_true, decide_eq_true_iff, ← not_le, hlow', hhigh']
    rw [not_le, not_le]
    exact ⟨fun h => ⟨h.1.le, h.2.le, fun _ => h⟩, fun h => h.odd (by omega)⟩

theorem RoundsTo.of_lt (hlow : (m - gapBelow m e) * 2 ^ e < q) (hhigh : q < (m + 1 / 2) * 2 ^ e) :
    RoundsTo q m e :=
  ⟨hlow.le, hhigh.le, fun _ => ⟨hlow, hhigh⟩⟩

/-- A multiple of a power of ten as a fraction. -/
theorem multiple_eq (n : ℕ) (p : ℤ) :
    ((n * Nat.pow 10 p.toNat : ℕ) : ℚ) / (Nat.pow 10 (-p).toNat : ℕ) = n * 10 ^ p := by
  rw [Nat.pow_eq, Nat.pow_eq, zpow_eq_div (by norm_num)]
  push_cast
  rw [mul_div_assoc]

theorem pow_ten_pos (n : ℕ) : 0 < Nat.pow 10 n := Nat.pow_pos (by norm_num)

theorem holds_multiple_iff (hm : 0 < m) :
    (around m e).holds (n * Nat.pow 10 p.toNat) (Nat.pow 10 (-p).toNat) = true ↔
      RoundsTo (n * 10 ^ p) m e := by
  rw [holds_iff hm (pow_ten_pos _), multiple_eq]

/-- How often a power of ten fits into the value of the interval. -/
def Interval.below (i : Interval) (p : ℤ) : ℕ :=
  i.value * Nat.pow 10 (-p).toNat / (i.denominator * Nat.pow 10 p.toNat)

theorem onGrid_eq_some {a : Scientific} (h : i.onGrid p = some a) : a.exponent = p ∧
    (a.digits = i.below p ∨ a.digits = i.below p + 1) ∧
    i.holds (a.digits * Nat.pow 10 p.toNat) (Nat.pow 10 (-p).toNat) = true := by
  rw [Interval.onGrid] at h
  split at h
  · rename_i hlower
    rw [Bool.and_eq_true] at hlower
    obtain rfl := Option.some.inj h
    exact ⟨rfl, .inl rfl, hlower.1⟩
  · split at h
    · rename_i hupper
      obtain rfl := Option.some.inj h
      exact ⟨rfl, .inr rfl, hupper⟩
    · cases h

theorem onGrid_eq_none (h : i.onGrid p = none) :
    i.holds (i.below p * Nat.pow 10 p.toNat) (Nat.pow 10 (-p).toNat) = false ∧
      i.holds ((i.below p + 1) * Nat.pow 10 p.toNat) (Nat.pow 10 (-p).toNat) = false := by
  rw [Interval.onGrid] at h
  split at h
  · cases h
  · rename_i hlower
    split at h
    · cases h
    · rename_i hupper
      have hupper' := eq_false_of_ne_true hupper
      rw [hupper', Bool.not_false, Bool.or_true, Bool.and_true] at hlower
      exact ⟨eq_false_of_ne_true hlower, hupper'⟩

theorem below_bounds (m : ℕ) (e p : ℤ) : (around m e).below p * (10 : ℚ) ^ p ≤ m * 2 ^ e ∧
    m * 2 ^ e < ((around m e).below p + 1 : ℕ) * (10 : ℚ) ^ p := by
  have hb := denominator_pos m e
  have hsize : 0 < (around m e).denominator * Nat.pow 10 p.toNat :=
    Nat.mul_pos hb (pow_ten_pos _)
  have hmul (n : ℕ) : n * Nat.pow 10 p.toNat * (around m e).denominator =
      n * ((around m e).denominator * Nat.pow 10 p.toNat) := by
    rw [mul_assoc, mul_comm (Nat.pow 10 p.toNat)]
  constructor
  · rw [← multiple_eq, ← le_cross (pow_ten_pos _) hb (value_eq m e), hmul]
    exact Nat.div_mul_le_self _ _
  · rw [← multiple_eq, ← not_le, ← le_cross (pow_ten_pos _) hb (value_eq m e), not_le, hmul]
    exact (Nat.div_lt_iff_lt_mul hsize).mp (Nat.lt_succ_self _)

/-- Where the powers of ten lie closer together than the ends of the interval, one of their
multiples lies in it. -/
theorem exists_onGrid (hm : 0 < m) (h : (10 : ℚ) ^ p < (gapBelow m e + 1 / 2) * 2 ^ e) :
    ∃ a, (around m e).onGrid p = some a := by
  cases hgrid : (around m e).onGrid p with
  | some a => exact ⟨a, rfl⟩
  | none =>
    exfalso
    obtain ⟨hlower, hupper⟩ := onGrid_eq_none hgrid
    have hlower' : ¬ RoundsTo ((around m e).below p * 10 ^ p) m e := by
      rw [← holds_multiple_iff hm, hlower]
      exact Bool.false_ne_true
    have hupper' : ¬ RoundsTo (((around m e).below p + 1 : ℕ) * 10 ^ p) m e := by
      rw [← holds_multiple_iff hm, hupper]
      exact Bool.false_ne_true
    obtain ⟨hle, hlt⟩ := below_bounds m e p
    have hpos : (0 : ℚ) < 2 ^ e := zpow_pos (by norm_num) e
    have hgap := gapBelow_pos m e
    have hlow : (around m e).below p * (10 : ℚ) ^ p ≤ (m - gapBelow m e) * 2 ^ e := by
      by_contra hmore
      exact hlower' (.of_lt (not_le.mp hmore) (by linarith))
    have hhigh : ((m : ℚ) + 1 / 2) * 2 ^ e ≤ ((around m e).below p + 1 : ℕ) * 10 ^ p := by
      by_contra hless
      refine hupper' (.of_lt ?_ (not_le.mp hless))
      have hbelow := mul_pos hgap hpos
      linarith
    push_cast at hhigh
    linarith

variable {steps : ℕ}

/-- The value is below `10 ^ k` where the interval says so. -/
theorem value_lt_iff (m : ℕ) (e k : ℤ) :
    (around m e).value * Nat.pow 10 (-k).toNat < Nat.pow 10 k.toNat * (around m e).denominator ↔
      m * 2 ^ e < (10 : ℚ) ^ k := by
  have hone : (10 : ℚ) ^ k = (1 : ℕ) * 10 ^ k := by rw [Nat.cast_one, one_mul]
  rw [← not_le, ← not_le, hone, ← multiple_eq, ← le_cross (pow_ten_pos _) (denominator_pos m e)
    (value_eq m e), one_mul]

theorem scale_succ (m : ℕ) (e k : ℤ) (steps : ℕ) : (around m e).scale (steps + 1) k =
    if m * 2 ^ e < (10 : ℚ) ^ (k - 1) then (around m e).scale steps (k - 1) else k := by
  have hneg : 1 - k = -(k - 1) := by omega
  rw [Interval.scale, hneg]
  simp only [value_lt_iff]

/-- The search for the exponent ends between the value and ten times that. -/
theorem scale_bounds (hhigh : m * 2 ^ e < (10 : ℚ) ^ k)
    (hlow : (10 : ℚ) ^ (k - 1 - steps) ≤ m * 2 ^ e) :
    m * 2 ^ e < (10 : ℚ) ^ (around m e).scale steps k ∧
      (10 : ℚ) ^ ((around m e).scale steps k - 1) ≤ m * 2 ^ e := by
  induction steps generalizing k with
  | zero =>
    rw [Nat.cast_zero, sub_zero] at hlow
    exact ⟨hhigh, hlow⟩
  | succ steps ih =>
    rw [scale_succ]
    split
    · rename_i hless
      refine ih hless ?_
      have hsteps : k - 1 - 1 - (steps : ℤ) = k - 1 - (steps + 1 : ℕ) := by omega
      rw [hsteps]
      exact hlow
    · rename_i hmore
      exact ⟨hhigh, not_lt.mp hmore⟩

/-- Where the search starts. -/
def firstScale (m : ℕ) (e : ℤ) : ℤ := (e + m.log2 + 1) * 30103 / 100000 + 2

theorem firstScale_bounds (hc : IsCanonical m e) (he : e ≤ 971) :
    m * 2 ^ e < (10 : ℚ) ^ firstScale m e ∧
      (10 : ℚ) ^ (firstScale m e - 1 - (5 : ℕ)) ≤ m * 2 ^ e := by
  have hleast := hc.least
  have hlog : m.log2 < 53 := (Nat.log2_lt hc.pos.ne').mpr hc.lt
  have hpos : (0 : ℚ) < 2 ^ e := zpow_pos (by norm_num) e
  have hfirst : firstScale m e = (e + m.log2 + 1) * 30103 / 100000 + 2 := rfl
  constructor
  · calc m * 2 ^ e < ((m : ℚ) + 1) * 2 ^ e := mul_lt_mul_of_pos_right (by linarith) hpos
      _ ≤ 2 ^ (m.log2 + 1 + e) := lt_two_pow m e
      _ ≤ 10 ^ firstScale m e := two_zpow_le_ten_zpow (by omega) (by omega)
  · calc (10 : ℚ) ^ (firstScale m e - 1 - (5 : ℕ)) ≤ 2 ^ (m.log2 + e) :=
          ten_zpow_le_two_zpow (by omega) (by omega)
      _ ≤ m * 2 ^ e := two_pow_le hc.pos.ne' e

/-- Seventeen digits are always enough. -/
theorem gap_of_scale (hc : IsCanonical m e) (hk : (10 : ℚ) ^ (k - 1) ≤ m * 2 ^ e) :
    (10 : ℚ) ^ (k - 1 - 16) < (gapBelow m e + 1 / 2) * 2 ^ e := by
  have hpos : (0 : ℚ) < 2 ^ e := zpow_pos (by norm_num) e
  have hlt : (m : ℚ) < 2 ^ 53 := by exact_mod_cast hc.lt
  have hwidth : (m : ℚ) < 10 ^ 16 * (gapBelow m e + 1 / 2) := by
    rw [gapBelow]
    split
    · rename_i hnarrow
      rw [hnarrow.1]
      norm_num
    · norm_num at hlt ⊢
      linarith
  have hsplit : (10 : ℚ) ^ (k - 1 - 16) = 10 ^ (k - 1) / 10 ^ 16 := by
    rw [zpow_sub₀ (by norm_num)]
    norm_num
  rw [hsplit, div_lt_iff₀ (by norm_num)]
  calc (10 : ℚ) ^ (k - 1) ≤ m * 2 ^ e := hk
    _ < 10 ^ 16 * (gapBelow m e + 1 / 2) * 2 ^ e := mul_lt_mul_of_pos_right hwidth hpos
    _ = (gapBelow m e + 1 / 2) * 2 ^ e * 10 ^ 16 := by ring

/-- The number that digits and an exponent write. -/
def Scientific.value (a : Scientific) : ℚ := a.digits * 10 ^ a.exponent

theorem strip_value (limit : ℕ) (a : Scientific) :
    (a.strip limit).value = a.value ∧ (a.strip limit).digits ≤ a.digits := by
  induction limit generalizing a with
  | zero => exact ⟨rfl, le_rfl⟩
  | succ limit ih =>
    rw [Scientific.strip]
    split
    · rename_i hzero
      obtain ⟨hvalue, hdigits⟩ := ih ⟨a.digits / 10, a.exponent + 1⟩
      refine ⟨hvalue.trans ?_, hdigits.trans (Nat.div_le_self _ _)⟩
      have htens : (a.digits : ℚ) = (a.digits / 10 : ℕ) * 10 := by
        have hnat : a.digits = a.digits / 10 * 10 := by omega
        exact_mod_cast hnat
      rw [Scientific.value, Scientific.value, htens, zpow_add₀ (by norm_num), zpow_one]
      ring
    · exact ⟨rfl, le_rfl⟩

theorem shortest_eq (hx : IsDouble x s m e) : shortest x =
    match (List.range 17).findSome? fun (n : ℕ) =>
      (around m e).onGrid ((around m e).scale 5 (firstScale m e) - 1 - n) with
    | some a => a.strip 20
    | none => ⟨(around m e).value, 0⟩ := by
  rw [shortest, ofFloat_eq hx]
  rfl

/-- A multiple that the search finds. -/
theorem onGrid_rounds {a : Scientific} (hm : 0 < m) (ha : (around m e).onGrid (k - 1 - n) = some a)
    (hn : n < 17) (hk : m * 2 ^ e < (10 : ℚ) ^ k) :
    a.digits ≤ 10 ^ 17 ∧ RoundsTo a.value m e := by
  obtain ⟨hexp, hdigits, hholds⟩ := onGrid_eq_some ha
  have hrounds := (holds_multiple_iff hm).mp hholds
  rw [← hexp] at hrounds
  refine ⟨?_, hrounds⟩
  have hbelow : ((around m e).below (k - 1 - n) : ℚ) < (10 ^ 17 : ℕ) := by
    refine lt_of_mul_lt_mul_right ?_ (zpow_pos (by norm_num : (0 : ℚ) < 10) (k - 1 - n)).le
    calc ((around m e).below (k - 1 - n) : ℚ) * 10 ^ (k - 1 - n) ≤ m * 2 ^ e :=
          (below_bounds m e (k - 1 - n)).1
      _ < 10 ^ k := hk
      _ ≤ 10 ^ (17 + (k - 1 - n : ℤ)) := zpow_le_zpow_right₀ (by norm_num) (by omega)
      _ = (10 ^ 17 : ℕ) * 10 ^ (k - 1 - n : ℤ) := by
          rw [zpow_add₀ (by norm_num)]
          norm_num
  have hbelow' : (around m e).below (k - 1 - n) < 10 ^ 17 := by exact_mod_cast hbelow
  omega

/-- The digits of a double are rounded to it, and they are at most eighteen. -/
theorem shortest_rounds (hx : IsDouble x s m e) : 0 < (shortest x).digits ∧
    (shortest x).digits < 10 ^ 18 ∧ RoundsTo (shortest x).value m e := by
  obtain ⟨hc, he⟩ := hx.canonical
  obtain ⟨hhigh, hlow⟩ := firstScale_bounds hc he
  obtain ⟨hlt, hle⟩ := scale_bounds hhigh hlow
  have hfound : (shortest x).digits ≤ 10 ^ 17 ∧ RoundsTo (shortest x).value m e := by
    rw [shortest_eq hx]
    cases hsome : (List.range 17).findSome? fun (n : ℕ) =>
        (around m e).onGrid ((around m e).scale 5 (firstScale m e) - 1 - n) with
    | none =>
      obtain ⟨a, ha⟩ := exists_onGrid hc.pos (gap_of_scale hc hle)
      have hnone := List.findSome?_eq_none_iff.mp hsome 16 (List.mem_range.mpr (by norm_num))
      cases ha.symm.trans hnone
    | some a =>
      obtain ⟨n, hn, ha⟩ := List.exists_of_findSome?_eq_some hsome
      obtain ⟨hdigits, hrounds⟩ := onGrid_rounds hc.pos ha (List.mem_range.mp hn) hlt
      obtain ⟨hvalue, hless⟩ := strip_value 20 a
      refine ⟨hless.trans hdigits, ?_⟩
      rw [hvalue]
      exact hrounds
  obtain ⟨hdigits, hrounds⟩ := hfound
  refine ⟨Nat.pos_of_ne_zero fun hzero => ?_, by omega, hrounds⟩
  have hlow := hc.low_ge.trans hrounds.low
  rw [Scientific.value, hzero, Nat.cast_zero, zero_mul] at hlow
  exact absurd (zpow_pos (by norm_num) _) (not_lt.mpr hlow)

end WikiGateway.Decimal

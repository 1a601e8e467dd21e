import Mathlib

/-! Rounding to doubles: a number that is nearer to a double than to any other is rounded to it. -/
namespace WikiGateway.Decimal

open Float.Model Float.Model.UnpackedFloat

variable {em : ExtendedMantissa} {y : ℚ} {m : ℕ}

/-- A mantissa and what its residual bits say about the part of a unit that was cut off. -/
def Shows (em : ExtendedMantissa) (y : ℚ) : Prop :=
  ∃ t : ℚ, y = em.mantissa + t ∧ 0 ≤ t ∧ t < 1 ∧ (em.roundBit = true ↔ 1 / 2 ≤ t) ∧
    (em.stickyBit = true ↔ t ≠ 0 ∧ t ≠ 1 / 2)

theorem Shows.shiftRightOne (h : Shows em y) : Shows em.shiftRightOne (y / 2) := by
  obtain ⟨t, rfl, hnonneg, hlt, hround, hsticky⟩ := h
  have hparts : (em.mantissa : ℚ) = 2 * (em.mantissa / 2 : ℕ) + (em.mantissa % 2 : ℕ) := by
    exact_mod_cast (Nat.div_add_mod em.mantissa 2).symm
  have hrest : (em.roundBit || em.stickyBit) = true ↔ t ≠ 0 := by
    rw [Bool.or_eq_true, hround, hsticky]
    constructor
    · rintro (hhalf | ⟨hne, -⟩)
      · linarith
      · exact hne
    · intro hne
      by_cases heq : t = 1 / 2
      · exact Or.inl heq.ge
      · exact Or.inr ⟨hne, heq⟩
  rcases Nat.mod_two_eq_zero_or_one em.mantissa with heven | hodd
  · rw [heven] at hparts
    refine ⟨t / 2, ?_, by linarith, by linarith, ?_, ?_⟩
    · simp only [ExtendedMantissa.shiftRightOne]
      rw [hparts]
      push_cast
      ring
    · simp only [ExtendedMantissa.shiftRightOne, heven]
      constructor
      · intro hfalse
        cases hfalse
      · intro hhalf
        linarith
    · simp only [ExtendedMantissa.shiftRightOne, hrest]
      constructor
      · intro hne
        refine ⟨by simpa using hne, ?_⟩
        intro heq
        linarith
      · rintro ⟨hne, -⟩ heq
        exact hne (by rw [heq]; norm_num)
  · rw [hodd] at hparts
    refine ⟨(1 + t) / 2, ?_, by linarith, by linarith, ?_, ?_⟩
    · simp only [ExtendedMantissa.shiftRightOne]
      rw [hparts]
      push_cast
      ring
    · simp only [ExtendedMantissa.shiftRightOne, hodd]
      constructor
      · intro _
        linarith
      · intro _
        rfl
    · simp only [ExtendedMantissa.shiftRightOne, hrest]
      constructor
      · intro hne
        refine ⟨by linarith, ?_⟩
        intro heq
        exact hne (by linarith)
      · rintro ⟨-, hne⟩ heq
        exact hne (by rw [heq]; norm_num)

theorem Shows.shiftRight (h : Shows em y) (n : ℕ) : Shows (em >>> n) (y / 2 ^ n) := by
  induction n with
  | zero =>
    rw [pow_zero, div_one]
    exact h
  | succ n ih =>
    rw [pow_succ, ← div_div]
    exact ih.shiftRightOne

/-- The whole number nearest to another one; of two equally near ones the even one. -/
structure Nearest (y : ℚ) (m : ℕ) : Prop where
  low : (m : ℚ) - 1 / 2 ≤ y
  high : y ≤ m + 1 / 2
  odd : m % 2 = 1 → (m : ℚ) - 1 / 2 < y ∧ y < m + 1 / 2

theorem Shows.roundedMantissa (h : Shows em y) (hm : Nearest y m) : em.roundedMantissa = m := by
  obtain ⟨mantissa, roundBit, stickyBit⟩ := em
  obtain ⟨t, rfl, hnonneg, hlt, hround, hsticky⟩ := h
  obtain ⟨hlow, hhigh, hodd⟩ := hm
  dsimp only at hlow hhigh hodd hround hsticky
  have hle : mantissa ≤ m := by
    have hlt : (mantissa : ℚ) < m + 1 := by linarith
    exact Nat.lt_succ_iff.mp (by exact_mod_cast hlt)
  have hge : m ≤ mantissa + 1 := by
    have hlt : (m : ℚ) < mantissa + 2 := by linarith
    exact Nat.lt_succ_iff.mp (by exact_mod_cast hlt)
  have hcases : m = mantissa ∨ m = mantissa + 1 := by omega
  cases roundBit with
  | false =>
    have hless : t < 1 / 2 := by
      by_contra hhalf
      cases hround.mpr (not_lt.mp hhalf)
    have hrounded : (ExtendedMantissa.mk mantissa false stickyBit).roundedMantissa = mantissa := by
      cases stickyBit <;> rfl
    rcases hcases with rfl | rfl
    · exact hrounded
    · push_cast at hlow
      linarith
  | true =>
    have hhalf : 1 / 2 ≤ t := hround.mp rfl
    cases stickyBit with
    | false =>
      have htie : t = 1 / 2 := by
        by_contra hne
        cases hsticky.mpr ⟨by linarith, hne⟩
      have hrounded : (ExtendedMantissa.mk mantissa true false).roundedMantissa =
        mantissa + mantissa % 2 := rfl
      have heven : m % 2 ≠ 1 := by
        intro hm
        obtain ⟨hlow, hhigh⟩ := hodd hm
        rcases hcases with rfl | rfl
        · linarith
        · push_cast at hlow
          linarith
      rw [hrounded]
      omega
    | true =>
      have hmore : 1 / 2 < t := lt_of_le_of_ne hhalf (hsticky.mp rfl).2.symm
      have hrounded : (ExtendedMantissa.mk mantissa true true).roundedMantissa = mantissa + 1 := rfl
      rcases hcases with rfl | rfl
      · linarith
      · exact hrounded

/-- Mantissas and exponents of doubles: the mantissa has 53 bits, or fewer where the exponent is
the least that there is. -/
structure IsCanonical (m : ℕ) (e : ℤ) : Prop where
  pos : 0 < m
  lt : m < 2 ^ 53
  least : -1074 ≤ e
  full : 2 ^ 52 ≤ m ∨ e = -1074

/-- Half the gap below a double, in units of its exponent. It is smaller where the exponent
changes. -/
def gapBelow (m : ℕ) (e : ℤ) : ℚ := if m = 2 ^ 52 ∧ -1074 < e then 1 / 4 else 1 / 2

/-- A number is nearer to a double than to any other, or as near as to one with an odd mantissa. -/
structure RoundsTo (q : ℚ) (m : ℕ) (e : ℤ) : Prop where
  low : (m - gapBelow m e) * 2 ^ e ≤ q
  high : q ≤ (m + 1 / 2) * 2 ^ e
  odd : m % 2 = 1 → (m - gapBelow m e) * 2 ^ e < q ∧ q < (m + 1 / 2) * 2 ^ e

theorem target_eq (m : ℕ) (e : ℤ) :
    Format.binary64.targetExponent (totalExponent m e) = max (m.log2 + e - 52) (-1074) := by
  simp only [Format.targetExponent, totalExponent, Format.mantissaBits, Format.minExponent]
  norm_num
  omega

/-- What `shiftToTargetExponent` comes to where the exponent is not too large. -/
theorem shiftToTargetExponent_eq {e t : ℤ} {a : Accuracy} (ht : max (m.log2 + e - 52) (-1074) = t)
    (hle : e ≤ t) : shiftToTargetExponent Format.binary64 m e a =
      (ExtendedMantissa.ofMantissaAndAccuracy m a >>> (t - e).toNat, t) := by
  rw [shiftToTargetExponent, target_eq, ht, shiftToExponent]
  have hexp : e + ((t - e).toNat : ℤ) = t := by omega
  rw [hexp]

theorem IsCanonical.target {e : ℤ} (h : IsCanonical m e) : max (m.log2 + e - 52) (-1074) = e := by
  have hleast := h.least
  have hlog : m.log2 < 53 := (Nat.log2_lt h.pos.ne').mpr h.lt
  rcases h.full with hfull | hleast'
  · have hlog' : 52 ≤ m.log2 := (Nat.le_log2 h.pos.ne').mpr hfull
    omega
  · omega

/-- A shown number lies between its mantissa and the next one. -/
theorem Shows.bounds {e : ℤ} {a : Accuracy} {q : ℚ}
    (h : Shows (ExtendedMantissa.ofMantissaAndAccuracy m a) (q / 2 ^ e)) :
    m * 2 ^ e ≤ q ∧ q < (m + 1) * 2 ^ e := by
  obtain ⟨t, heq, hnonneg, hlt, -⟩ := h
  have hpos : (0 : ℚ) < 2 ^ e := zpow_pos (by norm_num) e
  have hmantissa : (ExtendedMantissa.ofMantissaAndAccuracy m a).mantissa = m := by
    cases a with
    | exact => rfl
    | inexact o => cases o <;> rfl
  rw [hmantissa, div_eq_iff hpos.ne'] at heq
  rw [heq]
  constructor
  · exact mul_le_mul_of_nonneg_right (by linarith) hpos.le
  · exact mul_lt_mul_of_pos_right (by linarith) hpos

theorem two_pow_le (hm : m ≠ 0) (e : ℤ) : (2 : ℚ) ^ (m.log2 + e) ≤ m * 2 ^ e := by
  rw [zpow_add₀ (by norm_num), zpow_natCast]
  refine mul_le_mul_of_nonneg_right ?_ (zpow_pos (by norm_num) e).le
  exact_mod_cast Nat.log2_self_le hm

theorem lt_two_pow (m : ℕ) (e : ℤ) : (m + 1 : ℚ) * 2 ^ e ≤ 2 ^ (m.log2 + 1 + e) := by
  rw [zpow_add₀ (by norm_num)]
  refine mul_le_mul_of_nonneg_right ?_ (zpow_pos (by norm_num) e).le
  exact_mod_cast Nat.lt_log2_self (n := m)

/-- The exponent that the size of a number demands. -/
theorem target_of_size {e t : ℤ} {a : Accuracy} {q : ℚ}
    (h : Shows (ExtendedMantissa.ofMantissaAndAccuracy m a) (q / 2 ^ e))
    (hexp : e ≤ max (m.log2 + e - 52) (-1074)) (hleast : -1074 ≤ t)
    (hlow : 2 ^ (52 + t) ≤ q ∨ t = -1074) (hhigh : q < 2 ^ (53 + t)) :
    max (m.log2 + e - 52) (-1074) = t := by
  have hone : (1 : ℚ) < 2 := by norm_num
  obtain ⟨hge, hlt⟩ := h.bounds
  rcases eq_or_ne m 0 with rfl | hm
  · have hlog : Nat.log2 0 = 0 := by decide
    rw [hlog] at hexp ⊢
    rcases hlow with hlow | hlow
    · have hbelow : (2 : ℚ) ^ (52 + t) < 2 ^ e := by
        refine hlow.trans_lt ?_
        simpa using hlt
      have hless : 52 + t < e := (zpow_lt_zpow_iff_right₀ hone).mp hbelow
      omega
    · omega
  · have hsize : (m.log2 : ℤ) + e < 53 + t := by
      refine (zpow_lt_zpow_iff_right₀ hone).mp ?_
      exact (two_pow_le hm e).trans_lt (hge.trans_lt hhigh)
    rcases hlow with hlow | hlow
    · have hsize' : 52 + t < (m.log2 : ℤ) + 1 + e := by
        refine (zpow_lt_zpow_iff_right₀ hone).mp ?_
        exact hlow.trans_lt (hlt.trans_le (lt_two_pow m e))
      omega
    · omega

theorem nearest_div {q : ℚ} {e : ℤ} (hlow : ((m : ℚ) - 1 / 2) * 2 ^ e ≤ q)
    (hhigh : q ≤ (m + 1 / 2) * 2 ^ e)
    (hodd : m % 2 = 1 → ((m : ℚ) - 1 / 2) * 2 ^ e < q ∧ q < (m + 1 / 2) * 2 ^ e) :
    Nearest (q / 2 ^ e) m := by
  have hpos : (0 : ℚ) < 2 ^ e := zpow_pos (by norm_num) e
  refine ⟨(le_div_iff₀ hpos).mpr hlow, (div_le_iff₀ hpos).mpr hhigh, fun hm => ?_⟩
  obtain ⟨hlow, hhigh⟩ := hodd hm
  exact ⟨(lt_div_iff₀ hpos).mpr hlow, (div_lt_iff₀ hpos).mpr hhigh⟩

theorem gapBelow_pos (m : ℕ) (e : ℤ) : 0 < gapBelow m e := by
  rw [gapBelow]
  split <;> norm_num

theorem gapBelow_le (m : ℕ) (e : ℤ) : gapBelow m e ≤ 1 / 2 := by
  rw [gapBelow]
  split <;> norm_num

/-- Just below a power of two, a number is cut off one place further down, and rounded up to the
power. -/
theorem RoundsTo.narrow {q : ℚ} {e : ℤ} (h : RoundsTo q (2 ^ 52) e) (he : -1074 < e)
    (hq : q < 2 ^ 52 * 2 ^ e) :
    Nearest (q / 2 ^ (e - 1)) (2 ^ 53) ∧ 2 ^ (52 + (e - 1)) ≤ q ∧ q < 2 ^ (53 + (e - 1)) := by
  have hpos : (0 : ℚ) < 2 ^ e := zpow_pos (by norm_num) e
  have hhalf : (2 : ℚ) ^ (e - 1) = 2 ^ e / 2 := by
    rw [zpow_sub₀ (by norm_num), zpow_one]
  have hgap : gapBelow (2 ^ 52) e = 1 / 4 := if_pos ⟨rfl, he⟩
  have hlow := h.low
  rw [hgap] at hlow
  push_cast at hlow
  refine ⟨nearest_div ?_ ?_ ?_, ?_, ?_⟩
  · rw [hhalf]
    push_cast
    linarith
  · rw [hhalf]
    push_cast
    linarith
  · intro hodd
    norm_num at hodd
  · rw [zpow_add₀ (by norm_num), hhalf]
    norm_num at hlow ⊢
    linarith
  · rw [zpow_add₀ (by norm_num), hhalf]
    norm_num at hq ⊢
    linarith

/-- Elsewhere the number is rounded where it is cut off. -/
theorem RoundsTo.regular {q : ℚ} {e : ℤ} (hc : IsCanonical m e) (h : RoundsTo q m e)
    (hq : m = 2 ^ 52 → -1074 < e → 2 ^ 52 * 2 ^ e ≤ q) :
    Nearest (q / 2 ^ e) m ∧ (2 ^ (52 + e) ≤ q ∨ e = -1074) ∧ q < 2 ^ (53 + e) := by
  have hpos : (0 : ℚ) < 2 ^ e := zpow_pos (by norm_num) e
  have hgap := gapBelow_le m e
  have hlow : (m - 1 / 2) * 2 ^ e ≤ q :=
    (mul_le_mul_of_nonneg_right (by linarith) hpos.le).trans h.low
  have hodd (hm : m % 2 = 1) : (m - 1 / 2) * 2 ^ e < q ∧ q < (m + 1 / 2) * 2 ^ e := by
    obtain ⟨hlow, hhigh⟩ := h.odd hm
    exact ⟨(mul_le_mul_of_nonneg_right (by linarith) hpos.le).trans_lt hlow, hhigh⟩
  refine ⟨nearest_div hlow h.high hodd, ?_, ?_⟩
  · by_cases he : e = -1074
    · exact Or.inr he
    · have hleast := hc.least
      have hfull : 2 ^ 52 ≤ m := hc.full.resolve_right he
      left
      rw [zpow_add₀ (by norm_num)]
      rcases eq_or_lt_of_le hfull with heq | hmore
      · have hq' := hq heq.symm (by omega)
        exact_mod_cast hq'
      · have hmore' : (2 : ℚ) ^ 52 + 1 ≤ m := by exact_mod_cast hmore
        refine le_trans ?_ hlow
        refine mul_le_mul_of_nonneg_right ?_ hpos.le
        have hfifty : (2 : ℚ) ^ (52 : ℤ) = 2 ^ 52 := by norm_num
        rw [hfifty]
        linarith
  · have hlt : (m : ℚ) + 1 ≤ 2 ^ 53 := by exact_mod_cast hc.lt
    have hfifty : (2 : ℚ) ^ (53 : ℤ) = 2 ^ 53 := by norm_num
    rw [zpow_add₀ (by norm_num), hfifty]
    refine h.high.trans_lt ?_
    exact mul_lt_mul_of_pos_right (by linarith) hpos

theorem shows_ofMantissaAndAccuracy_exact (m : ℕ) :
    Shows (ExtendedMantissa.ofMantissaAndAccuracy m .exact) m := by
  refine ⟨0, (add_zero _).symm, le_rfl, by norm_num, ?_, ?_⟩
  · simp [ExtendedMantissa.ofMantissaAndAccuracy]
  · simp [ExtendedMantissa.ofMantissaAndAccuracy]

/-- A number that is rounded to a double, wherever it was cut off before, comes out as that. -/
theorem roundWithAccuracy_eq {s : Sign} {M : ℕ} {e E : ℤ} {a : Accuracy} {q : ℚ}
    (hshows : Shows (ExtendedMantissa.ofMantissaAndAccuracy m a) (q / 2 ^ e))
    (hexp : e ≤ max (m.log2 + e - 52) (-1074)) (hc : IsCanonical M E) (hr : RoundsTo q M E) :
    roundWithAccuracy Format.binary64 s m e a = .finite s M E hc.pos := by
  have hshifted {t : ℤ} (ht : max (m.log2 + e - 52) (-1074) = t) :
      Shows (ExtendedMantissa.ofMantissaAndAccuracy m a >>> (t - e).toNat) (q / 2 ^ t) := by
    have hsteps : t = e + ((t - e).toNat : ℤ) := by omega
    have hdiv : q / 2 ^ t = q / 2 ^ e / 2 ^ (t - e).toNat := by
      rw [div_div, ← zpow_natCast, ← zpow_add₀ (by norm_num), ← hsteps]
    rw [hdiv]
    exact hshows.shiftRight _
  by_cases hnarrow : M = 2 ^ 52 ∧ -1074 < E ∧ q < 2 ^ 52 * 2 ^ E
  · obtain ⟨rfl, hE, hq⟩ := hnarrow
    obtain ⟨hnearest, hlow, hhigh⟩ := hr.narrow hE hq
    have ht := target_of_size hshows hexp (by omega) (Or.inl hlow) hhigh
    have hrounded := (hshifted ht).roundedMantissa hnearest
    have hagain : max (((2 ^ 53 : ℕ).log2 : ℤ) + (E - 1) - 52) (-1074) = E := by
      rw [Nat.log2_two_pow]
      omega
    have hone : (E - (E - 1)).toNat = 1 := by omega
    rw [roundWithAccuracy, shiftToTargetExponent_eq ht (by omega)]
    dsimp only
    rw [hrounded, shiftToTargetExponent_eq hagain (by omega), hone]
    rfl
  · have hq : M = 2 ^ 52 → -1074 < E → 2 ^ 52 * 2 ^ E ≤ q := by
      intro hM hE
      exact not_lt.mp fun hlt => hnarrow ⟨hM, hE, hlt⟩
    obtain ⟨hnearest, hlow, hhigh⟩ := hr.regular hc hq
    have ht := target_of_size hshows hexp hc.least hlow hhigh
    have hrounded := (hshifted ht).roundedMantissa hnearest
    rw [roundWithAccuracy, shiftToTargetExponent_eq ht (by omega)]
    dsimp only
    rw [hrounded, shiftToTargetExponent_eq hc.target le_rfl, sub_self]
    exact dif_neg hc.pos.ne'

theorem le_target (h : 2 ^ 52 ≤ m) (e : ℤ) : e ≤ max (m.log2 + e - 52) (-1074) := by
  have hm : m ≠ 0 := by omega
  have hlog : 52 ≤ m.log2 := (Nat.le_log2 hm).mpr h
  omega

theorem mul_eq {s₁ s₂ : Sign} {m₁ m₂ M : ℕ} {e₁ e₂ E : ℤ} (h₁ : 0 < m₁) (h₂ : 0 < m₂)
    (hfull : 2 ^ 52 ≤ m₁ * m₂) (hc : IsCanonical M E)
    (hr : RoundsTo (m₁ * 2 ^ e₁ * (m₂ * 2 ^ e₂)) M E) :
    UnpackedFloat.mul Format.binary64 (.finite s₁ m₁ e₁ h₁) (.finite s₂ m₂ e₂ h₂) =
      .finite (s₁ * s₂) M E hc.pos := by
  have hpos : (0 : ℚ) < 2 ^ (e₁ + e₂) := zpow_pos (by norm_num) _
  have hvalue : (m₁ * 2 ^ e₁ * (m₂ * 2 ^ e₂) : ℚ) / 2 ^ (e₁ + e₂) = (m₁ * m₂ : ℕ) := by
    rw [div_eq_iff hpos.ne', zpow_add₀ (by norm_num)]
    push_cast
    ring
  refine roundWithAccuracy_eq (q := m₁ * 2 ^ e₁ * (m₂ * 2 ^ e₂)) ?_ (le_target hfull _) hc hr
  rw [hvalue]
  exact shows_ofMantissaAndAccuracy_exact _

/-- A quotient cut off to a whole number, with what was left of it. -/
theorem shows_div (n : ℕ) {d : ℕ} (hd : 0 < d) :
    Shows (ExtendedMantissa.ofMantissaAndAccuracy (n / d) (accuracyOfFraction (n % d) d))
      (n / d) := by
  have hd' : (0 : ℚ) < d := by exact_mod_cast hd
  have hparts : (n / d : ℚ) = (n / d : ℕ) + (n % d : ℕ) / d := by
    have hdivmod : (n : ℚ) = d * (n / d : ℕ) + (n % d : ℕ) := by
      exact_mod_cast (Nat.div_add_mod n d).symm
    rw [div_eq_iff hd'.ne', add_mul, div_mul_cancel₀ _ hd'.ne', mul_comm]
    exact hdivmod
  have hless : ((n % d : ℕ) : ℚ) < d := by exact_mod_cast Nat.mod_lt n hd
  rw [hparts]
  generalize n % d = r at hless ⊢
  have hfraction : (r / d : ℚ) < 1 := (div_lt_one hd').mpr hless
  by_cases hr : r = 0
  · subst hr
    rw [Nat.cast_zero, zero_div, add_zero]
    exact shows_ofMantissaAndAccuracy_exact _
  · have hr' : (0 : ℚ) < r := by exact_mod_cast Nat.pos_of_ne_zero hr
    have hpos : (0 : ℚ) < r / d := div_pos hr' hd'
    rw [accuracyOfFraction, if_neg hr]
    rcases lt_trichotomy (2 * r) d with hcmp | hcmp | hcmp
    · have hhalf : (r / d : ℚ) < 1 / 2 := by
        have hcmp' : (2 * r : ℚ) < d := by exact_mod_cast hcmp
        rw [div_lt_div_iff₀ hd' (by norm_num)]
        linarith
      rw [Nat.compare_eq_lt.mpr hcmp]
      refine ⟨r / d, rfl, hpos.le, hfraction, ?_, ?_⟩
      · simpa [ExtendedMantissa.ofMantissaAndAccuracy] using hhalf
      · exact ⟨fun _ => ⟨hpos.ne', hhalf.ne⟩, fun _ => rfl⟩
    · have hhalf : (r / d : ℚ) = 1 / 2 := by
        have hcmp' : (2 * r : ℚ) = d := by exact_mod_cast hcmp
        rw [div_eq_div_iff hd'.ne' (by norm_num)]
        linarith
      rw [Nat.compare_eq_eq.mpr hcmp]
      refine ⟨r / d, rfl, hpos.le, hfraction, ?_, ?_⟩
      · simpa [ExtendedMantissa.ofMantissaAndAccuracy] using hhalf.ge
      · simp [ExtendedMantissa.ofMantissaAndAccuracy, hhalf]
    · have hhalf : 1 / 2 < (r / d : ℚ) := by
        have hcmp' : (d : ℚ) < 2 * r := by exact_mod_cast hcmp
        rw [div_lt_div_iff₀ (by norm_num) hd']
        linarith
      rw [Nat.compare_eq_gt.mpr hcmp]
      refine ⟨r / d, rfl, hpos.le, hfraction, ?_, ?_⟩
      · simpa [ExtendedMantissa.ofMantissaAndAccuracy] using hhalf.le
      · exact ⟨fun _ => ⟨hpos.ne', hhalf.ne'⟩, fun _ => rfl⟩

/-- The exponent to which a quotient is computed is small enough for it to be rounded well. -/
theorem div_target {m₁ m₂ : ℕ} {e₁ e₂ t : ℤ} (h₁ : 0 < m₁) (h₂ : 0 < m₂)
    (ht : t = min (e₁ - e₂) (max (((m₁.log2 : ℤ) + e₁) - (m₂.log2 + e₂) - 53) (-1074))) :
    t ≤ max ((m₁ <<< (e₁ - e₂ - t).toNat / m₂).log2 + t - 52) (-1074) := by
  by_cases hleast : t ≤ -1074
  · omega
  · refine le_target ?_ t
    have hsteps : m₂.log2 + 1 + 52 ≤ m₁.log2 + (e₁ - e₂ - t).toNat := by omega
    rw [Nat.le_div_iff_mul_le h₂, Nat.shiftLeft_eq]
    calc 2 ^ 52 * m₂ ≤ 2 ^ 52 * 2 ^ (m₂.log2 + 1) := by
          exact Nat.mul_le_mul_left _ Nat.lt_log2_self.le
      _ = 2 ^ (m₂.log2 + 1 + 52) := by rw [← pow_add, add_comm]
      _ ≤ 2 ^ (m₁.log2 + (e₁ - e₂ - t).toNat) := Nat.pow_le_pow_right (by norm_num) hsteps
      _ = 2 ^ m₁.log2 * 2 ^ (e₁ - e₂ - t).toNat := pow_add _ _ _
      _ ≤ m₁ * 2 ^ (e₁ - e₂ - t).toNat :=
          Nat.mul_le_mul_right _ (Nat.log2_self_le h₁.ne')

theorem div_eq {s₁ s₂ : Sign} {m₁ m₂ M : ℕ} {e₁ e₂ E : ℤ} (h₁ : 0 < m₁) (h₂ : 0 < m₂)
    (hc : IsCanonical M E) (hr : RoundsTo (m₁ * 2 ^ e₁ / (m₂ * 2 ^ e₂)) M E) :
    UnpackedFloat.div Format.binary64 (.finite s₁ m₁ e₁ h₁) (.finite s₂ m₂ e₂ h₂) =
      .finite (s₁ / s₂) M E hc.pos := by
  have htarget : Format.binary64.targetExponent (totalExponent m₁ e₁ - totalExponent m₂ e₂) =
      max (((m₁.log2 : ℤ) + e₁) - (m₂.log2 + e₂) - 53) (-1074) := by
    simp only [Format.targetExponent, totalExponent, Format.mantissaBits, Format.minExponent]
    norm_num
    omega
  rw [UnpackedFloat.div, divCore, htarget]
  generalize ht : min (e₁ - e₂) (max (((m₁.log2 : ℤ) + e₁) - (m₂.log2 + e₂) - 53) (-1074)) = t
  refine roundWithAccuracy_eq (q := m₁ * 2 ^ e₁ / (m₂ * 2 ^ e₂)) ?_
    (div_target h₁ h₂ ht.symm) hc hr
  have hm₂ : (0 : ℚ) < m₂ := by exact_mod_cast h₂
  have hpos (e : ℤ) : (0 : ℚ) < 2 ^ e := zpow_pos (by norm_num) e
  have hvalue : (m₁ * 2 ^ e₁ / (m₂ * 2 ^ e₂) : ℚ) / 2 ^ t =
      (m₁ <<< (e₁ - e₂ - t).toNat : ℕ) / m₂ := by
    have hsteps : (2 : ℚ) ^ e₁ = 2 ^ (e₁ - e₂ - t).toNat * (2 ^ e₂ * 2 ^ t) := by
      rw [← zpow_natCast, ← zpow_add₀ (by norm_num), ← zpow_add₀ (by norm_num)]
      congr 1
      omega
    rw [Nat.shiftLeft_eq, hsteps]
    push_cast
    field_simp
  rw [hvalue]
  exact shows_div _ h₂

/-- The exact value of a double is rounded to it. -/
theorem roundsTo_self (m : ℕ) (e : ℤ) : RoundsTo (m * 2 ^ e) m e := by
  have hpos : (0 : ℚ) < 2 ^ e := zpow_pos (by norm_num) e
  have hgap := gapBelow_pos m e
  have hlow : ((m : ℚ) - gapBelow m e) * 2 ^ e < m * 2 ^ e :=
    mul_lt_mul_of_pos_right (by linarith) hpos
  have hhigh : (m : ℚ) * 2 ^ e < (m + 1 / 2) * 2 ^ e :=
    mul_lt_mul_of_pos_right (by linarith) hpos
  exact ⟨hlow.le, hhigh.le, fun _ => ⟨hlow, hhigh⟩⟩

/-- A whole number of at most 53 bits is a double. -/
theorem ofNat_eq (hpos : 0 < m) (hlt : m < 2 ^ 53) :
    ∃ (M : ℕ) (E : ℤ) (hc : IsCanonical M E), E ≤ 971 ∧ 2 ^ 52 ≤ M ∧ (M : ℚ) * 2 ^ E = m ∧
      UnpackedFloat.ofNat Format.binary64 m = .finite .positive M E hc.pos := by
  have hlog : m.log2 < 53 := (Nat.log2_lt hpos.ne').mpr hlt
  have htarget : max ((m.log2 : ℤ) + 0 - 52) (-1074) = m.log2 - 52 := by omega
  have hsteps : ((0 : ℤ) - (m.log2 - 52)).toNat = 52 - m.log2 := by omega
  have hexp : (0 : ℤ) - (52 - m.log2 : ℕ) = m.log2 - 52 := by omega
  have hlow : 2 ^ 52 ≤ m <<< (52 - m.log2) := by
    rw [Nat.shiftLeft_eq]
    calc 2 ^ 52 = 2 ^ m.log2 * 2 ^ (52 - m.log2) := by rw [← pow_add]; congr 1; omega
      _ ≤ m * 2 ^ (52 - m.log2) := Nat.mul_le_mul_right _ (Nat.log2_self_le hpos.ne')
  have hhigh : m <<< (52 - m.log2) < 2 ^ 53 := by
    rw [Nat.shiftLeft_eq]
    calc m * 2 ^ (52 - m.log2) < 2 ^ (m.log2 + 1) * 2 ^ (52 - m.log2) :=
          Nat.mul_lt_mul_of_pos_right Nat.lt_log2_self (by positivity)
      _ = 2 ^ 53 := by rw [← pow_add]; congr 1; omega
  have hc : IsCanonical (m <<< (52 - m.log2)) (m.log2 - 52) :=
    ⟨by omega, hhigh, by omega, Or.inl hlow⟩
  refine ⟨_, _, hc, by omega, hlow, ?_, ?_⟩
  · rw [Nat.shiftLeft_eq]
    push_cast
    rw [← zpow_natCast, mul_assoc, ← zpow_add₀ (by norm_num)]
    have hzero : ((52 - m.log2 : ℕ) : ℤ) + (m.log2 - 52) = 0 := by omega
    rw [hzero, zpow_zero, mul_one]
  · have hnormal : UnpackedFloat.ofNat Format.binary64 m =
        UnpackedFloat.round Format.binary64 .positive m 0 := by
      rw [UnpackedFloat.ofNat, UnpackedFloat.ofInt, UnpackedFloat.normalize]
      have hgt : compare (m : ℤ) 0 = .gt := by
        rw [Int.compare_eq_gt]
        exact_mod_cast hpos
      rw [hgt]
      rfl
    rw [hnormal, UnpackedFloat.round, decreaseExponent, target_eq, htarget, hsteps, hexp]
    refine roundWithAccuracy_eq (q := (m <<< (52 - m.log2) : ℕ) * 2 ^ ((m.log2 : ℤ) - 52)) ?_
      (le_target hlow _) hc (roundsTo_self _ _)
    rw [mul_div_cancel_right₀ _ (zpow_pos (by norm_num) _).ne']
    exact shows_ofMantissaAndAccuracy_exact _

end WikiGateway.Decimal

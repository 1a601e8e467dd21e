import WikiGateway.Decimal.Reading
import WikiGateway.Proofs.Decimal.Bits

/-! A decimal that is rounded to a double is read as that double. -/
namespace WikiGateway.Decimal

open Float.Model Float.Model.UnpackedFloat

variable {x y z : Float} {m n d : ℕ} {e k : ℤ}

/-- A quotient of doubles that is rounded to a third one is that one. -/
theorem IsDouble.div {m₁ m₂ : ℕ} {e₁ e₂ : ℤ} (hx : IsDouble x .positive m₁ e₁)
    (hy : IsDouble y .positive m₂ e₂) (hz : IsDouble z .positive m e)
    (hr : RoundsTo (m₁ * 2 ^ e₁ / (m₂ * 2 ^ e₂)) m e) : x / y = z := by
  obtain ⟨hc, he⟩ := hz.canonical
  have hdiv : x / y = Float.ofModel (Float.Model.pack (.finite .positive m e hc.pos)) := by
    change Float.ofModel (Float.Model.pack
      (UnpackedFloat.div Format.binary64 x.toModel.unpack y.toModel.unpack)) = _
    rw [hx.unpack, hy.unpack, div_eq hx.1 hy.1 hc hr]
    rfl
  rw [hdiv]
  exact (isDouble_pack hc he .positive).unique hz

theorem IsDouble.mul {m₁ m₂ : ℕ} {e₁ e₂ : ℤ} (hx : IsDouble x .positive m₁ e₁)
    (hy : IsDouble y .positive m₂ e₂) (hz : IsDouble z .positive m e) (hfull : 2 ^ 52 ≤ m₁ * m₂)
    (hr : RoundsTo (m₁ * 2 ^ e₁ * (m₂ * 2 ^ e₂)) m e) : x * y = z := by
  obtain ⟨hc, he⟩ := hz.canonical
  have hmul : x * y = Float.ofModel (Float.Model.pack (.finite .positive m e hc.pos)) := by
    change Float.ofModel (Float.Model.pack
      (UnpackedFloat.mul Format.binary64 x.toModel.unpack y.toModel.unpack)) = _
    rw [hx.unpack, hy.unpack, mul_eq hx.1 hy.1 hfull hc hr]
    rfl
  rw [hmul]
  exact (isDouble_pack hc he .positive).unique hz

/-- A whole number of at most 53 bits as a double. -/
theorem isDouble_toFloat (hpos : 0 < n) (hlt : n < 2 ^ 53) :
    ∃ m e, IsDouble n.toUInt64.toFloat .positive m e ∧ 2 ^ 52 ≤ m ∧ (m : ℚ) * 2 ^ e = n := by
  obtain ⟨m, e, hc, he, hfull, hvalue, hofNat⟩ := ofNat_eq hpos hlt
  have htoNat : n.toUInt64.toNat = n := by
    rw [Nat.toUInt64, UInt64.toNat_ofNat']
    omega
  have hdouble : n.toUInt64.toFloat =
      Float.ofModel (Float.Model.pack (.finite .positive m e hc.pos)) := by
    change Float.ofModel (Float.Model.pack
      (UnpackedFloat.ofNat Format.binary64 n.toUInt64.toNat)) = _
    rw [htoNat, hofNat]
  refine ⟨m, e, ?_, hfull, hvalue⟩
  rw [hdouble]
  exact isDouble_pack hc he .positive

/-- A power with a whole exponent as a quotient of powers. -/
theorem zpow_eq_div {a : ℚ} (ha : a ≠ 0) (e : ℤ) : a ^ e = a ^ e.toNat / a ^ (-e).toNat := by
  have hparts : e = (e.toNat : ℤ) - ((-e).toNat : ℤ) := by omega
  rw [← zpow_natCast, ← zpow_natCast, ← zpow_sub₀ ha, ← hparts]

/-- Powers of two bases compare as their exponents do to those of two powers that are compared. -/
theorem zpow_le_zpow_of_pow {a b : ℚ} {p q : ℕ} (ha : 0 < a) (hb : 1 ≤ b) (hp : p ≠ 0)
    (hpow : (a ^ p) ^ e ≤ (b ^ q) ^ e) (hexp : q * e ≤ p * k) : a ^ e ≤ b ^ k := by
  have hb' : 0 < b := by linarith
  rw [← pow_le_pow_iff_left₀ (zpow_pos ha e).le (zpow_pos hb' k).le hp]
  calc (a ^ e) ^ p = (a ^ p) ^ e := by rw [← zpow_natCast, ← zpow_natCast, zpow_comm]
    _ ≤ (b ^ q) ^ e := hpow
    _ = b ^ (q * e) := by rw [zpow_mul, zpow_natCast]
    _ ≤ b ^ (p * k) := zpow_le_zpow_right₀ hb hexp
    _ = (b ^ k) ^ p := by rw [mul_comm, zpow_mul, zpow_natCast]

theorem zpow_le_zpow_of_nonpos {a b : ℚ} (ha : 0 < a) (hab : a ≤ b) (he : e ≤ 0) :
    b ^ e ≤ a ^ e := by
  have hinv : (a ^ (-e))⁻¹ = a ^ e ∧ (b ^ (-e))⁻¹ = b ^ e := by simp
  rw [← hinv.1, ← hinv.2]
  exact inv_anti₀ (zpow_pos ha _) (zpow_le_zpow_left₀ (by omega) ha.le hab)

theorem two_zpow_le_ten_zpow (h : 28 * e ≤ 93 * k) (h' : 59 * e ≤ 196 * k) :
    (2 : ℚ) ^ e ≤ 10 ^ k := by
  rcases le_total 0 e with he | he
  · refine zpow_le_zpow_of_pow (p := 93) (q := 28) (by norm_num) (by norm_num) (by norm_num) ?_ h
    exact zpow_le_zpow_left₀ he (by norm_num) (by norm_num)
  · refine zpow_le_zpow_of_pow (p := 196) (q := 59) (by norm_num) (by norm_num) (by norm_num) ?_ h'
    exact zpow_le_zpow_of_nonpos (by norm_num) (by norm_num) he

theorem ten_zpow_le_two_zpow (h : 93 * e ≤ 28 * k) (h' : 196 * e ≤ 59 * k) :
    (10 : ℚ) ^ e ≤ 2 ^ k := by
  rcases le_total 0 e with he | he
  · refine zpow_le_zpow_of_pow (p := 59) (q := 196) (by norm_num) (by norm_num) (by norm_num) ?_ h'
    exact zpow_le_zpow_left₀ he (by norm_num) (by norm_num)
  · refine zpow_le_zpow_of_pow (p := 28) (q := 93) (by norm_num) (by norm_num) (by norm_num) ?_ h
    exact zpow_le_zpow_of_nonpos (by norm_num) (by norm_num) he

/-- The powers of ten that are doubles. -/
def powerOfTen (d : Fin 23) : Float :=
  have hd : d.val < Float.exactlyRepresentablePowersOfTen.size := d.isLt
  Float.exactlyRepresentablePowersOfTen[d.val]

theorem isDouble_powerOfTen (d : Fin 23) :
    ∃ m e, IsDouble (powerOfTen d) .positive m e ∧ (m : ℚ) * 2 ^ e = 10 ^ d.val := by
  have hpowers : ∀ d : Fin 23, (powerOfTen d).isFinite = true ∧ powerOfTen d ≠ 0 ∧
      powerOfTen d ≠ -0 ∧ isNegative (powerOfTen d) = false ∧
      (Binary.ofFloat (powerOfTen d)).mantissa *
          2 ^ (Binary.ofFloat (powerOfTen d)).exponent.toNat =
        10 ^ d.val * 2 ^ (-(Binary.ofFloat (powerOfTen d)).exponent).toNat := by
    decide +kernel
  obtain ⟨hfinite, hzero, hzero', hpositive, hvalue⟩ := hpowers d
  rcases isDouble_or_zero hfinite with ⟨s, m, e, hdouble⟩ | hzero'' | hzero''
  · rw [ofFloat_eq hdouble] at hvalue
    have hs : s = .positive := by
      cases s with
      | negative => cases hpositive.symm.trans ((isNegative_iff hdouble).mpr rfl)
      | positive => rfl
    subst hs
    refine ⟨m, e, hdouble, ?_⟩
    have hpos : (0 : ℚ) < 2 ^ (-e).toNat := by positivity
    rw [zpow_eq_div (by norm_num), mul_div_assoc', div_eq_iff hpos.ne']
    exact_mod_cast hvalue
  · exact absurd hzero'' hzero
  · exact absurd hzero'' hzero'

/-- Digits with a point among them, of which the value is rounded to a double. -/
theorem ofScientific_fraction (hn : 0 < n) (hd : 0 < d) (hd' : d ≤ 2048)
    (hx : IsDouble x .positive m e) (hr : RoundsTo (n / 10 ^ d) m e) :
    Float.ofScientific n true d = x := by
  obtain ⟨hc, he⟩ := hx.canonical
  rw [Float.ofScientific]
  split
  · rename_i hsmall
    obtain ⟨m₁, e₁, hnum, -, hvalue₁⟩ := isDouble_toFloat hn hsmall.1
    obtain ⟨m₂, e₂, hden, hvalue₂⟩ := isDouble_powerOfTen ⟨d, by omega⟩
    refine hnum.div hden hx ?_
    rw [hvalue₁, hvalue₂]
    exact hr
  · have hdiv : UnpackedFloat.ofScientific Format.binary64 n (Int.negOfNat d) =
        .finite .positive m e hc.pos := by
      have hneg : Int.negOfNat d = -(d : ℤ) := Int.negOfNat_eq
      have hbits : (2 : ℤ) ^ Format.binary64.exponentBits = 2048 := by norm_num
      rw [UnpackedFloat.ofScientific, hneg, dif_neg hn.ne', hbits, if_neg (by omega),
        if_neg (by omega), if_neg (by omega)]
      refine div_eq hn _ hc ?_
      have hnat : (-(-(d : ℤ))).toNat = d := by omega
      rw [hnat, zpow_zero, mul_one, mul_one]
      push_cast
      exact hr
    have hmodel : Float.ofModel (Float.Model.ofScientific n (Int.negOfNat d)) =
        Float.ofModel (Float.Model.pack (.finite .positive m e hc.pos)) := by
      rw [Float.Model.ofScientific, hdiv]
    exact hmodel.trans ((isDouble_pack hc he .positive).unique hx)

/-- A whole number that is rounded to a double. -/
theorem ofScientific_whole (hn : 0 < n) (hx : IsDouble x .positive m e) (hr : RoundsTo n m e) :
    Float.ofScientific n false 0 = x := by
  obtain ⟨hc, he⟩ := hx.canonical
  rw [Float.ofScientific]
  split
  · rename_i hsmall
    obtain ⟨m₁, e₁, hnum, hfull, hvalue₁⟩ := isDouble_toFloat hn hsmall.1
    obtain ⟨m₂, e₂, hone, hvalue₂⟩ := isDouble_powerOfTen 0
    have hfull' : 2 ^ 52 ≤ m₁ * m₂ := hfull.trans (Nat.le_mul_of_pos_right _ hone.1)
    refine hnum.mul hone hx hfull' ?_
    rw [hvalue₁, hvalue₂]
    simpa using hr
  · have hmul : UnpackedFloat.ofScientific Format.binary64 n (Int.ofNat 0) =
        .finite .positive m e hc.pos := by
      have hbits : (2 : ℤ) ^ Format.binary64.exponentBits = 2048 := by norm_num
      have hzero : Int.ofNat 0 = 0 := rfl
      have hfull : 2 ^ 52 ≤ n <<< Format.binary64.mantissaBits * 10 ^ (0 : ℤ).toNat := by
        change 2 ^ 52 ≤ n <<< 53 * 1
        omega
      rw [UnpackedFloat.ofScientific, hzero, dif_neg hn.ne', hbits, if_neg (by omega),
        if_neg (by omega), if_pos le_rfl]
      refine mul_eq _ _ hfull hc ?_
      have hvalue : ((n <<< Format.binary64.mantissaBits : ℕ) : ℚ) *
          2 ^ (-(Format.binary64.mantissaBits : ℤ)) *
          ((10 ^ (0 : ℤ).toNat : ℕ) * 2 ^ (0 : ℤ)) = n := by
        have hpos : (0 : ℚ) < 2 ^ Format.binary64.mantissaBits := by positivity
        rw [Nat.shiftLeft_eq, zpow_neg, zpow_natCast]
        push_cast
        field_simp
      rw [hvalue]
      exact hr
    have hmodel : Float.ofModel (Float.Model.ofScientific n (Int.ofNat 0)) =
        Float.ofModel (Float.Model.pack (.finite .positive m e hc.pos)) := by
      rw [Float.Model.ofScientific, hmul]
    exact hmodel.trans ((isDouble_pack hc he .positive).unique hx)

theorem IsCanonical.high_le (hc : IsCanonical m e) (he : e ≤ 971) :
    ((m : ℚ) + 1 / 2) * 2 ^ e ≤ 10 ^ (309 : ℤ) := by
  have hlt : (m : ℚ) + 1 ≤ 2 ^ 53 := by exact_mod_cast hc.lt
  calc ((m : ℚ) + 1 / 2) * 2 ^ e ≤ 2 ^ 53 * 2 ^ (971 : ℤ) := by
        refine mul_le_mul (by linarith) ?_ (by positivity) (by positivity)
        exact zpow_le_zpow_right₀ (by norm_num) he
    _ = 2 ^ (1024 : ℤ) := by rw [← zpow_natCast, ← zpow_add₀ (by norm_num)]; norm_num
    _ ≤ 10 ^ (309 : ℤ) := two_zpow_le_ten_zpow (by norm_num) (by norm_num)

theorem IsCanonical.low_ge (hc : IsCanonical m e) :
    (10 : ℚ) ^ (-324 : ℤ) ≤ (m - gapBelow m e) * 2 ^ e := by
  have hpos : (1 : ℚ) ≤ m := by exact_mod_cast hc.pos
  have hgap := gapBelow_le m e
  calc (10 : ℚ) ^ (-324 : ℤ) ≤ 2 ^ (-1075 : ℤ) :=
        ten_zpow_le_two_zpow (by norm_num) (by norm_num)
    _ = 1 / 2 * 2 ^ (-1074 : ℤ) := by
        rw [one_div, ← zpow_neg_one, ← zpow_add₀ (by norm_num)]
        norm_num
    _ ≤ (m - gapBelow m e) * 2 ^ e := by
        refine mul_le_mul (by linarith) ?_ (by positivity) (by linarith)
        exact zpow_le_zpow_right₀ (by norm_num) hc.least

/-- The size of a decimal of at most 18 digits that is rounded to a double. -/
theorem RoundsTo.exponent_bounds (hn : 0 < n) (hlt : n < 10 ^ 18) (hc : IsCanonical m e)
    (he : e ≤ 971) (hr : RoundsTo (n * 10 ^ k) m e) : -342 ≤ k ∧ k ≤ 309 := by
  have hten : (1 : ℚ) < 10 := by norm_num
  have hpos : (0 : ℚ) < 10 ^ k := zpow_pos (by norm_num) k
  have hn' : (1 : ℚ) ≤ n := by exact_mod_cast hn
  have hlt' : (n : ℚ) < 10 ^ (18 : ℤ) := by exact_mod_cast hlt
  constructor
  · have hlow : (10 : ℚ) ^ (-324 : ℤ) < 10 ^ (18 + k) := by
      rw [zpow_add₀ (by norm_num)]
      exact (hc.low_ge.trans hr.low).trans_lt (mul_lt_mul_of_pos_right hlt' hpos)
    have hless : -324 < 18 + k := (zpow_lt_zpow_iff_right₀ hten).mp hlow
    omega
  · refine (zpow_le_zpow_iff_right₀ hten).mp ?_
    exact (le_mul_of_one_le_left hpos.le hn').trans (hr.high.trans (hc.high_le he))

/-- A decimal of at most 18 digits is read as the double that it is rounded to. -/
theorem toFloat_eq (hn : 0 < n) (hlt : n < 10 ^ 18) (hx : IsDouble x .positive m e)
    (hr : RoundsTo (n * 10 ^ k) m e) : toFloat n k = x := by
  obtain ⟨hc, he⟩ := hx.canonical
  obtain ⟨hlow, hhigh⟩ := hr.exponent_bounds hn hlt hc he
  have hlog : n.log2 < 60 := (Nat.log2_lt hn.ne').mpr (hlt.trans (by norm_num))
  rw [toFloat, if_neg hn.ne']
  dsimp only
  rw [if_neg (by omega), if_neg (by omega)]
  rw [zpow_eq_div (by norm_num)] at hr
  split
  · have hwhole : k.toNat = 0 := by omega
    have hpoint : (-k).toNat = k.natAbs := by omega
    rw [hwhole, hpoint, pow_zero, mul_one_div] at hr
    exact ofScientific_fraction hn (by omega) (by omega) hx hr
  · have hpoint : (-k).toNat = 0 := by omega
    rw [hpoint, pow_zero, div_one] at hr
    refine ofScientific_whole (Nat.mul_pos hn (Nat.pow_pos (by norm_num))) hx ?_
    rw [Nat.pow_eq]
    push_cast
    exact hr

end WikiGateway.Decimal

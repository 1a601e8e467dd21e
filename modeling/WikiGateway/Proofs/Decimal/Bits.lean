import WikiGateway.Decimal.Text
import WikiGateway.Proofs.Decimal.Rounding

/-! Doubles as their bits: a sign, an exponent and a fraction. -/
namespace WikiGateway.Decimal

open Float.Model Float.Model.UnpackedFloat

variable {b : BitVec Format.binary64.numBits} {s : Sign} {m : ℕ} {e : ℤ} {x : Float}

/-- The fraction, the exponent and the sign in the bits of a double. -/
def fractionOf (n : ℕ) : ℕ := n % 2 ^ 52

def biasedOf (n : ℕ) : ℕ := n / 2 ^ 52 % 2 ^ 11

def signOf (n : ℕ) : Sign := if n < 2 ^ 63 then .positive else .negative

theorem toNat_unpackMantissa (b : BitVec Format.binary64.numBits) :
    (unpackMantissa b).toNat = fractionOf b.toNat := by
  simp [unpackMantissa, fractionOf, BitVec.extractLsb_toNat]

theorem toNat_unpackExponent (b : BitVec Format.binary64.numBits) :
    (unpackExponent b).toNat = biasedOf b.toNat := by
  simp [unpackExponent, biasedOf, BitVec.extractLsb_toNat, Nat.shiftRight_eq_div_pow]

theorem ofBitVec_unpackSign (b : BitVec Format.binary64.numBits) :
    Sign.ofBitVec (unpackSign b) = signOf b.toNat := by
  have hlt : b.toNat < 2 ^ 64 := b.isLt
  have hsign : (unpackSign b).toNat = b.toNat / 2 ^ 63 % 2 := by
    simp [unpackSign, BitVec.extractLsb_toNat, Nat.shiftRight_eq_div_pow]
  have hzero : unpackSign b = 0#1 ↔ b.toNat < 2 ^ 63 := by
    rw [← BitVec.toNat_inj, hsign]
    change b.toNat / 2 ^ 63 % 2 = 0 ↔ _
    omega
  rw [Sign.ofBitVec, signOf]
  simp only [hzero]

theorem toNat_append {n k : ℕ} (v : BitVec n) (w : BitVec k) :
    (v ++ w).toNat = v.toNat * 2 ^ k + w.toNat := by
  rw [BitVec.toNat_append, ← Nat.shiftLeft_add_eq_or_of_lt w.isLt, Nat.shiftLeft_eq]

theorem toNat_one_append (v : BitVec 52) : (1#1 ++ v).toNat = 2 ^ 52 + v.toNat := by
  rw [toNat_append]
  rfl

theorem unpackExponent_eq_iff {v : BitVec Format.binary64.exponentBits} :
    unpackExponent b = v ↔ biasedOf b.toNat = v.toNat := by
  rw [← BitVec.toNat_inj, toNat_unpackExponent]

theorem unpackMantissa_eq_zero_iff : unpackMantissa b = 0#_ ↔ fractionOf b.toNat = 0 := by
  rw [← BitVec.toNat_inj, toNat_unpackMantissa]
  rfl

/-- What the bits of a finite number other than zero say about it. -/
structure Has (n : ℕ) (s : Sign) (m : ℕ) (e : ℤ) : Prop where
  lt : n < 2 ^ 64
  sign : signOf n = s
  parts : (biasedOf n = 0 ∧ m = fractionOf n ∧ e = -1074) ∨
    (0 < biasedOf n ∧ biasedOf n < 2047 ∧ m = 2 ^ 52 + fractionOf n ∧ e = biasedOf n - 1075)

theorem has_of_unpack {hm : 0 < m} (h : UnpackedFloat.unpack Format.binary64 b = .finite s m e hm) :
    Has b.toNat s m e := by
  have hbiased : biasedOf b.toNat < 2 ^ 11 := Nat.mod_lt _ (by norm_num)
  have hbias : (Format.binary64.exponentBias : ℤ) = 1023 := rfl
  rw [UnpackedFloat.unpack] at h
  simp only [ofBitVec_unpackSign, toNat_unpackExponent] at h
  split at h
  · split at h <;> cases h
  · rename_i hmost
    have hmost' : biasedOf b.toNat ≠ 2047 := unpackExponent_eq_iff.not.mp hmost
    split at h
    · rename_i hnone
      have hnone' : biasedOf b.toNat = 0 := unpackExponent_eq_iff.mp hnone
      split at h
      · cases h
      · injection h with hs hm he
        rw [toNat_unpackMantissa] at hm
        refine ⟨b.isLt, hs, .inl ⟨hnone', hm.symm, ?_⟩⟩
        rw [← he, hnone', hbias]
        norm_num
    · rename_i hsome
      have hsome' : biasedOf b.toNat ≠ 0 := unpackExponent_eq_iff.not.mp hsome
      injection h with hs hm he
      rw [toNat_one_append, toNat_unpackMantissa] at hm
      refine ⟨b.isLt, hs, .inr ⟨by omega, by omega, hm.symm, ?_⟩⟩
      rw [← he, hbias]
      norm_num

/-- The bits say it of no other number. -/
theorem unpack_of_has (h : Has b.toNat s m e) (hm : 0 < m) :
    UnpackedFloat.unpack Format.binary64 b = .finite s m e hm := by
  have hbias : (Format.binary64.exponentBias : ℤ) = 1023 := rfl
  obtain ⟨hlt, rfl, ⟨hnone, rfl, rfl⟩ | ⟨hsome, hmost, rfl, rfl⟩⟩ := h
  · have hmost' : ¬ unpackExponent b = -1#_ := by
      rw [unpackExponent_eq_iff, hnone]
      decide
    have hnone' : unpackExponent b = 0#_ := unpackExponent_eq_iff.mpr hnone
    have hsome' : ¬ unpackMantissa b = 0#_ := by
      rw [unpackMantissa_eq_zero_iff]
      omega
    rw [UnpackedFloat.unpack]
    dsimp only
    rw [if_neg hmost', if_pos hnone', dif_neg hsome']
    simp only [ofBitVec_unpackSign, toNat_unpackExponent, toNat_unpackMantissa, hnone, hbias]
    rfl
  · have hmost' : ¬ unpackExponent b = -1#_ := by
      rw [unpackExponent_eq_iff]
      exact hmost.ne
    have hsome' : ¬ unpackExponent b = 0#_ := by
      rw [unpackExponent_eq_iff]
      exact hsome.ne'
    rw [UnpackedFloat.unpack]
    dsimp only
    rw [if_neg hmost', if_neg hsome']
    simp only [ofBitVec_unpackSign, toNat_unpackExponent, toNat_one_append, toNat_unpackMantissa,
      hbias]
    rfl

theorem Has.unique {n n' : ℕ} (h : Has n s m e) (h' : Has n' s m e) : n = n' := by
  have hsign : signOf n = signOf n' := h.sign.trans h'.sign.symm
  have hhalf : n < 2 ^ 63 ↔ n' < 2 ^ 63 := by
    rw [signOf, signOf] at hsign
    split at hsign <;> split at hsign
    · exact iff_of_true ‹_› ‹_›
    · cases hsign
    · cases hsign
    · exact iff_of_false ‹_› ‹_›
  have hlt := h.lt
  have hlt' := h'.lt
  have hfraction : fractionOf n < 2 ^ 52 := Nat.mod_lt _ (by norm_num)
  have hfraction' : fractionOf n' < 2 ^ 52 := Nat.mod_lt _ (by norm_num)
  have hsame : biasedOf n = biasedOf n' ∧ fractionOf n = fractionOf n' := by
    rcases h.parts with hparts | hparts <;> rcases h'.parts with hparts' | hparts' <;> omega
  simp only [biasedOf, fractionOf] at hsame
  omega

theorem Has.canonical {n : ℕ} (h : Has n s m e) (hm : 0 < m) : IsCanonical m e ∧ e ≤ 971 := by
  have hfraction : fractionOf n < 2 ^ 52 := Nat.mod_lt _ (by norm_num)
  rcases h.parts with ⟨-, hm', he⟩ | ⟨hsome, hmost, hm', he⟩
  · exact ⟨⟨hm, by omega, by omega, by omega⟩, by omega⟩
  · exact ⟨⟨hm, by omega, by omega, by omega⟩, by omega⟩

/-- The bits of a sign, an exponent and a fraction. -/
theorem has_packComponents {v : BitVec Format.binary64.exponentBits}
    {w : BitVec Format.binary64.mantissaBitsWithoutImplicit}
    (h : (v.toNat = 0 ∧ m = w.toNat ∧ e = -1074) ∨
      (0 < v.toNat ∧ v.toNat < 2047 ∧ m = 2 ^ 52 + w.toNat ∧ e = v.toNat - 1075)) :
    Has (packComponents Format.binary64 s v w).toNat s m e := by
  have hv : v.toNat < 2 ^ 11 := v.isLt
  have hw : w.toNat < 2 ^ 52 := w.isLt
  have hbits : (packComponents Format.binary64 s v w).toNat =
      (s.toBitVec.toNat * 2 ^ 11 + v.toNat) * 2 ^ 52 + w.toNat := by
    rw [packComponents, toNat_append, toNat_append]
  have hbiased : biasedOf (packComponents Format.binary64 s v w).toNat = v.toNat := by
    rw [hbits, biasedOf]
    omega
  have hfraction : fractionOf (packComponents Format.binary64 s v w).toNat = w.toNat := by
    rw [hbits, fractionOf]
    omega
  refine ⟨(packComponents Format.binary64 s v w).isLt, ?_, by rwa [hbiased, hfraction]⟩
  rw [hbits, signOf]
  cases s with
  | negative =>
    have hone : Sign.negative.toBitVec.toNat = 1 := rfl
    exact if_neg (by omega)
  | positive =>
    have hzero : Sign.positive.toBitVec.toNat = 0 := rfl
    exact if_pos (by omega)

theorem has_pack (hc : IsCanonical m e) (he : e ≤ 971) :
    Has (UnpackedFloat.pack Format.binary64 (.finite s m e hc.pos)).toNat s m e := by
  have hleast := hc.least
  have hlt := hc.lt
  have hsteps : (e + (Format.binary64.exponentBias : ℤ) +
      (Format.binary64.mantissaBitsWithoutImplicit : ℤ)).toNat = (e + 1075).toNat := by
    have hbias : (Format.binary64.exponentBias : ℤ) = 1023 := rfl
    rw [hbias]
    norm_num
    omega
  have hfits : ¬ 2 ^ Format.binary64.exponentBits ≤ (e + 1075).toNat + 1 := by
    change ¬ 2 ^ 11 ≤ (e + 1075).toNat + 1
    omega
  rw [UnpackedFloat.pack]
  dsimp only
  rw [hsteps, if_neg hfits]
  have hlog : m.log2 + 1 = Format.binary64.mantissaBits ↔ 2 ^ 52 ≤ m := by
    change m.log2 + 1 = 53 ↔ _
    have hless : m.log2 < 53 := (Nat.log2_lt hc.pos.ne').mpr hlt
    rw [← Nat.le_log2 hc.pos.ne']
    omega
  have hfraction : (BitVec.ofNat Format.binary64.mantissaBitsWithoutImplicit m).toNat =
      m % 2 ^ 52 := BitVec.toNat_ofNat m 52
  have hbiased : (BitVec.ofNat Format.binary64.exponentBits (e + 1075).toNat).toNat =
      (e + 1075).toNat % 2 ^ 11 := BitVec.toNat_ofNat _ 11
  by_cases hfull : 2 ^ 52 ≤ m
  · rw [if_pos (hlog.mpr hfull)]
    refine has_packComponents (.inr ?_)
    rw [hfraction, hbiased]
    omega
  · have hleast' : e = -1074 := hc.full.resolve_left hfull
    rw [if_neg (hlog.not.mpr hfull)]
    refine has_packComponents (.inl ?_)
    rw [hfraction]
    exact ⟨rfl, by omega, hleast'⟩

/-- A number is the double with this sign, mantissa and exponent. -/
def IsDouble (x : Float) (s : Sign) (m : ℕ) (e : ℤ) : Prop := 0 < m ∧ Has x.toBits.toNat s m e

theorem IsDouble.unpack (h : IsDouble x s m e) : x.toModel.unpack = .finite s m e h.1 :=
  unpack_of_has h.2 h.1

theorem IsDouble.canonical (h : IsDouble x s m e) : IsCanonical m e ∧ e ≤ 971 :=
  h.2.canonical h.1

theorem isDouble_pack (hc : IsCanonical m e) (he : e ≤ 971) (s : Sign) :
    IsDouble (Float.ofModel (Float.Model.pack (.finite s m e hc.pos))) s m e :=
  ⟨hc.pos, has_pack hc he⟩

theorem eq_of_bits {y : Float} (h : x.toBits.toNat = y.toBits.toNat) : x = y := by
  obtain ⟨⟨bits, hvalid⟩⟩ := x
  obtain ⟨⟨bits', hvalid'⟩⟩ := y
  have hbits : bits = bits' := UInt64.toNat_inj.mp h
  subst hbits
  rfl

theorem IsDouble.unique {y : Float} (h : IsDouble x s m e) (h' : IsDouble y s m e) : x = y :=
  eq_of_bits (h.2.unique h'.2)

theorem IsDouble.neg (h : IsDouble x s m e) : IsDouble (-x) (-s) m e := by
  have hneg : -x = Float.ofModel (Float.Model.pack (.finite (-s) m e h.1)) := by
    change Float.ofModel (Float.Model.pack x.toModel.unpack.neg) = _
    rw [h.unpack]
    rfl
  obtain ⟨hc, he⟩ := h.canonical
  rw [hneg]
  exact isDouble_pack hc he (-s)

theorem bits_of_unpack_zero (h : UnpackedFloat.unpack Format.binary64 b = .zero s) :
    b.toNat = 0 ∨ b.toNat = 2 ^ 63 := by
  have hlt : b.toNat < 2 ^ 64 := b.isLt
  rw [UnpackedFloat.unpack] at h
  dsimp only at h
  split at h
  · split at h <;> cases h
  · split at h
    · rename_i hnone
      split at h
      · rename_i hzero
        have hbiased : biasedOf b.toNat = 0 := unpackExponent_eq_iff.mp hnone
        have hfraction : fractionOf b.toNat = 0 := unpackMantissa_eq_zero_iff.mp hzero
        rw [biasedOf] at hbiased
        rw [fractionOf] at hfraction
        omega
      · cases h
    · cases h

/-- A finite number is a double of some sign, mantissa and exponent, or one of the two zeros. -/
theorem isDouble_or_zero (h : x.isFinite = true) :
    (∃ s m e, IsDouble x s m e) ∨ x = 0 ∨ x = -0 := by
  have hfinite : x.toModel.unpack.isFinite = true := h
  cases hu : x.toModel.unpack with
  | infinity s =>
    rw [hu] at hfinite
    cases hfinite
  | notANumber =>
    rw [hu] at hfinite
    cases hfinite
  | finite s m e hm => exact .inl ⟨s, m, e, hm, has_of_unpack hu⟩
  | zero s =>
    right
    rcases bits_of_unpack_zero hu with hbits | hbits
    · have hzero : (0 : Float).toBits.toNat = 0 := by decide +kernel
      exact .inl (eq_of_bits (hbits.trans hzero.symm))
    · have hzero : (-0 : Float).toBits.toNat = 2 ^ 63 := by decide +kernel
      exact .inr (eq_of_bits (hbits.trans hzero.symm))

theorem ofFloat_eq (h : IsDouble x s m e) :
    Binary.ofFloat x = ⟨m, e, decide (m = 2 ^ 52 ∧ -1074 < e)⟩ := by
  have hofFloat : Binary.ofFloat x =
      if biasedOf x.toBits.toNat = 0 then ⟨fractionOf x.toBits.toNat, -1074, false⟩
      else ⟨2 ^ 52 + fractionOf x.toBits.toNat, (biasedOf x.toBits.toNat : ℤ) - 1075,
        decide (fractionOf x.toBits.toNat = 0 ∧ 1 < biasedOf x.toBits.toNat)⟩ := rfl
  rw [hofFloat]
  rcases h.2.parts with ⟨hnone, hm, he⟩ | ⟨hsome, hmost, hm, he⟩
  · rw [if_pos hnone, hm, he]
    simp
  · rw [if_neg hsome.ne', hm, he]
    congr 1
    rw [decide_eq_decide]
    omega

theorem isNegative_iff (h : IsDouble x s m e) : isNegative x = true ↔ s = .negative := by
  have hnegative : isNegative x = decide (2 ^ 63 ≤ x.toBits.toNat) := rfl
  rw [hnegative, decide_eq_true_iff, ← h.2.sign, signOf]
  split
  · rename_i hless
    exact iff_of_false (not_le.mpr hless) (by rintro ⟨⟩)
  · rename_i hmore
    exact iff_of_true (not_lt.mp hmore) rfl

end WikiGateway.Decimal

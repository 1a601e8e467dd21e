import Mathlib
import WikiGateway.Proofs.Decimal.Bits
import WikiGateway.Proofs.Decimal.Order

/-! The sign of a difference of doubles: below its least doubles the format has no gap into which a
difference could fall, so that it is zero for equal numbers only. -/
namespace WikiGateway.Decimal

open Float.Model Float.Model.UnpackedFloat

variable {s s' : Sign} {m m' : ℕ} {e e' t : ℤ} {x y : Float}

theorem mantissa_shiftRight (em : ExtendedMantissa) (n : ℕ) :
    (em >>> n).mantissa = em.mantissa / 2 ^ n := by
  induction n with
  | zero => exact (Nat.div_one _).symm
  | succ n ih =>
    have hsucc : (em >>> (n + 1)).mantissa = (em >>> n).mantissa / 2 := rfl
    rw [hsucc, ih, Nat.div_div_eq_div_mul, pow_succ]

theorem roundedMantissa_cases (em : ExtendedMantissa) :
    em.roundedMantissa = em.mantissa ∨ em.roundedMantissa = em.mantissa + 1 := by
  obtain ⟨mantissa, roundBit, stickyBit⟩ := em
  cases roundBit <;> cases stickyBit <;>
    simp [ExtendedMantissa.roundedMantissa, ExtendedMantissa.accuracy, Accuracy.roundToNearestEven]
  omega

/-- Cut off at the exponent that its size demands, a mantissa has 53 bits, or fewer where the
exponent is the least that there is. -/
theorem isCanonical_cut (hm : 0 < m) (he : -1074 ≤ e) (ht : max (m.log2 + e - 52) (-1074) = t)
    (hle : e ≤ t) : IsCanonical (m / 2 ^ (t - e).toNat) t := by
  have hlow : 2 ^ m.log2 ≤ m := Nat.log2_self_le hm.ne'
  have hhigh : m < 2 ^ (m.log2 + 1) := Nat.lt_log2_self
  by_cases hlong : 52 ≤ m.log2
  · have hcut : (t - e).toNat = m.log2 - 52 := by omega
    have hlog : m.log2 = 52 + (m.log2 - 52) := by omega
    have hlog' : m.log2 + 1 = 53 + (m.log2 - 52) := by omega
    have hfull : 2 ^ 52 ≤ m / 2 ^ (m.log2 - 52) := by
      rw [Nat.le_div_iff_mul_le (by positivity), ← pow_add, ← hlog]
      exact hlow
    rw [hcut]
    refine ⟨by omega, ?_, by omega, .inl hfull⟩
    rw [Nat.div_lt_iff_lt_mul (by positivity), ← pow_add, ← hlog']
    exact hhigh
  · have hcut : (t - e).toNat = 0 := by omega
    rw [hcut, pow_zero, Nat.div_one]
    refine ⟨hm, ?_, by omega, .inr (by omega)⟩
    exact hhigh.trans_le (Nat.pow_le_pow_right (by norm_num) (by omega))

/-- Rounding leaves a mantissa and an exponent as doubles have them, except that the exponent may
be larger than theirs. -/
theorem exists_roundWithAccuracy_eq (s : Sign) (a : Accuracy) (hm : 0 < m) (he : -1074 ≤ e)
    (hle : e ≤ max (m.log2 + e - 52) (-1074)) :
    ∃ M E, ∃ h : IsCanonical M E,
      roundWithAccuracy Format.binary64 s m e a = .finite s M E h.pos := by
  generalize ht : max (m.log2 + e - 52) (-1074) = t at hle
  have hmantissa : (ExtendedMantissa.ofMantissaAndAccuracy m a).mantissa = m := by
    cases a with
    | exact => rfl
    | inexact o => cases o <;> rfl
  have hcut := isCanonical_cut hm he ht hle
  rw [roundWithAccuracy, shiftToTargetExponent_eq ht hle]
  generalize hem : ExtendedMantissa.ofMantissaAndAccuracy m a >>> (t - e).toNat = em
  have hem' : em.mantissa = m / 2 ^ (t - e).toNat := by
    rw [← hem, mantissa_shiftRight, hmantissa]
  rw [← hem'] at hcut
  have hpos := hcut.pos
  have hleast := hcut.least
  have hfull := hcut.full
  dsimp only
  by_cases hover : em.roundedMantissa = 2 ^ 53
  · -- The mantissa was rounded up to the next power of two, and is cut once more.
    have hagain : max (((2 ^ 53 : ℕ).log2 : ℤ) + t - 52) (-1074) = t + 1 := by
      rw [Nat.log2_two_pow]
      omega
    have hone : (t + 1 - t).toNat = 1 := by omega
    rw [hover, shiftToTargetExponent_eq hagain (by omega), hone]
    exact ⟨2 ^ 52, t + 1, ⟨by norm_num, by norm_num, by omega, .inl le_rfl⟩, rfl⟩
  · have hc : IsCanonical em.roundedMantissa t := by
      have hlt := hcut.lt
      rcases roundedMantissa_cases em with hrounded | hrounded <;>
        exact ⟨by omega, by omega, hleast, by omega⟩
    rw [shiftToTargetExponent_eq hc.target le_rfl, sub_self]
    exact ⟨em.roundedMantissa, t, hc, dif_neg hc.pos.ne'⟩

theorem log2_shiftLeft (hm : 0 < m) (n : ℕ) : (m <<< n).log2 = m.log2 + n := by
  induction n with
  | zero => rfl
  | succ n ih =>
    have hne : m <<< n ≠ 0 := by
      rw [Nat.shiftLeft_eq]
      positivity
    rw [Nat.shiftLeft_succ, Nat.log2_two_mul hne, ih, Nat.add_assoc]

theorem exists_round_eq (s : Sign) (hm : 0 < m) (he : -1074 ≤ e) :
    ∃ M E, ∃ h : IsCanonical M E, round Format.binary64 s m e = .finite s M E h.pos := by
  rw [UnpackedFloat.round, target_eq, decreaseExponent]
  generalize ht : max (m.log2 + e - 52) (-1074) = t
  have hlog : (m <<< (e - t).toNat).log2 = m.log2 + (e - t).toNat := log2_shiftLeft hm _
  have hpos : 0 < m <<< (e - t).toNat := by
    rw [Nat.shiftLeft_eq]
    positivity
  refine exists_roundWithAccuracy_eq s .exact hpos (by omega) ?_
  rw [hlog]
  push_cast
  omega

/-- Numbers with a mantissa and an exponent as doubles have them, though the exponent may be too
large for a double. -/
def IsRounded : UnpackedFloat → Prop
  | .finite _ m e _ => IsCanonical m e
  | .zero _ | .infinity _ | .notANumber => True

theorem isRounded_unpack (x : Float) : IsRounded x.toModel.unpack := by
  cases hu : x.toModel.unpack with
  | finite s m e hm => exact ((has_of_unpack hu).canonical hm).1
  | zero s => trivial
  | infinity s => trivial
  | notANumber => trivial

/-- A number that is more than zero, in the order of the numbers that are. -/
def IsAbove (u : UnpackedFloat) : Prop := placeOf (.zero .positive) < placeOf u

theorem isAbove_finite (hm : 0 < m) : IsAbove (.finite s m e hm) ↔ s = .positive := by
  cases s <;> simp [IsAbove, placeOf, Prod.Lex.toLex_lt_toLex]

theorem isAbove_infinity : IsAbove (.infinity s) ↔ s = .positive := by
  cases s <;> simp [IsAbove, placeOf, Prod.Lex.toLex_lt_toLex]

theorem not_isAbove_zero : ¬ IsAbove (.zero s) := by
  cases s <;> exact lt_irrefl _

theorem zero_lt_iff (hx : x.isNaN = false) : 0 < x ↔ IsAbove x.toModel.unpack := by
  have hzero : (0 : Float).toModel.unpack = .zero .positive := rfl
  rw [lt_iff_rank (by decide +kernel) hx, rank, rank, hzero, IsAbove]

theorem zero_lt_pack_infinity (s : Sign) :
    0 < Float.ofModel (Float.Model.pack (.infinity s)) ↔ s = .positive := by
  cases s with
  | negative => exact iff_of_false (by decide +kernel) (by rintro ⟨⟩)
  | positive => exact iff_of_true (by decide +kernel) rfl

theorem pack_finite_of_large (hm : 0 < m) (he : 971 < e) :
    Float.Model.pack (.finite s m e hm) = Float.Model.pack (.infinity s) := by
  have hmany : 2 ^ Format.binary64.exponentBits ≤ (e + (Format.binary64.exponentBias : ℤ) +
      (Format.binary64.mantissaBitsWithoutImplicit : ℤ)).toNat + 1 := by
    have hbias : (Format.binary64.exponentBias : ℤ) = 1023 := rfl
    have hbits : Format.binary64.mantissaBitsWithoutImplicit = 52 := rfl
    change 2 ^ 11 ≤ _
    rw [hbias, hbits]
    push_cast
    omega
  have hpack : UnpackedFloat.pack Format.binary64 (.finite s m e hm) =
      UnpackedFloat.pack Format.binary64 (.infinity s) := by
    rw [UnpackedFloat.pack]
    exact if_pos hmany
  simp only [Float.Model.pack, hpack]

/-- Packing keeps the side of zero, also where it makes a number that is too large infinite. -/
theorem zero_lt_pack_iff {u : UnpackedFloat} (hu : IsRounded u) :
    0 < Float.ofModel (Float.Model.pack u) ↔ IsAbove u := by
  cases u with
  | notANumber => exact iff_of_false (by decide +kernel) (lt_irrefl _)
  | zero s => exact iff_of_false (by cases s <;> decide +kernel) not_isAbove_zero
  | infinity s => rw [zero_lt_pack_infinity, isAbove_infinity]
  | finite s m e hm =>
    by_cases he : e ≤ 971
    · have hunpack := (isDouble_pack hu he s).unpack
      have hnumber : (Float.ofModel (Float.Model.pack (.finite s m e hm))).isNaN = false := by
        change UnpackedFloat.isNaN (Float.ofModel _).toModel.unpack = false
        rw [hunpack]
        rfl
      rw [zero_lt_iff hnumber, hunpack]
    · rw [pack_finite_of_large hm (not_le.mp he), zero_lt_pack_infinity, isAbove_finite]

theorem round_spec (s : Sign) (hm : 0 < m) (he : -1074 ≤ e) :
    IsRounded (UnpackedFloat.round Format.binary64 s m e) ∧
      (IsAbove (UnpackedFloat.round Format.binary64 s m e) ↔ s = .positive) := by
  obtain ⟨M, E, hc, heq⟩ := exists_round_eq s hm he
  rw [heq]
  exact ⟨hc, isAbove_finite hc.pos⟩

theorem normalize_spec (n : ℤ) (s : Sign) (he : -1074 ≤ e) :
    IsRounded (normalize Format.binary64 n e s) ∧
      (IsAbove (normalize Format.binary64 n e s) ↔ 0 < n) := by
  rw [UnpackedFloat.normalize]
  rcases lt_trichotomy n 0 with hn | rfl | hn
  · obtain ⟨hrounded, habove⟩ := round_spec (m := (-n).toNat) .negative (by omega) he
    rw [Int.compare_eq_lt.mpr hn]
    exact ⟨hrounded, habove.trans (iff_of_false (by rintro ⟨⟩) (by omega))⟩
  · exact ⟨trivial, iff_of_false not_isAbove_zero (lt_irrefl 0)⟩
  · obtain ⟨hrounded, habove⟩ := round_spec (m := n.toNat) .positive (by omega) he
    rw [Int.compare_eq_gt.mpr hn]
    exact ⟨hrounded, habove.trans (iff_of_true rfl hn)⟩

/-- With its mantissa written at a common exponent, the larger one of two doubles is the one with
the larger exponent. -/
theorem IsCanonical.shiftLeft_lt (h : IsCanonical m e) (h' : IsCanonical m' e') (hlt : e < e') :
    m <<< (e - min e e').toNat < m' <<< (e' - min e e').toNat := by
  have hleast := h.least
  have hfull : 2 ^ 52 ≤ m' := h'.full.resolve_right (by omega)
  have hnone : (e - min e e').toNat = 0 := by omega
  have hsome : (e' - min e e').toNat = 1 + (e' - min e e' - 1).toNat := by omega
  have hpos : 0 < 2 ^ (e' - min e e' - 1).toNat := by positivity
  rw [hnone, hsome, Nat.shiftLeft_eq, Nat.shiftLeft_eq, pow_zero, mul_one]
  calc m < 2 ^ 53 := h.lt
    _ ≤ m' * 2 ^ 1 := by omega
    _ ≤ m' * 2 ^ 1 * 2 ^ (e' - min e e' - 1).toNat := Nat.le_mul_of_pos_right _ hpos
    _ = m' * 2 ^ (1 + (e' - min e e' - 1).toNat) := by rw [pow_add, mul_assoc]

theorem IsCanonical.shiftLeft_lt_iff (h : IsCanonical m e) (h' : IsCanonical m' e') :
    m <<< (e - min e e').toNat < m' <<< (e' - min e e').toNat ↔ e < e' ∨ e = e' ∧ m < m' := by
  rcases lt_trichotomy e e' with hlt | rfl | hgt
  · exact iff_of_true (h.shiftLeft_lt h' hlt) (.inl hlt)
  · simp
  · have hless := h'.shiftLeft_lt h hgt
    rw [min_comm] at hless
    exact iff_of_false (by omega) (by omega)

theorem sub_finite_spec (s s' : Sign) (h : IsCanonical m e) (h' : IsCanonical m' e') :
    IsRounded (UnpackedFloat.sub Format.binary64 (.finite s m e h.pos) (.finite s' m' e' h'.pos)) ∧
      (IsAbove (UnpackedFloat.sub Format.binary64 (.finite s m e h.pos)
        (.finite s' m' e' h'.pos)) ↔
        placeOf (.finite s' m' e' h'.pos) < placeOf (.finite s m e h.pos)) := by
  have hleast := h.least
  have hleast' := h'.least
  have hless := h.shiftLeft_lt_iff h'
  have hmore := h'.shiftLeft_lt_iff h
  rw [min_comm] at hmore
  have hpos : 0 < m <<< (e - min e e').toNat := by
    rw [Nat.shiftLeft_eq]
    exact Nat.mul_pos h.pos (by positivity)
  have hpos' : 0 < m' <<< (e' - min e e').toNat := by
    rw [Nat.shiftLeft_eq]
    exact Nat.mul_pos h'.pos (by positivity)
  rw [UnpackedFloat.sub]
  obtain ⟨hrounded, habove⟩ := normalize_spec (e := min e e')
    (s.apply (m <<< (e - min e e').toNat : ℕ) - s'.apply (m' <<< (e' - min e e').toNat : ℕ))
    .positive (by omega)
  refine ⟨hrounded, habove.trans ?_⟩
  generalize m <<< (e - min e e').toNat = a at *
  generalize m' <<< (e' - min e e').toNat = a' at *
  cases s with
  | positive =>
    cases s' with
    | positive =>
      have hsub : 0 < (a : ℤ) - a' ↔ a' < a := by omega
      simp only [Sign.apply, placeOf, Prod.Lex.toLex_lt_toLex, hsub, hmore]
      simp
    | negative =>
      have hsub : 0 < (a : ℤ) - -a' := by omega
      simp only [Sign.apply, placeOf, Prod.Lex.toLex_lt_toLex, hsub]
      simp
  | negative =>
    cases s' with
    | positive =>
      have hsub : ¬ 0 < -(a : ℤ) - a' := by omega
      simp only [Sign.apply, placeOf, Prod.Lex.toLex_lt_toLex, hsub]
      simp
    | negative =>
      have hsub : 0 < -(a : ℤ) - -a' ↔ a < a' := by omega
      simp only [Sign.apply, placeOf, Prod.Lex.toLex_lt_toLex, hsub, hless]
      simp only [lt_irrefl, true_and, false_or, neg_lt_neg_iff, neg_inj, Nat.cast_lt]
      omega

/-- A difference is more than zero if the number subtracted is the smaller one. -/
theorem sub_spec {a b : UnpackedFloat} (ha : IsRounded a) (hb : IsRounded b)
    (hnumber : a.isNaN = false) (hfinite : b.isFinite = true) :
    IsRounded (UnpackedFloat.sub Format.binary64 a b) ∧
      (IsAbove (UnpackedFloat.sub Format.binary64 a b) ↔ placeOf b < placeOf a) := by
  cases b with
  | notANumber => cases hfinite
  | infinity s => cases hfinite
  | zero s' =>
    cases a with
    | notANumber => cases hnumber
    | infinity s => exact ⟨trivial, Iff.rfl⟩
    | zero s =>
      refine ⟨?_, iff_of_false ?_ (lt_irrefl _)⟩
      · rw [UnpackedFloat.sub]
        split <;> trivial
      · rw [UnpackedFloat.sub]
        split <;> exact lt_irrefl _
    | finite s m e hm => exact ⟨ha, Iff.rfl⟩
  | finite s' m' e' hm' =>
    cases a with
    | notANumber => cases hnumber
    | infinity s =>
      refine ⟨trivial, ?_⟩
      cases s <;> cases s' <;> simp [UnpackedFloat.sub, IsAbove, placeOf, Prod.Lex.toLex_lt_toLex]
    | zero s =>
      refine ⟨hb, ?_⟩
      cases s' <;> simp [UnpackedFloat.sub, IsAbove, placeOf, Prod.Lex.toLex_lt_toLex]
    | finite s m e hm => exact sub_finite_spec s s' ha hb

theorem isNaN_of_isFinite {u : UnpackedFloat} (h : u.isFinite = true) : u.isNaN = false := by
  cases u with
  | notANumber => cases h
  | infinity s => rfl
  | zero s => rfl
  | finite s m e hm => rfl

/-- Of two numbers the one subtracted is the smaller one just if the difference is more than zero,
though differences are rounded. -/
theorem sub_pos_iff (hx : x.isNaN = false) (hy : y.isFinite = true) : 0 < x - y ↔ y < x := by
  obtain ⟨hrounded, habove⟩ := sub_spec (isRounded_unpack x) (isRounded_unpack y) hx hy
  rw [lt_iff_rank (isNaN_of_isFinite hy) hx]
  exact (zero_lt_pack_iff hrounded).trans habove

theorem isNaN_sub (hx : x.isNaN = true) (y : Float) : (x - y).isNaN = true := by
  have hnumber : x.toModel.unpack.isNaN = true := hx
  have hnone : x.toModel.unpack = .notANumber := by
    cases hu : x.toModel.unpack with
    | notANumber => rfl
    | infinity s => rw [hu] at hnumber; cases hnumber
    | zero s => rw [hu] at hnumber; cases hnumber
    | finite s m e hm => rw [hu] at hnumber; cases hnumber
  have hsub : x - y = Float.ofModel (Float.Model.pack .notANumber) := by
    change Float.ofModel (Float.Model.pack
      (UnpackedFloat.sub Format.binary64 x.toModel.unpack y.toModel.unpack)) = _
    rw [hnone]
    rfl
  rw [hsub]
  decide +kernel

end WikiGateway.Decimal

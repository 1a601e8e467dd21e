import Mathlib
import WikiGateway.Instant

/-! The order of doubles: by what is on either side of zero, then by exponent, then by mantissa.
What is not a number has no place in it. -/
namespace WikiGateway.Decimal

open Float.Model Float.Model.UnpackedFloat

/-- The place of a number in the order: its side of zero, its exponent and its mantissa, the latter
two turned round for negative numbers. -/
def placeOf : UnpackedFloat → ℤ ×ₗ ℤ ×ₗ ℤ
  | .infinity .negative => toLex (-2, toLex (0, 0))
  | .finite .negative m e _ => toLex (-1, toLex (-e, -m))
  | .notANumber | .zero _ => toLex (0, toLex (0, 0))
  | .finite .positive m e _ => toLex (1, toLex (e, m))
  | .infinity .positive => toLex (2, toLex (0, 0))

/-- The place of a double in the order. -/
def rank (x : Float) : ℤ ×ₗ ℤ ×ₗ ℤ := placeOf x.toModel.unpack

theorem compare_sign (s s' : Sign) : compare s s' =
    match s, s' with
    | .negative, .positive => .lt
    | .positive, .negative => .gt
    | .negative, .negative | .positive, .positive => .eq := by
  cases s <;> cases s' <;> rfl

theorem isLE_then_compare (e e' : ℤ) (m m' : ℕ) :
    ((compare e e').then (compare m m')).isLE = true ↔ e < e' ∨ e = e' ∧ m ≤ m' := by
  rw [Ordering.isLE_then_iff_or, compare_lt_iff_lt, compare_eq_iff_eq, Nat.isLE_compare]

theorem isGE_then_compare (e e' : ℤ) (m m' : ℕ) :
    ((compare e e').then (compare m m')).isGE = true ↔ e' < e ∨ e = e' ∧ m' ≤ m := by
  rw [← Ordering.isLE_swap, Ordering.swap_then, ← Std.OrientedOrd.eq_swap,
    ← Std.OrientedOrd.eq_swap, isLE_then_compare, eq_comm (a := e)]

variable {a b : UnpackedFloat}

theorem lt_iff_placeOf (ha : a.isNaN = false) (hb : b.isNaN = false) :
    a.lt b = true ↔ placeOf a < placeOf b := by
  rcases a with (_ | _) | _ | _ | ⟨(_ | _), m, e, _⟩ <;>
    rcases b with (_ | _) | _ | _ | ⟨(_ | _), m', e', _⟩ <;>
    simp_all [UnpackedFloat.lt, UnpackedFloat.compare, UnpackedFloat.isNaN, placeOf,
      Prod.Lex.toLex_lt_toLex, Ordering.then_eq_lt, Ordering.then_eq_gt, compare_lt_iff_lt,
      compare_gt_iff_gt, compare_sign]

theorem le_iff_placeOf (ha : a.isNaN = false) (hb : b.isNaN = false) :
    a.le b = true ↔ placeOf a ≤ placeOf b := by
  rcases a with (_ | _) | _ | _ | ⟨(_ | _), m, e, _⟩ <;>
    rcases b with (_ | _) | _ | _ | ⟨(_ | _), m', e', _⟩ <;>
    simp_all [UnpackedFloat.le, UnpackedFloat.compare, UnpackedFloat.isNaN, placeOf,
      Prod.Lex.toLex_le_toLex, isLE_then_compare, isGE_then_compare, compare_sign]

variable {x y : Float}

theorem lt_iff_rank (hx : x.isNaN = false) (hy : y.isNaN = false) :
    x < y ↔ rank x < rank y := by
  have hlt : x < y ↔ decide (x.toModel.unpack.lt y.toModel.unpack = true) = true := Iff.rfl
  rw [hlt, decide_eq_true_iff]
  exact lt_iff_placeOf hx hy

theorem le_iff_rank (hx : x.isNaN = false) (hy : y.isNaN = false) :
    x ≤ y ↔ rank x ≤ rank y := by
  have hle : x ≤ y ↔ decide (x.toModel.unpack.le y.toModel.unpack = true) = true := Iff.rfl
  rw [hle, decide_eq_true_iff]
  exact le_iff_placeOf hx hy

/-- What is not a number is not compared with anything. -/
theorem compare_of_isNaN (h : a.isNaN = true ∨ b.isNaN = true) : a.compare b = none := by
  rcases a with _ | _ | _ | _ <;> rcases b with _ | _ | _ | _ <;>
    simp_all [UnpackedFloat.isNaN, UnpackedFloat.compare]

theorem not_lt_of_isNaN (h : x.isNaN = true ∨ y.isNaN = true) : ¬ x < y := by
  have hlt : x < y ↔ decide (x.toModel.unpack.lt y.toModel.unpack = true) = true := Iff.rfl
  rw [hlt, decide_eq_true_iff, UnpackedFloat.lt, compare_of_isNaN h]
  simp

theorem not_le_of_isNaN (h : x.isNaN = true ∨ y.isNaN = true) : ¬ x ≤ y := by
  have hle : x ≤ y ↔ decide (x.toModel.unpack.le y.toModel.unpack = true) = true := Iff.rfl
  rw [hle, decide_eq_true_iff, UnpackedFloat.le, compare_of_isNaN h]
  simp

end WikiGateway.Decimal

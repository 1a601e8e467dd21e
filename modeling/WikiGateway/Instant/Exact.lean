import Mathlib.Algebra.Order.Field.Basic
import Mathlib.Algebra.Order.Floor.Semiring
import WikiGateway.Instant

/-! Times that are exact numbers, computed without rounding: rational ones, or real ones. They have
whole parts, so that seconds that are counted up pass every one of them. -/
namespace WikiGateway.Instant

variable {τ : Type} [Field τ] [LinearOrder τ]

instance (priority := low) exact [FloorSemiring τ] : Instant τ where
  lt a b := decide (a < b)
  le a b := decide (a ≤ b)
  zero := 0
  add := (· + ·)
  sub := (· - ·)
  second := 1
  seconds? n := some n
  reaches d n := decide ((n : τ) ≤ d)
  toMillis d := d * 1000
  steps a b := ⌊b - a⌋₊ + 1

variable [FloorSemiring τ]

@[simp]
theorem exact_lt (a b : τ) : Ranked.lt a b = decide (a < b) := rfl

@[simp]
theorem exact_le (a b : τ) : Ranked.le a b = decide (a ≤ b) := rfl

@[simp]
theorem exact_zero : (zero : τ) = 0 := rfl

@[simp]
theorem exact_add (a b : τ) : add a b = a + b := rfl

@[simp]
theorem exact_sub (a b : τ) : sub a b = a - b := rfl

@[simp]
theorem exact_second : (second : τ) = 1 := rfl

@[simp]
theorem exact_reaches (d : τ) (n : Nat) : reaches d n = decide ((n : τ) ≤ d) := rfl

end WikiGateway.Instant

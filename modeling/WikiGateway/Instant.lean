import WikiGateway.Decimal.Reading
import WikiGateway.Decimal.Shortest

/-! Points in time and spans of time, in seconds, as far as the gateway computes with them. -/
namespace WikiGateway

/-- Values that can be compared. -/
class Ranked (τ : Type) where
  /-- Whether the first value is less than the second. -/
  lt : τ → τ → Bool
  /-- Whether the first value is at most the second. -/
  le : τ → τ → Bool

/-- Times that can be added, subtracted and compared. Floating-point times run; times that are exact
numbers satisfy the laws of arithmetic. -/
class Instant (τ : Type) extends Ranked τ where
  zero : τ
  add : τ → τ → τ
  sub : τ → τ → τ
  second : τ
  /-- A whole number of seconds, unless it is beyond all times. -/
  seconds? : Int → Option τ
  /-- Whether a span is at least a whole number of seconds, compared exactly. -/
  reaches : τ → Nat → Bool
  toMillis : τ → τ
  /-- How often seconds are added to a time at most until they pass another, if ever they do. -/
  steps : τ → τ → Nat

/-- A whole number at most `x`, for a finite `x` that is not negative. -/
def floorOf (x : Float) : Nat :=
  let b := Decimal.Binary.ofFloat x
  b.mantissa * Nat.pow 2 b.exponent.toNat / Nat.pow 2 (-b.exponent).toNat

/-- The whole number at or below a finite number. -/
def floorInt (x : Float) : Int :=
  let whole := floorOf x.abs
  if x < 0 then -(if Float.ofNat whole == x.abs then (whole : Int) else whole + 1) else whole

/-- Compares a number with a whole one without rounding either. -/
def reachesWhole (x : Float) (n : Nat) : Bool :=
  if x.isNaN then false
  else if x.isInf then decide (0 < x)
  else if x < 0 then false
  else n ≤ floorOf x

instance : Instant Float where
  zero := 0
  add := (· + ·)
  sub := (· - ·)
  lt a b := decide (a < b)
  le a b := decide (a ≤ b)
  second := 1
  seconds? := Decimal.ofInt?
  reaches := reachesWhole
  toMillis x := x * 1000
  -- Seconds that have not passed a time after as many steps as there are doubles go in circles.
  steps _ _ := UInt64.size

end WikiGateway

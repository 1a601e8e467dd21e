import WikiGateway.Instant

/-! Points in time as they are given: in whole seconds, however many, or in floating-point ones. -/
namespace WikiGateway

inductive Number
  | whole (n : Int)
  | float (x : Float)

namespace Number

/-- Whether a whole number is less than a floating-point one; neither is rounded. -/
def wholeLt (n : Int) (x : Float) : Bool :=
  if x.isFinite then n < floorInt x || (n == floorInt x && x != x.floor) else decide (0 < x)

def wholeLe (n : Int) (x : Float) : Bool :=
  if x.isFinite then n ≤ floorInt x else decide (0 < x)

def floatLt (x : Float) (n : Int) : Bool :=
  if x.isFinite then floorInt x < n else decide (x < 0)

def floatLe (x : Float) (n : Int) : Bool :=
  if x.isFinite then floorInt x < n || (floorInt x == n && x == x.floor) else decide (x < 0)

def lt : Number → Number → Bool
  | whole m, whole n => m < n
  | whole n, float x => wholeLt n x
  | float x, whole n => floatLt x n
  | float x, float y => decide (x < y)

def le : Number → Number → Bool
  | whole m, whole n => m ≤ n
  | whole n, float x => wholeLe n x
  | float x, whole n => floatLe x n
  | float x, float y => decide (x ≤ y)

instance : Ranked Number := ⟨lt, le⟩

end Number

end WikiGateway

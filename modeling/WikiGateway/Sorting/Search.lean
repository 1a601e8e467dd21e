/-! Searches for the place at which a test on positions ceases to hold. -/
namespace WikiGateway.Sorting

/-- The first place in `[lo, hi)` at which a test fails, or `hi`, by halving. The test is taken to
hold before that place and to fail from there on; where it does neither, the answer depends on the
places looked at. Of two in the middle that is the later one or, without `late`, the earlier. -/
def boundary (late : Bool) (holds : Nat → Bool) (lo hi : Nat) : Nat :=
  if lo < hi then
    let mid := lo + (hi - lo - if late then 0 else 1) / 2
    if holds mid then boundary late holds (mid + 1) hi else boundary late holds lo mid
  else lo
termination_by hi - lo
decreasing_by all_goals (split <;> omega)

/-- Steps of growing width from `last` over `next` while the test holds: the last place at which it
was seen to hold, and the first at which it need not. -/
def widen (holds : Nat → Bool) (size last next : Nat) : Nat × Nat :=
  if next < size ∧ holds next then widen holds size next (2 * next + 1) else (last, min next size)
termination_by size - next

/-- How many places at the start pass a test, looked for near the start first. -/
def leadingCount (late : Bool) (holds : Nat → Bool) (size : Nat) : Nat :=
  if holds 0 then
    let (last, next) := widen holds size 0 1
    boundary late holds (last + 1) next
  else 0

/-- How many items at the start of a list pass a test. -/
def leadingItems {α : Type} (late : Bool) (test : α → Bool) (xs : List α) : Nat :=
  leadingCount late (fun i => xs[i]?.any test) xs.length

end WikiGateway.Sorting

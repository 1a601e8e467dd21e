/-! Sets of code points, and values of code points, laid out in ranges that are in order. -/
namespace WikiGateway

/-- Looks for the row within whose bounds `n` lies, among those with an index in `[lo, hi)`. -/
def rowWith? {ρ : Type} (bounds : ρ → Nat × Nat) (rows : Array ρ) (n lo hi : Nat) : Option ρ :=
  if lo < hi then
    let mid := (lo + hi) / 2
    match rows[mid]? with
    | none => none
    | some row =>
      if n < (bounds row).1 then rowWith? bounds rows n lo mid
      else if (bounds row).2 < n then rowWith? bounds rows n (mid + 1) hi
      else some row
  else none
termination_by hi - lo

/-- Whether a code point lies in one of the ranges. -/
def covers (ranges : Array (Nat × Nat)) (n : Nat) : Bool :=
  (rowWith? id ranges n 0 ranges.size).isSome

/-- Whether a character lies in one of the ranges. -/
def isIn (ranges : Array (Nat × Nat)) (c : Char) : Bool := covers ranges c.toNat

/-- The value of the range in which a code point lies, and how far into the range that is. -/
def valueAt? {α : Type} (rows : Array (Nat × Nat × α)) (n : Nat) : Option (α × Nat) :=
  (rowWith? (fun row => (row.1, row.2.1)) rows n 0 rows.size).map fun row =>
    (row.2.2, n - row.1)

end WikiGateway

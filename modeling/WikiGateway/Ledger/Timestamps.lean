import WikiGateway.Instant
import WikiGateway.Sorting.Runs

/-! Lists of times put in order and searched. -/
namespace WikiGateway.Timestamps

variable {τ : Type} [Ranked τ]

/-- A time that can be compared with others. -/
def isOrdered (t : τ) : Bool := Ranked.le t t

/-- Times in order. Where some cannot be compared, the answer depends on the order in which they
came. -/
def sort (ts : List τ) : List τ :=
  if ts.all isOrdered then ts.mergeSort Ranked.le else Sorting.sort Ranked.lt ts

/-- How many of the sorted times are before `t`. -/
def countBefore (ts : Array τ) (t : τ) : Nat :=
  Sorting.boundary true (fun i => ts[i]?.any (Ranked.lt · t)) 0 ts.size

/-- How many of the times are after `since`; all of them if it is not given. -/
def countAfter (since : Option τ) (ts : List τ) : Nat :=
  match since with
  | none => ts.length
  | some s => ts.countP fun t => Ranked.lt s t

end WikiGateway.Timestamps

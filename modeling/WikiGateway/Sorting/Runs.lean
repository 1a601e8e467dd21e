import WikiGateway.Sorting.Merge

/-!
Sorting by runs: a list is cut into runs that are in order, or in the opposite order, and
neighbouring runs are merged. Where some items cannot be compared, the answer depends on the order
in which they came, and is the one to which these comparisons lead.
-/
namespace WikiGateway.Sorting

variable {α : Type}

/-- How many items, after `prev`, each relate to the one before it. -/
def runAfter (related : α → α → Bool) (prev : α) : List α → Nat
  | [] => 0
  | x :: xs => if related prev x then runAfter related x xs + 1 else 0

/-- How long the run at the start of a list is, and whether it descends. -/
def leadingRun (lt : α → α → Bool) : List α → Nat × Bool
  | a :: b :: xs =>
    if lt b a then (runAfter (fun x y => lt y x) b xs + 2, true)
    else (runAfter (fun x y => !lt y x) b xs + 2, false)
  | xs => (xs.length, false)

/-- Puts an item into sorted ones, after all that do not come after it. -/
def insertSorted (lt : α → α → Bool) (xs : Array α) (x : α) : Array α :=
  xs.insertIdxIfInBounds (boundary true (fun i => xs[i]?.any fun y => !lt x y) 0 xs.size) x

/-- The least length of runs in a list of `n`: all of a short one, else what remains when `n` is
halved, and rounded up, until it is at most 64. -/
def minRun (n : Nat) : Nat :=
  if n < 64 then n
  else
    let parts := Nat.pow 2 (n.log2 - 5)
    (n + parts - 1) / parts

/-- The run at the start of a list, in order and with items after it put in their places until it
has the least length. -/
def firstRun (lt : α → α → Bool) (least : Nat) (xs : List α) : List α :=
  let (n, descends) := leadingRun lt xs
  let run := if descends then (xs.take n).reverse else xs.take n
  (((xs.drop n).take (least - n)).foldl (insertSorted lt) run.toArray).toList

/-- A run, the place of its first item, and the power of its border with the next run. -/
structure Run (α : Type) where
  items : List α
  place : Nat
  power : Nat

/-- How often a list of `n` has to be halved to have the middles of two neighbouring runs in
different parts: the runs have `m` and `k` items, and the first starts at `place`. -/
def borderPower (place m k n : Nat) : Nat :=
  let part (twice i : Nat) := twice * Nat.pow 2 i / (2 * n)
  let left := 2 * place + m
  let right := left + m + k
  ((List.range (n.log2 + 2)).find? fun i => part left (i + 1) != part right (i + 1)).getD 0 + 1

/-- Merges the last two runs, of which the last is given first. -/
def join (lt : α → α → Bool) (eagerness : Nat) (last before : Run α) : Run α × Nat :=
  let (items, eagerness) := merge lt eagerness before.items last.items
  ({ before with items }, eagerness)

/-- Merges the runs at the end whose borders have a higher power than the new one. -/
def collapse (lt : α → α → Bool) (power : Nat) (last : Run α) : List (Run α) → (eagerness : Nat) →
    List (Run α) × Nat
  | [], eagerness => ([{ last with power }], eagerness)
  | before :: runs, eagerness =>
    if power < before.power then
      let (joined, eagerness) := join lt eagerness last before
      collapse lt power joined runs eagerness
    else ({ last with power } :: before :: runs, eagerness)

/-- Merges all runs: the last two, or the two before the last where the last is the longest of the
three. -/
def mergeAll (lt : α → α → Bool) : (count eagerness : Nat) → List (Run α) → List α
  | count + 1, eagerness, c :: b :: a :: runs =>
    if a.items.length < c.items.length then
      let (joined, eagerness) := join lt eagerness b a
      mergeAll lt count eagerness (c :: joined :: runs)
    else
      let (joined, eagerness) := join lt eagerness c b
      mergeAll lt count eagerness (joined :: a :: runs)
  | _, eagerness, [b, a] => (merge lt eagerness a.items b.items).1
  | _, _, runs => runs.reverse.flatMap (·.items)

/-- Cuts the rest of a list of `n` into runs. -/
def runsOf (lt : α → α → Bool) (n place : Nat) (runs : List (Run α)) (eagerness : Nat)
    (xs : List α) : List α :=
  match xs with
  | [] => mergeAll lt runs.length eagerness runs
  | x :: rest =>
    let items := firstRun lt (minRun n) (x :: rest)
    let (runs, eagerness) :=
      match runs with
      | [] => ([], eagerness)
      | last :: runs =>
        let power := borderPower last.place last.items.length items.length n
        collapse lt power last runs eagerness
    runsOf lt n (place + items.length) (⟨items, place, 0⟩ :: runs) eagerness
      (rest.drop (items.length - 1))
termination_by xs.length
decreasing_by simp only [List.length_drop, List.length_cons]; omega

/-- Sorts a list; items of which neither comes first keep their order. -/
def sort (lt : α → α → Bool) (xs : List α) : List α := runsOf lt xs.length 0 [] longStretch xs

end WikiGateway.Sorting

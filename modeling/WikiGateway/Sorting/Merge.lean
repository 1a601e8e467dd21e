import WikiGateway.Sorting.Search

/-!
Two sorted lists merged into one. Items are compared one by one until one list has given several in
a row; then whole stretches are looked for and taken at once, as long as they are long.
-/
namespace WikiGateway.Sorting

variable {α : Type}

/-- How items are taken. -/
inductive Pace
  /-- One by one; so many in a row came from the first list, or from the second. -/
  | single (fromFirst fromSecond : Nat)
  /-- By stretches, from one list and then the other; `some n` if the one gave `n`. -/
  | leaping (before : Option Nat)

/-- A stretch of so many items is long. -/
def longStretch : Nat := 7

/-- What is left to take, once no comparison can decide it: one list is used up, or the first has
only its last item, which comes after all others. -/
def settled? : List α → List α → Option (List α)
  | first, [] => some first
  | [], second => some second
  | [x], second => some (second ++ [x])
  | _, _ => none

/-- The pace after a stretch of `n`, and how many items in a row lead to stretches from then on. -/
def afterLeap (isOver : Bool) (before : Option Nat) (n eagerness : Nat) : Pace × Nat :=
  match before with
  | none => (.leaping (some n), eagerness)
  | some m =>
    if isOver then (.single 0 0, eagerness)
    else if longStretch ≤ m ∨ longStretch ≤ n then (.leaping none, max 1 (eagerness - 1))
    else (.single 0 0, eagerness + 1)

/-- The pace after one item more from a list that has given `n` in a row. -/
def afterSingle (n eagerness : Nat) (otherwise : Pace) : Pace :=
  if eagerness ≤ n then .leaping none else otherwise

/-- Merges two lists of which the last item of the first comes last. Of items that are not in order
those of the first list come first. `taken` is what was merged before, latest first. -/
def mergeLoop (lt : α → α → Bool) (late : Bool) (pace : Pace) (eagerness : Nat)
    (first second taken : List α) : List α × Nat :=
  match settled? first second with
  | some rest => (taken.reverse ++ rest, eagerness)
  | none =>
    match first, second with
    | x :: xs, y :: ys =>
      match pace with
      | .single m n =>
        if lt y x then
          mergeLoop lt late (afterSingle (n + 1) eagerness (.single 0 (n + 1))) eagerness
            (x :: xs) ys (y :: taken)
        else
          mergeLoop lt late (afterSingle (m + 1) eagerness (.single (m + 1) 0)) eagerness
            xs (y :: ys) (x :: taken)
      | .leaping before =>
        if before.isNone = late then
          let n := leadingItems late (fun a => !lt y a) (x :: xs)
          let taken := ((x :: xs).take n).reverse ++ taken
          let first := (x :: xs).drop n
          match settled? first (y :: ys) with
          | some rest => (taken.reverse ++ rest, eagerness)
          | none =>
            let (pace, eagerness) := afterLeap (settled? first ys).isSome before n eagerness
            mergeLoop lt late pace eagerness first ys (y :: taken)
        else
          let n := leadingItems late (fun b => lt b x) (y :: ys)
          let taken := ((y :: ys).take n).reverse ++ taken
          let second := (y :: ys).drop n
          match settled? (x :: xs) second with
          | some rest => (taken.reverse ++ rest, eagerness)
          | none =>
            let (pace, eagerness) := afterLeap (settled? xs second).isSome before n eagerness
            mergeLoop lt late pace eagerness xs second (x :: taken)
    | first, second => (taken.reverse ++ first ++ second, eagerness)
termination_by first.length + second.length
decreasing_by all_goals (simp only [List.length_drop, List.length_cons]; omega)

/-- Merges two sorted lists. What is before all of the second and what is after all of the first
stays where it is; the rest is merged from the end at which the shorter list can be kept. -/
def merge (lt : α → α → Bool) (eagerness : Nat) (a b : List α) : List α × Nat :=
  match b with
  | [] => (a, eagerness)
  | y :: _ =>
    let before := leadingItems true (fun x => !lt y x) a
    let front := a.take before
    match (a.drop before).reverse with
    | [] => (a ++ b, eagerness)
    | x :: xs =>
      let after := leadingItems false (fun z => !lt z x) b.reverse
      let back := (b.reverse.take after).reverse
      let reversed := b.reverse.drop after
      if xs.length + 1 ≤ reversed.length then
        match reversed.reverse with
        | [] => (a ++ b, eagerness)
        | z :: zs =>
          let (merged, eagerness) :=
            mergeLoop lt true (.single 0 0) eagerness (x :: xs).reverse zs [z]
          (front ++ merged ++ back, eagerness)
      else if reversed.isEmpty then (a ++ b, eagerness)
      else
        let (merged, eagerness) :=
          mergeLoop (fun s t => lt t s) false (.single 0 0) eagerness reversed xs [x]
        (front ++ merged.reverse ++ back, eagerness)

end WikiGateway.Sorting

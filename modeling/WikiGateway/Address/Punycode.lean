/-!
Punycode: code points beyond ASCII written with letters and digits. What is ASCII comes first, up to
the last hyphen. Each number after it says how far along to go for the next insertion, over the
places in the text again and again, with the next code point each time that its end is reached.
-/
namespace WikiGateway.Address.Punycode

/-- The digit of a number below 36: a letter, then a decimal digit. -/
def digit (n : Nat) : Nat := if n < 26 then 'a'.toNat + n else '0'.toNat + (n - 26)

def digitValue? (c : Nat) : Option Nat :=
  if 'a'.toNat ≤ c ∧ c ≤ 'z'.toNat then some (c - 'a'.toNat)
  else if 'A'.toNat ≤ c ∧ c ≤ 'Z'.toNat then some (c - 'A'.toNat)
  else if '0'.toNat ≤ c ∧ c ≤ '9'.toNat then some (c - '0'.toNat + 26)
  else none

/-- A digit below the threshold of its place, which is 36 more from place to place, is the last of a
number. -/
def threshold (place bias : Nat) : Nat := max 1 (min 26 (place - bias))

theorem threshold_pos (place bias : Nat) : 0 < threshold place bias := by
  simp only [threshold]
  omega

theorem threshold_le (place bias : Nat) : threshold place bias ≤ 26 := by
  simp only [threshold]
  omega

/-- Divides by 35 until no more than 455 is left, and counts 36 for each time. -/
def shrink (n count : Nat) : Nat × Nat :=
  if 455 < n then shrink (n / 35) (count + 36) else (n, count)
termination_by n
decreasing_by exact Nat.div_lt_self (by omega) (by omega)

/-- The bias after a number, with which a text of `size` code points was reached. -/
def adapt (number size : Nat) (isFirst : Bool) : Nat :=
  let n := if isFirst then number / 700 else number / 2
  let (n, count) := shrink (n + n / size) 0
  count + 36 * n / (n + 38)

def firstBias : Nat := 72

/-- The first code point beyond ASCII. -/
def firstPoint : Nat := 0x80

/-- The digits of a number. -/
def digits (bias place n : Nat) : List Nat :=
  let t := threshold place bias
  if n < t then [digit n]
  else digit (t + (n - t) % (36 - t)) :: digits bias (place + 36) ((n - t) / (36 - t))
termination_by n
decreasing_by
  have h1 := threshold_pos place bias
  have h2 := Nat.div_le_self (n - threshold place bias) (36 - threshold place bias)
  omega

/-- What was written of a text, and where the next insertion is counted from. -/
structure Writing where
  written : List Nat
  /-- How far along the insertion is. -/
  number : Nat
  bias : Nat
  /-- How many code points there are already. -/
  size : Nat
  isFirst : Bool

/-- Goes past a code point of the text while `n` is inserted. -/
def Writing.pass (n : Nat) (w : Writing) (m : Nat) : Writing :=
  if m < n then { w with number := w.number + 1 }
  else if m = n then
    ⟨w.written ++ digits w.bias 36 w.number, 0, adapt w.number (w.size + 1) w.isFirst, w.size + 1,
      false⟩
  else w

/-- Inserts code points, the least first, from `next` on. -/
def Writing.insertAll (text : List Nat) (w : Writing) (next : Nat) : List Nat → Writing
  | [] => w
  | n :: ns =>
    let w := { w with number := w.number + (n - next) * (w.size + 1) }
    let w := text.foldl (Writing.pass n) w
    insertAll text { w with number := w.number + 1 } (n + 1) ns

def encode (text : List Nat) : List Nat :=
  let plain := text.filter (· < firstPoint)
  let others := ((text.filter (firstPoint ≤ ·)).mergeSort).eraseDups
  let start := if plain.isEmpty then [] else plain ++ ['-'.toNat]
  (Writing.insertAll text ⟨start, 0, firstBias, plain.length, true⟩ firstPoint others).written

/-- Reads a number: what it adds to `sum` with digits worth `weight`, and what follows it. -/
def number? (bias place weight sum : Nat) : List Nat → Option (Nat × List Nat)
  | [] => none
  | c :: rest => do
    let d ← digitValue? c
    let t := threshold place bias
    if d < t then return (sum + d * weight, rest)
    else number? bias (place + 36) (weight * (36 - t)) (sum + d * weight) rest

/-- Carries out the insertions into a text, from a place and a code point on; there are no more of
them than `fuel`. -/
def insertAll? (fuel : Nat) (text : List Nat) (bias place next : Nat) (isFirst : Bool)
    (code : List Nat) : Option (List Nat) :=
  match fuel, code with
  | _, [] => some text
  | 0, _ => none
  | fuel + 1, code => do
    let (number, rest) ← number? bias 36 1 0 code
    let size := text.length + 1
    let n := next + (place + number) / size
    let place := (place + number) % size
    if 0x10ffff < n then none
    else
      insertAll? fuel (text.take place ++ n :: text.drop place) (adapt number size isFirst)
        (place + 1) n false rest

/-- What is written in Punycode. -/
def decode? (code : List Nat) : Option (List Nat) :=
  let after := (code.reverse.takeWhile (· ≠ '-'.toNat)).reverse
  let plain := code.take (code.length - after.length - 1)
  insertAll? after.length plain firstBias 0 firstPoint true after

end WikiGateway.Address.Punycode

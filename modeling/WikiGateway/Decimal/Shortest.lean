/-!
The fewest decimal digits that name a binary floating-point number: of all decimals that round to
it, those with the fewest digits, and of these the nearest.
-/
namespace WikiGateway.Decimal

/-- The decimal `digits · 10 ^ exponent`. -/
structure Scientific where
  digits : Nat
  exponent : Int
  deriving DecidableEq, Repr

/-- Moves the zeros at the end of the digits, at most `limit` of them, into the exponent. -/
def Scientific.strip : (limit : Nat) → Scientific → Scientific
  | 0, d => d
  | limit + 1, d =>
    if d.digits ≠ 0 ∧ d.digits % 10 = 0 then strip limit ⟨d.digits / 10, d.exponent + 1⟩ else d

/-- The number `mantissa · 2 ^ exponent`; `narrow` says that the gap below it is half the gap
above. -/
structure Binary where
  mantissa : Nat
  exponent : Int
  narrow : Bool
  deriving DecidableEq, Repr

/-- Reads the magnitude of a finite double off its bits. -/
def Binary.ofFloat (x : Float) : Binary :=
  let bits : Nat := x.toBits.toNat
  let fraction : Nat := bits % Nat.pow 2 52
  let biased : Nat := bits / Nat.pow 2 52 % Nat.pow 2 11
  if biased = 0 then ⟨fraction, -1074, false⟩
  else ⟨Nat.pow 2 52 + fraction, (biased : Int) - 1075, fraction = 0 ∧ 1 < biased⟩

/-- The value and the ends of the interval that rounds to it, over one denominator. -/
structure Interval where
  low : Nat
  value : Nat
  high : Nat
  denominator : Nat
  /-- Whether the ends themselves round to the value. -/
  closed : Bool
  deriving Repr

/-- The interval reaches half a gap to either side; its ends belong to it when the mantissa is
even. -/
def Binary.interval (b : Binary) : Interval :=
  let scale := Nat.pow 2 (b.exponent - 2).toNat
  { low := (4 * b.mantissa - if b.narrow then 1 else 2) * scale
    value := 4 * b.mantissa * scale
    high := (4 * b.mantissa + 2) * scale
    denominator := Nat.pow 2 (2 - b.exponent).toNat
    closed := b.mantissa % 2 = 0 }

/-- Whether `n / d` lies in the interval. -/
def Interval.holds (i : Interval) (n d : Nat) : Bool :=
  let x := n * i.denominator
  if i.closed then i.low * d ≤ x && x ≤ i.high * d else i.low * d < x && x < i.high * d

/-- The multiple of `10 ^ p` in the interval that is nearest to the value, if there is one; of two
equally near the one with the even last digit. -/
def Interval.onGrid (i : Interval) (p : Int) : Option Scientific :=
  let num := Nat.pow 10 p.toNat
  let den := Nat.pow 10 (-p).toNat
  let below := i.value * den / (i.denominator * num)
  let lower := i.holds (below * num) den
  let upper := i.holds ((below + 1) * num) den
  let twice := 2 * (i.value * den)
  let middle := (2 * below + 1) * num * i.denominator
  let nearLower := twice < middle || (twice == middle && below % 2 == 0)
  if lower && (nearLower || !upper) then some ⟨below, p⟩
  else if upper then some ⟨below + 1, p⟩
  else none

/-- An exponent `k` with `10 ^ k` above the value, found from `start` downward. -/
def Interval.scale (i : Interval) : (steps : Nat) → (start : Int) → Int
  | 0, k => k
  | steps + 1, k =>
    if i.value * Nat.pow 10 (1 - k).toNat < Nat.pow 10 (k - 1).toNat * i.denominator then
      i.scale steps (k - 1)
    else k

/-- The fewest digits for a finite double other than zero. -/
def shortest (x : Float) : Scientific :=
  let b := Binary.ofFloat x
  let i := b.interval
  let bitsAbove := b.exponent + (b.mantissa.log2 : Int) + 1
  let k := i.scale 5 (bitsAbove * 30103 / 100000 + 2)
  match (List.range 17).findSome? fun (n : Nat) => i.onGrid (k - 1 - n) with
  | some d => d.strip 20
  | none => ⟨i.value, 0⟩

end WikiGateway.Decimal

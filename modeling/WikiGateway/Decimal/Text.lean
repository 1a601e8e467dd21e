import WikiGateway.Decimal.Shortest

/-!
Floating-point numbers as text: the fewest digits that read back, in positional notation below
`10 ^ 16` and from `10 ^ (-4)`, otherwise with an exponent of at least two digits. A positional text
always has a point.
-/
namespace WikiGateway.Decimal

def zeros (n : Nat) : String := String.ofList (List.replicate n '0')

/-- An exponent with its sign and at least two digits. -/
def exponentText (e : Int) : String :=
  let digits := toString e.natAbs
  (if e < 0 then "e-" else "e+") ++ (if digits.length < 2 then "0" ++ digits else digits)

def Scientific.text (d : Scientific) : String :=
  let digits := toString d.digits
  let count := digits.length
  let point := (count : Int) + d.exponent
  if -4 < point ∧ point ≤ 16 then
    if point ≤ 0 then "0." ++ zeros (-point).toNat ++ digits
    else if (count : Int) ≤ point then digits ++ zeros (point - count).toNat ++ ".0"
    else
      let cs := digits.toList
      String.ofList (cs.take point.toNat ++ '.' :: cs.drop point.toNat)
  else
    let mantissa :=
      match digits.toList with
      | c :: c' :: cs => String.ofList (c :: '.' :: c' :: cs)
      | cs => String.ofList cs
    mantissa ++ exponentText (point - 1)

/-- Whether the sign bit is set. -/
def isNegative (x : Float) : Bool := Nat.pow 2 63 ≤ x.toBits.toNat

/-- The text of a number; what is not finite is one of the three words given. -/
def textWith (nan infinity minusInfinity : String) (x : Float) : String :=
  if x.isNaN then nan
  else if x.isInf then (if isNegative x then minusInfinity else infinity)
  else
    let magnitude := if x == 0 then "0.0" else (shortest x).text
    if isNegative x then "-" ++ magnitude else magnitude

/-- The text of a number in messages. -/
def text (x : Float) : String := textWith "nan" "inf" "-inf" x

end WikiGateway.Decimal

import WikiGateway.Text.Blank

/-! Numbers read from text. -/
namespace WikiGateway.Decimal

/-- The double nearest to `m · 10 ^ e`; infinite when that is beyond all doubles. -/
def toFloat (m : Nat) (e : Int) : Float :=
  if m = 0 then 0
  else
    let magnitude := (m.log2 : Int) * 30103 / 100000 + e
    if 400 < magnitude then 1.0 / 0.0
    else if magnitude < -400 then 0
    else if e < 0 then Float.ofScientific m true e.natAbs
    else Float.ofScientific (m * Nat.pow 10 e.toNat) false 0

/-- The double nearest to a whole number, if there is a finite one. -/
def ofInt? (n : Int) : Option Float :=
  let x := toFloat n.natAbs 0
  if x.isInf then none else some (if n < 0 then -x else x)

/-- The zeros of the scripts of Unicode 14 that write numbers with ten digits, each of which the
other nine follow. -/
def scriptZeros : List Nat := [
  0x30, 0x660, 0x6f0, 0x7c0, 0x966, 0x9e6, 0xa66, 0xae6, 0xb66, 0xbe6, 0xc66, 0xce6, 0xd66,
  0xde6, 0xe50, 0xed0, 0xf20, 0x1040, 0x1090, 0x17e0, 0x1810, 0x1946, 0x19d0, 0x1a80, 0x1a90,
  0x1b50, 0x1bb0, 0x1c40, 0x1c50, 0xa620, 0xa8d0, 0xa900, 0xa9d0, 0xa9f0, 0xaa50, 0xabf0,
  0xff10, 0x104a0, 0x10d30, 0x11066, 0x110f0, 0x11136, 0x111d0, 0x112f0, 0x11450, 0x114d0,
  0x11650, 0x116c0, 0x11730, 0x118e0, 0x11950, 0x11c50, 0x11d50, 0x11da0, 0x16a60, 0x16ac0,
  0x16b50, 0x1d7ce, 0x1d7d8, 0x1d7e2, 0x1d7ec, 0x1d7f6, 0x1e140, 0x1e2f0, 0x1e950, 0x1fbf0]

/-- The value of a decimal digit of any script. -/
def digitValue? (c : Char) : Option Nat :=
  let n := c.val.toNat
  if n < 128 then (if c.isDigit then some (n - 48) else none)
  else (scriptZeros.find? fun z => z ≤ n && n ≤ z + 9).map (n - ·)

/-- Digits of any script as those of ASCII; nothing else changes. -/
def plainDigit (c : Char) : Char :=
  match digitValue? c with
  | some v => v.digitChar
  | none => c

/-- The blanks that may surround a number: all but the four information separators. -/
def isPadding (c : Char) : Bool := isBlank c && !(28 ≤ c.val.toNat && c.val.toNat ≤ 31)

def trimPadding (cs : List Char) : List Char :=
  ((cs.dropWhile isPadding).reverse.dropWhile isPadding).reverse

/-- Takes out the underscores, each of which has to stand between two digits. -/
def joinGroups : (afterDigit : Bool) → List Char → Option (List Char)
  | _, [] => some []
  | true, '_' :: c :: cs => if c.isDigit then (joinGroups true cs).map (c :: ·) else none
  | _, '_' :: _ => none
  | _, c :: cs => (joinGroups c.isDigit cs).map (c :: ·)

def digitsToNat (cs : List Char) : Nat := cs.foldl (fun n c => 10 * n + (c.val.toNat - 48)) 0

/-- A whole number with more digits than this is not read. -/
def mostDigits : Nat := 4300

/-- A sign, or none, and what follows it. -/
def splitSign : List Char → Bool × List Char
  | '-' :: cs => (true, cs)
  | '+' :: cs => (false, cs)
  | cs => (false, cs)

/-- The exponent at the end of a number: nothing, or a mark and a signed run of digits. -/
def exponent? : List Char → Option Int
  | [] => some 0
  | c :: cs =>
    let (negative, digits) := splitSign cs
    if (c = 'e' ∨ c = 'E') ∧ digits ≠ [] ∧ digits.all Char.isDigit then
      some (if negative then -(digitsToNat digits : Int) else digitsToNat digits)
    else none

/-- A number without its sign: digits with at most one point among them, and an exponent. -/
def unsigned? (cs : List Char) : Option Float :=
  let whole := cs.takeWhile Char.isDigit
  let rest := cs.dropWhile Char.isDigit
  let (fraction, tail) :=
    match rest with
    | '.' :: after => (after.takeWhile Char.isDigit, after.dropWhile Char.isDigit)
    | _ => ([], rest)
  if whole ++ fraction = [] then none
  else (exponent? tail).map fun e => toFloat (digitsToNat (whole ++ fraction)) (e - fraction.length)

/-- The infinities and the value that is no number, in letters of either case. -/
def special? (cs : List Char) : Option Float :=
  let word := String.ofList (cs.map Char.toLower)
  if word = "inf" ∨ word = "infinity" then some (1.0 / 0.0)
  else if word = "nan" then some (0.0 / 0.0)
  else none

/-- A number with a sign or without: digits, a point, an exponent, or one of the words for the
special values. -/
def signed? (cs : List Char) : Option Float :=
  let (negative, magnitude) := splitSign cs
  ((special? magnitude).or (unsigned? magnitude)).map fun x => if negative then -x else x

/-- The characters of a number of which the digits may be those of any script, with blanks around it
and single underscores between digits. -/
def loosely? (s : String) : Option (List Char) :=
  joinGroups false ((trimPadding s.toList).map plainDigit)

/-- Reads a text, loosely written, as a floating-point number. -/
def float? (s : String) : Option Float := (loosely? s).bind signed?

/-- Reads a text, loosely written, as a whole number with a sign or without. -/
def whole? (s : String) : Option Int := do
  let (negative, digits) := splitSign (← loosely? s)
  if digits.isEmpty || !digits.all Char.isDigit || mostDigits < digits.length then none
  else some (if negative then -(digitsToNat digits : Int) else digitsToNat digits)

end WikiGateway.Decimal

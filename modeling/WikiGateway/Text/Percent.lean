import WikiGateway.Text.Quoted

/-!
Texts in which bytes are written as `%` and two hexadecimal digits. The bytes are those of UTF-8;
what is not becomes U+FFFD.
-/
namespace WikiGateway.Percent

/-- What the first byte of a character says of it: how many bytes follow, and between which the
first of these lies. Forms longer than needed, halves of pairs and what is beyond the last code
point are left out. -/
def follows? (b : UInt8) : Option (Nat × UInt8 × UInt8) :=
  if b < 0x80 then some (0, 0, 0)
  else if b < 0xc2 then none
  else if b < 0xe0 then some (1, 0x80, 0xbf)
  else if b = 0xe0 then some (2, 0xa0, 0xbf)
  else if b = 0xed then some (2, 0x80, 0x9f)
  else if b < 0xf0 then some (2, 0x80, 0xbf)
  else if b = 0xf0 then some (3, 0x90, 0xbf)
  else if b < 0xf4 then some (3, 0x80, 0xbf)
  else if b = 0xf4 then some (3, 0x80, 0x8f)
  else none

/-- At most `count` bytes that continue a character, the first of them in `[lo, hi]`. -/
def continuation (lo hi : UInt8) : (count : Nat) → List UInt8 → List UInt8
  | count + 1, b :: bs =>
    if lo ≤ b ∧ b ≤ hi then b :: continuation 0x80 0xbf count bs else []
  | _, _ => []

/-- The six bits that each byte adds to those of the first. -/
def codePoint (first : UInt8) (rest : List UInt8) : Nat :=
  let high := match rest.length with
    | 0 => first.toNat
    | 1 => first.toNat % 32
    | 2 => first.toNat % 16
    | _ => first.toNat % 8
  rest.foldl (fun n b => n * 64 + b.toNat % 64) high

/-- The character that stands for bytes which are none. -/
def replacement : Char := Char.ofNat 0xfffd

/-- The characters of bytes; the longest start of one that breaks off counts as one. -/
def characters : List UInt8 → List Char
  | [] => []
  | b :: bs =>
    match follows? b with
    | none => replacement :: characters bs
    | some (count, lo, hi) =>
      let rest := continuation lo hi count bs
      let c := if rest.length = count then Char.ofNat (codePoint b rest) else replacement
      c :: characters (bs.drop rest.length)
termination_by bs => bs.length
decreasing_by all_goals (simp only [List.length_drop, List.length_cons]; omega)

def hexValue? (c : Char) : Option Nat :=
  if c.isDigit then some (c.toNat - 48)
  else if 'a' ≤ c ∧ c ≤ 'f' then some (c.toNat - 87)
  else if 'A' ≤ c ∧ c ≤ 'F' then some (c.toNat - 55)
  else none

/-- The byte written with two digits. -/
def byte? (a b : Char) : Option UInt8 := do
  return UInt8.ofNat ((← hexValue? a) * 16 + (← hexValue? b))

/-- Reads on after bytes, of which the latest comes first. A character that is not of ASCII ends
them, and stands for itself. -/
def decodeAfter (bytes : List UInt8) : List Char → List Char
  | [] => characters bytes.reverse
  | '%' :: a :: b :: cs =>
    match byte? a b with
    | some byte => decodeAfter (byte :: bytes) cs
    | none => decodeAfter (0x25 :: bytes) (a :: b :: cs)
  | c :: cs =>
    if c.toNat < 128 then decodeAfter (UInt8.ofNat c.toNat :: bytes) cs
    else characters bytes.reverse ++ c :: decodeAfter [] cs

def decode (cs : List Char) : List Char := decodeAfter [] cs

/-- A byte as it is written. -/
def escape (b : UInt8) : List Char := '%' :: (hexDigits 2 b.toNat).map Char.toUpper

/-- Writes a text; plain characters stand for themselves. -/
def encode (isPlain : Char → Bool) (cs : List Char) : List Char :=
  cs.flatMap fun c => if isPlain c then [c] else (String.utf8EncodeChar c).flatMap escape

/-- The characters that stand for themselves in forms. -/
def isFormChar (c : Char) : Bool := c.isAlphanum || "_.-~".toList.contains c

/-- A name or a value in a form, where a plus sign stands for a blank. -/
def encodeForm (s : String) : String :=
  String.ofList ((encode (fun c => isFormChar c || c == ' ') s.toList).map fun c =>
    if c == ' ' then '+' else c)

/-- Reads a name or a value in a form. -/
def decodeForm (cs : List Char) : String :=
  String.ofList (decode (cs.map fun c => if c == '+' then ' ' else c))

end WikiGateway.Percent

/-! Texts as bytes: the encoding of JSON bodies is told from their first bytes. -/
namespace WikiGateway.Encoding

inductive Endian
  | big | little
  deriving DecidableEq, Repr

/-- The encodings that a body may have. -/
inductive Scheme
  | utf8
  | utf16 (order : Endian)
  | utf32 (order : Endian)
  deriving DecidableEq, Repr

/-- The scheme of a body and how many bytes at its start only announce it. Without an announcement
the zeros among the first four bytes, or in a body of two, give the scheme away. -/
def detect (bytes : List UInt8) : Scheme × Nat :=
  match bytes with
  | 0 :: 0 :: 0xfe :: 0xff :: _ => (.utf32 .big, 4)
  | 0xff :: 0xfe :: 0 :: 0 :: _ => (.utf32 .little, 4)
  | 0xfe :: 0xff :: _ => (.utf16 .big, 2)
  | 0xff :: 0xfe :: _ => (.utf16 .little, 2)
  | 0xef :: 0xbb :: 0xbf :: _ => (.utf8, 3)
  | a :: b :: c :: d :: _ =>
    if a = 0 then (if b = 0 then .utf32 .big else .utf16 .big, 0)
    else if b = 0 then (if c = 0 ∧ d = 0 then .utf32 .little else .utf16 .little, 0)
    else (.utf8, 0)
  | [a, b] => (if a = 0 then .utf16 .big else if b = 0 then .utf16 .little else .utf8, 0)
  | _ => (.utf8, 0)

def isSurrogate (n : Nat) : Bool := 0xd800 ≤ n && n ≤ 0xdfff

/-- A code point, with U+FFFD for the halves of pairs. -/
def scalar? (n : Nat) : Option Char :=
  if 0x110000 ≤ n then none else some (if isSurrogate n then Char.ofNat 0xfffd else Char.ofNat n)

/-- A byte that continues a character, as its six bits. -/
def tail? (b : UInt8) : Option Nat :=
  if 0x80 ≤ b ∧ b ≤ 0xbf then some (b.toNat % 64) else none

/-- Bytes in which a character has one to four of them; forms longer than needed are refused. -/
def utf8? : List UInt8 → Option (List Char)
  | [] => some []
  | a :: rest =>
    if a < 0x80 then (utf8? rest).map (Char.ofNat a.toNat :: ·)
    else match rest with
      | b :: rest =>
        if 0xc2 ≤ a ∧ a ≤ 0xdf then do
          let c ← scalar? ((a.toNat % 32) * 64 + (← tail? b))
          return c :: (← utf8? rest)
        else match rest with
          | c :: rest =>
            if 0xe0 ≤ a ∧ a ≤ 0xef then do
              let n := (a.toNat % 16) * 4096 + (← tail? b) * 64 + (← tail? c)
              if n < 0x800 then none
              else return (← scalar? n) :: (← utf8? rest)
            else match rest with
              | d :: rest =>
                if 0xf0 ≤ a ∧ a ≤ 0xf4 then do
                  let high := (a.toNat % 8) * 64 + (← tail? b)
                  let n := high * 4096 + (← tail? c) * 64 + (← tail? d)
                  if n < 0x10000 then none
                  else return (← scalar? n) :: (← utf8? rest)
                else none
              | [] => none
          | [] => none
      | [] => none

/-- Pairs of bytes as units. -/
def units16? (order : Endian) : List UInt8 → Option (List Nat)
  | [] => some []
  | a :: b :: rest =>
    let n := match order with
      | .big => a.toNat * 256 + b.toNat
      | .little => b.toNat * 256 + a.toNat
    (units16? order rest).map (n :: ·)
  | _ => none

/-- Units, two of which stand for a character beyond U+FFFF. -/
def ofUnits16 : List Nat → List Char
  | [] => []
  | [n] => [(scalar? n).getD '?']
  | a :: b :: rest =>
    if 0xd800 ≤ a ∧ a ≤ 0xdbff ∧ 0xdc00 ≤ b ∧ b ≤ 0xdfff then
      Char.ofNat (0x10000 + (a - 0xd800) * 1024 + (b - 0xdc00)) :: ofUnits16 rest
    else (scalar? a).getD '?' :: ofUnits16 (b :: rest)

def utf32? (order : Endian) : List UInt8 → Option (List Char)
  | [] => some []
  | a :: b :: c :: d :: rest => do
    let (hi, h, l, lo) := match order with
      | .big => (a, b, c, d)
      | .little => (d, c, b, a)
    let x ← scalar? (((hi.toNat * 256 + h.toNat) * 256 + l.toNat) * 256 + lo.toNat)
    return x :: (← utf32? order rest)
  | _ => none

/-- The text of a body, if its bytes are one. -/
def decode? (bytes : List UInt8) : Option String :=
  let (scheme, mark) := detect bytes
  let bytes := bytes.drop mark
  (match scheme with
    | .utf8 => utf8? bytes
    | .utf16 order => (units16? order bytes).map ofUnits16
    | .utf32 order => utf32? order bytes).map String.ofList

/-- The bytes of a text in UTF-8. -/
def encode (s : String) : List UInt8 := s.toUTF8.toList

end WikiGateway.Encoding

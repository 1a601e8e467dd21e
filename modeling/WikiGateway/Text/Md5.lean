import WikiGateway.Text.Encoding

/-! The MD5 digest of a text in UTF-8. -/
namespace WikiGateway.Md5

/-- The constants of the sixty-four rounds: the sines of 1 to 64, as fractions of `2 ^ 32`. -/
def sines : Array UInt32 := #[
  0xd76aa478, 0xe8c7b756, 0x242070db, 0xc1bdceee, 0xf57c0faf, 0x4787c62a, 0xa8304613,
  0xfd469501, 0x698098d8, 0x8b44f7af, 0xffff5bb1, 0x895cd7be, 0x6b901122, 0xfd987193,
  0xa679438e, 0x49b40821, 0xf61e2562, 0xc040b340, 0x265e5a51, 0xe9b6c7aa, 0xd62f105d,
  0x02441453, 0xd8a1e681, 0xe7d3fbc8, 0x21e1cde6, 0xc33707d6, 0xf4d50d87, 0x455a14ed,
  0xa9e3e905, 0xfcefa3f8, 0x676f02d9, 0x8d2a4c8a, 0xfffa3942, 0x8771f681, 0x6d9d6122,
  0xfde5380c, 0xa4beea44, 0x4bdecfa9, 0xf6bb4b60, 0xbebfbc70, 0x289b7ec6, 0xeaa127fa,
  0xd4ef3085, 0x04881d05, 0xd9d4d039, 0xe6db99e5, 0x1fa27cf8, 0xc4ac5665, 0xf4292244,
  0x432aff97, 0xab9423a7, 0xfc93a039, 0x655b59c3, 0x8f0ccc92, 0xffeff47d, 0x85845dd1,
  0x6fa87e4f, 0xfe2ce6e0, 0xa3014314, 0x4e0811a1, 0xf7537e82, 0xbd3af235, 0x2ad7d2bb, 0xeb86d391]

/-- By how many bits the rounds rotate: four amounts in turn for each sixteen. -/
def rotations : Array (Array UInt32) :=
  #[#[7, 12, 17, 22], #[5, 9, 14, 20], #[4, 11, 16, 23], #[6, 10, 15, 21]]

structure State where
  a : UInt32
  b : UInt32
  c : UInt32
  d : UInt32

def State.initial : State := ⟨0x67452301, 0xefcdab89, 0x98badcfe, 0x10325476⟩

def rotateLeft (x n : UInt32) : UInt32 := (x <<< n) ||| (x >>> (32 - n))

/-- The mixing function of a round and the word of the block that it takes. -/
def mix (s : State) (i : Nat) : UInt32 × Nat :=
  match i / 16 with
  | 0 => ((s.b &&& s.c) ||| (~~~s.b &&& s.d), i)
  | 1 => ((s.d &&& s.b) ||| (~~~s.d &&& s.c), (5 * i + 1) % 16)
  | 2 => (s.b ^^^ s.c ^^^ s.d, (3 * i + 5) % 16)
  | _ => (s.c ^^^ (s.b ||| ~~~s.d), (7 * i) % 16)

def round (block : Array UInt32) (s : State) (i : Nat) : State :=
  let (f, g) := mix s i
  let amount := (rotations.getD (i / 16) #[]).getD (i % 4) 0
  let sum := f + s.a + sines.getD i 0 + block.getD g 0
  ⟨s.d, s.b + rotateLeft sum amount, s.b, s.c⟩

/-- Takes a block of sixteen words into the state. -/
def absorb (s : State) (block : Array UInt32) : State :=
  let t := (List.range 64).foldl (round block) s
  ⟨s.a + t.a, s.b + t.b, s.c + t.c, s.d + t.d⟩

/-- The bytes of a number, `count` of them, lowest first. -/
def littleEndian : (count n : Nat) → List UInt8
  | 0, _ => []
  | count + 1, n => UInt8.ofNat n :: littleEndian count (n / 256)

/-- A message with the bit, the zeros and the length that fill it up to whole blocks. -/
def pad (message : List UInt8) : List UInt8 :=
  let gap := (119 - message.length % 64) % 64
  message ++ 0x80 :: List.replicate gap 0 ++ littleEndian 8 (8 * message.length)

/-- Bytes as words, lowest byte first. -/
def words : List UInt8 → List UInt32
  | a :: b :: c :: d :: rest =>
    let low := a.toUInt32 ||| (b.toUInt32 <<< 8)
    (low ||| (c.toUInt32 <<< 16) ||| (d.toUInt32 <<< 24)) :: words rest
  | _ => []

def absorbAll : (blocks : Nat) → List UInt32 → State → State
  | 0, _, s => s
  | blocks + 1, ws, s => absorbAll blocks (ws.drop 16) (absorb s (ws.take 16).toArray)

def hexByte (b : UInt8) : List Char := [Nat.digitChar (b.toNat / 16), Nat.digitChar (b.toNat % 16)]

/-- The digest as thirty-two hexadecimal digits. -/
def digest (text : String) : String :=
  let ws := words (pad (Encoding.encode text))
  let s := absorbAll (ws.length / 16) ws .initial
  let bytes := [s.a, s.b, s.c, s.d].flatMap fun w => littleEndian 4 w.toNat
  String.ofList (bytes.flatMap hexByte)

end WikiGateway.Md5

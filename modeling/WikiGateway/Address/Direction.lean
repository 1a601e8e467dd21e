import WikiGateway.Text.Mark

/-!
The directions in which the characters of names are written, by the Unicode 14 character database,
and how they go together.
-/
namespace WikiGateway.Address

inductive Direction
  /-- From left to right. -/
  | left
  /-- From right to left. -/
  | right
  /-- From right to left, as Arabic letters, beside which numbers differ. -/
  | arabicLetter
  | arabicNumber
  | europeanNumber
  | sign
  | neutral
  | boundary
  /-- As the character before. -/
  | nonspacing
  deriving DecidableEq, Repr

namespace Direction

/-- The directions of the characters of names that are neither from left to right nor those of
marks. What is in no name counts as those next to it. -/
def rows : Array (Nat × Nat × Direction) := #[
  (0x2d, 0x2d, .sign), (0x30, 0x39, .europeanNumber), (0xb7, 0xb7, .neutral),
  (0x2b9, 0x2ba, .neutral), (0x2c6, 0x2cf, .neutral), (0x2ec, 0x2ec, .neutral),
  (0x375, 0x375, .neutral), (0x5d0, 0x5f4, .right), (0x620, 0x64a, .arabicLetter),
  (0x660, 0x669, .arabicNumber), (0x66e, 0x66f, .arabicLetter), (0x671, 0x6d5, .arabicLetter),
  (0x6e5, 0x6e6, .arabicLetter), (0x6ee, 0x6ef, .arabicLetter), (0x6f0, 0x6f9, .europeanNumber),
  (0x6fa, 0x710, .arabicLetter), (0x712, 0x72f, .arabicLetter), (0x74d, 0x7a5, .arabicLetter),
  (0x7b1, 0x7b1, .arabicLetter), (0x7c0, 0x7ea, .right), (0x7f4, 0x7f5, .right),
  (0x800, 0x815, .right), (0x81a, 0x81a, .right), (0x824, 0x824, .right), (0x828, 0x828, .right),
  (0x840, 0x858, .right), (0x860, 0x88e, .arabicLetter), (0x8a0, 0x8c9, .arabicLetter),
  (0x200c, 0x200d, .boundary), (0x2e2f, 0x2e2f, .neutral), (0x30fb, 0x30fb, .neutral),
  (0xa67f, 0xa67f, .neutral), (0xa717, 0xa71f, .neutral), (0xa788, 0xa788, .neutral),
  (0xfe73, 0xfe73, .arabicLetter), (0x10800, 0x10a00, .right), (0x10a10, 0x10a35, .right),
  (0x10a60, 0x10ae4, .right), (0x10b00, 0x10cf2, .right), (0x10d00, 0x10d23, .arabicLetter),
  (0x10d30, 0x10d39, .arabicNumber), (0x10e80, 0x10ea9, .right), (0x10eb0, 0x10f27, .right),
  (0x10f30, 0x10f45, .arabicLetter), (0x10f70, 0x10f81, .right), (0x10fb0, 0x10ff6, .right),
  (0x1e800, 0x1e8c4, .right), (0x1e922, 0x1e943, .right), (0x1e94b, 0x1e959, .right)]

/-- Marks that take no room, but are written from left to right. -/
def leftMarks : List Nat := [0xcbf, 0xcc6, 0x11a07, 0x11a08, 0x11c3f]

/-- The direction of a character of names. -/
def ofPoint (n : Nat) : Direction :=
  if isNonspacing n && !leftMarks.contains n then nonspacing
  else ((valueAt? rows n).map (·.1)).getD left

/-- Whether a text with such a character in it may run from right to left in part. -/
def runsRight (d : Direction) : Bool := d == right || d == arabicLetter || d == arabicNumber

def isNumber (d : Direction) : Bool := d == arabicNumber || d == europeanNumber

/-- Whether a direction fits into a text from right to left, or into one from left to right. -/
def fits (rightToLeft : Bool) (d : Direction) : Bool :=
  if rightToLeft then d != left else !runsRight d

/-- Whether a text may end in a direction, marks aside. -/
def ends (rightToLeft : Bool) (d : Direction) : Bool :=
  d == europeanNumber || if rightToLeft then runsRight d else d == left

end Direction

end WikiGateway.Address

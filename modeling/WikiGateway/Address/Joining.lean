import WikiGateway.Text.Mark

/-! How the letters of cursive scripts join those beside them, by the Unicode character database. -/
namespace WikiGateway.Address

/-- To which sides a letter joins others, before it in the text or after it. What is transparent
leaves the letters around it as if it were not there. -/
inductive Joining
  /-- With what is before it. -/
  | right
  /-- With what follows it. -/
  | left
  | dual
  | transparent
  /-- With nothing. -/
  | apart
  deriving DecidableEq, Repr

namespace Joining

/-- The ways of joining, those of the marks that take no room aside: such marks are transparent, but
for those that are named here. -/
def rows : Array (Nat × Nat × Joining) := #[
  (0xad, 0xad, .transparent), (0x61c, 0x61c, .transparent), (0x620, 0x620, .dual),
  (0x622, 0x625, .right), (0x626, 0x626, .dual), (0x627, 0x627, .right), (0x628, 0x628, .dual),
  (0x629, 0x629, .right), (0x62a, 0x62e, .dual), (0x62f, 0x632, .right), (0x633, 0x63f, .dual),
  (0x641, 0x647, .dual), (0x648, 0x648, .right), (0x649, 0x64a, .dual), (0x66e, 0x66f, .dual),
  (0x671, 0x673, .right), (0x675, 0x677, .right), (0x678, 0x687, .dual), (0x688, 0x699, .right),
  (0x69a, 0x6bf, .dual), (0x6c0, 0x6c0, .right), (0x6c1, 0x6c2, .dual), (0x6c3, 0x6cb, .right),
  (0x6cc, 0x6cc, .dual), (0x6cd, 0x6cd, .right), (0x6ce, 0x6ce, .dual), (0x6cf, 0x6cf, .right),
  (0x6d0, 0x6d1, .dual), (0x6d2, 0x6d3, .right), (0x6d5, 0x6d5, .right), (0x6ee, 0x6ef, .right),
  (0x6fa, 0x6fc, .dual), (0x6ff, 0x6ff, .dual), (0x70f, 0x70f, .transparent),
  (0x710, 0x710, .right), (0x712, 0x714, .dual), (0x715, 0x719, .right), (0x71a, 0x71d, .dual),
  (0x71e, 0x71e, .right), (0x71f, 0x727, .dual), (0x728, 0x728, .right), (0x729, 0x729, .dual),
  (0x72a, 0x72a, .right), (0x72b, 0x72b, .dual), (0x72c, 0x72c, .right), (0x72d, 0x72e, .dual),
  (0x72f, 0x72f, .right), (0x74d, 0x74d, .right), (0x74e, 0x758, .dual), (0x759, 0x75b, .right),
  (0x75c, 0x76a, .dual), (0x76b, 0x76c, .right), (0x76d, 0x770, .dual), (0x771, 0x771, .right),
  (0x772, 0x772, .dual), (0x773, 0x774, .right), (0x775, 0x777, .dual), (0x778, 0x779, .right),
  (0x77a, 0x77f, .dual), (0x7ca, 0x7ea, .dual), (0x840, 0x840, .right), (0x841, 0x845, .dual),
  (0x846, 0x847, .right), (0x848, 0x848, .dual), (0x849, 0x849, .right), (0x84a, 0x853, .dual),
  (0x854, 0x854, .right), (0x855, 0x855, .dual), (0x856, 0x858, .right), (0x860, 0x860, .dual),
  (0x862, 0x865, .dual), (0x867, 0x867, .right), (0x868, 0x868, .dual), (0x869, 0x86a, .right),
  (0x870, 0x882, .right), (0x886, 0x886, .dual), (0x889, 0x88d, .dual), (0x88e, 0x88e, .right),
  (0x88f, 0x88f, .dual), (0x897, 0x897, .transparent), (0x8a0, 0x8a9, .dual),
  (0x8aa, 0x8ac, .right), (0x8ae, 0x8ae, .right), (0x8af, 0x8b0, .dual), (0x8b1, 0x8b2, .right),
  (0x8b3, 0x8b8, .dual), (0x8b9, 0x8b9, .right), (0x8ba, 0x8c8, .dual),
  (0xece, 0xece, .transparent), (0x1807, 0x1807, .dual), (0x1820, 0x1878, .dual),
  (0x1887, 0x18a8, .dual), (0x18aa, 0x18aa, .dual), (0x1acf, 0x1add, .transparent),
  (0x1ae0, 0x1aeb, .transparent), (0x200b, 0x200b, .transparent), (0x200e, 0x200f, .transparent),
  (0x202a, 0x202e, .transparent), (0x2060, 0x2064, .transparent), (0x206a, 0x206f, .transparent),
  (0xa840, 0xa871, .dual), (0xa872, 0xa872, .left), (0xfeff, 0xfeff, .transparent),
  (0xfff9, 0xfffb, .transparent), (0x10ac0, 0x10ac4, .dual), (0x10ac5, 0x10ac5, .right),
  (0x10ac7, 0x10ac7, .right), (0x10ac9, 0x10aca, .right), (0x10acd, 0x10acd, .left),
  (0x10ace, 0x10ad2, .right), (0x10ad3, 0x10ad6, .dual), (0x10ad7, 0x10ad7, .left),
  (0x10ad8, 0x10adc, .dual), (0x10add, 0x10add, .right), (0x10ade, 0x10ae0, .dual),
  (0x10ae1, 0x10ae1, .right), (0x10ae4, 0x10ae4, .right), (0x10aeb, 0x10aee, .dual),
  (0x10aef, 0x10aef, .right), (0x10b80, 0x10b80, .dual), (0x10b81, 0x10b81, .right),
  (0x10b82, 0x10b82, .dual), (0x10b83, 0x10b85, .right), (0x10b86, 0x10b88, .dual),
  (0x10b89, 0x10b89, .right), (0x10b8a, 0x10b8b, .dual), (0x10b8c, 0x10b8c, .right),
  (0x10b8d, 0x10b8d, .dual), (0x10b8e, 0x10b8f, .right), (0x10b90, 0x10b90, .dual),
  (0x10b91, 0x10b91, .right), (0x10ba9, 0x10bac, .right), (0x10bad, 0x10bae, .dual),
  (0x10d00, 0x10d00, .left), (0x10d01, 0x10d21, .dual), (0x10d22, 0x10d22, .right),
  (0x10d23, 0x10d23, .dual), (0x10d69, 0x10d6d, .transparent), (0x10ec2, 0x10ec2, .right),
  (0x10ec3, 0x10ec4, .dual), (0x10ec6, 0x10ec7, .dual), (0x10efa, 0x10eff, .transparent),
  (0x10f30, 0x10f32, .dual), (0x10f33, 0x10f33, .right), (0x10f34, 0x10f44, .dual),
  (0x10f51, 0x10f53, .dual), (0x10f54, 0x10f54, .right), (0x10f70, 0x10f73, .dual),
  (0x10f74, 0x10f75, .right), (0x10f76, 0x10f81, .dual), (0x10fb0, 0x10fb0, .dual),
  (0x10fb2, 0x10fb3, .dual), (0x10fb4, 0x10fb6, .right), (0x10fb8, 0x10fb8, .dual),
  (0x10fb9, 0x10fba, .right), (0x10fbb, 0x10fbc, .dual), (0x10fbd, 0x10fbd, .right),
  (0x10fbe, 0x10fbf, .dual), (0x10fc1, 0x10fc1, .dual), (0x10fc2, 0x10fc3, .right),
  (0x10fc4, 0x10fc4, .dual), (0x10fc9, 0x10fc9, .right), (0x10fca, 0x10fca, .dual),
  (0x10fcb, 0x10fcb, .left), (0x11241, 0x11241, .transparent), (0x113bb, 0x113c0, .transparent),
  (0x113ce, 0x113ce, .transparent), (0x113d0, 0x113d0, .transparent),
  (0x113d2, 0x113d2, .transparent), (0x113e1, 0x113e2, .transparent), (0x1171e, 0x1171e, .apart),
  (0x11b60, 0x11b60, .transparent), (0x11b62, 0x11b64, .transparent),
  (0x11b66, 0x11b66, .transparent), (0x11f00, 0x11f01, .transparent),
  (0x11f36, 0x11f3a, .transparent), (0x11f40, 0x11f40, .transparent),
  (0x11f42, 0x11f42, .transparent), (0x11f5a, 0x11f5a, .transparent),
  (0x13430, 0x13440, .transparent), (0x13447, 0x13455, .transparent),
  (0x1611e, 0x16129, .transparent), (0x1612d, 0x1612f, .transparent),
  (0x1bca0, 0x1bca3, .transparent), (0x1d173, 0x1d17a, .transparent),
  (0x1e08f, 0x1e08f, .transparent), (0x1e4ec, 0x1e4ef, .transparent),
  (0x1e5ee, 0x1e5ef, .transparent), (0x1e6e3, 0x1e6e3, .transparent),
  (0x1e6e6, 0x1e6e6, .transparent), (0x1e6ee, 0x1e6ef, .transparent),
  (0x1e6f5, 0x1e6f5, .transparent), (0x1e900, 0x1e943, .dual), (0x1e94b, 0x1e94b, .transparent),
  (0xe0001, 0xe0001, .transparent), (0xe0020, 0xe007f, .transparent)]

/-- The way of joining of a code point that has one. -/
def of? (n : Nat) : Option Joining :=
  match valueAt? rows n with
  | some (way, _) => some way
  | none => if isNonspacing n then some transparent else none

/-- The way of joining of the nearest of some code points that is not transparent. -/
def nearest? (ns : List Nat) : Option Joining :=
  (ns.dropWhile (of? · == some transparent)).head?.bind of?

/-- Whether what stands before a place, nearest first, would join what follows it. -/
def meet (before rest : List Nat) : Bool :=
  (nearest? before).any (fun j => j == left || j == dual) &&
    (nearest? rest).any fun j => j == right || j == dual

end Joining

end WikiGateway.Address

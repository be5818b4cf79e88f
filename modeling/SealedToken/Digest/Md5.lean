import SealedToken.Bytes

/-! # MD5

The sixteen-byte digest that turns a password into a key. Words are 32 bits
and little-endian; every block of sixty-four bytes runs through four rounds of
sixteen steps. -/

namespace SealedToken.Md5

/-! ### One block -/

/-- The four chaining words. -/
structure State where
  a : UInt32
  b : UInt32
  c : UInt32
  d : UInt32
  deriving DecidableEq, Repr

def start : State := ⟨0x67452301, 0xefcdab89, 0x98badcfe, 0x10325476⟩

/-- The integer parts of `2 ^ 32 * |sin i|`, for `i` from one to sixty-four. -/
def sines : List UInt32 := [
  0xd76aa478, 0xe8c7b756, 0x242070db, 0xc1bdceee, 0xf57c0faf, 0x4787c62a,
  0xa8304613, 0xfd469501, 0x698098d8, 0x8b44f7af, 0xffff5bb1, 0x895cd7be,
  0x6b901122, 0xfd987193, 0xa679438e, 0x49b40821, 0xf61e2562, 0xc040b340,
  0x265e5a51, 0xe9b6c7aa, 0xd62f105d, 0x02441453, 0xd8a1e681, 0xe7d3fbc8,
  0x21e1cde6, 0xc33707d6, 0xf4d50d87, 0x455a14ed, 0xa9e3e905, 0xfcefa3f8,
  0x676f02d9, 0x8d2a4c8a, 0xfffa3942, 0x8771f681, 0x6d9d6122, 0xfde5380c,
  0xa4beea44, 0x4bdecfa9, 0xf6bb4b60, 0xbebfbc70, 0x289b7ec6, 0xeaa127fa,
  0xd4ef3085, 0x04881d05, 0xd9d4d039, 0xe6db99e5, 0x1fa27cf8, 0xc4ac5665,
  0xf4292244, 0x432aff97, 0xab9423a7, 0xfc93a039, 0x655b59c3, 0x8f0ccc92,
  0xffeff47d, 0x85845dd1, 0x6fa87e4f, 0xfe2ce6e0, 0xa3014314, 0x4e0811a1,
  0xf7537e82, 0xbd3af235, 0x2ad7d2bb, 0xeb86d391]

/-- How far each step of a round rotates; the four entries repeat. -/
def rotations : List (List UInt32) :=
  [[7, 12, 17, 22], [5, 9, 14, 20], [4, 11, 16, 23], [6, 10, 15, 21]]

def rotate (n : UInt32) (x : UInt32) : UInt32 := (x <<< n) ||| (x >>> (32 - n))

/-- The bitwise function of a round. -/
def mix (round : Nat) (x y z : UInt32) : UInt32 :=
  match round with
  | 0 => (x &&& y) ||| (~~~x &&& z)
  | 1 => (z &&& x) ||| (~~~z &&& y)
  | 2 => x ^^^ y ^^^ z
  | _ => y ^^^ (x ||| ~~~z)

/-- Which word of the block a step takes in. -/
def word (i : Nat) : Nat :=
  match i / 16 with
  | 0 => i
  | 1 => (5 * i + 1) % 16
  | 2 => (3 * i + 5) % 16
  | _ => 7 * i % 16

/-- Step `i` on a block of sixteen words. -/
def step (block : List UInt32) (s : State) (i : Nat) : State :=
  let sum := s.a + mix (i / 16) s.b s.c s.d + sines.getD i 0 + block.getD (word i) 0
  let turned := rotate ((rotations.getD (i / 16) []).getD (i % 4) 0) sum
  ⟨s.d, s.b + turned, s.b, s.c⟩

def State.add (s t : State) : State := ⟨s.a + t.a, s.b + t.b, s.c + t.c, s.d + t.d⟩

/-- The chaining words behind one block. -/
def compress (s : State) (block : List UInt32) : State :=
  s.add ((List.range 64).foldl (step block) s)

/-! ### Whole messages -/

/-- A one bit, zero bits, and the bit count in eight bytes: whole blocks. -/
def padded (m : Bytes) : Bytes :=
  m ++ 0x80 :: List.replicate ((119 - m.length % 64) % 64) 0 ++
    Bytes.littleEndian 8 (8 * m.length)

/-- The words of a block. -/
def words (block : Bytes) : List UInt32 :=
  (Bytes.chunks 4 block).map fun w => UInt32.ofNat (Bytes.ofLittleEndian w)

def State.bytes (s : State) : Bytes :=
  Bytes.littleEndian 4 s.a.toNat ++ Bytes.littleEndian 4 s.b.toNat ++
    Bytes.littleEndian 4 s.c.toNat ++ Bytes.littleEndian 4 s.d.toNat

theorem State.bytes_length (s : State) : s.bytes.length = 16 := by
  simp [State.bytes, Bytes.littleEndian_length]

def digest (m : Bytes) : Bytes :=
  ((Bytes.chunks 64 (padded m)).foldl (fun s block => compress s (words block)) start).bytes

theorem digest_length (m : Bytes) : (digest m).length = 16 := State.bytes_length _

end SealedToken.Md5

import SealedToken.Cipher.Block

/-! # AES

The block cipher for keys of 16, 24 and 32 bytes, in both directions. Every
layer of a round has its inverse beside it, and deciphering applies the
inverses in reverse order. -/

namespace SealedToken.Aes

/-! ### Bytes -/

/-- The substitution: inverse in the field of 256 elements, then an affine map. -/
def substitutions : Array Byte := #[
  0x63, 0x7c, 0x77, 0x7b, 0xf2, 0x6b, 0x6f, 0xc5, 0x30, 0x01, 0x67, 0x2b, 0xfe, 0xd7, 0xab, 0x76,
  0xca, 0x82, 0xc9, 0x7d, 0xfa, 0x59, 0x47, 0xf0, 0xad, 0xd4, 0xa2, 0xaf, 0x9c, 0xa4, 0x72, 0xc0,
  0xb7, 0xfd, 0x93, 0x26, 0x36, 0x3f, 0xf7, 0xcc, 0x34, 0xa5, 0xe5, 0xf1, 0x71, 0xd8, 0x31, 0x15,
  0x04, 0xc7, 0x23, 0xc3, 0x18, 0x96, 0x05, 0x9a, 0x07, 0x12, 0x80, 0xe2, 0xeb, 0x27, 0xb2, 0x75,
  0x09, 0x83, 0x2c, 0x1a, 0x1b, 0x6e, 0x5a, 0xa0, 0x52, 0x3b, 0xd6, 0xb3, 0x29, 0xe3, 0x2f, 0x84,
  0x53, 0xd1, 0x00, 0xed, 0x20, 0xfc, 0xb1, 0x5b, 0x6a, 0xcb, 0xbe, 0x39, 0x4a, 0x4c, 0x58, 0xcf,
  0xd0, 0xef, 0xaa, 0xfb, 0x43, 0x4d, 0x33, 0x85, 0x45, 0xf9, 0x02, 0x7f, 0x50, 0x3c, 0x9f, 0xa8,
  0x51, 0xa3, 0x40, 0x8f, 0x92, 0x9d, 0x38, 0xf5, 0xbc, 0xb6, 0xda, 0x21, 0x10, 0xff, 0xf3, 0xd2,
  0xcd, 0x0c, 0x13, 0xec, 0x5f, 0x97, 0x44, 0x17, 0xc4, 0xa7, 0x7e, 0x3d, 0x64, 0x5d, 0x19, 0x73,
  0x60, 0x81, 0x4f, 0xdc, 0x22, 0x2a, 0x90, 0x88, 0x46, 0xee, 0xb8, 0x14, 0xde, 0x5e, 0x0b, 0xdb,
  0xe0, 0x32, 0x3a, 0x0a, 0x49, 0x06, 0x24, 0x5c, 0xc2, 0xd3, 0xac, 0x62, 0x91, 0x95, 0xe4, 0x79,
  0xe7, 0xc8, 0x37, 0x6d, 0x8d, 0xd5, 0x4e, 0xa9, 0x6c, 0x56, 0xf4, 0xea, 0x65, 0x7a, 0xae, 0x08,
  0xba, 0x78, 0x25, 0x2e, 0x1c, 0xa6, 0xb4, 0xc6, 0xe8, 0xdd, 0x74, 0x1f, 0x4b, 0xbd, 0x8b, 0x8a,
  0x70, 0x3e, 0xb5, 0x66, 0x48, 0x03, 0xf6, 0x0e, 0x61, 0x35, 0x57, 0xb9, 0x86, 0xc1, 0x1d, 0x9e,
  0xe1, 0xf8, 0x98, 0x11, 0x69, 0xd9, 0x8e, 0x94, 0x9b, 0x1e, 0x87, 0xe9, 0xce, 0x55, 0x28, 0xdf,
  0x8c, 0xa1, 0x89, 0x0d, 0xbf, 0xe6, 0x42, 0x68, 0x41, 0x99, 0x2d, 0x0f, 0xb0, 0x54, 0xbb, 0x16]

/-- The substitution read backwards. -/
def preimages : Array Byte := #[
  0x52, 0x09, 0x6a, 0xd5, 0x30, 0x36, 0xa5, 0x38, 0xbf, 0x40, 0xa3, 0x9e, 0x81, 0xf3, 0xd7, 0xfb,
  0x7c, 0xe3, 0x39, 0x82, 0x9b, 0x2f, 0xff, 0x87, 0x34, 0x8e, 0x43, 0x44, 0xc4, 0xde, 0xe9, 0xcb,
  0x54, 0x7b, 0x94, 0x32, 0xa6, 0xc2, 0x23, 0x3d, 0xee, 0x4c, 0x95, 0x0b, 0x42, 0xfa, 0xc3, 0x4e,
  0x08, 0x2e, 0xa1, 0x66, 0x28, 0xd9, 0x24, 0xb2, 0x76, 0x5b, 0xa2, 0x49, 0x6d, 0x8b, 0xd1, 0x25,
  0x72, 0xf8, 0xf6, 0x64, 0x86, 0x68, 0x98, 0x16, 0xd4, 0xa4, 0x5c, 0xcc, 0x5d, 0x65, 0xb6, 0x92,
  0x6c, 0x70, 0x48, 0x50, 0xfd, 0xed, 0xb9, 0xda, 0x5e, 0x15, 0x46, 0x57, 0xa7, 0x8d, 0x9d, 0x84,
  0x90, 0xd8, 0xab, 0x00, 0x8c, 0xbc, 0xd3, 0x0a, 0xf7, 0xe4, 0x58, 0x05, 0xb8, 0xb3, 0x45, 0x06,
  0xd0, 0x2c, 0x1e, 0x8f, 0xca, 0x3f, 0x0f, 0x02, 0xc1, 0xaf, 0xbd, 0x03, 0x01, 0x13, 0x8a, 0x6b,
  0x3a, 0x91, 0x11, 0x41, 0x4f, 0x67, 0xdc, 0xea, 0x97, 0xf2, 0xcf, 0xce, 0xf0, 0xb4, 0xe6, 0x73,
  0x96, 0xac, 0x74, 0x22, 0xe7, 0xad, 0x35, 0x85, 0xe2, 0xf9, 0x37, 0xe8, 0x1c, 0x75, 0xdf, 0x6e,
  0x47, 0xf1, 0x1a, 0x71, 0x1d, 0x29, 0xc5, 0x89, 0x6f, 0xb7, 0x62, 0x0e, 0xaa, 0x18, 0xbe, 0x1b,
  0xfc, 0x56, 0x3e, 0x4b, 0xc6, 0xd2, 0x79, 0x20, 0x9a, 0xdb, 0xc0, 0xfe, 0x78, 0xcd, 0x5a, 0xf4,
  0x1f, 0xdd, 0xa8, 0x33, 0x88, 0x07, 0xc7, 0x31, 0xb1, 0x12, 0x10, 0x59, 0x27, 0x80, 0xec, 0x5f,
  0x60, 0x51, 0x7f, 0xa9, 0x19, 0xb5, 0x4a, 0x0d, 0x2d, 0xe5, 0x7a, 0x9f, 0x93, 0xc9, 0x9c, 0xef,
  0xa0, 0xe0, 0x3b, 0x4d, 0xae, 0x2a, 0xf5, 0xb0, 0xc8, 0xeb, 0xbb, 0x3c, 0x83, 0x53, 0x99, 0x61,
  0x17, 0x2b, 0x04, 0x7e, 0xba, 0x77, 0xd6, 0x26, 0xe1, 0x69, 0x14, 0x63, 0x55, 0x21, 0x0c, 0x7d]

def substitute (b : Byte) : Byte := substitutions.getD b.toNat 0

def restore (b : Byte) : Byte := preimages.getD b.toNat 0

/-- Twice a field element. -/
def double (b : Byte) : Byte := (b <<< 1) ^^^ (if 0x80 ≤ b then 0x1b else 0)

def triple (b : Byte) : Byte := double b ^^^ b

def times9 (b : Byte) : Byte := double (double (double b)) ^^^ b

def times11 (b : Byte) : Byte := double (double (double b)) ^^^ double b ^^^ b

def times13 (b : Byte) : Byte := double (double (double b)) ^^^ double (double b) ^^^ b

def times14 (b : Byte) : Byte := double (double (double b)) ^^^ double (double b) ^^^ double b

/-! ### Layers -/

def substituteColumn (x : Column) : Column :=
  ⟨substitute x.a, substitute x.b, substitute x.c, substitute x.d⟩

def restoreColumn (x : Column) : Column := ⟨restore x.a, restore x.b, restore x.c, restore x.d⟩

/-- Row `i` of the block moves `i` columns to the left. -/
def shiftRows (x : Block) : Block :=
  ⟨⟨x.c0.a, x.c1.b, x.c2.c, x.c3.d⟩, ⟨x.c1.a, x.c2.b, x.c3.c, x.c0.d⟩,
    ⟨x.c2.a, x.c3.b, x.c0.c, x.c1.d⟩, ⟨x.c3.a, x.c0.b, x.c1.c, x.c2.d⟩⟩

/-- Row `i` of the block moves `i` columns to the right. -/
def unshiftRows (x : Block) : Block :=
  ⟨⟨x.c0.a, x.c3.b, x.c2.c, x.c1.d⟩, ⟨x.c1.a, x.c0.b, x.c3.c, x.c2.d⟩,
    ⟨x.c2.a, x.c1.b, x.c0.c, x.c3.d⟩, ⟨x.c3.a, x.c2.b, x.c1.c, x.c0.d⟩⟩

theorem unshiftRows_shiftRows (x : Block) : unshiftRows (shiftRows x) = x := rfl

theorem shiftRows_unshiftRows (x : Block) : shiftRows (unshiftRows x) = x := rfl

/-- A column as a polynomial, times `3 z ^ 3 + z ^ 2 + z + 2`. -/
def mixColumn (x : Column) : Column :=
  ⟨double x.a ^^^ triple x.b ^^^ x.c ^^^ x.d, x.a ^^^ double x.b ^^^ triple x.c ^^^ x.d,
    x.a ^^^ x.b ^^^ double x.c ^^^ triple x.d, triple x.a ^^^ x.b ^^^ x.c ^^^ double x.d⟩

/-- A column as a polynomial, times `11 z ^ 3 + 13 z ^ 2 + 9 z + 14`. -/
def unmixColumn (x : Column) : Column :=
  ⟨times14 x.a ^^^ times11 x.b ^^^ times13 x.c ^^^ times9 x.d,
    times9 x.a ^^^ times14 x.b ^^^ times11 x.c ^^^ times13 x.d,
    times13 x.a ^^^ times9 x.b ^^^ times14 x.c ^^^ times11 x.d,
    times11 x.a ^^^ times13 x.b ^^^ times9 x.c ^^^ times14 x.d⟩

/-! ### Round keys -/

/-- The keys that a cipher adds before its first round, in every full round,
and in the last round, which mixes no columns. -/
structure Schedule where
  first : Block
  middle : List Block
  last : Block
  deriving DecidableEq, Repr

/-- Moves the first byte of a column to its end. -/
def turn (x : Column) : Column := ⟨x.b, x.c, x.d, x.a⟩

/-- The byte added to every first column of a key length, doubled each time. -/
def roundByte : Nat → Byte
  | 0 => 0x8d
  | n + 1 => double (roundByte n)

/-- What column `i` of the key columns takes over from the column before it. -/
def carry (size i : Nat) (x : Column) : Column :=
  if i % size = 0 then (substituteColumn (turn x)).xor ⟨roundByte (i / size), 0, 0, 0⟩
  else if 6 < size ∧ i % size = 4 then substituteColumn x
  else x

/-- Puts `n` further key columns, from number `i` on, in front of the ones so
far, newest first. -/
def extend (size : Nat) : Nat → Nat → List Column → List Column
  | 0, _, cs => cs
  | n + 1, i, cs =>
    let next := (cs.getD (size - 1) Column.zero).xor (carry size i (cs.headD Column.zero))
    extend size n (i + 1) (next :: cs)

/-- The key columns of a key: four for every round and four before them. -/
def keyColumns (key : Bytes) : List Column :=
  let size := key.length / 4
  (extend size (3 * size + 28) size (Column.ofBytes key).reverse).reverse

def schedule (key : Bytes) : Schedule :=
  match Block.ofColumns (keyColumns key) with
  | [] => ⟨Block.zero, [], Block.zero⟩
  | k :: ks => ⟨k, ks.dropLast, ks.getLastD Block.zero⟩

/-! ### The cipher -/

/-- A full round. -/
def round (x k : Block) : Block :=
  ((shiftRows (x.map substituteColumn)).map mixColumn).xor k

/-- Undoes a full round. -/
def unround (k x : Block) : Block :=
  (unshiftRows ((x.xor k).map unmixColumn)).map restoreColumn

/-- The round without mixing. -/
def finalRound (x k : Block) : Block := (shiftRows (x.map substituteColumn)).xor k

/-- Undoes the round without mixing. -/
def unfinalRound (x k : Block) : Block := (unshiftRows (x.xor k)).map restoreColumn

def encipher (k : Schedule) (x : Block) : Block :=
  finalRound (k.middle.foldl round (x.xor k.first)) k.last

def decipher (k : Schedule) (x : Block) : Block :=
  (k.middle.foldr unround (unfinalRound x k.last)).xor k.first

end SealedToken.Aes

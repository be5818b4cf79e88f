/-! # Byte strings

Everything a token carries is a list of bytes. This file fixes the two names,
the bytewise sum used by the ciphers, and the big-endian and little-endian
layouts of fixed-width words. -/

namespace SealedToken

abbrev Byte := UInt8
abbrev Bytes := List Byte

namespace Bytes

/-! ### Bytewise sum -/

/-- Sums position by position; the shorter operand decides the length. -/
def xor (a b : Bytes) : Bytes := List.zipWith (· ^^^ ·) a b

theorem xor_length (a b : Bytes) : (xor a b).length = min a.length b.length := by
  simp [xor]

theorem xor_xor_cancel (a b : Bytes) (h : a.length ≤ b.length) : xor (xor a b) b = a := by
  induction a generalizing b with
  | nil => simp [xor]
  | cons x xs ih =>
    cases b with
    | nil => simp at h
    | cons y ys =>
      have ht : xs.length ≤ ys.length := by simpa using h
      have hx := ih ys ht
      simp only [xor] at hx
      simp only [xor, List.zipWith_cons_cons, hx, UInt8.xor_assoc, UInt8.xor_self,
        UInt8.xor_zero]

/-! ### Words -/

/-- The last `n` base-256 digits of `v`, most significant first. -/
def bigEndian (n v : Nat) : Bytes :=
  match n with
  | 0 => []
  | n + 1 => UInt8.ofNat (v / Nat.pow 256 n) :: bigEndian n v

theorem bigEndian_length (n v : Nat) : (bigEndian n v).length = n := by
  induction n with
  | zero => rfl
  | succ n ih => simp [bigEndian, ih]

/-- The first `n` base-256 digits of `v`, least significant first. -/
def littleEndian (n v : Nat) : Bytes :=
  match n with
  | 0 => []
  | n + 1 => UInt8.ofNat v :: littleEndian n (v / 256)

theorem littleEndian_length (n v : Nat) : (littleEndian n v).length = n := by
  induction n generalizing v with
  | zero => rfl
  | succ n ih => simp [littleEndian, ih]

/-- Value of a byte string read most significant byte first. -/
def ofBigEndian (b : Bytes) : Nat := b.foldl (fun v x => v * 256 + x.toNat) 0

/-- Value of a byte string read least significant byte first. -/
def ofLittleEndian : Bytes → Nat
  | [] => 0
  | x :: b => x.toNat + 256 * ofLittleEndian b

theorem ofLittleEndian_lt (b : Bytes) : ofLittleEndian b < Nat.pow 256 b.length := by
  induction b with
  | nil => simp [ofLittleEndian]
  | cons x b ih =>
    have hx : x.toNat < 256 := x.toNat_lt
    have hp : Nat.pow 256 (b.length + 1) = Nat.pow 256 b.length * 256 := rfl
    simp only [ofLittleEndian, List.length_cons, hp]
    omega

/-- Cuts off groups of `size` bytes from the left; the last group may be shorter. -/
def chunks (size : Nat) (b : Bytes) : List Bytes :=
  go b.length b
where
  /-- `fuel` bounds the number of groups. -/
  go : Nat → Bytes → List Bytes
    | 0, _ => []
    | _, [] => []
    | fuel + 1, b => b.take size :: go fuel (b.drop size)

/-- Pads with zero bytes on the right to a whole number of groups of `size` bytes. -/
def zeroPad (size : Nat) (b : Bytes) : Bytes :=
  b ++ List.replicate ((size - b.length % size) % size) 0

end Bytes

end SealedToken

import SealedToken.Bytes

/-! # Cipher blocks

The sixteen bytes that a block cipher works on, as four columns of four bytes.
Two columns make a semiblock, the unit in which keys are wrapped. -/

namespace SealedToken

/-! ### Columns -/

structure Column where
  a : Byte
  b : Byte
  c : Byte
  d : Byte
  deriving DecidableEq, Repr

namespace Column

def zero : Column := ⟨0, 0, 0, 0⟩

def xor (x y : Column) : Column := ⟨x.a ^^^ y.a, x.b ^^^ y.b, x.c ^^^ y.c, x.d ^^^ y.d⟩

theorem xor_cancel (x y : Column) : (x.xor y).xor y = x := by
  cases x
  cases y
  simp only [xor, UInt8.xor_assoc, UInt8.xor_self, UInt8.xor_zero]

/-- The four bytes of a word, most significant first. -/
def ofNat (v : Nat) : Column :=
  ⟨UInt8.ofNat (v / 0x1000000), UInt8.ofNat (v / 0x10000), UInt8.ofNat (v / 0x100),
    UInt8.ofNat v⟩

def bytes (x : Column) : Bytes := [x.a, x.b, x.c, x.d]

/-- The whole columns at the front of a byte string. -/
def ofBytes : Bytes → List Column
  | a :: b :: c :: d :: r => ⟨a, b, c, d⟩ :: ofBytes r
  | _ => []

theorem ofBytes_flatMap_bytes (cs : List Column) : ofBytes (cs.flatMap bytes) = cs := by
  induction cs with
  | nil => rfl
  | cons c cs ih => simp [bytes, ofBytes, ih]

end Column

/-! ### Semiblocks -/

structure Semiblock where
  high : Column
  low : Column
  deriving DecidableEq, Repr

namespace Semiblock

def xor (x y : Semiblock) : Semiblock := ⟨x.high.xor y.high, x.low.xor y.low⟩

theorem xor_cancel (x y : Semiblock) : (x.xor y).xor y = x := by
  simp [xor, Column.xor_cancel]

/-- The eight bytes of a counter, most significant first. -/
def ofNat (v : Nat) : Semiblock := ⟨Column.ofNat (v / 0x100000000), Column.ofNat v⟩

def bytes (x : Semiblock) : Bytes := x.high.bytes ++ x.low.bytes

theorem bytes_length (x : Semiblock) : x.bytes.length = 8 := rfl

/-- Pairs of columns; a single last column is dropped. -/
def ofColumns : List Column → List Semiblock
  | x :: y :: r => ⟨x, y⟩ :: ofColumns r
  | _ => []

/-- The whole semiblocks at the front of a byte string. -/
def ofBytes (b : Bytes) : List Semiblock := ofColumns (Column.ofBytes b)

theorem ofBytes_flatMap_bytes (xs : List Semiblock) : ofBytes (xs.flatMap bytes) = xs := by
  induction xs with
  | nil => rfl
  | cons x xs ih =>
    simp only [ofBytes] at ih
    simp [ofBytes, bytes, Column.bytes, Column.ofBytes, ofColumns, ih]

theorem flatMap_bytes_length (xs : List Semiblock) :
    (xs.flatMap bytes).length = 8 * xs.length := by
  induction xs with
  | nil => rfl
  | cons x xs ih =>
    simp only [List.flatMap_cons, List.length_append, bytes_length, ih, List.length_cons]
    omega

end Semiblock

/-! ### Blocks -/

structure Block where
  c0 : Column
  c1 : Column
  c2 : Column
  c3 : Column
  deriving DecidableEq, Repr

namespace Block

def zero : Block := ⟨Column.zero, Column.zero, Column.zero, Column.zero⟩

def xor (x y : Block) : Block :=
  ⟨x.c0.xor y.c0, x.c1.xor y.c1, x.c2.xor y.c2, x.c3.xor y.c3⟩

theorem xor_cancel (x y : Block) : (x.xor y).xor y = x := by
  simp [xor, Column.xor_cancel]

/-- Applies a function to every column. -/
def map (f : Column → Column) (x : Block) : Block := ⟨f x.c0, f x.c1, f x.c2, f x.c3⟩

def bytes (x : Block) : Bytes := x.c0.bytes ++ x.c1.bytes ++ x.c2.bytes ++ x.c3.bytes

theorem bytes_length (x : Block) : x.bytes.length = 16 := rfl

/-- Groups of four columns; what is left at the end is dropped. -/
def ofColumns : List Column → List Block
  | w :: x :: y :: z :: r => ⟨w, x, y, z⟩ :: ofColumns r
  | _ => []

def ofSemiblocks (x y : Semiblock) : Block := ⟨x.high, x.low, y.high, y.low⟩

def left (x : Block) : Semiblock := ⟨x.c0, x.c1⟩

def right (x : Block) : Semiblock := ⟨x.c2, x.c3⟩

theorem ofSemiblocks_left_right (x : Block) : ofSemiblocks x.left x.right = x := rfl

end Block

end SealedToken

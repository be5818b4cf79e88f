import SealedToken.Bytes

/-! # Base64

One codec for the two alphabets in use: the URL alphabet, always without
padding, and the standard alphabet, always padded. Reading is strict in both:
foreign symbols, impossible lengths, wrong padding and non-zero trailing bits
are refused, each with the place where it was seen, so a byte string has
exactly one written form. -/

namespace SealedToken.Base64

/-! ### Alphabets -/

/-- Letters and digits are common to all alphabets; these are the differences. -/
structure Alphabet where
  /-- Symbol of sixty-two. -/
  symbol62 : Byte
  /-- Symbol of sixty-three. -/
  symbol63 : Byte
  /-- Whether the last group is filled up with `=`. -/
  padded : Bool
  deriving DecidableEq, Repr

/-- `-` and `_`, no padding. -/
def url : Alphabet := ⟨0x2D, 0x5F, false⟩

/-- `+` and `/`, padded. -/
def standard : Alphabet := ⟨0x2B, 0x2F, true⟩

/-- The padding symbol `=`. -/
def pad : Byte := 0x3D

abbrev Sextet := Fin 64

def Alphabet.symbol (α : Alphabet) (v : Sextet) : Byte :=
  if v.val < 26 then UInt8.ofNat (65 + v.val)
  else if v.val < 52 then UInt8.ofNat (71 + v.val)
  else if v.val < 62 then UInt8.ofNat (v.val - 4)
  else if v.val = 62 then α.symbol62
  else α.symbol63

def Alphabet.value? (α : Alphabet) (b : Byte) : Option Sextet :=
  if 65 ≤ b ∧ b ≤ 90 then some (Fin.ofNat 64 (b.toNat - 65))
  else if 97 ≤ b ∧ b ≤ 122 then some (Fin.ofNat 64 (b.toNat - 71))
  else if 48 ≤ b ∧ b ≤ 57 then some (Fin.ofNat 64 (b.toNat + 4))
  else if b = α.symbol62 then some 62
  else if b = α.symbol63 then some 63
  else none

theorem url_value?_symbol (v : Sextet) : url.value? (url.symbol v) = some v := by
  revert v
  decide

theorem standard_value?_symbol (v : Sextet) :
    standard.value? (standard.symbol v) = some v := by
  revert v
  decide

/-! ### Bits -/

/-- The six-bit groups of a byte string; the last group is filled with zero bits. -/
def sextets : Bytes → List Sextet
  | [] => []
  | [a] => [Fin.ofNat 64 (a.toNat / 4), Fin.ofNat 64 (a.toNat % 4 * 16)]
  | [a, b] =>
    [Fin.ofNat 64 (a.toNat / 4), Fin.ofNat 64 (a.toNat % 4 * 16 + b.toNat / 16),
      Fin.ofNat 64 (b.toNat % 16 * 4)]
  | a :: b :: c :: r =>
    Fin.ofNat 64 (a.toNat / 4) :: Fin.ofNat 64 (a.toNat % 4 * 16 + b.toNat / 16) ::
      Fin.ofNat 64 (b.toNat % 16 * 4 + c.toNat / 64) :: Fin.ofNat 64 (c.toNat % 64) ::
      sextets r

/-- The whole bytes in a row of six-bit groups; leftover bits are dropped. -/
def octets : List Sextet → Bytes
  | v :: w :: x :: y :: r =>
    UInt8.ofNat (v.val * 4 + w.val / 16) :: UInt8.ofNat (w.val % 16 * 16 + x.val / 4) ::
      UInt8.ofNat (x.val % 4 * 64 + y.val) :: octets r
  | [v, w, x] => [UInt8.ofNat (v.val * 4 + w.val / 16), UInt8.ofNat (w.val % 16 * 16 + x.val / 4)]
  | [v, w] => [UInt8.ofNat (v.val * 4 + w.val / 16)]
  | [_] => []
  | [] => []

/-- The bits of the last group that belong to no byte, of `count` groups in all. -/
def leftover (count : Nat) (last : Sextet) : Nat :=
  if count % 4 = 2 then last.val % 16
  else if count % 4 = 3 then last.val % 4
  else 0

/-! ### Writing -/

/-- Padding behind `count` symbols. -/
def Alphabet.padding (α : Alphabet) (count : Nat) : Bytes :=
  if α.padded then List.replicate ((4 - count % 4) % 4) pad else []

def encode (α : Alphabet) (b : Bytes) : Bytes :=
  (sextets b).map α.symbol ++ α.padding (sextets b).length

/-! ### Reading -/

/-- Why a text is no base64. -/
inductive Fault where
  /-- A byte that may not stand at this offset. -/
  | symbol (b : Byte) (offset : Nat)
  /-- A single symbol is left over. -/
  | length (n : Nat)
  /-- Too much or too little padding. -/
  | padding
  /-- The last symbol carries bits that belong to no byte. -/
  | lastSymbol (b : Byte) (offset : Nat)
  deriving DecidableEq, Repr

def Fault.message : Fault → String
  | .symbol b offset =>
    "Invalid symbol " ++ toString b.toNat ++ ", offset " ++ toString offset ++ "."
  | .length n => "Invalid input length: " ++ toString n
  | .padding => "Invalid padding"
  | .lastSymbol b offset =>
    "Invalid last symbol " ++ toString b.toNat ++ ", offset " ++ toString offset ++ "."

/-- Values of a row of symbols that starts at `offset`. -/
def Alphabet.values (α : Alphabet) (offset : Nat) : Bytes → Except Fault (List Sextet)
  | [] => .ok []
  | b :: r =>
    match α.value? b with
    | none => .error (.symbol b offset)
    | some v => (α.values (offset + 1) r).map (v :: ·)

/-- Where the last group starts in a text of `n` bytes. -/
def lastGroup (n : Nat) : Nat := (n - 1) / 4 * 4

/-- A text with one byte beyond whole groups, where that byte is neither a
symbol nor padding, is refused for that byte before anything else. -/
def Alphabet.stray? (α : Alphabet) (s : Bytes) : Option Fault :=
  match s.getLast? with
  | none => none
  | some b =>
    if s.length % 4 = 1 ∧ b ≠ pad ∧ α.value? b = none then some (.symbol b (s.length - 1))
    else none

/-- What is wrong with the padding of a last group of `symbols` symbols that
starts at `start`, when `tail` is the rest of the text from the first `=` on. -/
def Alphabet.paddingFault? (α : Alphabet) (start symbols : Nat) (tail : Bytes) : Option Fault :=
  if tail ≠ [] ∧ symbols < 2 then some (.symbol pad (start + symbols))
  else if tail.any (· != pad) then some (.symbol pad (start + symbols))
  else if symbols = 1 then some (.length (start + symbols))
  else if α.padded then
    if (symbols + tail.length) % 4 ≠ 0 then some .padding else none
  else if tail ≠ [] then some .padding
  else none

/-- What is wrong with the last symbol of a text without padding. -/
def lastFault? (body : Bytes) (vs : List Sextet) : Option Fault :=
  match body.getLast?, vs.getLast? with
  | some b, some v =>
    if leftover vs.length v ≠ 0 then some (.lastSymbol b (vs.length - 1)) else none
  | _, _ => none

/-- The bytes that a text spells, or why it spells none. The groups before the
last are read first, then the symbols of the last, then the padding. -/
def decode (α : Alphabet) (s : Bytes) : Except Fault Bytes := do
  if let some fault := α.stray? s then throw fault
  let start := lastGroup s.length
  let head ← α.values 0 (s.take start)
  let last := (s.drop start).takeWhile (· != pad)
  let tail := (s.drop start).dropWhile (· != pad)
  let final ← α.values start last
  if let some fault := α.paddingFault? start last.length tail then throw fault
  if let some fault := lastFault? (s.take start ++ last) (head ++ final) then throw fault
  return octets (head ++ final)

end SealedToken.Base64

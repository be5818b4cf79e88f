import SealedToken.Cipher.Aes

/-! # Galois counter mode

Authenticated sealing with AES, a nonce of twelve bytes and a tag of sixteen.
The text is summed with a keystream; the tag covers the associated data and
the sealed text. Opening recomputes the tag first and gives nothing unless it
agrees. -/

namespace SealedToken.Gcm

def nonceLength : Nat := 12

def tagLength : Nat := 16

/-- Longest text that may be sealed, and longest associated data. -/
def textLimit : Nat := Nat.pow 2 36

/-- Longest sealed text that is looked at. -/
def sealedLimit : Nat := textLimit + 16

/-! ### Keystream -/

/-- The block with a nonce and a counter of 32 bits. -/
def counterBlock (nonce : Bytes) (n : Nat) : Block :=
  match Column.ofBytes nonce with
  | x :: y :: z :: _ => ⟨x, y, z, Column.ofNat n⟩
  | _ => ⟨Column.zero, Column.zero, Column.zero, Column.ofNat n⟩

/-- Enciphered counters from two on, at least `length` bytes. -/
def keystream (k : Aes.Schedule) (nonce : Bytes) (length : Nat) : Bytes :=
  (List.range ((length + 15) / 16)).flatMap fun i =>
    (Aes.encipher k (counterBlock nonce (i + 2))).bytes

theorem flatMap_length_of_all {α : Type} (f : α → Bytes) (n : Nat) (hf : ∀ a, (f a).length = n)
    (l : List α) : (l.flatMap f).length = n * l.length := by
  induction l with
  | nil => simp
  | cons a l ih =>
    simp only [List.flatMap_cons, List.length_append, hf, ih, List.length_cons, Nat.mul_succ]
    omega

theorem keystream_length (k : Aes.Schedule) (nonce : Bytes) (length : Nat) :
    (keystream k nonce length).length = 16 * ((length + 15) / 16) := by
  simp [keystream, flatMap_length_of_all _ 16 fun _ => Block.bytes_length _]

theorem le_keystream_length (k : Aes.Schedule) (nonce : Bytes) (length : Nat) :
    length ≤ (keystream k nonce length).length := by
  rw [keystream_length]
  omega

/-- Sums a text with the keystream of its length; its own inverse. -/
def mask (k : Aes.Schedule) (nonce text : Bytes) : Bytes :=
  Bytes.xor text (keystream k nonce text.length)

theorem mask_length (k : Aes.Schedule) (nonce text : Bytes) :
    (mask k nonce text).length = text.length := by
  rw [mask, Bytes.xor_length]
  exact Nat.min_eq_left (le_keystream_length k nonce text.length)

theorem mask_mask (k : Aes.Schedule) (nonce text : Bytes) :
    mask k nonce (mask k nonce text) = text := by
  rw [mask, mask_length, mask]
  exact Bytes.xor_xor_cancel _ _ (le_keystream_length k nonce text.length)

/-! ### Authentication -/

/-- Multiplies by the variable: one bit to the right, reduced. -/
def halve (v : Nat) : Nat :=
  if v.testBit 0 then (v >>> 1) ^^^ (0xE1 <<< 120) else v >>> 1

/-- Product in the field of `2 ^ 128` elements, the first bit being the top one:
sums `y`, halved bit by bit, where `x` has a bit set. -/
def product (x y : Nat) : Nat :=
  ((List.range 128).foldl
    (fun (zv : Nat × Nat) i => (if x.testBit (127 - i) then zv.1 ^^^ zv.2 else zv.1, halve zv.2))
    (0, y)).1

/-- Evaluates the polynomial whose coefficients are the blocks of `data`. -/
def hash (key : Nat) (data : Bytes) : Nat :=
  (Bytes.chunks 16 data).foldl (fun y c => product (y ^^^ Bytes.ofBigEndian c) key) 0

/-- What the tag covers: both byte strings in whole blocks, then their bit counts. -/
def covered (associated sealedText : Bytes) : Bytes :=
  Bytes.zeroPad 16 associated ++ Bytes.zeroPad 16 sealedText ++
    Bytes.bigEndian 8 (8 * associated.length) ++ Bytes.bigEndian 8 (8 * sealedText.length)

def tag (k : Aes.Schedule) (nonce associated sealedText : Bytes) : Bytes :=
  let key := Bytes.ofBigEndian (Aes.encipher k Block.zero).bytes
  Bytes.xor (Bytes.bigEndian 16 (hash key (covered associated sealedText)))
    (Aes.encipher k (counterBlock nonce 1)).bytes

theorem tag_length (k : Aes.Schedule) (nonce associated sealedText : Bytes) :
    (tag k nonce associated sealedText).length = tagLength := by
  simp [tag, Bytes.xor_length, Bytes.bigEndian_length, Block.bytes_length, tagLength]

/-! ### Sealing and opening -/

/-- Sealed text and tag, unless the text is too long. -/
def sealText (key nonce associated text : Bytes) : Option (Bytes × Bytes) :=
  if text.length ≤ textLimit ∧ associated.length ≤ textLimit then
    let k := Aes.schedule key
    let sealedText := mask k nonce text
    some (sealedText, tag k nonce associated sealedText)
  else none

/-- The text under a sealed text whose tag agrees. -/
def openText (key nonce associated sealedText mac : Bytes) : Option Bytes :=
  let k := Aes.schedule key
  if sealedText.length ≤ sealedLimit ∧ associated.length ≤ textLimit ∧
      mac = tag k nonce associated sealedText then
    some (mask k nonce sealedText)
  else none

/-- Opens a sealed text with the tag behind it: the last sixteen bytes are taken for the tag. -/
def openJoined (key nonce associated joined : Bytes) : Option Bytes :=
  if tagLength ≤ joined.length then
    let border := joined.length - tagLength
    openText key nonce associated (joined.take border) (joined.drop border)
  else none

end SealedToken.Gcm

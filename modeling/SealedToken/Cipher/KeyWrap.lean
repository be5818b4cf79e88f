import SealedToken.Cipher.Aes

/-! # Wrapping keys

Enciphers a key of whole semiblocks under another key, with one semiblock of
redundancy in front. Six passes run over the semiblocks; each step mixes a
register into one semiblock and counts. Unwrapping runs the steps backwards
and gives the key only if the register returns to its first value. -/

namespace SealedToken.KeyWrap

/-- What the register starts from. -/
def redundancy : Semiblock := ⟨⟨0xA6, 0xA6, 0xA6, 0xA6⟩, ⟨0xA6, 0xA6, 0xA6, 0xA6⟩⟩

/-- Number of bytes that wrapping adds. -/
def overhead : Nat := 8

/-! ### Passes -/

/-- One pass with register `a`; the first step is number `t`. -/
def pass (k : Aes.Schedule) (t : Nat) (a : Semiblock) :
    List Semiblock → Semiblock × List Semiblock
  | [] => (a, [])
  | r :: rs =>
    let x := Aes.encipher k (Block.ofSemiblocks a r)
    let rest := pass k (t + 1) (x.left.xor (Semiblock.ofNat t)) rs
    (rest.1, x.right :: rest.2)

/-- Undoes a pass whose first step was number `t`, last step first. -/
def unpass (k : Aes.Schedule) (t : Nat) (a : Semiblock) :
    List Semiblock → Semiblock × List Semiblock
  | [] => (a, [])
  | r :: rs =>
    let rest := unpass k (t + 1) a rs
    let x := Aes.decipher k (Block.ofSemiblocks (rest.1.xor (Semiblock.ofNat t)) r)
    (x.left, x.right :: rest.2)

theorem pass_length (k : Aes.Schedule) (t : Nat) (a : Semiblock) (rs : List Semiblock) :
    (pass k t a rs).2.length = rs.length := by
  induction rs generalizing t a with
  | nil => rfl
  | cons r rs ih => simp [pass, ih]

theorem unpass_length (k : Aes.Schedule) (t : Nat) (a : Semiblock) (rs : List Semiblock) :
    (unpass k t a rs).2.length = rs.length := by
  induction rs generalizing t with
  | nil => rfl
  | cons r rs ih => simp [unpass, ih]

/-- Passes `j`, `j + 1`, … up to the sixth. -/
def passes (k : Aes.Schedule) (j : Nat) : Nat → Semiblock × List Semiblock →
    Semiblock × List Semiblock
  | 0, s => s
  | n + 1, s => passes k (j + 1) n (pass k (s.2.length * j + 1) s.1 s.2)

/-- Undoes the passes `j`, `j + 1`, …, the last one first. -/
def unpasses (k : Aes.Schedule) (j : Nat) : Nat → Semiblock × List Semiblock →
    Semiblock × List Semiblock
  | 0, s => s
  | n + 1, s =>
    let later := unpasses k (j + 1) n s
    unpass k (later.2.length * j + 1) later.1 later.2

/-! ### Keys -/

/-- A wrapped key, eight bytes longer than the key. -/
def wrap (kek key : Bytes) : Bytes :=
  let s := passes (Aes.schedule kek) 0 6 (redundancy, Semiblock.ofBytes key)
  (s.1 :: s.2).flatMap Semiblock.bytes

/-- The key in a wrapped key of at least two whole semiblocks. -/
def unwrap? (kek wrapped : Bytes) : Option Bytes :=
  if wrapped.length < 2 * overhead ∨ wrapped.length % overhead ≠ 0 then none
  else
    match Semiblock.ofBytes wrapped with
    | [] => none
    | a :: rs =>
      let s := unpasses (Aes.schedule kek) 0 6 (a, rs)
      if s.1 = redundancy then some (s.2.flatMap Semiblock.bytes) else none

end SealedToken.KeyWrap

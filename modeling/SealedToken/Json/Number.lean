import SealedToken.Number.Shortest

/-! # Numbers of a JSON text

A number is kept as an integer when it is written as one and fits 64 bits, and
as a binary number otherwise. Minus zero is a binary number. -/

namespace SealedToken.Json

inductive Number where
  /-- An integer from zero to `2 ^ 64 - 1`. -/
  | natural (n : Nat)
  /-- The integer `-n`, from `-1` to `-2 ^ 63`. -/
  | negative (n : Nat)
  | binary (x : Binary64)
  deriving DecidableEq, Repr

namespace Number

/-- The number nearest to it with fifty-three significant bits. -/
def toBinary : Number → Binary64
  | natural n => Binary64.ofInt n
  | negative n => Binary64.ofInt (-n)
  | binary x => x

/-- Integer digits, or the shortest digits of a binary number. -/
def text : Number → String
  | natural n => toString n
  | negative n => "-" ++ toString n
  | binary x => Shortest.text x

/-- An integer without fraction or exponent: the signed significand if it is
not minus zero and fits 64 bits, else the nearest binary number. -/
def ofInteger (minus : Bool) (significand : Nat) : Number :=
  if minus then
    if 1 ≤ significand ∧ significand ≤ 0x8000000000000000 then negative significand
    else binary ⟨true, Binary64.ofNat significand⟩
  else natural significand

end Number

end SealedToken.Json

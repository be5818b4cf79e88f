/-! # Unsigned decimal text

An optional `+` and at least one decimal digit, denoting a number of 32 bits. -/

namespace SealedToken.Unsigned

def digit? (c : Char) : Option Nat :=
  if 48 ≤ c.toNat ∧ c.toNat ≤ 57 then some (c.toNat - 48) else none

/-- Value of a row of digits behind the value read so far. -/
def ofDigits? (value : Nat) : List Char → Option Nat
  | [] => some value
  | c :: cs =>
    match digit? c with
    | some d => ofDigits? (value * 10 + d) cs
    | none => none

/-- Drops one leading `+`. -/
def unsign : List Char → List Char
  | '+' :: cs => cs
  | cs => cs

def ofChars? (cs : List Char) : Option UInt32 :=
  match unsign cs with
  | [] => none
  | ds => do
    let v ← ofDigits? 0 ds
    if v < 0x100000000 then some (UInt32.ofNat v) else none

def parse? (s : String) : Option UInt32 := ofChars? s.toList

end SealedToken.Unsigned

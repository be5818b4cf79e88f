import SealedToken.Bytes

/-! # Hexadecimal text

Two digits a byte, high half first. Writing uses lowercase digits; reading
takes either case and refuses everything else, an odd count included. -/

namespace SealedToken.Hex

/-! ### Digits -/

/-- The lowercase digit of a value below sixteen. -/
def digit (v : Nat) : Char := Char.ofNat (if v < 10 then 48 + v else 87 + v)

/-- The value of a digit of either case. -/
def value? (c : Char) : Option Nat :=
  if 48 ≤ c.toNat ∧ c.toNat ≤ 57 then some (c.toNat - 48)
  else if 97 ≤ c.toNat ∧ c.toNat ≤ 102 then some (c.toNat - 87)
  else if 65 ≤ c.toNat ∧ c.toNat ≤ 70 then some (c.toNat - 55)
  else none

theorem value?_digit (v : Fin 16) : value? (digit v) = some v.val := by
  revert v
  decide

theorem value?_lt {c : Char} {v : Nat} (h : value? c = some v) : v < 16 := by
  simp only [value?] at h
  split at h
  · simp only [Option.some.injEq] at h
    omega
  · split at h
    · simp only [Option.some.injEq] at h
      omega
    · split at h
      · simp only [Option.some.injEq] at h
        omega
      · simp at h

/-! ### Byte strings -/

/-- The digits of a byte string. -/
def digits (b : Bytes) : List Char :=
  b.flatMap fun x => [digit (x.toNat / 16), digit (x.toNat % 16)]

theorem digits_length (b : Bytes) : (digits b).length = 2 * b.length := by
  induction b with
  | nil => rfl
  | cons x b ih =>
    simp only [digits, List.flatMap_cons, List.length_append, List.length_cons] at ih ⊢
    simp only [ih, List.length_nil]
    omega

def encode (b : Bytes) : String := String.ofList (digits b)

/-- Bytes of a row of digits, two at a time. -/
def ofDigits? : List Char → Option Bytes
  | [] => some []
  | [_] => none
  | h :: l :: cs => do
    let hi ← value? h
    let lo ← value? l
    let b ← ofDigits? cs
    pure (UInt8.ofNat (16 * hi + lo) :: b)

theorem ofDigits?_digits (b : Bytes) : ofDigits? (digits b) = some b := by
  induction b with
  | nil => rfl
  | cons x b ih =>
    have hx : x.toNat < 256 := x.toNat_lt
    have hhi := value?_digit ⟨x.toNat / 16, by omega⟩
    have hlo := value?_digit ⟨x.toNat % 16, by omega⟩
    have hback : UInt8.ofNat (16 * (x.toNat / 16) + x.toNat % 16) = x := by
      rw [Nat.div_add_mod, UInt8.ofNat_toNat]
    simp only at hhi hlo
    have hsplit : digits (x :: b) =
        digit (x.toNat / 16) :: digit (x.toNat % 16) :: digits b := rfl
    rw [hsplit, ofDigits?, hhi, hlo, ih]
    show some (UInt8.ofNat (16 * (x.toNat / 16) + x.toNat % 16) :: b) = some (x :: b)
    rw [hback]

def decode? (s : String) : Option Bytes := ofDigits? s.toList

theorem decode?_encode (b : Bytes) : decode? (encode b) = some b := by
  simp [decode?, encode, ofDigits?_digits]

end SealedToken.Hex

/-! # Binary numbers of 64 bits

Finite numbers of double precision, in exact arithmetic. A magnitude is a
count of the least positive number, `2 ^ -1074`, so every operation is one
exact quotient of natural numbers followed by one rounding to fifty-three
significant bits, a tie going to the even neighbour. -/

namespace SealedToken

structure Binary64 where
  negative : Bool
  /-- The magnitude, counted in `2 ^ -1074`. -/
  units : Nat
  deriving DecidableEq, Repr

namespace Binary64

/-! ### Rounding -/

/-- The natural number nearest to `num / den`, of two equally near ones the even one. -/
def nearest (num den : Nat) : Nat :=
  let q := num / den
  let r := num % den
  if 2 * r < den then q
  else if den < 2 * r then q + 1
  else if q % 2 = 0 then q
  else q + 1

theorem nearest_one (n : Nat) : nearest n 1 = n := by
  simp [nearest, Nat.mod_one]

theorem nearest_of_mul {n den : Nat} (h : 0 < den) : nearest (n * den) den = n := by
  simp [nearest, Nat.mul_div_cancel n h, h]

/-- How many low bits of a magnitude of this size lie beyond fifty-three. -/
def surplus (magnitude : Nat) : Nat := magnitude.log2 + 1 - 53

/-- The distance between neighbouring magnitudes of this size. -/
def spacing (magnitude : Nat) : Nat := Nat.pow 2 (surplus magnitude)

/-- The magnitude nearest to `num / den` that fifty-three bits can hold. -/
def rounded (num den : Nat) : Nat :=
  let step := spacing (num / den)
  nearest num (den * step) * step

/-- The magnitude of one. -/
def one : Nat := Nat.pow 2 1074

/-- The first magnitude beyond the finite ones. -/
def limit : Nat := Nat.pow 2 1024 * one

/-! ### Magnitudes -/

def ofNat (n : Nat) : Nat := rounded (n * one) 1

def product (a b : Nat) : Nat := rounded (a * b) one

def quotient (a b : Nat) : Nat := rounded (a * one) b

/-- The nearest magnitude to a power of ten. -/
def tenPower (k : Nat) : Nat := ofNat (Nat.pow 10 k)

/-- The largest power of ten that is a finite number. -/
def largestTenPower : Nat := 308

/-- A magnitude times `10 ^ k`, with one rounding; nothing if it is not finite. -/
def raise? (k a : Nat) : Option Nat :=
  if a = 0 then some 0
  else if largestTenPower < k then none
  else
    let b := product a (tenPower k)
    if b < limit then some b else none

/-- Divides `turns` times by the largest power of ten. -/
def lowerMost : Nat → Nat → Nat
  | 0, a => a
  | turns + 1, a => if a = 0 then 0 else lowerMost turns (quotient a (tenPower largestTenPower))

/-- A magnitude divided by `10 ^ k`: by whole largest powers first, then by what is left. -/
def lower (k a : Nat) : Nat :=
  let turns := (k - 1) / largestTenPower
  quotient (lowerMost turns a) (tenPower (k - largestTenPower * turns))

/-! ### Reading decimals -/

/-- The number `significand * 10 ^ exponent`, the significand rounded first;
nothing if it is not finite. -/
def ofDecimal? (negative : Bool) (significand : Nat) (exponent : Int) : Option Binary64 :=
  match exponent with
  | .ofNat k => (raise? k (ofNat significand)).map (⟨negative, ·⟩)
  | .negSucc k => some ⟨negative, lower (k + 1) (ofNat significand)⟩

/-- The number nearest to an integer of 64 bits. -/
def ofInt (v : Int) : Binary64 := ⟨v < 0, ofNat v.natAbs⟩

/-! ### Truncation -/

/-- The integer part, without its fraction. -/
def truncate (x : Binary64) : Int :=
  if x.negative then -(x.units / one : Nat) else (x.units / one : Nat)

end Binary64

/-- The integer of 64 bits nearest to an integer. -/
def saturate (v : Int) : Int := max (-0x8000000000000000) (min v 0x7FFFFFFFFFFFFFFF)

end SealedToken

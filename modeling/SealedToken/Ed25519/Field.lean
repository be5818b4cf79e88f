import SealedToken.Bytes

/-! # The field of the signature curve

Integers modulo `2 ^ 255 - 19`, their powers, and the square root of a
quotient that recovers a coordinate of a point. -/

namespace SealedToken.Ed25519

/-- `2 ^ 255 - 19`. -/
def fieldPrime : Nat := 0x7fffffffffffffffffffffffffffffffffffffffffffffffffffffffffffffed

theorem fieldPrime_eq : fieldPrime = Nat.pow 2 255 - 19 := by decide

instance : @NeZero Nat Zero.ofOfNat0 fieldPrime := ⟨by decide⟩

abbrev Element := Fin fieldPrime

/-- The lowest `width` bits of a number, highest first. -/
def bits (width n : Nat) : List Bool :=
  (List.range width).map fun i => n.testBit (width - 1 - i)

namespace Element

/-- Squares for every bit of the exponent and multiplies for every set one. -/
def power (x : Element) (e : Nat) : Element :=
  (bits 255 e).foldl (fun y bit => if bit then y * y * x else y * y) 1

/-- The inverse of a nonzero element; zero for zero. -/
def inverse (x : Element) : Element := power x (fieldPrime - 2)

/-- A square root of minus one. -/
def rootOfMinusOne : Element :=
  0x2b8324804fc1df0b2b4d00993dfbd7a72f431806ad2fe478c4ee1b274a0ea0b0

/-- Of an element and its opposite, the even one. -/
def even (x : Element) : Element := if x.val % 2 = 0 then x else -x

/-- The even square root of `u / v`, where there is one. -/
def rootOfQuotient? (u v : Element) : Option Element :=
  let r := u * power v 3 * power (u * power v 7) ((fieldPrime - 5) / 8)
  let square := v * r * r
  if square = u then some (even r)
  else if square = -u then some (even (r * rootOfMinusOne))
  else none

end Element

end SealedToken.Ed25519

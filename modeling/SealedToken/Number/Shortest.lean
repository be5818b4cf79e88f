import SealedToken.Number.Binary64

/-! # Shortest decimal text of a binary number

The fewest significant digits that lead back to the number, and of those the
nearest. For one digit, two digits, and so on, the two neighbours of the exact
value on the decimal grid are tried in exact arithmetic. -/

namespace SealedToken.Shortest

/-! ### The interval that rounds to a magnitude -/

/-- Quarter units from a magnitude to the middle between it and the next one. -/
def gapAbove (units : Nat) : Nat := 2 * Binary64.spacing units

/-- Quarter units from a magnitude to the middle between it and the one before. -/
def gapBelow (units : Nat) : Nat :=
  if units = Nat.pow 2 units.log2 ∧ 0 < Binary64.surplus units then Binary64.spacing units
  else 2 * Binary64.spacing units

/-- Whether the middles themselves round to the magnitude. -/
def closed (units : Nat) : Bool := units / Binary64.spacing units % 2 = 0

/-! ### The decimal grid -/

/-- Least `m ≥ start` with `value * 10 ^ m ≥ one`, sought for `fuel` steps. -/
def tensToOne (units : Nat) : Nat → Nat → Nat
  | 0, m => m
  | fuel + 1, m => if Binary64.one ≤ units * Nat.pow 10 m then m else tensToOne units fuel (m + 1)

/-- The exponent of the first significant digit. -/
def leadingExponent (units : Nat) : Int :=
  if Binary64.one ≤ units then ((Nat.toDigits 10 (units / Binary64.one)).length : Int) - 1
  else -(tensToOne units 400 0 : Int)

/-- `value / 10 ^ k` as a fraction. -/
def scaled (units : Nat) (k : Int) : Nat × Nat :=
  match k with
  | .ofNat k => (units, Binary64.one * Nat.pow 10 k)
  | .negSucc k => (units * Nat.pow 10 (k + 1), Binary64.one)

/-- Quarter units on the grid of `10 ^ k`. -/
def scaledGap (gap : Nat) (k : Int) : Nat :=
  match k with
  | .ofNat _ => gap
  | .negSucc k => gap * Nat.pow 10 (k + 1)

/-- Whether a distance lies within a gap, its end included for closed intervals. -/
def fits (closed : Bool) (distance gap : Nat) : Bool :=
  if closed then distance ≤ gap else distance < gap

/-- The grid point next to the value that rounds to it, if there is one. -/
def candidate? (units : Nat) (k : Int) : Option Nat :=
  let (num, den) := scaled units k
  let below := num / den
  let under := num - below * den
  let beyond := (below + 1) * den - num
  let belowFits := fits (closed units) (4 * under) (scaledGap (gapBelow units) k)
  let aboveFits := fits (closed units) (4 * beyond) (scaledGap (gapAbove units) k)
  match belowFits, aboveFits with
  | true, true =>
    if under < beyond then some below
    else if beyond < under then some (below + 1)
    else some (if below % 2 = 0 then below else below + 1)
  | true, false => some below
  | false, true => some (below + 1)
  | false, false => none

/-- The digits of the first grid with a candidate, from `n` digits on, and the
exponent of their last digit. -/
def search (units : Nat) (first : Int) : Nat → Nat → Nat × Int
  | 0, n => (units / Binary64.one, n)
  | fuel + 1, n =>
    let k := first - n + 1
    match candidate? units k with
    | some v => (v, k)
    | none => search units first fuel (n + 1)

/-- Moves trailing zeros from the digits into the exponent. -/
def stripZeros : Nat → Nat × Int → Nat × Int
  | 0, v => v
  | fuel + 1, (v, k) => if v ≠ 0 ∧ v % 10 = 0 then stripZeros fuel (v / 10, k + 1) else (v, k)

/-- The shortest digits of a positive magnitude, and the exponent of the last one. -/
def digits (units : Nat) : Nat × Int :=
  stripZeros 20 (search units (leadingExponent units) 17 1)

/-! ### Layout -/

/-- First digits are written positionally from `10 ^ -5` to `10 ^ 15`. -/
def positional (e : Int) : Bool := -5 ≤ e && e ≤ 15

def zeros (n : Nat) : List Char := List.replicate n '0'

/-- Digits with a point, at least one digit on either side of it. -/
def positionalText (ds : List Char) (k e : Int) : List Char :=
  if 0 ≤ k then ds ++ zeros k.toNat ++ ['.', '0']
  else if 0 ≤ e then ds.take (e.toNat + 1) ++ '.' :: ds.drop (e.toNat + 1)
  else '0' :: '.' :: zeros (-e - 1).toNat ++ ds

/-- One digit, the others behind a point, and a signed exponent. -/
def exponentText (ds : List Char) (e : Int) : List Char :=
  let mantissa :=
    match ds with
    | d :: f :: fs => d :: '.' :: f :: fs
    | ds => ds
  mantissa ++ 'e' :: (if 0 ≤ e then '+' else '-') :: Nat.toDigits 10 e.natAbs

def magnitudeText (units : Nat) : List Char :=
  if units = 0 then ['0', '.', '0']
  else
    let (v, k) := digits units
    let ds := Nat.toDigits 10 v
    let e := k + (ds.length : Int) - 1
    if positional e then positionalText ds k e else exponentText ds e

/-- The text of a finite number. -/
def text (x : Binary64) : String :=
  String.ofList (if x.negative then '-' :: magnitudeText x.units else magnitudeText x.units)

end SealedToken.Shortest

import SealedToken.Ed25519.Field

/-! # Points of the signature curve

The curve `y ^ 2 - x ^ 2 = 1 + d x ^ 2 y ^ 2` in extended coordinates, with one
addition law for all pairs of points. Reading a point takes any thirty-two
bytes whose lower 255 bits lead to a point: the `y` coordinate need not be
reduced, and points of small order are points like any other. -/

namespace SealedToken.Ed25519

/-- The coefficient of the curve. -/
def curveD : Element :=
  0x52036cee2b6ffe738cc740797779e89800700a4d4141d8ab75eb4dca135978a3

/-- The point `(x / z, y / z)`, with `t / z` the product of both coordinates. -/
structure Point where
  x : Element
  y : Element
  z : Element
  t : Element
  deriving DecidableEq, Repr

namespace Point

/-! ### Group operations -/

def identity : Point := ⟨0, 1, 1, 0⟩

def add (p q : Point) : Point :=
  let a := (p.y - p.x) * (q.y - q.x)
  let b := (p.y + p.x) * (q.y + q.x)
  let c := p.t * curveD * q.t + p.t * curveD * q.t
  let d := p.z * q.z + p.z * q.z
  ⟨(b - a) * (d - c), (d + c) * (b + a), (d - c) * (d + c), (b - a) * (b + a)⟩

def neg (p : Point) : Point := ⟨-p.x, p.y, p.z, -p.t⟩

/-- Doubles for every bit of the multiplier and adds for every set one. -/
def times (n : Nat) (p : Point) : Point :=
  (bits 256 n).foldl (fun q bit => if bit then (q.add q).add p else q.add q) identity

/-- Eight times the point is the neutral point: it lies in the subgroup of order eight. -/
def HasSmallOrder (p : Point) : Prop :=
  let q := times 8 p
  q.x = 0 ∧ q.y = q.z

/-- The point that generates the subgroup signatures live in. -/
def base : Point :=
  let x := 0x216936d3cd6e53fec0a4e231fdd6dc5c692cc7609525a7b2c9562d608f25d51a
  let y := 0x6666666666666666666666666666666666666666666666666666666666666658
  ⟨x, y, 1, x * y⟩

/-! ### Thirty-two bytes -/

/-- The `y` coordinate, with the parity of `x` in the top bit. -/
def encode (p : Point) : Bytes :=
  let zi := p.z.inverse
  Bytes.littleEndian 32 ((p.y * zi).val + Nat.pow 2 255 * ((p.x * zi).val % 2))

theorem encode_length (p : Point) : p.encode.length = 32 := Bytes.littleEndian_length _ _

/-- The point with the given `y` coordinate and parity of `x`. -/
def withY? (y : Element) (odd : Bool) : Option Point :=
  (Element.rootOfQuotient? (y * y - 1) (curveD * (y * y) + 1)).map fun root =>
    let x := if odd then -root else root
    ⟨x, y, 1, x * y⟩

def decode? (b : Bytes) : Option Point :=
  let v := Bytes.ofLittleEndian b
  withY? (Fin.ofNat fieldPrime (v % Nat.pow 2 255)) (v.testBit 255)

end Point

end SealedToken.Ed25519

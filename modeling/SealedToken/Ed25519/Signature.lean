import SealedToken.Digest.Sha512
import SealedToken.Ed25519.Point

/-! # Checking signatures

A signature is the encoding of a point `R` and a scalar `S`. It holds for a
key `A` and a message when `[S]B - [k]A` has exactly the encoding `R`, where
`k` is the digest of `R`, the key as written, and the message. -/

namespace SealedToken.Ed25519

/-- The order of the base point. -/
def groupOrder : Nat := 0x1000000000000000000000000000000014def9dea2f79cd65812631a5cf5d3ed

theorem groupOrder_eq :
    groupOrder = Nat.pow 2 252 + 27742317777372353535851937790883648493 := by decide

/-- A point together with the bytes it was read from. -/
structure PublicKey where
  bytes : Bytes
  point : Point
  deriving DecidableEq, Repr

namespace PublicKey

/-- The key written in thirty-two bytes. -/
def ofBytes? (b : Bytes) : Option PublicKey := (Point.decode? b).map (⟨b, ·⟩)

/-- The scalar that binds `R`, the key and the message. -/
def challenge (key : PublicKey) (r message : Bytes) : Nat :=
  Bytes.ofLittleEndian (Sha512.digest (r ++ key.bytes ++ message)) % groupOrder

/-- Whether sixty-four bytes are a signature of the message. -/
def accepts (key : PublicKey) (message signature : Bytes) : Bool :=
  let r := signature.take 32
  let s := Bytes.ofLittleEndian (signature.drop 32)
  signature.length = 64 && s < groupOrder &&
    ((Point.times s Point.base).add (Point.times (key.challenge r message) key.point.neg)).encode = r

end PublicKey

end SealedToken.Ed25519

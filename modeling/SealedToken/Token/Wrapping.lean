import SealedToken.Cipher.KeyWrap
import SealedToken.Token.Algorithm

/-! # Wrapped content keys

A shared key wraps content keys only if it has the size that the algorithm
names. A wrong size is a mistake of the caller when sealing, and when opening
one more way for the key to be wrong. -/

namespace SealedToken.KeySize

/-- The encrypted form of a content key under a shared key of this size. -/
def wrapKey (size : KeySize) (shared key : Bytes) : Except Error Bytes :=
  if shared.length = size.bytes then .ok (KeyWrap.wrap shared key)
  else .error (.keyLength size.bytes (KeyManagement.wrap size).name)

/-- The content key in an encrypted key, under a shared key of this size. -/
def unwrapKey (size : KeySize) (shared wrapped : Bytes) : Except Error Bytes :=
  if shared.length = size.bytes then
    match KeyWrap.unwrap? shared wrapped with
    | some key => .ok key
    | none => .error .wrongKey
  else .error .wrongKey

end SealedToken.KeySize

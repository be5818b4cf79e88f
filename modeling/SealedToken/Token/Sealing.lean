import SealedToken.Cipher.Gcm
import SealedToken.Key.Octet
import SealedToken.Token.Envelope
import SealedToken.Token.Wrapping

/-! # Sealing texts

Sealing draws random bytes from a stream: first the content key, where one is
wrapped, then the nonce. Nothing else is random, so a stream decides the token. -/

namespace SealedToken

/-- An endless row of random bytes. -/
abbrev RandomStream := Nat → Byte

namespace RandomStream

/-- The `n` bytes behind the first `start`. -/
def draw (r : RandomStream) (start n : Nat) : Bytes := (List.range n).map fun i => r (start + i)

theorem draw_length (r : RandomStream) (start n : Nat) : (r.draw start n).length = n := by
  simp [draw]

end RandomStream

/-- A token and the number of random bytes that went into it. -/
structure Sealed where
  token : String
  drawn : Nat
  deriving DecidableEq, Repr

namespace Sealed

/-- A content key, its encrypted form, and the number of random bytes drawn. -/
structure ContentKey where
  key : Bytes
  encrypted : Bytes
  drawn : Nat
  deriving DecidableEq, Repr

/-- The shared key itself, or fresh bytes wrapped under it. -/
def contentKey (m : KeyManagement) (enc : ContentEncryption) (shared : Bytes)
    (random : RandomStream) : Except Error ContentKey :=
  match m with
  | .direct => .ok ⟨shared, [], 0⟩
  | .wrap size =>
    let key := random.draw 0 enc.keyLength
    (size.wrapKey shared key).map fun encrypted => ⟨key, encrypted, enc.keyLength⟩

/-- The envelope of a text under a content key of the right length. -/
def envelope (m : KeyManagement) (enc : ContentEncryption) (content : ContentKey)
    (nonce text : Bytes) : Except Error Envelope :=
  let header := Header.plain m enc
  let associated := (Envelope.assemble header [] [] [] []).associated
  match Gcm.sealText content.key nonce associated text with
  | some (ciphertext, tag) =>
    .ok (Envelope.assemble header content.encrypted nonce ciphertext tag)
  | none => .error .textTooLong

end Sealed

/-- Seals a text under a shared key. -/
def sealBytes (text : Bytes) (key : OctetKey) (m : KeyManagement) (enc : ContentEncryption)
    (random : RandomStream) : Except Error Sealed := do
  let some shared := key.bytes? | throw .wrongKey
  let content ← Sealed.contentKey m enc shared random
  if content.key.length ≠ enc.keyLength then throw (.keyLength enc.keyLength enc.name)
  let nonce := random.draw content.drawn Gcm.nonceLength
  let e ← Sealed.envelope m enc content nonce text
  return ⟨e.serialize, content.drawn + Gcm.nonceLength⟩

end SealedToken

import SealedToken.Cipher.Gcm
import SealedToken.Key.Octet
import SealedToken.Log.Event
import SealedToken.Token.Envelope
import SealedToken.Token.Wrapping

/-! # Opening envelopes

Opening gives the whole text or nothing of it. A key that cannot be used does
not end the work early: the cipher then runs under a key of zero bytes, its
result is dropped, and only then the key is reported, so a wrong key costs as
much as a wrong tag. -/

namespace SealedToken

namespace Envelope

def target : String := "unseal::crypto::encryption"

/-! ### Reports -/

/-- An envelope is about to be opened. -/
def openingEvent (e : Envelope) : Event :=
  ⟨.debug, target, "Decrypting envelope",
    [("alg", .text e.header.alg.name), ("enc", .text e.header.enc.name),
      ("ciphertext_len", .count e.ciphertext.length)]⟩

/-- An encrypted key came along where none is used. -/
def unusedKeyEvent (encryptedKey : Bytes) : Event :=
  ⟨.warn, target, "Ignoring encrypted key segment on a direct-key envelope",
    [("len", .count encryptedKey.length)]⟩

/-! ### The content key -/

/-- The key an envelope's text is sealed under, before its length is checked. -/
def candidateKey (e : Envelope) (shared : Bytes) : Traced Bytes :=
  match e.header.alg with
  | .direct =>
    if e.encryptedKey = [] then .silent (.ok shared)
    else ⟨[unusedKeyEvent e.encryptedKey], .ok shared⟩
  | .wrap size => .silent (size.unwrapKey shared e.encryptedKey)

def checkLength (enc : ContentEncryption) (key : Bytes) : Except Error Bytes :=
  if key.length = enc.keyLength then .ok key else .error .wrongKey

/-- The content key, of the length that the envelope's cipher wants. -/
def contentKey (e : Envelope) (key : OctetKey) : Traced Bytes :=
  match key.bytes? with
  | none => .fail .wrongKey
  | some shared => do
    let content ← candidateKey e shared
    Traced.silent (checkLength e.header.enc content)

/-! ### The cipher -/

/-- What the cipher is run under: the content key, or zero bytes in its place. -/
def effectiveKey (e : Envelope) (content : Except Error Bytes) : Bytes :=
  match content with
  | .ok key => key
  | .error _ => List.replicate e.header.enc.keyLength 0

/-- Runs the cipher over ciphertext and tag in one row. The cipher finds the tag
at the end of the row and not at the border of the two segments, so the length
of the tag is checked besides. -/
def runCipher (e : Envelope) (key : Bytes) : Except Error Bytes :=
  let opened := Gcm.openJoined key e.nonce e.associated (e.ciphertext ++ e.tag)
  if e.tag.length ≠ Gcm.tagLength then .error .wrongTag
  else
    match opened with
    | some text => .ok text
    | none => .error .wrongTag

/-- The text, once the cipher ran: a key failure comes before a wrong tag. -/
def settle (content opened : Except Error Bytes) : Except Error Bytes :=
  match content with
  | .error e => .error e
  | .ok _ => opened

def decryptWith (e : Envelope) (key : OctetKey) : Traced Bytes :=
  let content := contentKey e key
  ⟨content.events, settle content.result (e.runCipher (e.effectiveKey content.result))⟩

/-- Opens an envelope. -/
def decrypt (e : Envelope) (key : OctetKey) : Traced Bytes := do
  Traced.report e.openingEvent
  if e.nonce.length ≠ Gcm.nonceLength then Traced.fail (.nonceLength e.nonce.length)
  else decryptWith e key

end Envelope

/-- Opens a token. -/
def decryptToken (token : String) (key : OctetKey) : Traced Bytes := do
  let e ← Traced.silent (Envelope.parse token)
  e.decrypt key

/-- The text that bytes spell. -/
def sealedText (b : Bytes) : Except Error String := (Utf8.decode b).mapError .textEncoding

/-- Opens a token whose content is a text. -/
def decryptText (token : String) (key : OctetKey) : Traced String := do
  let b ← decryptToken token key
  Traced.silent (sealedText b)

end SealedToken

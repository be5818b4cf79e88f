import SealedToken.Text.Split
import SealedToken.Token.Header

/-! # Envelopes

A sealed token in its compact form: five segments in unpadded base64url with
dots between them. The header segment is authenticated as it is written, so
its text is kept beside what it says. -/

namespace SealedToken

structure Envelope where
  /-- The header segment as written. -/
  headerText : Bytes
  header : Header
  encryptedKey : Bytes
  nonce : Bytes
  ciphertext : Bytes
  tag : Bytes
  deriving DecidableEq, Repr

namespace Envelope

def dot : Byte := 0x2E

/-- An envelope with its header newly written. -/
def assemble (header : Header) (encryptedKey nonce ciphertext tag : Bytes) : Envelope :=
  ⟨Base64.encode Base64.url (Utf8.encode header.toJson), header, encryptedKey, nonce, ciphertext,
    tag⟩

/-- What the tag covers besides the ciphertext. -/
def associated (e : Envelope) : Bytes := e.headerText

/-! ### Writing -/

def segments (e : Envelope) : List Bytes :=
  e.headerText :: [e.encryptedKey, e.nonce, e.ciphertext, e.tag].map (Base64.encode Base64.url)

def serialize (e : Envelope) : String := Utf8.ascii (Split.join dot e.segments)

/-! ### Reading -/

/-- The bytes of a segment. -/
def decodeSegment (s : Segment) (text : Bytes) : Except Error Bytes :=
  (Base64.decode Base64.url text).mapError (.segmentEncoding s)

/-- The envelope of five segments; the header is read before the other
segments are looked at. -/
def ofSegments : List Bytes → Except Error Envelope
  | [header, encryptedKey, nonce, ciphertext, tag] => do
    if header = [] then throw .emptyHeader
    let headerJson ← decodeSegment .header header
    let h ← Header.parse headerJson
    let encryptedKey ← decodeSegment .encryptedKey encryptedKey
    let nonce ← decodeSegment .nonce nonce
    let ciphertext ← decodeSegment .ciphertext ciphertext
    let tag ← decodeSegment .tag tag
    return ⟨header, h, encryptedKey, nonce, ciphertext, tag⟩
  | segments => .error (.segmentCount segments.length)

def parse (token : String) : Except Error Envelope :=
  ofSegments (Split.parts dot (Utf8.encode token))

end Envelope

end SealedToken

import SealedToken.Ed25519.Signature
import SealedToken.Json.Value
import SealedToken.Json.Writer
import SealedToken.Log.Event
import SealedToken.Number.Binary64
import SealedToken.Registration.Payload
import SealedToken.Text.Split

/-! # Verifying signed tokens

A signed token names the key it was signed with, who registers, and when it
was issued. It is accepted while it is fresh and its signature holds under the
key that it names. The checks run in a fixed order and the first one that
fails is reported: form, freshness, public key, signing method, signature. -/

namespace SealedToken

structure Claims where
  /-- The public key in padded standard base64. -/
  publicKey : String
  username : String
  /-- Seconds since the epoch, 64 bits with sign. -/
  issuedAt : Int
  deriving DecidableEq, Repr

namespace Claims

def toJson (c : Claims) : String :=
  Json.written [("publicKey", .text c.publicKey), ("username", .text c.username),
    ("iat", .integer c.issuedAt)]

/-! ### Reading -/

/-- A string member; empty if missing or no string. -/
def textMember (ms : Json.Members) (name : String) : String :=
  match ms.get? name with
  | some (.text s) => s
  | _ => ""

/-- A number member as seconds: the nearest binary number without its fraction,
kept within 64 bits; zero if missing or no number. -/
def secondsMember (ms : Json.Members) (name : String) : Int :=
  match ms.get? name with
  | some (.number n) => saturate n.toBinary.truncate
  | _ => 0

def ofMembers (ms : Json.Members) : Claims :=
  ⟨textMember ms "publicKey", textMember ms "username", secondsMember ms "iat"⟩

/-! ### Freshness -/

/-- The last second in which the token is accepted. -/
def deadline (c : Claims) (ttl : UInt32) : Int := saturate (c.issuedAt + ttl.toNat)

/-! ### Keys and signatures -/

def readPublicKey (text : String) : Except Error Ed25519.PublicKey :=
  match Base64.decode Base64.standard (Utf8.encode text) with
  | .error f => .error (.publicKeyEncoding f)
  | .ok b =>
    if b.length ≠ 32 then .error (.publicKeyLength b.length)
    else
      match Ed25519.PublicKey.ofBytes? b with
      | some key => .ok key
      | none => .error .publicKeyPoint

/-- The one signing method that is accepted. -/
def signingMethod : String := "EdDSA"

def checkMethod (header : Json.Members) : Except Error Unit :=
  let method := textMember header "alg"
  if method = signingMethod then .ok () else .error (.signingMethod method)

/-- Whether a segment holds a signature of the message. -/
def checkSignature (key : Ed25519.PublicKey) (message segment : Bytes) : Except Error Unit :=
  match Base64.decode Base64.url segment with
  | .ok signature => if key.accepts message signature then .ok () else .error .wrongSignature
  | .error _ => .error .wrongSignature

end Claims

/-! ### Signed tokens -/

/-- A signed token as far as its form goes. -/
structure SignedToken where
  header : Json.Members
  claims : Claims
  /-- The two first segments with their dot: what is signed. -/
  message : Bytes
  /-- The last segment as written. -/
  signature : Bytes

namespace SignedToken

def dot : Byte := 0x2E

/-- The members of the object in a segment. -/
def readPart (p : SignedPart) (segment : Bytes) : Except Error Json.Members :=
  match Base64.decode Base64.url segment with
  | .error f => .error (.signedPartEncoding p f)
  | .ok text => (Json.Members.parse text).mapError (.signedPartSyntax p)

def ofSegments : List Bytes → Except Error SignedToken
  | [header, claims, signature] => do
    let h ← readPart .header header
    let c ← readPart .claims claims
    return ⟨h, .ofMembers c, header ++ dot :: claims, signature⟩
  | segments => .error (.signedPartCount segments.length)

def parse (jws : String) : Except Error SignedToken :=
  ofSegments (Split.parts dot (Utf8.encode jws))

/-- The checks that have nothing to do with time. -/
def checkSigner (t : SignedToken) : Except Error Claims := do
  let key ← Claims.readPublicKey t.claims.publicKey
  Claims.checkMethod t.header
  Claims.checkSignature key t.message t.signature
  return t.claims

/-- The claims of a fresh and well-signed token. -/
def verify (t : SignedToken) (ttl : UInt32) (now : Int) : Except Error Claims :=
  if t.claims.deadline ttl < now then .error .expired else t.checkSigner

end SignedToken

namespace Claims

def verifiedEvent (c : Claims) : Event :=
  ⟨.debug, "unseal::claims", "Registration token verified", [("username", .text c.username)]⟩

end Claims

/-- Verifies the signed token of a payload at a time in seconds since the epoch. -/
def Payload.verify (p : Payload) (ttl : UInt32) (now : Int) : Traced Claims := do
  let t ← Traced.silent (SignedToken.parse p.jws)
  let c ← Traced.silent (t.verify ttl now)
  Traced.report c.verifiedEvent
  return c

end SealedToken

import SealedToken.Error
import SealedToken.Json.Record
import SealedToken.Json.Writer

/-! # Symmetric keys

A shared key as a JSON object: its type, and its bytes in unpadded base64url.
The two texts are kept as they come; whether they denote a key is decided when
its bytes are asked for. -/

namespace SealedToken

structure OctetKey where
  kty : String
  k : String
  deriving DecidableEq, Repr

namespace OctetKey

/-- The type of symmetric keys. -/
def keyType : String := "oct"

def ofText (k : String) : OctetKey := ⟨keyType, k⟩

def ofBytes (b : Bytes) : OctetKey := ofText (Utf8.ascii (Base64.encode Base64.url b))

/-- The bytes of a key of the right type with a well-formed text. -/
def bytes? (key : OctetKey) : Option Bytes :=
  if key.kty = keyType then (Base64.decode Base64.url (Utf8.encode key.k)).toOption else none

/-- Readable form, without the secret. -/
def describe (key : OctetKey) : String :=
  "OctetKey \x7b kty: " ++ Quoted.quote key.kty ++ ", k: \"[REDACTED]\" \x7d"

/-! ### JSON -/

structure Slots where
  kty : Option String := none
  k : Option String := none

def layout : Json.Record Slots where
  name := "struct OctetKey"
  start := {}
  fields := [
    .of "kty" true Slots.kty (fun s v => { s with kty := some v }) Json.fieldText,
    .of "k" true Slots.k (fun s v => { s with k := some v }) Json.fieldText]

def ofSlots (s : Slots) : OctetKey := ⟨s.kty.getD "", s.k.getD ""⟩

def parse (text : Bytes) : Except Error OctetKey :=
  ((layout.parse text).map ofSlots).mapError .keySyntax

def toJson (key : OctetKey) : String := Json.written [("kty", .text key.kty), ("k", .text key.k)]

end OctetKey

end SealedToken

import SealedToken.Error
import SealedToken.Json.Record
import SealedToken.Json.Writer

/-! # Registration payloads

What a sealed token carries: a JSON object whose member `jws` is a signed
token, not yet verified. -/

namespace SealedToken

structure Payload where
  jws : String
  deriving DecidableEq, Repr

namespace Payload

structure Slots where
  jws : Option String := none

def layout : Json.Record Slots where
  name := "struct RegistrationClaims"
  start := {}
  fields := [.of "jws" true Slots.jws (fun s v => { s with jws := some v }) Json.fieldText]

def ofSlots (s : Slots) : Payload := ⟨s.jws.getD ""⟩

def parse (text : Bytes) : Except Error Payload :=
  ((layout.parse text).map ofSlots).mapError .payloadSyntax

def toJson (p : Payload) : String := Json.written [("jws", .text p.jws)]

end Payload

end SealedToken

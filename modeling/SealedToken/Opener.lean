import SealedToken.Key.Master
import SealedToken.Registration.Authorization
import SealedToken.Registration.Claims
import SealedToken.Token.Opening

/-! # Openers

One shared key, and every form in which a token is opened with it: raw bytes,
text, payload, authorization value, verified claims. -/

namespace SealedToken

structure Opener where
  key : OctetKey
  deriving DecidableEq, Repr

namespace Opener

def ofMaster (key : MasterKey) : Opener := ⟨key.toOctetKey⟩

def ofPassword (password : String) : Opener := ofMaster (.ofPassword password)

/-- The opener of a stored digest of the password. -/
def ofHash (hash : String) : Except Error Opener := (MasterKey.ofHex hash).map ofMaster

/-- Readable form, without the secret. -/
def describe (o : Opener) : String := "UnsealService \x7b key: " ++ o.key.describe ++ " \x7d"

def openedEvent (length : Nat) : Event :=
  ⟨.debug, "unseal::services::unseal", "Token opened", [("len", .count length)]⟩

def bytes (o : Opener) (token : String) : Traced Bytes := do
  let b ← decryptToken token o.key
  Traced.report (openedEvent b.length)
  return b

def text (o : Opener) (token : String) : Traced String := do
  let b ← o.bytes token
  Traced.silent (sealedText b)

def payload (o : Opener) (token : String) : Traced Payload := do
  let b ← o.bytes token
  Traced.silent (Payload.parse b)

def verified (o : Opener) (token : String) (ttl : UInt32) (now : Int) : Traced Claims := do
  let p ← o.payload token
  p.verify ttl now

def authorized (o : Opener) (value : String) : Traced Payload := do
  let token ← Traced.silent (Authorization.token value)
  o.payload token

end Opener

end SealedToken

import SealedToken.Digest.Md5
import SealedToken.Key.Octet
import SealedToken.Text.Blank

/-! # Master keys

The sixteen bytes that tokens are sealed under: the MD5 digest of a password.
The digest is fast and unsalted and protects no weak password; it is what the
tokens in circulation were sealed with. -/

namespace SealedToken

structure MasterKey where
  bytes : Bytes
  length_eq : bytes.length = 16

namespace MasterKey

def ofPassword (password : String) : MasterKey :=
  ⟨Md5.digest (Utf8.encode password), Md5.digest_length _⟩

/-- Thirty-two hexadecimal digits of either case, between any blanks. -/
def ofHex? (s : String) : Option MasterKey :=
  match Hex.decode? (Blank.trim s) with
  | none => none
  | some b => if h : b.length = 16 then some ⟨b, h⟩ else none

/-- The key in a text of digits; every other text fails as a wrong key does. -/
def ofHex (s : String) : Except Error MasterKey :=
  match ofHex? s with
  | some key => .ok key
  | none => .error .wrongKey

def toHex (key : MasterKey) : String := Hex.encode key.bytes

def toBase64 (key : MasterKey) : String := Utf8.ascii (Base64.encode Base64.url key.bytes)

/-- The key as tokens are opened and sealed with it. -/
def toOctetKey (key : MasterKey) : OctetKey := .ofText key.toBase64

/-- Readable form, without the secret. -/
def describe (_ : MasterKey) : String := "DerivedKey \x7b len: 16 \x7d"

end MasterKey

end SealedToken

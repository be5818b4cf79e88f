import SealedToken.Text.Utf8

/-! # Secrets in memory

Texts and buffers whose readable form tells only their length. -/

namespace SealedToken

structure SecretText where
  text : String
  deriving DecidableEq

namespace SecretText

/-- Length in bytes. -/
def length (s : SecretText) : Nat := (Utf8.encode s.text).length

def describe (s : SecretText) : String :=
  "SecureString([REDACTED " ++ toString s.length ++ " bytes])"

end SecretText

structure SecretBytes where
  bytes : Bytes
  deriving DecidableEq

namespace SecretBytes

def zeroed (n : Nat) : SecretBytes := ⟨List.replicate n 0⟩

/-- Writes one byte; an index behind the end changes nothing. -/
def set (s : SecretBytes) (i : Nat) (b : Byte) : SecretBytes := ⟨s.bytes.set i b⟩

/-- What is left of a buffer that was wiped. -/
def wiped (_ : SecretBytes) : SecretBytes := ⟨[]⟩

def describe (s : SecretBytes) : String :=
  "SecureBytes([REDACTED " ++ toString s.bytes.length ++ " bytes])"

end SecretBytes

end SealedToken

import SealedToken.Command.KeySource
import SealedToken.Token.Sealing

/-! # Sealing a text

Prints a token for a text given as an argument or on standard input. -/

namespace SealedToken

structure SealCommand where
  text : Option String := none
  /-- Name of the key management. -/
  alg : String := "dir"
  /-- Name of the content encryption. -/
  enc : String := "A128GCM"
  key : KeySource := {}
  deriving DecidableEq, Repr

/-- The bytes to seal. -/
def SealCommand.content (c : SealCommand) (input : Bytes) : Bytes :=
  match c.text with
  | some s => Utf8.encode s
  | none => input

def SealCommand.run (c : SealCommand) (settings : Settings) (typed : Option String)
    (input : Bytes) (random : RandomStream) : Except Error Sealed := do
  let alg ← KeyManagement.parse c.alg
  let enc ← ContentEncryption.parse c.enc
  let key ← c.key.key settings typed
  sealBytes (c.content input) key.toOctetKey alg enc random

end SealedToken

import SealedToken.Command.KeySource

/-! # Printing the key

The shared key in the forms that other tools take. -/

namespace SealedToken

inductive KeyFormat where
  | base64url
  | hex
  | jwk
  deriving DecidableEq, Repr

def KeyFormat.ofName? (s : String) : Option KeyFormat :=
  if s = "base64url" then some .base64url
  else if s = "hex" then some .hex
  else if s = "jwk" then some .jwk
  else none

/-- A key in a format. -/
def KeyFormat.render (f : KeyFormat) (key : MasterKey) : String :=
  match f with
  | base64url => key.toBase64
  | hex => key.toHex
  | jwk => key.toOctetKey.toJson

structure DeriveCommand where
  format : KeyFormat := .base64url
  key : KeySource := {}
  deriving DecidableEq, Repr

def DeriveCommand.run (c : DeriveCommand) (settings : Settings) (typed : Option String) :
    Except Error String :=
  (c.key.key settings typed).map c.format.render

end SealedToken

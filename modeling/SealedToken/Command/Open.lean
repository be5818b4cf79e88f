import SealedToken.Command.KeySource
import SealedToken.Opener

/-! # Opening a token

Prints what a token holds: its text, the signed token in its payload, or the
verified claims of that signed token. The token comes as an argument, in an
authorization value, or from standard input. -/

namespace SealedToken

/-- What is printed of an opened token. -/
inductive OpenMode where
  | text
  /-- The signed token, not verified. -/
  | claims
  /-- The claims of the signed token, verified with this lifetime or that of the settings. -/
  | verify (ttl : Option UInt32)
  deriving DecidableEq, Repr

namespace OpenMode

def isClaims : OpenMode → Bool
  | claims => true
  | _ => false

def isVerify : OpenMode → Bool
  | verify _ => true
  | _ => false

end OpenMode

structure OpenCommand where
  token : Option String := none
  authorization : Option String := none
  mode : OpenMode := .text
  key : KeySource := {}
  deriving DecidableEq, Repr

namespace OpenCommand

/-! ### The token -/

/-- Where the token is taken from. -/
inductive Carrier where
  | authorization (value : String)
  | argument (token : String)
  | input
  deriving DecidableEq, Repr

/-- An authorization value comes first; a single dash stands for standard input. -/
def carrier (c : OpenCommand) : Carrier :=
  match c.authorization with
  | some value => .authorization value
  | none =>
    match c.token with
    | some token => if token = "-" then .input else .argument token
    | none => .input

def readInput (input : Bytes) : Except Error String :=
  match Utf8.decode input with
  | .ok s => .ok s
  | .error _ => .error .tokenEncoding

/-- The token without blanks around it. -/
def readToken (c : OpenCommand) (input : Bytes) : Except Error String :=
  (match c.carrier with
    | .authorization value => Authorization.token (Blank.trim value)
    | .argument token => .ok token
    | .input => readInput input).map Blank.trim

/-! ### The output -/

def doneEvent (m : OpenMode) : Event :=
  ⟨.info, "unseal::cli::open", "Token opened",
    [("claims", .flag m.isClaims), ("verify", .flag m.isVerify)]⟩

/-- What a mode prints of a token. -/
def view (m : OpenMode) (o : Opener) (settings : Settings) (token : String) (now : Int) :
    Traced String :=
  match m with
  | .text => o.text token
  | .claims => do
    let p ← o.payload token
    return p.jws
  | .verify ttl => do
    let c ← o.verified token (ttl.getD settings.tokenLifetime) now
    return c.toJson

def run (c : OpenCommand) (settings : Settings) (typed : Option String) (input : Bytes)
    (now : Int) : Traced String := do
  let key ← Traced.silent (c.key.key settings typed)
  let token ← Traced.silent (c.readToken input)
  let output ← view c.mode (.ofMaster key) settings token now
  Traced.report (doneEvent c.mode)
  return output

end OpenCommand

end SealedToken

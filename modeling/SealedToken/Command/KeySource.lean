import SealedToken.Settings

/-! # Where the shared key comes from

A command may name the key by its password or by its digits; otherwise the
settings decide. A password typed at the terminal comes before all else. -/

namespace SealedToken

structure KeySource where
  password : Option String := none
  /-- The key in hexadecimal digits. -/
  hex : Option String := none
  /-- Whether the password is to be typed at the terminal. -/
  prompt : Bool := false
  deriving DecidableEq, Repr

namespace KeySource

/-- The key, where `typed` is the password typed at the terminal, if there is a terminal. -/
def key (k : KeySource) (settings : Settings) (typed : Option String) : Except Error MasterKey :=
  if k.prompt then
    match typed with
    | some password => .ok (.ofPassword password)
    | none => .error .noTerminal
  else
    match k.password with
    | some password => .ok (.ofPassword password)
    | none =>
      match k.hex with
      | some digits =>
        match MasterKey.ofHex? digits with
        | some key => .ok key
        | none => .error .hexKeyOption
      | none => settings.key

end KeySource

end SealedToken

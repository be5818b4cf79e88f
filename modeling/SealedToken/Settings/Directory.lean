import SealedToken.Settings

/-! # Where settings are kept

The directory of the settings file: given outright, or below the user's
configuration directory, or below the home directory. Empty variables count as
unset. -/

namespace SealedToken

/-- The path of a directory. -/
structure SettingsDirectory where
  path : String
  deriving DecidableEq, Repr

namespace SettingsDirectory

/-- A path with one more name behind a single slash. -/
def append (path name : String) : String :=
  if path = "" then name
  else if path.toList.getLast? = some '/' then path ++ name
  else path ++ "/" ++ name

/-- A variable's value, if it is not empty. -/
def nonempty (env : Environment) (name : String) : Option String :=
  (env name).filter (· ≠ "")

/-- The directory that the environment names. -/
def ofEnvironment (env : Environment) : Except Error SettingsDirectory :=
  match nonempty env "UNSEAL_CONFIG_DIR" with
  | some path => .ok ⟨path⟩
  | none =>
    match nonempty env "XDG_CONFIG_HOME" with
    | some path => .ok ⟨append path "unseal"⟩
    | none =>
      match nonempty env "HOME" with
      | some path => .ok ⟨append (append path ".config") "unseal"⟩
      | none => .error .noHomeDirectory

/-- The path of the settings file. -/
def file (d : SettingsDirectory) : String := append d.path "config.json"

end SettingsDirectory

end SealedToken

import SealedToken.Json.Record
import SealedToken.Key.Master
import SealedToken.Text.Unsigned

/-! # Settings

What the settings file may say, and what the environment replaces. Every
member of the file has a default, and a missing file is all defaults. A
password from the environment also replaces the stored digest, so that both
then stand for the same key. -/

namespace SealedToken

/-- Values of environment variables. -/
abbrev Environment := String → Option String

structure Settings where
  schemaVersion : UInt32
  masterPassword : Option String
  /-- Digest of the password in hexadecimal digits. -/
  masterHash : Option String
  /-- How many seconds a signed token stays fresh. -/
  tokenLifetime : UInt32
  logLevel : String
  jsonLogs : Bool
  deriving DecidableEq, Repr

/-- What is found where the settings file should be. -/
inductive SettingsFile where
  | absent
  | directory
  /-- A file that may not be read. -/
  | forbidden
  | content (b : Bytes)
  deriving DecidableEq, Repr

def SettingsFile.isPresent : SettingsFile → Bool
  | absent => false
  | _ => true

namespace Settings

def default : Settings := ⟨1, none, none, 10, "warn", false⟩

/-! ### The file -/

/-- Members read so far; a member may hold `null` where nothing is allowed. -/
structure Slots where
  schemaVersion : Option UInt32 := none
  masterPassword : Option (Option String) := none
  masterHash : Option (Option String) := none
  tokenLifetime : Option UInt32 := none
  logLevel : Option String := none
  jsonLogs : Option Bool := none

def layout : Json.Record Slots where
  name := "struct Settings"
  start := {}
  fields := [
    .of "schema_version" false Slots.schemaVersion
      (fun s v => { s with schemaVersion := some v }) Json.fieldWord,
    .of "master_password" false Slots.masterPassword
      (fun s v => { s with masterPassword := some v }) Json.fieldOptionalText,
    .of "master_password_md5_hash" false Slots.masterHash
      (fun s v => { s with masterHash := some v }) Json.fieldOptionalText,
    .of "registration_token_ttl_sec" false Slots.tokenLifetime
      (fun s v => { s with tokenLifetime := some v }) Json.fieldWord,
    .of "log_level" false Slots.logLevel
      (fun s v => { s with logLevel := some v }) Json.fieldText,
    .of "json_logs" false Slots.jsonLogs
      (fun s v => { s with jsonLogs := some v }) Json.fieldFlag]

/-- The members of a file, with defaults for those that are missing. -/
def ofSlots (s : Slots) : Settings where
  schemaVersion := s.schemaVersion.getD default.schemaVersion
  masterPassword := s.masterPassword.getD default.masterPassword
  masterHash := s.masterHash.getD default.masterHash
  tokenLifetime := s.tokenLifetime.getD default.tokenLifetime
  logLevel := s.logLevel.getD default.logLevel
  jsonLogs := s.jsonLogs.getD default.jsonLogs

def parse (text : Bytes) : Except Error Settings :=
  ((layout.parse text).map ofSlots).mapError .settingsSyntax

/-- The settings of a file; its content must be text before it can be JSON. -/
def load : SettingsFile → Except Error Settings
  | .absent => .ok default
  | .directory => .error .settingsIsDirectory
  | .forbidden => .error .settingsForbidden
  | .content b =>
    match Utf8.decode b with
    | .ok _ => parse b
    | .error _ => .error .settingsEncoding

/-! ### The environment -/

def passwordVariable : String := "MASTER_PASSWORD"

def lifetimeVariable : String := "REGISTRATION_TOKEN_TTL_SEC"

/-- A password from the environment, unless it is empty. -/
def overridePassword (env : Environment) (s : Settings) : Settings :=
  match (env passwordVariable).filter (· ≠ "") with
  | some password =>
    { s with
      masterPassword := some password
      masterHash := some (MasterKey.ofPassword password).toHex }
  | none => s

/-- A lifetime from the environment, unless it is no number. -/
def overrideLifetime (env : Environment) (s : Settings) : Settings :=
  match (env lifetimeVariable).bind (Unsigned.parse? ∘ Blank.trim) with
  | some ttl => { s with tokenLifetime := ttl }
  | none => s

def override (s : Settings) (env : Environment) : Settings :=
  overrideLifetime env (overridePassword env s)

/-! ### The key -/

/-- The key of the password, or of a digest that is not empty. -/
def key (s : Settings) : Except Error MasterKey :=
  match s.masterPassword with
  | some password => .ok (.ofPassword password)
  | none =>
    match s.masterHash.filter (· ≠ "") with
    | some hash =>
      match MasterKey.ofHex? hash with
      | some key => .ok key
      | none => .error .settingsHash
    | none => .error .noKeySource

def hasKeySource (s : Settings) : Bool :=
  s.masterPassword.isSome || (s.masterHash.filter (· ≠ "")).isSome

/-! ### Readable form -/

def flagText (b : Bool) : String := if b then "true" else "false"

/-- All members, of the secrets only whether they are there. -/
def describe (s : Settings) : String :=
  "Settings \x7b schema_version: " ++ toString s.schemaVersion.toNat ++
    ", has_master_password: " ++ flagText s.masterPassword.isSome ++
    ", has_master_password_md5_hash: " ++ flagText s.masterHash.isSome ++
    ", registration_token_ttl_sec: " ++ toString s.tokenLifetime.toNat ++
    ", log_level: " ++ Quoted.quote s.logLevel ++
    ", json_logs: " ++ flagText s.jsonLogs ++ " \x7d"

end Settings

end SealedToken

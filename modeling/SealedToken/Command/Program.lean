import SealedToken.Command.Invocation
import SealedToken.Log.Filter
import SealedToken.Settings.Directory

/-! # The program

A run as a function: from the arguments and everything the program can read to
everything it writes. Either the whole output of the command is written, or
none of it and the first failure instead. -/

namespace SealedToken

/-- Everything that a run can read besides its arguments. -/
structure Surroundings where
  environment : Environment
  /-- What lies at a path. -/
  file : String → SettingsFile
  /-- The password typed at the terminal, if there is one. -/
  typed : Option String
  /-- Standard input. -/
  input : Bytes
  random : RandomStream
  /-- Seconds since the epoch. -/
  now : Int

/-- Everything that a run writes. -/
structure Outcome where
  code : Nat
  stdout : String
  /-- The events that are shown, in order. -/
  log : List Event
  /-- Whether they are shown as JSON. -/
  jsonLogs : Bool
  /-- Lines that go to standard error ahead of the log. -/
  notices : List String
  /-- What goes to standard error behind the log. -/
  stderr : String

/-! ### Before the command -/

/-- What is known once the settings are loaded. -/
structure Session where
  directory : SettingsDirectory
  file : SettingsFile
  settings : Settings
  filter : LogFilter
  /-- What is said about the filter's malformed rules. -/
  notices : List String
  jsonLogs : Bool

namespace Session

/-- The filter of the environment if it is well formed, else the well-formed
part of that of the option or of the settings, with what is said of the rest. -/
def chooseFilter (env : Environment) (level : String) : LogFilter × List String :=
  match (env "RUST_LOG").bind LogFilter.strict? with
  | some f => (f, [])
  | none => (LogFilter.lenient level, LogFilter.complaints level)

def directory? (i : Invocation) (w : Surroundings) : Except Error SettingsDirectory :=
  match i.directory with
  | some path => .ok ⟨path⟩
  | none => SettingsDirectory.ofEnvironment w.environment

def start (i : Invocation) (w : Surroundings) : Except Error Session := do
  let directory ← directory? i w
  let file := w.file directory.file
  let loaded ← Settings.load file
  let settings := loaded.override w.environment
  let (filter, notices) := chooseFilter w.environment (i.logLevel.getD settings.logLevel)
  return {
    directory := directory
    file := file
    settings := settings
    filter := filter
    notices := notices
    jsonLogs := i.jsonLogs || settings.jsonLogs }

def loadedEvent (s : Session) : Event :=
  ⟨.debug, "unseal", "Settings loaded", [("config", .text s.directory.file)]⟩

/-- Paths and settings, without secrets. -/
def summary (s : Session) : String :=
  "\n".intercalate [
    "unseal Configuration",
    "====================",
    "Config directory: " ++ s.directory.path,
    "Settings file:    " ++ s.directory.file,
    "Initialized:      " ++ Settings.flagText s.file.isPresent,
    "",
    "Settings:",
    "  Log level:       " ++ s.settings.logLevel,
    "  JSON logs:       " ++ Settings.flagText s.settings.jsonLogs,
    "  Token TTL:       " ++ toString s.settings.tokenLifetime.toNat ++ "s",
    "  Key configured:  " ++ Settings.flagText s.settings.hasKeySource]

end Session

/-! ### The command -/

namespace Command

/-- The output of a command, without its last newline. -/
def run (c : Command) (s : Session) (w : Surroundings) : Traced String :=
  match c with
  | openToken c => c.run s.settings w.typed w.input w.now
  | deriveKey c => Traced.silent (c.run s.settings w.typed)
  | sealText c =>
    Traced.silent ((c.run s.settings w.typed w.input w.random).map Sealed.token)
  | showSettings => Traced.silent (.ok s.summary)

/-- The key source of a command that has one. -/
def keySource? : Command → Option KeySource
  | openToken c => some c.key
  | deriveKey c => some c.key
  | sealText c => some c.key
  | showSettings => none

/-- Whether a command gets as far as reading standard input. -/
def readsInput (c : Command) (s : Session) (typed : Option String) : Bool :=
  match c with
  | openToken c => c.carrier = .input && (c.key.key s.settings typed).toBool
  | sealText c =>
    c.text.isNone && (KeyManagement.parse c.alg).toBool &&
      (ContentEncryption.parse c.enc).toBool && (c.key.key s.settings typed).toBool
  | _ => false

end Command

/-! ### The run -/

namespace Outcome

/-- A run that ended before anything was logged. -/
def plain (code : Nat) (stdout stderr : String) : Outcome := ⟨code, stdout, [], false, [], stderr⟩

def failureText (e : Error) : String := "Error: " ++ e.message ++ "\n"

def versionText : String := "unseal 0.1.0\n"

def usageText : String :=
  "Usage: unseal [--config-dir DIR] [--log-level LEVEL] [--json-logs] COMMAND\n" ++
  "\n" ++
  "Commands:\n" ++
  "  open    Decrypt a token and print its payload\n" ++
  "  derive  Print the key derived from the master password\n" ++
  "  seal    Seal a payload into a token\n" ++
  "  config  Show current configuration and paths\n"

def ofStop : Stop → Outcome
  | .usage => plain 2 "" usageText
  | .help => plain 0 usageText ""
  | .version => plain 0 versionText ""

end Outcome

/-- A run whose command line asks for a command. -/
def Invocation.run (i : Invocation) (w : Surroundings) : Outcome :=
  match Session.start i w with
  | .error e => .plain 1 "" (Outcome.failureText e)
  | .ok s =>
    let t := (Traced.report s.loadedEvent).andThen fun _ => i.command.run s w
    let log := t.events.filter s.filter.shows
    match t.result with
    | .ok output => ⟨0, output ++ "\n", log, s.jsonLogs, s.notices, ""⟩
    | .error e => ⟨1, "", log, s.jsonLogs, s.notices, Outcome.failureText e⟩

/-- A run with these arguments, the program's name not among them. -/
def run (args : List String) (w : Surroundings) : Outcome :=
  match Invocation.parse args with
  | .error stop => .ofStop stop
  | .ok i => i.run w

end SealedToken

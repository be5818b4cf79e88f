import SealedToken.Command.Program
import SealedToken.Log.Clock
import SealedToken.Log.Line
import Std.Time.DateTime.Timestamp

/-! # The executable

Gathers what a run can read, runs it, and writes what it gives. -/

namespace SealedToken.Executable

/-- The variables that the program looks at. -/
def variableNames : List String :=
  ["UNSEAL_CONFIG_DIR", "XDG_CONFIG_HOME", "HOME", "MASTER_PASSWORD",
    "REGISTRATION_TOKEN_TTL_SEC", "RUST_LOG"]

def environment : IO Environment := do
  let mut values : List (String × String) := []
  for name in variableNames do
    if let some value ← IO.getEnv name then values := (name, value) :: values
  let found := values
  return fun name => found.lookup name

/-- What lies at a path. -/
def readFile (path : String) : IO SettingsFile := do
  try
    let content ← IO.FS.readBinFile path
    return .content content.toList
  catch e =>
    match e with
    | .noFileOrDirectory .. => return .absent
    | .permissionDenied .. => return .forbidden
    | _ => return .directory

/-- All of standard input. -/
partial def readAll (h : IO.FS.Stream) (sofar : ByteArray) : IO ByteArray := do
  let chunk ← h.read 65536
  if chunk.isEmpty then return sofar else readAll h (sofar ++ chunk)

/-- A line typed at the terminal. -/
def readTyped : IO (Option String) := do
  try
    let terminal ← IO.FS.Handle.mk "/dev/tty" .readWrite
    terminal.putStr "Master password: "
    terminal.flush
    let line ← terminal.getLine
    return some (String.ofList (line.toList.filter fun c => c ≠ '\n' && c ≠ '\r'))
  catch _ => return none

def randomStream : IO RandomStream := do
  let bytes := (← IO.getRandomBytes 64).toList
  return fun i => bytes.getD i 0

/-- Seconds since the epoch, and microseconds beyond them. -/
def clock : IO (Nat × Nat) := do
  let nanos := (← Std.Time.Timestamp.now).toNanosecondsSinceUnixEpoch.toInt.toNat
  return (nanos / 1000000000, nanos / 1000 % 1000000)

/-- Writes the notices, the log, the output and the failure of a run. -/
def emit (o : Outcome) : IO UInt32 := do
  for notice in o.notices do IO.eprintln notice
  let (seconds, micros) ← clock
  let time := Clock.text seconds micros
  for e in o.log do
    IO.eprintln (if o.jsonLogs then e.timedJsonLine time else e.timedLine time)
  IO.print o.stdout
  (← IO.getStdout).flush
  IO.eprint o.stderr
  return UInt32.ofNat o.code

/-- What an invocation can read; standard input only if it gets that far. -/
def surroundings (i : Invocation) : IO Surroundings := do
  let (seconds, _) ← clock
  let environment ← environment
  let random ← randomStream
  let bare : Surroundings :=
    ⟨environment, fun _ => .absent, none, [], random, seconds⟩
  match Session.directory? i bare with
  | .error _ => return bare
  | .ok directory =>
    let file ← readFile directory.file
    let known : Surroundings := { bare with file := fun _ => file }
    match Session.start i known with
    | .error _ => return known
    | .ok session =>
      let asks := (i.command.keySource?.map (·.prompt)).getD false
      let typed ← if asks then readTyped else pure none
      let input ←
        if i.command.readsInput session typed then readAll (← IO.getStdin) ByteArray.empty
        else pure ByteArray.empty
      return { known with typed := typed, input := input.toList }

end SealedToken.Executable

def main (args : List String) : IO UInt32 := do
  match SealedToken.Invocation.parse args with
  | .error stop => SealedToken.Executable.emit (.ofStop stop)
  | .ok i => SealedToken.Executable.emit (i.run (← SealedToken.Executable.surroundings i))

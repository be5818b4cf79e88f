import SealedToken.Command.Arguments
import SealedToken.Command.Derive
import SealedToken.Command.Open
import SealedToken.Command.Seal

/-! # Invocations

What a command line asks for: one of four commands, and where the settings and
the logs are. Options that concern the whole program may stand before or
behind the command; behind it they count more. -/

namespace SealedToken

inductive Command where
  | openToken (c : OpenCommand)
  | deriveKey (c : DeriveCommand)
  | sealText (c : SealCommand)
  | showSettings
  deriving DecidableEq, Repr

structure Invocation where
  directory : Option String
  logLevel : Option String
  jsonLogs : Bool
  command : Command
  deriving DecidableEq, Repr

namespace Invocation

/-! ### Options -/

def anyText : String → Bool := fun _ => true

def flag (long : String) : OptionSpec := ⟨long, none, none⟩

def valued (long : String) : OptionSpec := ⟨long, none, some anyText⟩

def helpFlag : OptionSpec := ⟨"help", some 'h', none⟩

/-- Options of the whole program. -/
def common : List OptionSpec :=
  [⟨"config-dir", none, some (· ≠ "")⟩, valued "log-level", flag "json-logs", helpFlag]

/-- Options of all commands that need the key. -/
def keyOptions : List OptionSpec :=
  [⟨"password", some 'p', some anyText⟩, valued "key-hex", flag "prompt"]

/-- Seconds: an unsigned number, or zero with a minus sign. -/
def seconds? (s : String) : Option UInt32 :=
  match s.toList with
  | '-' :: cs => if cs ≠ [] ∧ cs.all (· = '0') then some 0 else none
  | _ => Unsigned.parse? s

def first : Grammar where
  options := ⟨"version", some 'V', none⟩ :: common
  words := 0
  commands := ["open", "derive", "seal", "config", "help"]

/-- The level behind a command. -/
def second (options : List OptionSpec) (words : Nat) : Grammar := ⟨options ++ common, words, []⟩

def openGrammar : Grammar :=
  second (valued "authorization" :: flag "claims" :: flag "verify" ::
    ⟨"ttl", none, some fun s => (seconds? s).isSome⟩ :: keyOptions) 1

def deriveGrammar : Grammar :=
  second (⟨"format", some 'f', some fun s => (KeyFormat.ofName? s).isSome⟩ :: keyOptions) 0

def sealGrammar : Grammar := second (valued "alg" :: valued "enc" :: keyOptions) 1

def configGrammar : Grammar := second [] 0

/-! ### Commands -/

def keySource (g : Given) : KeySource := ⟨g.value? "password", g.value? "key-hex", g.has "prompt"⟩

/-- An authorization value excludes a token, claims exclude verification, and a
lifetime needs verification unless claims exclude it. -/
def openCommand (g : Given) : Except Stop OpenCommand :=
  if g.has "authorization" ∧ g.words ≠ [] then .error .usage
  else if g.has "verify" ∧ g.has "claims" then .error .usage
  else if g.has "ttl" ∧ ¬g.has "verify" ∧ ¬g.has "claims" then .error .usage
  else
    let mode :=
      if g.has "verify" then .verify ((g.value? "ttl").bind seconds?)
      else if g.has "claims" then .claims
      else .text
    .ok ⟨g.words.head?, g.value? "authorization", mode, keySource g⟩

def deriveCommand (g : Given) : DeriveCommand :=
  ⟨((g.value? "format").bind KeyFormat.ofName?).getD .base64url, keySource g⟩

def sealCommand (g : Given) : SealCommand :=
  ⟨g.words.head?, (g.value? "alg").getD "dir", (g.value? "enc").getD "A128GCM", keySource g⟩

/-- The command of a name, with what its level was given. -/
def readCommand (name : String) (args : List String) : Except Stop (Command × Given) := do
  if name = "open" then
    let (g, _) ← openGrammar.read {} none false args
    return (.openToken (← openCommand g), g)
  else if name = "derive" then
    let (g, _) ← deriveGrammar.read {} none false args
    return (.deriveKey (deriveCommand g), g)
  else if name = "seal" then
    let (g, _) ← sealGrammar.read {} none false args
    return (.sealText (sealCommand g), g)
  else
    let (g, _) ← configGrammar.read {} none false args
    return (.showSettings, g)

/-- Help is asked for by a command of its own, for the program or one command. -/
def helpRequest (args : List String) : Stop :=
  match args with
  | [] => .help
  | [name] => if name ∈ first.commands then .help else .usage
  | _ => .usage

def parse (args : List String) : Except Stop Invocation := do
  match ← first.read {} none false args with
  | (_, none) => throw .usage
  | (before, some (name, rest)) =>
    if name = "help" then throw (helpRequest rest)
    let (command, behind) ← readCommand name rest
    return {
      directory := (behind.value? "config-dir").or (before.value? "config-dir")
      logLevel := (behind.value? "log-level").or (before.value? "log-level")
      jsonLogs := behind.has "json-logs" || before.has "json-logs"
      command := command }

end Invocation

end SealedToken

/-! # Command-line arguments

A command line is read level by level: options, plain words, and at the first
level the name of a command, behind which the second level starts. Options are
given once a level, as `--name value`, `--name=value`, `-n value`, `-nvalue` or
`-n=value`; a double dash ends them. A value that is an argument of its own
must not start with a dash, except for the single dash. -/

namespace SealedToken

/-! ### What a level takes -/

structure OptionSpec where
  long : String
  short : Option Char := none
  /-- Which values are taken; nothing for a flag. -/
  value : Option (String → Bool) := none

structure Grammar where
  options : List OptionSpec
  /-- How many plain words there may be. -/
  words : Nat
  commands : List String

namespace Grammar

def long? (g : Grammar) (name : String) : Option OptionSpec := g.options.find? (·.long = name)

def short? (g : Grammar) (c : Char) : Option OptionSpec := g.options.find? (·.short = some c)

end Grammar

/-- Why a command line leads to no command. -/
inductive Stop where
  | usage
  | help
  | version
  deriving DecidableEq, Repr

/-! ### What a level was given -/

structure Given where
  /-- Options with their values, empty for flags. -/
  options : List (String × String) := []
  words : List String := []
  deriving DecidableEq, Repr

namespace Given

def value? (g : Given) (name : String) : Option String := g.options.lookup name

def has (g : Given) (name : String) : Bool := (g.value? name).isSome

/-- Adds an option that was not given yet. -/
def add (g : Given) (name value : String) : Except Stop Given :=
  if g.has name then .error .usage else .ok { g with options := g.options ++ [(name, value)] }

/-- Adds an option with a value that it takes. -/
def addValue (g : Given) (o : OptionSpec) (value : String) : Except Stop Given :=
  match o.value with
  | some takes => if takes value then g.add o.long value else .error .usage
  | none => .error .usage

/-- Adds a flag; two of them stop at once. -/
def addFlag (g : Given) (o : OptionSpec) : Except Stop Given :=
  if o.long = "help" then .error .help
  else if o.long = "version" then .error .version
  else g.add o.long ""

def addWord (g : Given) (grammar : Grammar) (w : String) : Except Stop Given :=
  if g.words.length < grammar.words then .ok { g with words := g.words ++ [w] }
  else .error .usage

end Given

/-! ### Reading a level -/

/-- What is known so far, and the option whose value is the next argument. -/
abbrev Progress := Given × Option OptionSpec

namespace Grammar

/-- An argument behind its double dash. -/
def readLong (grammar : Grammar) (g : Given) (cs : List Char) : Except Stop Progress :=
  match grammar.long? (String.ofList (cs.takeWhile (· ≠ '='))) with
  | none => .error .usage
  | some o =>
    match cs.dropWhile (· ≠ '=') with
    | _ :: value => (g.addValue o (String.ofList value)).map (·, none)
    | [] => if o.value.isSome then .ok (g, some o) else (g.addFlag o).map (·, none)

/-- Letters behind a single dash; the first one with a value takes the rest. -/
def readShort (grammar : Grammar) (g : Given) : List Char → Except Stop Progress
  | [] => .ok (g, none)
  | c :: cs =>
    match grammar.short? c with
    | none => .error .usage
    | some o =>
      if o.value.isSome then
        match cs with
        | [] => .ok (g, some o)
        | d :: ds =>
          (g.addValue o (String.ofList (if d = '=' then ds else d :: ds))).map (·, none)
      else
        match g.addFlag o with
        | .ok g => grammar.readShort g cs
        | .error stop => .error stop

/-- Whether an argument is an option by its form. -/
def looksLikeOption : List Char → Bool
  | '-' :: _ :: _ => true
  | _ => false

/-- Reads arguments up to the name of a command: what was given, and the
command with the arguments behind it. -/
def read (grammar : Grammar) (g : Given) (pending : Option OptionSpec) (plain : Bool) :
    List String → Except Stop (Given × Option (String × List String))
  | [] => if pending.isSome then .error .usage else .ok (g, none)
  | a :: rest =>
    match pending with
    | some o =>
      if looksLikeOption a.toList then .error .usage
      else
        match g.addValue o a with
        | .ok g => grammar.read g none plain rest
        | .error stop => .error stop
    | none =>
      if ¬plain ∧ a ∈ grammar.commands then .ok (g, some (a, rest))
      else if ¬plain ∧ a = "--" then grammar.read g none true rest
      else if ¬plain ∧ looksLikeOption a.toList then
        match a.toList with
        | '-' :: '-' :: cs =>
          match grammar.readLong g cs with
          | .ok (g, pending) => grammar.read g pending plain rest
          | .error stop => .error stop
        | _ :: cs =>
          match grammar.readShort g cs with
          | .ok (g, pending) => grammar.read g pending plain rest
          | .error stop => .error stop
        | [] => .error .usage
      else
        match g.addWord grammar a with
        | .ok g => grammar.read g none plain rest
        | .error stop => .error stop

end Grammar

end SealedToken

import SealedToken.Json.Writer
import SealedToken.Log.Event

/-! # Log lines

An event as one line, plain or as a JSON object. The time is left to the
caller: a plain line begins with it, a JSON line has it as its first member. -/

namespace SealedToken.Event

def plainDatum : Datum → String
  | .text s => s
  | .count n => toString n
  | .flag b => if b then "true" else "false"

def leaf : Datum → Json.Leaf
  | .text s => .text s
  | .count n => .integer n
  | .flag b => .flag b

/-- The message and the data behind it. -/
def plainText (e : Event) : String :=
  e.data.foldl (fun line kv => line ++ " " ++ kv.1 ++ "=" ++ plainDatum kv.2) e.message

/-- Level and text. -/
def plainLine (e : Event) : String := e.level.name ++ " " ++ e.plainText

/-- The level in five columns, between the time and the text. -/
def timedLine (time : String) (e : Event) : String :=
  let level := e.level.name
  time ++ " " ++ String.ofList (List.replicate (5 - level.length) ' ') ++ e.plainLine

/-- The members of a JSON line, without the time. -/
def members (e : Event) : List (String × Json.Leaf) :=
  [("level", .text e.level.name),
    ("fields", .object (("message", .text e.message) :: e.data.map fun kv => (kv.1, leaf kv.2))),
    ("target", .text e.target)]

def jsonLine (e : Event) : String := Json.written e.members

def timedJsonLine (time : String) (e : Event) : String :=
  Json.written (("timestamp", .text time) :: e.members)

end SealedToken.Event

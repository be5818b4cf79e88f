import SealedToken.Bytes
import SealedToken.Json.Number
import SealedToken.Text.Quoted

/-! # Faults of a JSON text

Why a text was refused, and where. A fault keeps how many bytes were left when
it was seen; line and column are worked out from the whole text at the end. -/

namespace SealedToken.Json

/-! ### Causes -/

/-- What stood where something else was wanted. -/
inductive Found where
  | null
  | flag (b : Bool)
  | number (n : Number)
  | text (s : String)
  | list
  | object
  deriving DecidableEq, Repr

def Found.describe : Found → String
  | null => "null"
  | flag b => "boolean `" ++ (if b then "true" else "false") ++ "`"
  | number (.binary x) => "floating point `" ++ Shortest.text x ++ "`"
  | number n => "integer `" ++ n.text ++ "`"
  | text s => "string " ++ Quoted.quote s
  | list => "sequence"
  | object => "map"

inductive Cause where
  /-- The text ends where a value is due. -/
  | endOfValue
  | endOfList
  | endOfObject
  | endOfString
  /-- No value starts like this. -/
  | noValue
  /-- A word other than the three literals. -/
  | noLiteral
  | malformedNumber
  | infiniteNumber
  | controlCharacter
  | malformedEscape
  /-- Half of a surrogate pair. -/
  | loneSurrogate
  /-- No second escape after the first half of a surrogate pair. -/
  | missingSurrogate
  /-- A string whose bytes, the last `excess` ones included, are no characters. -/
  | malformedCharacter (excess : Nat)
  | noCommaInList
  | noCommaInObject
  | commaBeforeEnd
  | noColon
  | noKey
  | afterValue
  | nestedTooDeep
  /-- A value of another kind than the one `wanted`. -/
  | wrongKind (found : Found) (wanted : String)
  /-- An integer that does not fit. -/
  | outOfRange (n : Number) (wanted : String)
  | missingMember (name : String)
  | repeatedMember (name : String)
  /-- A list that is too short for the record it stands for. -/
  | wrongLength (n : Nat) (wanted : String)
  deriving DecidableEq, Repr

def Cause.describe : Cause → String
  | endOfValue => "EOF while parsing a value"
  | endOfList => "EOF while parsing a list"
  | endOfObject => "EOF while parsing an object"
  | endOfString => "EOF while parsing a string"
  | noValue => "expected value"
  | noLiteral => "expected ident"
  | malformedNumber => "invalid number"
  | infiniteNumber => "number out of range"
  | controlCharacter => "control character (\\u0000-\\u001F) found while parsing a string"
  | malformedEscape => "invalid escape"
  | loneSurrogate => "lone leading surrogate in hex escape"
  | missingSurrogate => "unexpected end of hex escape"
  | malformedCharacter _ => "invalid unicode code point"
  | noCommaInList => "expected `,` or `]`"
  | noCommaInObject => "expected `,` or `\x7d`"
  | commaBeforeEnd => "trailing comma"
  | noColon => "expected `:`"
  | noKey => "key must be a string"
  | afterValue => "trailing characters"
  | nestedTooDeep => "recursion limit exceeded"
  | wrongKind found wanted => "invalid type: " ++ found.describe ++ ", expected " ++ wanted
  | outOfRange n wanted => "invalid value: integer `" ++ n.text ++ "`, expected " ++ wanted
  | missingMember name => "missing field `" ++ name ++ "`"
  | repeatedMember name => "duplicate field `" ++ name ++ "`"
  | wrongLength n wanted => "invalid length " ++ toString n ++ ", expected " ++ wanted

/-- How many columns the place lies before the bytes read so far end. -/
def Cause.excess : Cause → Nat
  | malformedCharacter excess => excess
  | _ => 0

/-! ### Places -/

structure Fault where
  cause : Cause
  /-- How many bytes of the text lie behind the place. -/
  left : Nat
  deriving DecidableEq, Repr

/-- A fault right before the bytes that are left. -/
def Fault.before (cause : Cause) (rest : Bytes) : Fault := ⟨cause, rest.length⟩

/-- A fault at the next byte, which counts as read if there is one. -/
def Fault.at (cause : Cause) (rest : Bytes) : Fault := ⟨cause, rest.length - 1⟩

def newline : Byte := 0x0A

/-- The line in which a beginning of a text ends, counted from one. -/
def line (read : Bytes) : Nat := 1 + read.count newline

/-- The number of bytes behind the last newline of a beginning of a text. -/
def column (read : Bytes) : Nat := (read.reverse.takeWhile (· != newline)).length

/-- A fault with its place in the text. -/
structure Refusal where
  cause : Cause
  line : Nat
  column : Nat
  deriving DecidableEq, Repr

/-- Works out the place of a fault in a text. -/
def Fault.locate (text : Bytes) (f : Fault) : Refusal :=
  let read := text.take (text.length - f.left)
  ⟨f.cause, line read, column read - f.cause.excess⟩

def Refusal.message (r : Refusal) : String :=
  r.cause.describe ++ " at line " ++ toString r.line ++ " column " ++ toString r.column

/-- What a reader gives: a value and the bytes behind it. -/
abbrev Reading (α : Type) := Except Fault (α × Bytes)

end SealedToken.Json

import SealedToken.Text.Hex

/-! # Writing JSON

Objects of strings, integers and truth values, without blanks. Inside a string
only the quote mark, the backslash and the control characters are escaped. -/

namespace SealedToken.Json

/-- One character of a string. -/
def escape (c : Char) : List Char :=
  if c = '\"' then ['\\', '\"']
  else if c = '\\' then ['\\', '\\']
  else if c.toNat = 8 then ['\\', 'b']
  else if c.toNat = 9 then ['\\', 't']
  else if c.toNat = 10 then ['\\', 'n']
  else if c.toNat = 12 then ['\\', 'f']
  else if c.toNat = 13 then ['\\', 'r']
  else if c.toNat < 32 then
    ['\\', 'u', '0', '0', Hex.digit (c.toNat / 16), Hex.digit (c.toNat % 16)]
  else [c]

def quoted (s : String) : List Char := '\"' :: s.toList.flatMap escape ++ ['\"']

/-- What a written member may hold. -/
inductive Leaf where
  | text (s : String)
  | integer (v : Int)
  | flag (b : Bool)
  | object (ms : List (String × Leaf))
  deriving Repr

mutual

def Leaf.chars : Leaf → List Char
  | text s => quoted s
  | integer v => (toString v).toList
  | flag b => (if b then "true" else "false").toList
  | object ms => '\x7b' :: Leaf.memberChars true ms ++ ['\x7d']

/-- Members behind a comma, which the first one goes without. -/
def Leaf.memberChars : Bool → List (String × Leaf) → List Char
  | _, [] => []
  | first, (k, v) :: ms =>
    (if first then [] else [',']) ++ quoted k ++ ':' :: v.chars ++ Leaf.memberChars false ms

end

/-- The text of an object. -/
def written (ms : List (String × Leaf)) : String := String.ofList (Leaf.object ms).chars

end SealedToken.Json

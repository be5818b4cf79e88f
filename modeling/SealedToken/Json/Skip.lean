import SealedToken.Json.Value

/-! # Skipping a value

Members that nobody asked for are passed over without being built. The
scanner keeps the open brackets on a stack, so nesting is not limited; it
looks at the form of strings and numbers only, so bytes that spell no
character, half surrogate pairs and infinite numbers all pass. -/

namespace SealedToken.Json

/-! ### Scalars -/

/-- Passes over a string behind its quote mark. -/
def skipString : Bytes → Except Fault Bytes
  | [] => .error (.before .endOfString [])
  | b :: s =>
    if b = quoteMark then .ok s
    else if b = backslash then
      match s with
      | [] => .error (.before .endOfString [])
      | e :: s =>
        if e = letterU then
          match s with
          | h1 :: h2 :: h3 :: h4 :: s =>
            match hexWord? h1 h2 h3 h4 with
            | none => .error (.before .malformedEscape s)
            | some _ => skipString s
          | _ => .error (.before .endOfString [])
        else
          match escaped? e with
          | some _ => skipString s
          | none => .error (.before .malformedEscape s)
    else if b < 0x20 then .error (.before .controlCharacter (b :: s))
    else skipString s

/-- At least one digit of an exponent, behind an optional sign. -/
def skipExponent (s : Bytes) : Except Fault Bytes :=
  let s :=
    match s with
    | b :: r => if b = minus ∨ b = plus then r else b :: r
    | [] => []
  match s with
  | [] => .error (.before .malformedNumber [])
  | b :: s => if isDigit b then .ok (s.dropWhile isDigit) else .error (.before .malformedNumber s)

/-- What may follow the digits of a number. -/
def skipMark (s : Bytes) : Except Fault Bytes :=
  match s with
  | [] => .ok []
  | b :: s => if isExponentMark b then skipExponent s else .ok (b :: s)

/-- At least one digit behind the point. -/
def skipFraction (s : Bytes) : Except Fault Bytes :=
  match s with
  | [] => .error (.at .malformedNumber [])
  | b :: s =>
    if isDigit b then skipMark (s.dropWhile isDigit) else .error (.at .malformedNumber (b :: s))

/-- What may follow the whole part of a number. -/
def skipAfterWhole (s : Bytes) : Except Fault Bytes :=
  match s with
  | [] => .ok []
  | b :: s => if b = point then skipFraction s else skipMark (b :: s)

/-- Passes over a number behind its sign. -/
def skipUnsigned : Bytes → Except Fault Bytes
  | [] => .error (.before .malformedNumber [])
  | b :: s =>
    if b = 0x30 then
      match s with
      | d :: r =>
        if isDigit d then .error (.at .malformedNumber (d :: r)) else skipAfterWhole (d :: r)
      | [] => .ok []
    else if isDigit b then skipAfterWhole (s.dropWhile isDigit)
    else .error (.before .malformedNumber s)

def skipNumber : Bytes → Except Fault Bytes
  | [] => .error (.before .malformedNumber [])
  | b :: s => if b = minus then skipUnsigned s else skipUnsigned (b :: s)

/-! ### Brackets -/

inductive Bracket where
  | list
  | object
  deriving DecidableEq, Repr

def Bracket.closing : Bracket → Byte
  | list => closeList
  | object => closeObject

/-- The text ends inside the bracket. -/
def Bracket.ended : Bracket → Cause
  | list => .endOfList
  | object => .endOfObject

/-- Neither a comma nor the closing bracket follows an entry. -/
def Bracket.noComma : Bracket → Cause
  | list => .noCommaInList
  | object => .noCommaInObject

/-- Passes over the key of the next entry, if the bracket has keys. -/
def Bracket.skipKey (b : Bracket) (s : Bytes) : Except Fault Bytes :=
  match b with
  | list => .ok s
  | object =>
    match skipBlanks s with
    | [] => .error (.before .endOfObject [])
    | q :: s =>
      if q = quoteMark then do afterKey (← skipString s) else .error (.at .noKey (q :: s))

/-! ### The scanner -/

/-- What the scanner looks for next. -/
inductive Due where
  /-- A value. -/
  | value
  /-- The first entry of the innermost bracket, or its end. -/
  | entry
  /-- A comma or the end of the innermost bracket. -/
  | comma
  deriving DecidableEq, Repr

/-- Passes over what is due inside the open brackets, innermost first; every
step but one kind takes a byte, and `fuel` bounds their number. -/
def skip : Nat → Due → List Bracket → Bytes → Except Fault Bytes
  | 0, _, _, s => .error (.before .endOfValue s)
  | fuel + 1, .value, stack, s =>
    match skipBlanks s with
    | [] => .error (.before .endOfValue [])
    | b :: s =>
      if b = 0x6E then do skip fuel .comma stack (← word wordNull (b :: s))
      else if b = 0x74 then do skip fuel .comma stack (← word wordTrue (b :: s))
      else if b = 0x66 then do skip fuel .comma stack (← word wordFalse (b :: s))
      else if startsNumber b then do skip fuel .comma stack (← skipNumber (b :: s))
      else if b = quoteMark then do skip fuel .comma stack (← skipString s)
      else if b = openList then skip fuel .entry (.list :: stack) s
      else if b = openObject then skip fuel .entry (.object :: stack) s
      else .error (.at .noValue (b :: s))
  | _ + 1, .entry, [], s => .ok s
  | fuel + 1, .entry, bracket :: stack, s =>
    match skipBlanks s with
    | [] => .error (.before bracket.ended [])
    | b :: s =>
      if b = bracket.closing then skip fuel .comma stack s
      else do skip fuel .value (bracket :: stack) (← bracket.skipKey (b :: s))
  | _ + 1, .comma, [], s => .ok s
  | fuel + 1, .comma, bracket :: stack, s =>
    match skipBlanks s with
    | [] => .error (.before bracket.ended [])
    | b :: s =>
      if b = bracket.closing then skip fuel .comma stack s
      else if b = comma then do skip fuel .value (bracket :: stack) (← bracket.skipKey s)
      else .error (.at bracket.noComma (b :: s))

/-- The bytes behind a value. -/
def skipValue (s : Bytes) : Except Fault Bytes := skip (2 * s.length + 2) .value [] s

end SealedToken.Json

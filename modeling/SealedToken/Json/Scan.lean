import SealedToken.Json.Fault

/-! # Pieces of a JSON text

Blanks, punctuation, literals and numbers. Every reader takes the bytes that
are left and gives the bytes behind what it read. -/

namespace SealedToken.Json

/-! ### Bytes with a meaning -/

def quoteMark : Byte := 0x22
def backslash : Byte := 0x5C
def comma : Byte := 0x2C
def colon : Byte := 0x3A
def minus : Byte := 0x2D
def plus : Byte := 0x2B
def point : Byte := 0x2E
def openList : Byte := 0x5B
def closeList : Byte := 0x5D
def openObject : Byte := 0x7B
def closeObject : Byte := 0x7D

/-- Space, tab, line feed and carriage return. -/
def isBlank (b : Byte) : Bool := b = 0x20 || b = 0x09 || b = newline || b = 0x0D

def isDigit (b : Byte) : Bool := 0x30 ≤ b && b ≤ 0x39

def digitValue (b : Byte) : Nat := b.toNat - 48

def isExponentMark (b : Byte) : Bool := b = 0x65 || b = 0x45

def skipBlanks (s : Bytes) : Bytes := s.dropWhile isBlank

theorem skipBlanks_length_le (s : Bytes) : (skipBlanks s).length ≤ s.length :=
  (List.dropWhile_sublist isBlank).length_le

/-! ### Literals -/

/-- Takes the letters of a word one by one, a wrong one included. -/
def word : Bytes → Bytes → Except Fault Bytes
  | [], s => .ok s
  | _ :: _, [] => .error (.before .endOfValue [])
  | w :: ws, b :: s => if b = w then word ws s else .error (.before .noLiteral s)

def wordNull : Bytes := [0x6E, 0x75, 0x6C, 0x6C]

def wordTrue : Bytes := [0x74, 0x72, 0x75, 0x65]

def wordFalse : Bytes := [0x66, 0x61, 0x6C, 0x73, 0x65]

/-! ### Numbers -/

/-- Significands are kept below this bound. -/
def significandLimit : Nat := 0x10000000000000000

/-- Exponents are kept below this bound. -/
def exponentLimit : Nat := 0x80000000

/-- Digits before the point, behind the significand read so far: the
significand, how many digits found no room in it, and the rest. -/
def wholePart (significand : Nat) : Bytes → Nat × Nat × Bytes
  | [] => (significand, 0, [])
  | b :: s =>
    if isDigit b then
      if significand * 10 + digitValue b < significandLimit then
        wholePart (significand * 10 + digitValue b) s
      else (significand, (s.takeWhile isDigit).length + 1, s.dropWhile isDigit)
    else (significand, 0, b :: s)

/-- Digits behind the point: the significand, how many digits went into it,
and the rest. Digits that find no room are dropped. -/
def fractionPart (significand taken : Nat) : Bytes → Nat × Nat × Bytes
  | [] => (significand, taken, [])
  | b :: s =>
    if isDigit b then
      if significand * 10 + digitValue b < significandLimit then
        fractionPart (significand * 10 + digitValue b) (taken + 1) s
      else (significand, taken, s.dropWhile isDigit)
    else (significand, taken, b :: s)

/-- Digits of an exponent, behind the value read so far: nothing as soon as it
grows too large, and the rest. -/
def exponentPart (value : Nat) : Bytes → Option Nat × Bytes
  | [] => (some value, [])
  | b :: s =>
    if isDigit b then
      if value * 10 + digitValue b < exponentLimit then
        exponentPart (value * 10 + digitValue b) s
      else (none, s)
    else (some value, b :: s)

/-- A number with its decimal exponent, unless it is not finite. -/
def scaled (negative : Bool) (significand : Nat) (exponent : Int) (s : Bytes) :
    Reading Number :=
  match Binary64.ofDecimal? negative significand exponent with
  | some x => .ok (.binary x, s)
  | none => .error (.before .infiniteNumber s)

/-- What follows the exponent mark. -/
def exponent (negative : Bool) (significand : Nat) (start : Int) (s : Bytes) :
    Reading Number :=
  let (down, s) :=
    match s with
    | b :: r => if b = minus then (true, r) else if b = plus then (false, r) else (false, b :: r)
    | [] => (false, [])
  match s with
  | [] => .error (.before .endOfValue [])
  | b :: s =>
    if isDigit b then
      match exponentPart (digitValue b) s with
      | (some e, s) => scaled negative significand (if down then start - e else start + e) s
      | (none, s) =>
        if significand ≠ 0 ∧ ¬down then .error (.before .infiniteNumber s)
        else .ok (.binary ⟨negative, 0⟩, s.dropWhile isDigit)
    else .error (.before .malformedNumber s)

/-- What follows the point; `start` digits before it found no room. -/
def fraction (negative : Bool) (significand : Nat) (start : Nat) (s : Bytes) :
    Reading Number :=
  match s with
  | [] => .error (.before .endOfValue [])
  | b :: r =>
    if isDigit b then
      let (significand, taken, s) := fractionPart significand 0 (b :: r)
      match s with
      | e :: s =>
        if isExponentMark e then exponent negative significand (start - taken) s
        else scaled negative significand (start - taken) (e :: s)
      | [] => scaled negative significand (start - taken) []
    else .error (.at .malformedNumber (b :: r))

/-- What follows the digits before the point, `dropped` of which found no room. -/
def afterWhole (negative : Bool) (significand dropped : Nat) (s : Bytes) : Reading Number :=
  let plain : Bytes → Reading Number := fun s =>
    if dropped = 0 then .ok (Number.ofInteger negative significand, s)
    else scaled negative significand dropped s
  match s with
  | [] => plain []
  | b :: r =>
    if b = point then fraction negative significand dropped r
    else if isExponentMark b then exponent negative significand dropped r
    else plain (b :: r)

/-- A number behind its sign; a leading zero stands alone. -/
def unsigned (negative : Bool) : Bytes → Reading Number
  | [] => .error (.before .endOfValue [])
  | b :: s =>
    if b = 0x30 then
      match s with
      | d :: r =>
        if isDigit d then .error (.at .malformedNumber (d :: r))
        else afterWhole negative 0 0 (d :: r)
      | [] => afterWhole negative 0 0 []
    else if isDigit b then
      let (significand, dropped, s) := wholePart (digitValue b) s
      afterWhole negative significand dropped s
    else .error (.before .malformedNumber s)

/-- A number that starts with a digit or a minus sign. -/
def number : Bytes → Reading Number
  | [] => .error (.before .endOfValue [])
  | b :: s => if b = minus then unsigned true s else unsigned false (b :: s)

def startsNumber (b : Byte) : Bool := b = minus || isDigit b

end SealedToken.Json

import SealedToken.Json.Scan
import SealedToken.Text.Utf8

/-! # Strings of a JSON text

A string is read in two steps: first its bytes, with every escape replaced by
the bytes of its character, then the characters these bytes spell. -/

namespace SealedToken.Json

/-! ### Escapes -/

/-- The byte that a one-letter escape stands for. -/
def escaped? (b : Byte) : Option Byte :=
  if b = quoteMark then some quoteMark
  else if b = backslash then some backslash
  else if b = 0x2F then some 0x2F
  else if b = 0x62 then some 0x08
  else if b = 0x66 then some 0x0C
  else if b = 0x6E then some 0x0A
  else if b = 0x72 then some 0x0D
  else if b = 0x74 then some 0x09
  else none

def letterU : Byte := 0x75

def hexValue? (b : Byte) : Option Nat := Hex.value? (Char.ofNat b.toNat)

/-- The number that four hexadecimal digits denote. -/
def hexWord? (a b c d : Byte) : Option Nat := do
  let a ← hexValue? a
  let b ← hexValue? b
  let c ← hexValue? c
  let d ← hexValue? d
  pure (((a * 16 + b) * 16 + c) * 16 + d)

def isLeadingSurrogate (n : Nat) : Bool := 0xD800 ≤ n && n ≤ 0xDBFF

def isTrailingSurrogate (n : Nat) : Bool := 0xDC00 ≤ n && n ≤ 0xDFFF

/-- The character of a surrogate pair. -/
def joinSurrogates (high low : Nat) : Char :=
  Char.ofNat (0x10000 + (high - 0xD800) * 0x400 + (low - 0xDC00))

/-- A character in front of what follows it. -/
def prepend (c : Bytes) (r : Reading Bytes) : Reading Bytes :=
  match r with
  | .ok (b, s) => .ok (c ++ b, s)
  | .error f => .error f

/-! ### Bytes of a string -/

/-- The bytes up to the closing quote mark, escapes resolved. -/
def stringBytes : Bytes → Reading Bytes
  | [] => .error (.before .endOfString [])
  | b :: s =>
    if b = quoteMark then .ok ([], s)
    else if b = backslash then
      match s with
      | [] => .error (.before .endOfString [])
      | e :: s =>
        if e = letterU then
          match s with
          | h1 :: h2 :: h3 :: h4 :: s =>
            match hexWord? h1 h2 h3 h4 with
            | none => .error (.before .malformedEscape s)
            | some n =>
              if isTrailingSurrogate n then .error (.before .loneSurrogate s)
              else if isLeadingSurrogate n then
                match s with
                | [] => .error (.before .endOfString [])
                | b :: s =>
                  if b = backslash then
                    match s with
                    | [] => .error (.before .endOfString [])
                    | e :: s =>
                      if e = letterU then
                        match s with
                        | l1 :: l2 :: l3 :: l4 :: s =>
                          match hexWord? l1 l2 l3 l4 with
                          | none => .error (.before .malformedEscape s)
                          | some m =>
                            if isTrailingSurrogate m then
                              prepend (String.utf8EncodeChar (joinSurrogates n m)) (stringBytes s)
                            else .error (.before .loneSurrogate s)
                        | _ => .error (.before .endOfString [])
                      else .error (.before .missingSurrogate s)
                  else .error (.before .missingSurrogate s)
              else prepend (String.utf8EncodeChar (Char.ofNat n)) (stringBytes s)
          | _ => .error (.before .endOfString [])
        else
          match escaped? e with
          | some c => prepend [c] (stringBytes s)
          | none => .error (.before .malformedEscape s)
    else if b < 0x20 then .error (.before .controlCharacter s)
    else prepend [b] (stringBytes s)

/-! ### Characters of a string -/

/-- The string behind its opening quote mark. -/
def string (s : Bytes) : Except Fault (String × Bytes) := do
  let (b, s) ← stringBytes s
  match Utf8.decode b with
  | .ok t => .ok (t, s)
  | .error f => .error (.before (.malformedCharacter (b.length - f.start)) s)

end SealedToken.Json

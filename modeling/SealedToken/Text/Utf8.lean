import SealedToken.Bytes

/-! # UTF-8

Text and its bytes. Writing is total. Reading accepts exactly the well-formed
byte strings and otherwise says where the longest well-formed beginning ends,
and how many bytes after it cannot begin a character. -/

namespace SealedToken.Utf8

/-! ### Writing -/

/-- The UTF-8 bytes of a text. -/
def encode (s : String) : Bytes := s.toList.flatMap String.utf8EncodeChar

theorem encode_append (s t : String) : encode (s ++ t) = encode s ++ encode t := by
  simp [encode]

/-- The text whose characters are the given bytes, for bytes below 128. -/
def ascii (b : Bytes) : String := String.ofList (b.map fun x => Char.ofNat x.toNat)

/-! ### Reading -/

/-- Why a byte string is not UTF-8; both name the length of the well-formed beginning. -/
inductive Fault where
  /-- After `start` bytes, the next `length` bytes begin no character. -/
  | malformed (start length : Nat)
  /-- After `start` bytes the input ends inside a character. -/
  | incomplete (start : Nat)
  deriving DecidableEq, Repr

/-- Length of the well-formed beginning. -/
def Fault.start : Fault → Nat
  | .malformed start _ => start
  | .incomplete start => start

def Fault.message : Fault → String
  | .malformed start length =>
    "invalid utf-8 sequence of " ++ toString length ++ " bytes from index " ++ toString start
  | .incomplete start => "incomplete utf-8 byte sequence from index " ++ toString start

/-- A byte that continues a character. -/
def continues (b : Byte) : Bool := 0x80 ≤ b && b ≤ 0xBF

/-- The bytes that may follow a leading byte: no overlong forms, no surrogates,
nothing above U+10FFFF. -/
def mayFollow (lead b : Byte) : Bool :=
  if lead = 0xE0 then 0xA0 ≤ b && b ≤ 0xBF
  else if lead = 0xED then 0x80 ≤ b && b ≤ 0x9F
  else if lead = 0xF0 then 0x90 ≤ b && b ≤ 0xBF
  else if lead = 0xF4 then 0x80 ≤ b && b ≤ 0x8F
  else continues b

/-- The low six bits of a continuing byte. -/
def payload (b : Byte) : Nat := b.toNat % 64

/-- The character with a leading value and continuing bytes. -/
def assemble (lead : Nat) (tail : Bytes) : Char :=
  Char.ofNat (tail.foldl (fun v b => v * 64 + payload b) lead)

/-- Characters of the bytes that follow the first `start` bytes. -/
def read (start : Nat) : Bytes → Except Fault (List Char)
  | [] => .ok []
  | a :: rest =>
    if a < 0x80 then (read (start + 1) rest).map (Char.ofNat a.toNat :: ·)
    else if a < 0xC2 then .error (.malformed start 1)
    else if a < 0xE0 then
      match rest with
      | [] => .error (.incomplete start)
      | b :: rest =>
        if continues b then (read (start + 2) rest).map (assemble (a.toNat % 32) [b] :: ·)
        else .error (.malformed start 1)
    else if a < 0xF0 then
      match rest with
      | [] => .error (.incomplete start)
      | b :: rest =>
        if mayFollow a b then
          match rest with
          | [] => .error (.incomplete start)
          | c :: rest =>
            if continues c then
              (read (start + 3) rest).map (assemble (a.toNat % 16) [b, c] :: ·)
            else .error (.malformed start 2)
        else .error (.malformed start 1)
    else if a < 0xF5 then
      match rest with
      | [] => .error (.incomplete start)
      | b :: rest =>
        if mayFollow a b then
          match rest with
          | [] => .error (.incomplete start)
          | c :: rest =>
            if continues c then
              match rest with
              | [] => .error (.incomplete start)
              | d :: rest =>
                if continues d then
                  (read (start + 4) rest).map (assemble (a.toNat % 8) [b, c, d] :: ·)
                else .error (.malformed start 3)
            else .error (.malformed start 2)
        else .error (.malformed start 1)
    else .error (.malformed start 1)

/-- The text a byte string spells. -/
def decode (b : Bytes) : Except Fault String := (read 0 b).map String.ofList

end SealedToken.Utf8

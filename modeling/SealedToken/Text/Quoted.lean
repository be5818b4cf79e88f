import SealedToken.Bytes
import SealedToken.Text.Hex
import SealedToken.Text.Unprintable

/-! # Quoted text

A text in double quotes with its unprintable characters written out, as it
stands in messages and in the readable form of a value. -/

namespace SealedToken.Quoted

/-- Lowercase hexadecimal digits without leading zeros. -/
def hexDigits (v : Nat) : List Char := Nat.toDigits 16 v

/-- One character inside quotes. -/
def escape (c : Char) : List Char :=
  if c = '\x00' then ['\\', '0']
  else if c = '\t' then ['\\', 't']
  else if c = '\r' then ['\\', 'r']
  else if c = '\n' then ['\\', 'n']
  else if c = '\"' then ['\\', '\"']
  else if c = '\\' then ['\\', '\\']
  else if Unprintable.holds c then ['\\', 'u', '\x7b'] ++ hexDigits c.toNat ++ ['\x7d']
  else [c]

def quote (s : String) : String :=
  String.ofList ('\"' :: s.toList.flatMap escape ++ ['\"'])

end SealedToken.Quoted

import SealedToken.Error

/-! # Algorithms of a sealed token

A token names two algorithms: how the key that seals the text is obtained, and
how the text is sealed with it. Both come in the three key sizes of AES. -/

namespace SealedToken

/-! ### Key sizes -/

inductive KeySize where
  | bits128
  | bits192
  | bits256
  deriving DecidableEq, Repr

namespace KeySize

def bytes : KeySize → Nat
  | bits128 => 16
  | bits192 => 24
  | bits256 => 32

def digits : KeySize → String
  | bits128 => "128"
  | bits192 => "192"
  | bits256 => "256"

end KeySize

/-! ### How the content key is obtained -/

inductive KeyManagement where
  /-- The shared key is the content key. -/
  | direct
  /-- The content key comes with the token, wrapped under the shared key. -/
  | wrap (size : KeySize)
  deriving DecidableEq, Repr

namespace KeyManagement

def name : KeyManagement → String
  | direct => "dir"
  | wrap size => "A" ++ size.digits ++ "KW"

def all : List KeyManagement := [direct, wrap .bits128, wrap .bits192, wrap .bits256]

def ofName? (s : String) : Option KeyManagement := all.find? (·.name = s)

theorem ofName?_name (m : KeyManagement) : ofName? m.name = some m := by
  cases m with
  | direct => decide
  | wrap size => cases size <;> decide

def parse (s : String) : Except Error KeyManagement :=
  match ofName? s with
  | some m => .ok m
  | none => .error (.unknownKeyManagement s)

/-- Length of the shared key, where it wraps keys. -/
def wrappingLength? : KeyManagement → Option Nat
  | direct => none
  | wrap size => some size.bytes

end KeyManagement

/-! ### How the text is sealed -/

inductive ContentEncryption where
  | gcm (size : KeySize)
  deriving DecidableEq, Repr

namespace ContentEncryption

def name : ContentEncryption → String
  | gcm size => "A" ++ size.digits ++ "GCM"

def all : List ContentEncryption := [gcm .bits128, gcm .bits192, gcm .bits256]

def ofName? (s : String) : Option ContentEncryption := all.find? (·.name = s)

theorem ofName?_name (e : ContentEncryption) : ofName? e.name = some e := by
  cases e with
  | gcm size => cases size <;> decide

def parse (s : String) : Except Error ContentEncryption :=
  match ofName? s with
  | some e => .ok e
  | none => .error (.unknownContentEncryption s)

/-- Length of the content key. -/
def keyLength : ContentEncryption → Nat
  | gcm size => size.bytes

end ContentEncryption

end SealedToken

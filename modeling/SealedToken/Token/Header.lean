import SealedToken.Json.Value
import SealedToken.Json.Writer
import SealedToken.Token.Algorithm

/-! # Token headers

The protected header of a token: its two algorithms and three remarks that
change nothing. Other members are ignored, but two that would change the
meaning of the token are refused: a compressed text and members that must be
understood. -/

namespace SealedToken

structure Header where
  enc : ContentEncryption
  alg : KeyManagement
  /-- Which key, for information only. -/
  kid : Option String
  /-- Media type of the token. -/
  typ : Option String
  /-- Media type of the text. -/
  cty : Option String
  deriving DecidableEq, Repr

namespace Header

/-- A header without remarks. -/
def plain (alg : KeyManagement) (enc : ContentEncryption) : Header := ⟨enc, alg, none, none, none⟩

/-! ### Writing -/

/-- A remark as a member, if there is one. -/
def remark (name : String) : Option String → List (String × Json.Leaf)
  | some s => [(name, .text s)]
  | none => []

def members (h : Header) : List (String × Json.Leaf) :=
  [("enc", .text h.enc.name), ("alg", .text h.alg.name)] ++ remark "kid" h.kid ++
    remark "typ" h.typ ++ remark "cty" h.cty

def toJson (h : Header) : String := Json.written h.members

/-! ### Reading -/

/-- A member that must hold a string, if it is there. -/
def textMember (ms : Json.Members) (name : String) : Except Json.Cause (Option String) :=
  match ms.get? name with
  | none => .ok none
  | some (.text s) => .ok (some s)
  | some v => .error (.wrongKind v.found "a string")

/-- A member that holds a string or is as good as missing. -/
def optionalMember (ms : Json.Members) (name : String) : Except Json.Cause (Option String) :=
  match ms.get? name with
  | none => .ok none
  | some .null => .ok none
  | some (.text s) => .ok (some s)
  | some v => .error (.wrongKind v.found "a string")

/-- The strings of a list that holds nothing else. -/
def texts : List Json.Value → Except Json.Cause (List String)
  | [] => .ok []
  | .text s :: vs => (texts vs).map (s :: ·)
  | v :: _ => .error (.wrongKind v.found "a string")

/-- The names of the members that must be understood. -/
def criticalMember (ms : Json.Members) : Except Json.Cause (List String) :=
  match ms.get? "crit" with
  | none => .ok []
  | some .null => .ok []
  | some (.list vs) => texts vs
  | some v => .error (.wrongKind v.found "a sequence")

def requiredMember (name : String) : Option String → Except Json.Cause String
  | some s => .ok s
  | none => .error (.missingMember name)

/-- The members of a header with their types checked, algorithms as named. -/
structure Draft where
  enc : String
  alg : String
  kid : Option String
  typ : Option String
  cty : Option String
  zip : Option String
  crit : List String
  deriving DecidableEq, Repr

/-- Checks the types in the order of the members' names, then what is missing. -/
def draft (ms : Json.Members) : Except Json.Cause Draft := do
  let alg ← textMember ms "alg"
  let crit ← criticalMember ms
  let cty ← optionalMember ms "cty"
  let enc ← textMember ms "enc"
  let kid ← optionalMember ms "kid"
  let typ ← optionalMember ms "typ"
  let zip ← optionalMember ms "zip"
  let enc ← requiredMember "enc" enc
  let alg ← requiredMember "alg" alg
  return ⟨enc, alg, kid, typ, cty, zip, crit⟩

/-- The header, unless it asks for something that is not supported. -/
def ofDraft (d : Draft) : Except Error Header := do
  if let some zip := d.zip then throw (.compression zip)
  if d.crit ≠ [] then throw (.criticalMembers d.crit)
  let enc ← ContentEncryption.parse d.enc
  let alg ← KeyManagement.parse d.alg
  return ⟨enc, alg, d.kid, d.typ, d.cty⟩

def parse (text : Bytes) : Except Error Header :=
  match Json.Value.parse text with
  | .error r => .error (.headerSyntax r)
  | .ok (.object ms) => (draft ms).mapError .headerMember >>= ofDraft
  | .ok _ => .error .headerNotObject

end Header

end SealedToken

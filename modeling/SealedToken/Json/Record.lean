import SealedToken.Json.Skip

/-! # Records

Texts with a fixed set of typed members. A record is read from an object,
whose other members are passed over, or from a list of its members in order.
What a reader of a record knows so far is a value with a slot for every
member. -/

namespace SealedToken.Json

/-! ### Members -/

/-- One member of a record, with slots of type `σ`. -/
structure Field (σ : Type) where
  name : String
  /-- Whether a text without this member is refused. -/
  required : Bool
  /-- Whether the slot is taken. -/
  taken : σ → Bool
  /-- Reads the member's value into its slot. -/
  read : σ → Bytes → Except Fault (σ × Bytes)

/-- A member that is read by `item` and stored by `set`. -/
def Field.of {σ β : Type} (name : String) (required : Bool) (get : σ → Option β)
    (set : σ → β → σ) (item : Bytes → Except Fault (β × Bytes)) : Field σ where
  name := name
  required := required
  taken s := (get s).isSome
  read slots s := do
    let (v, s) ← item s
    return (set slots v, s)

/-- A record: what it is called in messages, and its members in order. -/
structure Record (σ : Type) where
  name : String
  fields : List (Field σ)
  /-- All slots free. -/
  start : σ

/-- The record's name, with the number of its members when a list is too short. -/
def Record.describeLength {σ : Type} (r : Record σ) : String :=
  let n := r.fields.length
  r.name ++ " with " ++ toString n ++ (if n = 1 then " element" else " elements")

/-! ### Typed values -/

def fieldText (s : Bytes) : Except Fault (String × Bytes) :=
  match skipBlanks s with
  | [] => .error (.before .endOfValue [])
  | b :: s => if b = quoteMark then string s else wrongKind "a string" (b :: s)

/-- A string, or nothing for `null`. -/
def fieldOptionalText (s : Bytes) : Except Fault (Option String × Bytes) :=
  match skipBlanks s with
  | [] => .error (.before .endOfValue [])
  | b :: s =>
    if b = 0x6E then (word wordNull (b :: s)).map fun s => (none, s)
    else (fieldText (b :: s)).map fun (t, s) => (some t, s)

def fieldFlag (s : Bytes) : Except Fault (Bool × Bytes) :=
  match skipBlanks s with
  | [] => .error (.before .endOfValue [])
  | b :: s =>
    if b = 0x74 then (word wordTrue (b :: s)).map fun s => (true, s)
    else if b = 0x66 then (word wordFalse (b :: s)).map fun s => (false, s)
    else wrongKind "a boolean" (b :: s)

/-- An integer of 32 bits without a sign. -/
def fieldWord (s : Bytes) : Except Fault (UInt32 × Bytes) :=
  match skipBlanks s with
  | [] => .error (.before .endOfValue [])
  | b :: s =>
    if startsNumber b then do
      let (n, s) ← number (b :: s)
      match n with
      | .natural v =>
        if v < 0x100000000 then return (UInt32.ofNat v, s)
        else throw (.before (.outOfRange n "u32") s)
      | .negative _ => throw (.before (.outOfRange n "u32") s)
      | .binary _ => throw (.before (.wrongKind (.number n) "u32") s)
    else wrongKind "u32" (b :: s)

/-! ### Reading a record -/

/-- The rest behind a closing bracket and the blanks before it, if it is next. -/
def pastEnd (closing : Byte) (s : Bytes) : Bytes :=
  match skipBlanks s with
  | [] => []
  | b :: s => if b = closing then s else b :: s

/-- The first required member whose slot is free. -/
def Record.missing? {σ : Type} (r : Record σ) (slots : σ) : Option String :=
  (r.fields.find? fun f => f.required && !f.taken slots).map (·.name)

/-- Members up to the closing bracket; `fuel` bounds their number. A repeated
member is refused as soon as its key has been read. -/
def Record.readMembers {σ : Type} (r : Record σ) :
    Nat → Bool → σ → Bytes → Except Fault (σ × Bytes)
  | 0, _, _, s => .error (.before .endOfObject s)
  | fuel + 1, first, slots, s => do
    match ← objectStep first s with
    | .done s => return (slots, s)
    | .more s =>
      let (k, s) ← string s
      match r.fields.find? (·.name = k) with
      | none =>
        let s ← afterKey s
        let s ← skipValue s
        r.readMembers fuel false slots s
      | some f =>
        if f.taken slots then throw (.before (.repeatedMember k) (pastEnd closeObject s))
        else
          let s ← afterKey s
          let (slots, s) ← f.read slots s
          r.readMembers fuel false slots s

/-- The record behind an opening brace. -/
def Record.readObject {σ : Type} (r : Record σ) (s : Bytes) : Except Fault (σ × Bytes) := do
  let (slots, s) ← r.readMembers (s.length + 1) true r.start s
  match r.missing? slots with
  | some name => throw (.before (.missingMember name) s)
  | none => return (slots, s)

/-- Elements for the members in order, behind an opening bracket; `n` of them
have been read. A missing element is refused if its member is required. -/
def Record.readElements {σ : Type} (r : Record σ) :
    Nat → List (Field σ) → σ → Bytes → Except Fault (σ × Bytes)
  | _, [], slots, s => .ok (slots, s)
  | n, f :: fs, slots, s => do
    match ← listStep (n = 0) s with
    | .done rest =>
      if f.required then throw (.before (.wrongLength n r.describeLength) rest)
      else r.readElements n fs slots s
    | .more s =>
      let (slots, s) ← f.read slots s
      r.readElements (n + 1) fs slots s

/-- What stands behind the last element that a record asks for. -/
def listEnd (s : Bytes) : Except Fault Bytes :=
  match skipBlanks s with
  | [] => .error (.before .endOfList [])
  | b :: s =>
    if b = closeList then .ok s
    else if b = comma then
      match skipBlanks s with
      | [] => .error (.before .afterValue [])
      | c :: s =>
        if c = closeList then .error (.at .commaBeforeEnd (c :: s))
        else .error (.at .afterValue (c :: s))
    else .error (.at .afterValue (b :: s))

/-- The record behind an opening bracket. -/
def Record.readList {σ : Type} (r : Record σ) (s : Bytes) : Except Fault (σ × Bytes) := do
  let (slots, s) ← r.readElements 0 r.fields r.start s
  return (slots, ← listEnd s)

def Record.read {σ : Type} (r : Record σ) (s : Bytes) : Except Fault (σ × Bytes) :=
  match skipBlanks s with
  | [] => .error (.before .endOfValue [])
  | b :: s =>
    if b = openObject then r.readObject s
    else if b = openList then r.readList s
    else wrongKind r.name (b :: s)

/-- The slots of a whole text. -/
def Record.parse {σ : Type} (r : Record σ) (text : Bytes) : Except Refusal σ :=
  whole r.read text

end SealedToken.Json

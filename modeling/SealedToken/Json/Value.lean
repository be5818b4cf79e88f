import SealedToken.Json.Text

/-! # JSON values

Any JSON text as a value. Objects keep their members as written; looking one
up takes the last of several members of a name. Lists and objects may be
nested one hundred and twenty-seven deep. -/

namespace SealedToken.Json

inductive Value where
  | null
  | flag (b : Bool)
  | number (n : Number)
  | text (s : String)
  | list (vs : List Value)
  | object (ms : List (String × Value))
  deriving Repr

abbrev Members := List (String × Value)

/-- The value of the last member of a name. -/
def Members.get? : Members → String → Option Value
  | [], _ => none
  | (k, v) :: ms, name =>
    match Members.get? ms name with
    | some w => some w
    | none => if k = name then some v else none

/-- What a value is, seen from outside. -/
def Value.found : Value → Found
  | null => .null
  | flag b => .flag b
  | number n => .number n
  | text s => .text s
  | list _ => .list
  | object _ => .object

/-! ### Punctuation -/

/-- What stands behind a comma in a list: an element is due. -/
def afterListComma (s : Bytes) : Except Fault Bytes :=
  match skipBlanks s with
  | [] => .error (.before .endOfValue [])
  | b :: s => if b = closeList then .error (.at .commaBeforeEnd (b :: s)) else .ok (b :: s)

/-- What stands behind a comma in an object: a key is due. -/
def afterObjectComma (s : Bytes) : Except Fault Bytes :=
  match skipBlanks s with
  | [] => .error (.before .endOfValue [])
  | b :: s =>
    if b = quoteMark then .ok s
    else if b = closeObject then .error (.at .commaBeforeEnd (b :: s))
    else .error (.at .noKey (b :: s))

/-- What follows a key, up to the value. -/
def afterKey (s : Bytes) : Except Fault Bytes :=
  match skipBlanks s with
  | [] => .error (.before .endOfObject [])
  | b :: s => if b = colon then .ok s else .error (.at .noColon (b :: s))

/-- Where the next element of a list starts, or the rest behind the list. -/
inductive Step where
  | more (s : Bytes)
  | done (s : Bytes)
  deriving DecidableEq, Repr

def listStep (first : Bool) (s : Bytes) : Except Fault Step :=
  match skipBlanks s with
  | [] => .error (.before .endOfList [])
  | b :: s =>
    if b = closeList then .ok (.done s)
    else if first then .ok (.more (b :: s))
    else if b = comma then (afterListComma s).map .more
    else .error (.at .noCommaInList (b :: s))

/-- Where the next key of an object starts, behind its quote mark. -/
def objectStep (first : Bool) (s : Bytes) : Except Fault Step :=
  match skipBlanks s with
  | [] => .error (.before .endOfObject [])
  | b :: s =>
    if b = closeObject then .ok (.done s)
    else if first then
      if b = quoteMark then .ok (.more s) else .error (.at .noKey (b :: s))
    else if b = comma then (afterObjectComma s).map .more
    else .error (.at .noCommaInObject (b :: s))

/-! ### Lists and objects -/

/-- Elements up to the closing bracket; `fuel` bounds their number. -/
def elements {α : Type} (item : Bytes → Reading α) : Nat → Bool → Bytes → Except Fault (List α × Bytes)
  | 0, _, s => .error (.before .endOfList s)
  | fuel + 1, first, s => do
    match ← listStep first s with
    | .done s => return ([], s)
    | .more s =>
      let (v, s) ← item s
      let (vs, s) ← elements item fuel false s
      return (v :: vs, s)

/-- Members up to the closing bracket; `fuel` bounds their number. -/
def members {α : Type} (item : Bytes → Reading α) :
    Nat → Bool → Bytes → Except Fault (List (String × α) × Bytes)
  | 0, _, s => .error (.before .endOfObject s)
  | fuel + 1, first, s => do
    match ← objectStep first s with
    | .done s => return ([], s)
    | .more s =>
      let (k, s) ← string s
      let s ← afterKey s
      let (v, s) ← item s
      let (ms, s) ← members item fuel false s
      return ((k, v) :: ms, s)

/-! ### Values -/

/-- How many lists and objects may be open at once. -/
def depthLimit : Nat := 127

/-- A value with at most `depth` lists and objects inside each other. -/
def value (depth : Nat) (s : Bytes) : Reading Value :=
  match skipBlanks s with
  | [] => .error (.before .endOfValue [])
  | b :: s =>
    if b = 0x6E then (word wordNull (b :: s)).map fun s => (.null, s)
    else if b = 0x74 then (word wordTrue (b :: s)).map fun s => (.flag true, s)
    else if b = 0x66 then (word wordFalse (b :: s)).map fun s => (.flag false, s)
    else if startsNumber b then (number (b :: s)).map fun (n, s) => (.number n, s)
    else if b = quoteMark then (string s).map fun (t, s) => (.text t, s)
    else if b = openList then
      match depth with
      | 0 => .error (.at .nestedTooDeep (b :: s))
      | depth + 1 =>
        (elements (value depth) (s.length + 1) true s).map fun (vs, s) => (.list vs, s)
    else if b = openObject then
      match depth with
      | 0 => .error (.at .nestedTooDeep (b :: s))
      | depth + 1 =>
        (members (value depth) (s.length + 1) true s).map fun (ms, s) => (.object ms, s)
    else .error (.at .noValue (b :: s))

/-! ### Whole texts -/

/-- Nothing but blanks may follow. -/
def finish {α : Type} (r : α × Bytes) : Except Fault α :=
  match skipBlanks r.2 with
  | [] => .ok r.1
  | b :: s => .error (.at .afterValue (b :: s))

/-- Runs a reader over a whole text. -/
def whole {α : Type} (read : Bytes → Except Fault (α × Bytes)) (text : Bytes) :
    Except Refusal α :=
  match read text with
  | .error f => .error (f.locate text)
  | .ok r => (finish r).mapError (Fault.locate text)

def Value.parse (text : Bytes) : Except Refusal Value := whole (value depthLimit) text

/-- What stands where another kind of value is wanted: scalars are read first,
and a fault inside one comes before the wrong kind. -/
def wrongKind {α : Type} (wanted : String) : Bytes → Except Fault (α × Bytes)
  | [] => .error (.before .endOfValue [])
  | b :: s =>
    let refuse (found : Found) (s : Bytes) : Except Fault (α × Bytes) :=
      .error (.before (.wrongKind found wanted) s)
    if b = 0x6E then do refuse .null (← word wordNull (b :: s))
    else if b = 0x74 then do refuse (.flag true) (← word wordTrue (b :: s))
    else if b = 0x66 then do refuse (.flag false) (← word wordFalse (b :: s))
    else if startsNumber b then do
      let (n, s) ← number (b :: s)
      refuse (.number n) s
    else if b = quoteMark then do
      let (t, s) ← string s
      refuse (.text t) s
    else if b = openList then refuse .list (b :: s)
    else if b = openObject then refuse .object (b :: s)
    else .error (.at .noValue (b :: s))

/-- The members of an object, and of nothing else. -/
def objectMembers (s : Bytes) : Except Fault (Members × Bytes) :=
  match skipBlanks s with
  | [] => .error (.before .endOfValue [])
  | b :: s =>
    if b = openObject then members (value (depthLimit - 1)) (s.length + 1) true s
    else wrongKind "a map" (b :: s)

/-- The members of a text that is an object. -/
def Members.parse (text : Bytes) : Except Refusal Members := whole objectMembers text

end SealedToken.Json

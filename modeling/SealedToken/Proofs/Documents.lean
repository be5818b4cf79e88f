import SealedToken.Key.Octet
import SealedToken.Proofs.Json.Record
import SealedToken.Registration.Payload
import SealedToken.Settings
import SealedToken.Token.Header

/-! # Documents that are no objects

Four documents are read as JSON objects, but three of their readers also take a
list of the members in order. Only the reader of headers looks for the brace. -/

namespace SealedToken

open Json (Value Field Record ListText Unbraced fill)

/-! ### The documents that lists stand for -/

/-- The payload with its one member. -/
def Payload.ofList? : List Value → Option Payload
  | [.text jws] => some ⟨jws⟩
  | _ => none

/-- The key with its two members. -/
def OctetKey.ofList? : List Value → Option OctetKey
  | [.text kty, .text k] => some ⟨kty, k⟩
  | _ => none

namespace Settings

/-- An element of a list, or a default behind the end of the list. -/
def element {β : Type} (take : Value → Option β) (fallback : β) : Option Value → Option β
  | some v => take v
  | none => some fallback

/-- The settings with at most six members, defaults for those that are left. -/
def ofList? (vs : List Value) : Option Settings :=
  if vs.length ≤ 6 then do
    let schemaVersion ← element Value.word? default.schemaVersion vs[0]?
    let masterPassword ← element Value.optionalText? default.masterPassword vs[1]?
    let masterHash ← element Value.optionalText? default.masterHash vs[2]?
    let tokenLifetime ← element Value.word? default.tokenLifetime vs[3]?
    let logLevel ← element Value.text? default.logLevel vs[4]?
    let jsonLogs ← element Value.flag? default.jsonLogs vs[5]?
    return ⟨schemaVersion, masterPassword, masterHash, tokenLifetime, logLevel, jsonLogs⟩
  else none

end Settings

/-! ### Readers of records -/

/-- The values that a reader gives on a text, and the kind of its failures. -/
def Answers {α : Type} (outcome : Except Error α) (P : α → Prop) (kind : Kind) : Prop :=
  (∀ a, outcome = .ok a ↔ P a) ∧ ∀ err, outcome = .error err → err.kind = kind

theorem answers_unbraced {σ α : Type} {r : Record σ} {takes : List (σ → Value → Option σ)}
    {ofSlots : σ → α} {ofList? : List Value → Option α} {wrap : Json.Refusal → Error}
    {kind : Kind} {text : Bytes} (htakes : List.Forall₂ Field.Takes r.fields takes)
    (hlist : ∀ vs a, ((fill takes r.start vs).map ofSlots = some a ∧
      ∀ f ∈ r.fields.drop vs.length, f.required = false) ↔ ofList? vs = some a)
    (hkind : ∀ refusal, (wrap refusal).kind = kind) (h : Unbraced text) :
    Answers (((r.parse text).map ofSlots).mapError wrap)
      (fun a => ∃ vs, ListText vs text ∧ ofList? vs = some a) kind := by
  refine ⟨fun a => ?_, fun err herr => ?_⟩
  · rw [mapError_eq_ok_iff, Json.map_eq_ok_iff]
    simp only [h.parse_eq_ok_iff htakes, ← hlist, Option.map_eq_some_iff]
    constructor
    · intro hslots
      obtain ⟨slots, ⟨vs, htext, hfill, hrequired⟩, ha⟩ := hslots
      exact ⟨vs, htext, ⟨slots, hfill, ha⟩, hrequired⟩
    · intro hvs
      obtain ⟨vs, htext, ⟨slots, hfill, ha⟩, hrequired⟩ := hvs
      exact ⟨slots, ⟨vs, htext, hfill, hrequired⟩, ha⟩
  · obtain ⟨refusal, -, rfl⟩ := mapError_eq_error_iff.mp herr
    exact hkind refusal

theorem Payload.answers_unbraced {text : Bytes} (h : Unbraced text) :
    Answers (Payload.parse text) (fun p => ∃ vs, ListText vs text ∧ ofList? vs = some p)
      .claims := by
  refine SealedToken.answers_unbraced (.cons (Field.of_takes Json.fieldText_chooses _ _ _ _) .nil)
    (fun vs p => ?_) (fun _ => rfl) h
  rcases vs with - | ⟨v, - | ⟨w, vs⟩⟩
  · simp [ofList?, layout, Field.of]
  · cases v <;> simp [fill, ofList?, Value.text?, layout, ofSlots]
  · cases v <;> simp [fill, ofList?, Value.text?]

theorem OctetKey.answers_unbraced {text : Bytes} (h : Unbraced text) :
    Answers (OctetKey.parse text) (fun k => ∃ vs, ListText vs text ∧ ofList? vs = some k)
      .json := by
  refine SealedToken.answers_unbraced (.cons (Field.of_takes Json.fieldText_chooses _ _ _ _)
    (.cons (Field.of_takes Json.fieldText_chooses _ _ _ _) .nil)) (fun vs k => ?_) (fun _ => rfl) h
  rcases vs with - | ⟨v, - | ⟨w, - | ⟨x, vs⟩⟩⟩
  · simp [ofList?, layout, Field.of]
  · cases v <;> simp [ofList?, layout, Field.of]
  · cases v <;> cases w <;> simp [fill, ofList?, Value.text?, layout, ofSlots]
  · cases v <;> cases w <;> simp [fill, ofList?, Value.text?]

/-- How the members of the settings are taken from elements. -/
def Settings.takes : List (Slots → Value → Option Slots) := [
  fun s v => v.word?.map fun a => { s with schemaVersion := some a },
  fun s v => v.optionalText?.map fun a => { s with masterPassword := some a },
  fun s v => v.optionalText?.map fun a => { s with masterHash := some a },
  fun s v => v.word?.map fun a => { s with tokenLifetime := some a },
  fun s v => v.text?.map fun a => { s with logLevel := some a },
  fun s v => v.flag?.map fun a => { s with jsonLogs := some a }]

theorem Settings.takes_layout : List.Forall₂ Field.Takes layout.fields takes :=
  .cons (Field.of_takes Json.fieldWord_chooses _ _ _ _) <|
  .cons (Field.of_takes Json.fieldOptionalText_chooses _ _ _ _) <|
  .cons (Field.of_takes Json.fieldOptionalText_chooses _ _ _ _) <|
  .cons (Field.of_takes Json.fieldWord_chooses _ _ _ _) <|
  .cons (Field.of_takes Json.fieldText_chooses _ _ _ _) <|
  .cons (Field.of_takes Json.fieldFlag_chooses _ _ _ _) .nil

theorem Settings.map_ofSlots_fill (vs : List Value) :
    (fill takes layout.start vs).map ofSlots = ofList? vs := by
  rcases vs with - | ⟨a, - | ⟨b, - | ⟨c, - | ⟨d, - | ⟨e, - | ⟨f, - | ⟨g, vs⟩⟩⟩⟩⟩⟩⟩
  all_goals
    simp [fill, takes, layout, ofList?, element, ofSlots, Option.map_eq_bind, Option.bind_assoc]

theorem Settings.load_eq_parse {text : Bytes} {t : String} (hvalid : text = Utf8.encode t) :
    load (.content text) = parse text := by
  simp only [load, Utf8.decode_eq_ok_iff.mpr hvalid]

theorem Settings.answers_unbraced {text : Bytes} {t : String} (h : Unbraced text)
    (hvalid : text = Utf8.encode t) :
    Answers (Settings.load (.content text))
      (fun s => ∃ vs, ListText vs text ∧ ofList? vs = some s) .config := by
  have hrequired : ∀ f ∈ layout.fields, f.required = false := by decide
  rw [load_eq_parse hvalid]
  refine SealedToken.answers_unbraced takes_layout (fun vs s => ?_) (fun _ => rfl) h
  rw [map_ofSlots_fill]
  exact ⟨And.left, fun hs => ⟨hs, fun f hf => hrequired f (List.mem_of_mem_drop hf)⟩⟩

theorem Header.answers_unbraced {text : Bytes} (h : Unbraced text) :
    Answers (Header.parse text) (fun _ => False) .parse := by
  unfold Header.parse
  split
  · simp [Answers, Error.kind]
  · rename_i ms hparse
    obtain ⟨ws, b, rest, hws, hb, -, htext⟩ :=
      (Json.value_reads Json.depthLimit).whole_eq_ok_iff.mp hparse
    cases hb with
    | scalar hb => cases hb
    | object hbody => exact absurd htext (h ws _ hws)
  · simp [Answers, Error.kind]

/-- On a text that is no object, all four readers answer with an error of their
kind, unless the text is a list of the members in order. -/
theorem readers_unbraced {text : Bytes} (h : Unbraced text) :
    Answers (Header.parse text) (fun _ => False) .parse ∧
      Answers (Payload.parse text)
        (fun p => ∃ vs, ListText vs text ∧ Payload.ofList? vs = some p) .claims ∧
      Answers (OctetKey.parse text)
        (fun k => ∃ vs, ListText vs text ∧ OctetKey.ofList? vs = some k) .json ∧
      ∀ t, text = Utf8.encode t → Answers (Settings.load (.content text))
        (fun s => ∃ vs, ListText vs text ∧ Settings.ofList? vs = some s) .config :=
  ⟨Header.answers_unbraced h, Payload.answers_unbraced h, OctetKey.answers_unbraced h,
    fun _ hvalid => Settings.answers_unbraced h hvalid⟩

/-! ### A list of one text -/

def oneTextList : Bytes := Utf8.encode "[\"x\"]"

theorem listText_oneTextList : ListText [.text "x"] oneTextList := by
  have hraw : Json.StringText "x" [0x78] :=
    .cons (.plain (by decide) (by decide) (by decide)) .nil
  have hbody : Json.Entries Json.Scalar true [.text "x"] [0x22, 0x78, 0x22] :=
    .cons (show Json.Lead true [] from Json.blanks_nil) (Json.Scalar.text hraw)
      (.nil Json.blanks_nil)
  exact ⟨[], _, [], Json.blanks_nil, .list hbody, Json.blanks_nil, rfl⟩

/-- A list of one text is a payload and no header. -/
theorem readers_unbraced_list :
    Unbraced oneTextList ∧ Payload.parse oneTextList = .ok ⟨"x"⟩ ∧
      ∀ h, Header.parse oneTextList ≠ .ok h := by
  have hunbraced : Unbraced oneTextList := .of_value listText_oneTextList (by simp)
  obtain ⟨hheader, hpayload, -⟩ := readers_unbraced hunbraced
  exact ⟨hunbraced, (hpayload.1 _).mpr ⟨_, listText_oneTextList, rfl⟩, fun h => (hheader.1 h).mp⟩

/-- The readers of payloads, keys and settings do not insist on an object. -/
theorem lists_accepted :
    Payload.parse (Utf8.encode "[\"x\"]") = .ok ⟨"x"⟩ ∧
      OctetKey.parse (Utf8.encode "[\"oct\", \"AAAA\"]") = .ok ⟨"oct", "AAAA"⟩ ∧
      Settings.load (.content (Utf8.encode "[]")) = .ok Settings.default := by
  decide +kernel

end SealedToken

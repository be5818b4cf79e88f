import SealedToken.Proofs.Documents
import SealedToken.Proofs.Json.Characters
import SealedToken.Proofs.Json.Writer
import SealedToken.Registration.Payload

/-! # Payloads as they are written

A payload is an object with one member `jws`, or a list of this member alone.
The values of other members are passed over without being read, and these are
the only places of a payload where bytes may stand that spell no characters. -/

namespace SealedToken.Payload

open Json (Scalar Passed ListText VerbatimText)
open Utf8 (Valid)

/-- The member `jws`, and other members with the values `ignored`. -/
def Members (p : Payload) (ignored : List Bytes) (ms : List (String × Bytes)) : Prop :=
  ∃ before raw after, ms = before ++ ("jws", raw) :: after ∧ Scalar (.text p.jws) raw ∧
    (∀ m ∈ before ++ after, m.1 ≠ "jws" ∧ Passed m.2) ∧ ignored = (before ++ after).map Prod.snd

/-- The texts of a payload, with the values in them that are passed over. -/
inductive Spelled (p : Payload) : List Bytes → Bytes → Prop
  | list {text : Bytes} (h : ListText [.text p.jws] text) : Spelled p [] text
  | object {ms : List (String × Bytes)} {ignored : List Bytes} {text : Bytes}
    (h : VerbatimText ms text) (hms : p.Members ignored ms) : Spelled p ignored text

/-! ### Reading -/

/-- How the slot is filled from a value as it is written. -/
def Fills (_ : Json.Field Slots) (slots : Slots) : Slots → Bytes → Prop :=
  Json.Typed fun v => v.text?.map fun a => { slots with jws := some a }

theorem fills_layout : ∀ f ∈ layout.fields, ∀ slots, Json.Reads (f.read slots) (Fills f slots) := by
  intro f hf slots
  have hf' : f = _ := List.mem_singleton.mp hf
  rw [hf']
  exact Json.Field.of_takes Json.fieldText_chooses _ _ _ _ slots

theorem find?_layout_eq_none {k : String} :
    layout.fields.find? (·.name = k) = none ↔ k ≠ "jws" := by
  simp [layout, Json.Field.of, eq_comm]

theorem find?_layout_eq_some {k : String} {f : Json.Field Slots}
    (h : layout.fields.find? (·.name = k) = some f) :
    k = "jws" ∧ ∀ slots, f.taken slots = slots.jws.isSome := by
  have hk : k = "jws" := by
    by_contra hne
    rw [find?_layout_eq_none.mpr hne] at h
    cases h
  subst hk
  cases h
  exact ⟨rfl, fun _ => rfl⟩

/-- Behind a member `jws` there is no other one. -/
theorem others_of_stores {slots slots' : Slots} {ms : List (String × Bytes)}
    (h : layout.Stores Fills slots ms slots') (hslots : slots.jws.isSome = true) :
    slots' = slots ∧ ∀ m ∈ ms, m.1 ≠ "jws" ∧ Passed m.2 := by
  induction h with
  | nil => simp
  | passed hk hraw _ ih =>
    obtain ⟨heq, hms⟩ := ih hslots
    exact ⟨heq, List.forall_mem_cons.mpr ⟨⟨find?_layout_eq_none.mp hk, hraw⟩, hms⟩⟩
  | stored hk hfree =>
    rw [(find?_layout_eq_some hk).2, hslots] at hfree
    cases hfree

theorem members_of_stores {slots slots' : Slots} {ms : List (String × Bytes)} {jws : String}
    (h : layout.Stores Fills slots ms slots') (hslots : slots.jws = none)
    (hslots' : slots'.jws = some jws) : ∃ ignored, Members ⟨jws⟩ ignored ms := by
  induction h with
  | nil =>
    rw [hslots] at hslots'
    cases hslots'
  | @passed _ _ k raw ms hk hraw _ ih =>
    obtain ⟨_, before, value, after, rfl, hvalue, hothers, rfl⟩ := ih hslots hslots'
    have hnew : ∀ m ∈ (k, raw) :: before ++ after, m.1 ≠ "jws" ∧ Passed m.2 :=
      List.forall_mem_cons.mpr ⟨⟨find?_layout_eq_none.mp hk, hraw⟩, hothers⟩
    exact ⟨_, (k, raw) :: before, value, after, rfl, hvalue, hnew, rfl⟩
  | @stored _ _ _ k raw ms _ hk _ hraw hrest =>
    obtain ⟨v, hv, htake⟩ := hraw
    obtain ⟨t, ht, hfilled⟩ := Option.map_eq_some_iff.mp htake
    obtain ⟨heq, hothers⟩ := others_of_stores hrest (by rw [← hfilled]; rfl)
    have htext : t = jws := by
      rw [heq, ← hfilled] at hslots'
      exact Option.some.inj hslots'
    rw [Json.Value.text?_eq_some_iff.mp ht, htext] at hv
    rw [(find?_layout_eq_some hk).1]
    exact ⟨_, [], raw, ms, rfl, hv, hothers, rfl⟩

theorem eq_singleton_of_ofList? {vs : List Json.Value} {p : Payload} (h : ofList? vs = some p) :
    vs = [.text p.jws] := by
  unfold ofList? at h
  split at h
  · cases h
    rfl
  · cases h

theorem exists_spelled_of_parse {p : Payload} {text : Bytes} (h : parse text = .ok p) :
    ∃ ignored, p.Spelled ignored text := by
  by_cases hbrace : Json.Unbraced text
  · obtain ⟨vs, htext, hvs⟩ := ((answers_unbraced hbrace).1 p).mp h
    rw [eq_singleton_of_ofList? hvs] at htext
    exact ⟨[], .list htext⟩
  · obtain ⟨slots, hslots, rfl⟩ := Json.map_eq_ok_iff.mp (mapError_eq_ok_iff.mp h)
    obtain ⟨ms, htext, hstores, hmissing⟩ := layout.parse_object_sound fills_layout hslots hbrace
    cases hjws : slots.jws with
    | none => simp [Json.Record.missing?, layout, Json.Field.of, hjws] at hmissing
    | some jws =>
      obtain ⟨ignored, hms⟩ := members_of_stores hstores rfl hjws
      refine ⟨ignored, .object htext ?_⟩
      simpa [ofSlots, hjws] using hms

/-! ### Characters -/

theorem valid_of_list {jws : String} {text : Bytes} (h : ListText [.text jws] text) :
    Valid text := by
  obtain ⟨ws, b, ws', hws, hb, hws', rfl⟩ := h
  have hopen : Json.openList < 0x80 := by decide
  have hclose : Json.closeList < 0x80 := by decide
  cases hb with
  | scalar hb => cases hb
  | list hbody =>
    cases hbody with
    | cons hlead hentry hrest =>
      cases hentry with
      | text hraw =>
        cases hrest with
        | nil hws'' =>
          simp [Json.valid_blanks_append, hws, hws'', Utf8.valid_cons hopen, hlead.valid_append,
            hraw.valid_quoted, Utf8.valid_cons hclose, Json.valid_of_blanks hws']

theorem valid_members {p : Payload} {ignored : List Bytes} {ms : List (String × Bytes)}
    (h : p.Members ignored ms) : (∀ m ∈ ms, Valid m.2) ↔ ∀ raw ∈ ignored, Valid raw := by
  obtain ⟨before, raw, after, rfl, hraw, -, rfl⟩ := h
  have hvalid : Valid raw := by
    cases hraw with
    | text hraw => exact hraw.valid_quoted.mpr Utf8.valid_nil
  simp only [List.forall_mem_append, List.forall_mem_cons, hvalid, true_and, List.forall_mem_map]

/-- A payload is a text exactly if the values that are passed over are texts. -/
theorem Spelled.valid_iff {p : Payload} {ignored : List Bytes} {text : Bytes}
    (h : p.Spelled ignored text) : Valid text ↔ ∀ raw ∈ ignored, Valid raw := by
  cases h with
  | list h => simpa using valid_of_list h
  | object h hms =>
    obtain ⟨ws, body, ws', hws, hbody, hws', rfl⟩ := h
    have hbrace : Json.openObject < 0x80 := by decide
    rw [Json.valid_blanks_append hws, Utf8.valid_cons hbrace, hbody.valid_append,
      valid_members hms]
    simp [Json.valid_of_blanks hws']

/-! ### Writing -/

/-- The one member of a payload. -/
def jwsField : Json.Field Slots :=
  .of "jws" true Slots.jws (fun s v => { s with jws := some v }) Json.fieldText

theorem encode_toJson (p : Payload) :
    Utf8.encode p.toJson = Json.openObject :: Json.quoteMark :: (Json.escapedBytes "jws" ++
      Json.quoteMark :: Json.colon :: Json.quoteMark ::
        (Json.escapedBytes p.jws ++ [Json.quoteMark, Json.closeObject])) := by
  simp only [toJson, Json.written, Utf8.encode, String.toList_ofList, Json.Leaf.chars,
    Json.Leaf.memberChars, List.flatMap_append, List.flatMap_cons, List.flatMap_nil,
    Json.flatMap_quoted, List.append_nil, List.append_assoc, List.cons_append]
  rfl

theorem toJson_eq (p : Payload) : p.toJson = Json.written (Json.textLeaves [("jws", p.jws)]) := rfl

/-- A payload is read as it is written. -/
theorem parse_toJson (p : Payload) : parse (Utf8.encode p.toJson) = .ok p := by
  have hfind : layout.fields.find? (·.name = "jws") = some jwsField := rfl
  have hvalue : Fills jwsField {} { jws := some p.jws }
      (Json.quoteMark :: (Json.escapedBytes p.jws ++ [Json.quoteMark])) :=
    ⟨.text p.jws, .text (Json.stringText_escapedBytes p.jws), rfl⟩
  have hslots : layout.parse (Utf8.encode p.toJson) = .ok { jws := some p.jws } := by
    rw [toJson_eq]
    apply Json.Record.parse_written fills_layout
    · exact .stored hfind rfl hvalue .nil
    · exact List.forall_mem_singleton.mpr (Option.some_ne_none jwsField)
    · rfl
  exact mapError_eq_ok_iff.mpr (Json.map_eq_ok_iff.mpr ⟨_, hslots, rfl⟩)

end SealedToken.Payload

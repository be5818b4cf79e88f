import SealedToken.Key.Octet
import SealedToken.Proofs.Json.Writer

/-! # Keys as they are written

A key is an object of two strings, and every key is read from its object
again, whatever its two texts are. -/

namespace SealedToken.OctetKey

/-! ### Reading -/

/-- How a slot is filled from a value as it is written. -/
def Fills (f : Json.Field Slots) (slots : Slots) : Slots → Bytes → Prop :=
  Json.Typed fun v => v.text?.map fun a =>
    if f.name = "kty" then { slots with kty := some a } else { slots with k := some a }

def ktyField : Json.Field Slots :=
  .of "kty" true Slots.kty (fun s v => { s with kty := some v }) Json.fieldText

def kField : Json.Field Slots :=
  .of "k" true Slots.k (fun s v => { s with k := some v }) Json.fieldText

theorem fills_layout : ∀ f ∈ layout.fields, ∀ slots, Json.Reads (f.read slots) (Fills f slots) := by
  have hkty : ∀ slots, Json.Reads (ktyField.read slots) (Fills ktyField slots) :=
    Json.Field.of_takes Json.fieldText_chooses _ _ _ _
  have hk : ∀ slots, Json.Reads (kField.read slots) (Fills kField slots) :=
    Json.Field.of_takes Json.fieldText_chooses _ _ _ _
  exact List.forall_mem_cons.mpr ⟨hkty, List.forall_mem_singleton.mpr hk⟩

theorem fills_text {f : Json.Field Slots} {slots slots' : Slots} (a : String)
    (h : (if f.name = "kty" then { slots with kty := some a } else { slots with k := some a }) =
      slots') : Fills f slots slots' (Json.quoteMark :: (Json.escapedBytes a ++ [Json.quoteMark])) :=
  ⟨.text a, .text (Json.stringText_escapedBytes a), congrArg some h⟩

/-! ### Writing -/

theorem toJson_eq (key : OctetKey) :
    key.toJson = Json.written (Json.textLeaves [("kty", key.kty), ("k", key.k)]) := rfl

/-- A key is read as it is written. -/
theorem parse_toJson (key : OctetKey) : parse (Utf8.encode key.toJson) = .ok key := by
  have hkty : layout.fields.find? (·.name = "kty") = some ktyField := rfl
  have hk : layout.fields.find? (·.name = "k") = some kField := rfl
  have hslots : layout.parse (Utf8.encode key.toJson) = .ok ⟨some key.kty, some key.k⟩ := by
    rw [toJson_eq]
    apply Json.Record.parse_written fills_layout
    · exact .stored hkty rfl (fills_text key.kty rfl) (.stored hk rfl (fills_text key.k rfl) .nil)
    · exact List.forall_mem_cons.mpr ⟨Option.some_ne_none ktyField,
        List.forall_mem_singleton.mpr (Option.some_ne_none kField)⟩
    · rfl
  exact mapError_eq_ok_iff.mpr (Json.map_eq_ok_iff.mpr ⟨_, hslots, rfl⟩)

end SealedToken.OctetKey

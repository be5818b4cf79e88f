import SealedToken.Proofs.Steps
import SealedToken.Proofs.Text.Base64
import SealedToken.Token.Opening
import SealedToken.Token.Sealing

/-! # What a key text denotes

A key denotes the bytes that its text spells, if it is of the right type. No
other text spells the same bytes. A key that denotes none is a wrong key
wherever its bytes are asked for. -/

namespace SealedToken

namespace OctetKey

/-- The key is of the right type and its text spells these bytes. -/
structure Denotes (key : OctetKey) (b : Bytes) : Prop where
  type : key.kty = keyType
  spelled : key.k = Base64.urlText b

theorem bytes?_eq_some_iff {key : OctetKey} {b : Bytes} : key.bytes? = some b ↔ key.Denotes b := by
  unfold bytes?
  split
  · rename_i htype
    rw [toOption_eq_some_iff, Base64.decode_url_eq_ok_iff]
    exact ⟨fun h => ⟨htype, h⟩, Denotes.spelled⟩
  · rename_i htype
    exact ⟨fun h => (Option.some_ne_none b h.symm).elim, fun h => absurd h.type htype⟩

theorem bytes?_eq_none_iff_forall {key : OctetKey} :
    key.bytes? = none ↔ ∀ b, ¬key.Denotes b := by
  rw [Option.eq_none_iff_forall_ne_some]
  exact forall_congr' fun b => not_congr bytes?_eq_some_iff

theorem bytes?_eq_none_iff {key : OctetKey} :
    key.bytes? = none ↔ key.kty ≠ keyType ∨ ∀ b, key.k ≠ Base64.urlText b := by
  rw [bytes?_eq_none_iff_forall]
  constructor
  · intro h
    by_cases htype : key.kty = keyType
    · exact .inr fun b hb => h b ⟨htype, hb⟩
    · exact .inl htype
  · intro h b hdenotes
    rcases h with htype | hspelled
    · exact htype hdenotes.type
    · exact hspelled b hdenotes.spelled

theorem isSome_bytes?_iff {key : OctetKey} : key.bytes?.isSome = true ↔ ∃ b, key.Denotes b := by
  rw [Option.isSome_iff_exists]
  exact exists_congr fun b => bytes?_eq_some_iff

theorem bytes?_ofBytes (b : Bytes) : (ofBytes b).bytes? = some b :=
  bytes?_eq_some_iff.mpr ⟨rfl, rfl⟩

theorem denotes_iff_eq_ofBytes {key : OctetKey} {b : Bytes} : key.Denotes b ↔ key = ofBytes b := by
  constructor
  · intro h
    calc key = ⟨key.kty, key.k⟩ := rfl
      _ = ofBytes b := by rw [h.type, h.spelled, ofBytes, ofText, Base64.urlText]
  · rintro rfl
    exact ⟨rfl, rfl⟩

theorem Denotes.unique {key key' : OctetKey} {b : Bytes} (h : key.Denotes b)
    (h' : key'.Denotes b) : key = key' :=
  (denotes_iff_eq_ofBytes.mp h).trans (denotes_iff_eq_ofBytes.mp h').symm

end OctetKey

/-! ### Keys that denote nothing -/

theorem Envelope.contentKey_of_none {key : OctetKey} (h : key.bytes? = none) (e : Envelope) :
    e.contentKey key = .fail .wrongKey := by
  rw [contentKey, h]

theorem sealBytes_of_none {key : OctetKey} (h : key.bytes? = none) (text : Bytes)
    (m : KeyManagement) (enc : ContentEncryption) (random : RandomStream) :
    sealBytes text key m enc random = .error .wrongKey := by
  unfold sealBytes
  rw [h]
  rfl

namespace OctetKey

/-- Every byte string is denoted by the key that is made of it, and by no other.
All other keys are wrong keys, for opening as for sealing. -/
theorem bytes_spelled_once :
    (∀ b, (ofBytes b).bytes? = some b) ∧
      (∀ (key : OctetKey) (b : Bytes),
        key.bytes? = some b ↔ key.kty = "oct" ∧ key.k = (ofBytes b).k) ∧
      (∀ key : OctetKey, (∀ b, ¬(key.kty = "oct" ∧ key.k = (ofBytes b).k)) →
        key.bytes? = none ∧ (∀ e : Envelope, e.contentKey key = .fail .wrongKey) ∧
          ∀ text m enc random, sealBytes text key m enc random = .error .wrongKey) ∧
      ∀ (key key' : OctetKey) (b : Bytes),
        key.bytes? = some b → key'.bytes? = some b → key = key' := by
  have hspelled : ∀ (key : OctetKey) (b : Bytes),
      key.bytes? = some b ↔ key.kty = "oct" ∧ key.k = (ofBytes b).k := by
    intro key b
    rw [bytes?_eq_some_iff]
    exact ⟨fun h => ⟨h.type, h.spelled⟩, fun ⟨htype, hk⟩ => ⟨htype, hk⟩⟩
  refine ⟨bytes?_ofBytes, hspelled, fun key hother => ?_, fun key key' b h h' => ?_⟩
  · have hnone : key.bytes? = none :=
      Option.eq_none_iff_forall_ne_some.mpr fun b hb => hother b ((hspelled key b).mp hb)
    exact ⟨hnone, Envelope.contentKey_of_none hnone, sealBytes_of_none hnone⟩
  · exact (bytes?_eq_some_iff.mp h).unique (bytes?_eq_some_iff.mp h')

/-- The last character of one byte carries bits that must be zero. -/
theorem bytes_spelled_once_short :
    (ofText "_w").bytes? = some [0xFF] ∧ (ofText "_x").bytes? = none ∧
      (∀ key, key.bytes? = some [0xFF] → key = ofText "_w") ∧
      sealBytes [0x78] (ofText "_x") .direct (.gcm .bits128) (fun _ => 0) = .error .wrongKey := by
  obtain ⟨hmade, hspelled, hother, honce⟩ := bytes_spelled_once
  have hw : (ofText "_w").bytes? = some [0xFF] := hmade [0xFF]
  have hx : ∀ b, ¬((ofText "_x").kty = "oct" ∧ (ofText "_x").k = (ofBytes b).k) := by
    intro b hb
    have hnone : (ofText "_x").bytes? = none := by decide
    rw [(hspelled _ b).mpr hb] at hnone
    cases hnone
  obtain ⟨hnone, -, hseal⟩ := hother (ofText "_x") hx
  exact ⟨hw, hnone, fun key hkey => honce _ _ _ hkey hw, hseal _ _ _ _⟩

end OctetKey

end SealedToken

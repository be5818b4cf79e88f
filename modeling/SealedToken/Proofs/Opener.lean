import SealedToken.Command.Open
import SealedToken.Proofs.Key.Master
import SealedToken.Proofs.Registration.Payload

/-! # A payload and the text it was read from

Opening a token as a payload and opening it as a text look at the same bytes.
A token with a payload has a text only if the values that the payload's reader
passes over are texts; then the payload is that of the text. -/

namespace SealedToken

open Utf8 (Valid)

namespace Opener

variable {o : Opener} {token : String}

theorem result_text (o : Opener) (token : String) :
    (o.text token).result = (o.bytes token).result >>= sealedText := by
  rw [text, Traced.result_bind]
  rfl

theorem result_payload (o : Opener) (token : String) :
    (o.payload token).result = (o.bytes token).result >>= Payload.parse := by
  rw [payload, Traced.result_bind]
  rfl

/-- The digits of a key stand for it as a stored digest. -/
theorem ofHash_toHex (key : MasterKey) : ofHash key.toHex = .ok (ofMaster key) := by
  rw [ofHash, MasterKey.ofHex_toHex]
  rfl

theorem sealedText_eq_ok_iff {b : Bytes} {t : String} :
    sealedText b = .ok t ↔ b = Utf8.encode t := by
  rw [sealedText, mapError_eq_ok_iff, Utf8.decode_eq_ok_iff]

theorem exists_sealedText_iff {b : Bytes} : (∃ t, sealedText b = .ok t) ↔ Valid b := by
  simp only [sealedText_eq_ok_iff, Utf8.valid_iff]

theorem result_view_claims (settings : Settings) (now : Int) {p : Payload}
    (h : (o.payload token).result = .ok p) :
    (OpenCommand.view .claims o settings token now).result = .ok p.jws := by
  rw [OpenCommand.view, Traced.result_bind, h]
  rfl

/-- A token that opens as a payload opens as a text exactly if the values that
are passed over are texts, and is refused for its content otherwise. What the
commands print is then the payload's member and the text that holds it. -/
theorem text_of_payload {p : Payload} (h : (o.payload token).result = .ok p) :
    ∃ b, (o.bytes token).result = .ok b ∧ (∃ ignored, p.Spelled ignored b) ∧
      (∀ ignored, p.Spelled ignored b →
        ((∃ t, (o.text token).result = .ok t) ↔ ∀ raw ∈ ignored, Valid raw)) ∧
      (∀ err, (o.text token).result = .error err → err.kind = .claims) ∧
      ∀ t, (o.text token).result = .ok t →
        b = Utf8.encode t ∧ Payload.parse (Utf8.encode t) = .ok p ∧
          ∀ settings now,
            (OpenCommand.view .text o settings token now).result = .ok t ∧
              (OpenCommand.view .claims o settings token now).result = .ok p.jws := by
  obtain ⟨b, hb, hp⟩ := bind_eq_ok_iff.mp (result_payload o token ▸ h)
  have htext : (o.text token).result = sealedText b := by
    rw [result_text, hb]
    rfl
  refine ⟨b, hb, Payload.exists_spelled_of_parse hp, fun ignored hspelled => ?_,
    fun err herr => ?_, fun t ht => ?_⟩
  · rw [htext, exists_sealedText_iff, hspelled.valid_iff]
  · rw [htext] at herr
    obtain ⟨fault, -, rfl⟩ := mapError_eq_error_iff.mp herr
    rfl
  · have hspells : b = Utf8.encode t := sealedText_eq_ok_iff.mp (htext ▸ ht)
    have hparse : Payload.parse (Utf8.encode t) = .ok p := by rw [← hspells, hp]
    exact ⟨hspells, hparse, fun settings now => ⟨ht, result_view_claims settings now h⟩⟩

/-! ### A payload with and without bytes that are no text -/

/-- The opener of a stored digest of zero bytes. -/
def zero : Opener := ⟨⟨"oct", "AAAAAAAAAAAAAAAAAAAAAA"⟩⟩

/-- Holds the member `jws`. -/
def plainToken : String :=
  "eyJlbmMiOiJBMTI4R0NNIiwiYWxnIjoiZGlyIn0..AAAAAAAAAAAAAAAA" ++
    ".eKqwuROUmbCSCr8.x4FR33ltI3JNwyQoa54Wlw"

theorem payload_plainToken : (zero.payload plainToken).result = .ok ⟨"a"⟩ :=
  toOption_eq_some_iff.mp (by decide +kernel)

theorem text_of_payload_plain :
    ∃ b, (zero.bytes plainToken).result = .ok b ∧ ∃ ignored, Payload.Spelled ⟨"a"⟩ ignored b := by
  obtain ⟨b, hb, hspelled, -⟩ := text_of_payload payload_plainToken
  exact ⟨b, hb, hspelled⟩

/-- Holds `strayBytes`. -/
def strayToken : String :=
  "eyJlbmMiOiJBMTI4R0NNIiwiYWxnIjoiZGlyIn0..AAAAAAAAAAAAAAAA" ++
    ".eKqi7FqUXLDfCqjOApDEWpa31w.wrjtQG69gdullsHBrVnbrQ"

/-- A payload with a byte that is no character in another member. -/
def strayBytes : Bytes :=
  Utf8.encode "\x7b\"x\":\"" ++ 0xFF :: Utf8.encode "\",\"jws\":\"a\"\x7d"

theorem bytes_strayToken : (zero.bytes strayToken).result = .ok strayBytes :=
  toOption_eq_some_iff.mp (by decide +kernel)

/-- Opening as a payload succeeds where opening as a text does not. -/
theorem payload_without_text :
    (zero.payload strayToken).result = .ok ⟨"a"⟩ ∧
      ∀ t, (zero.text strayToken).result ≠ .ok t := by
  have hpayload : (Payload.parse strayBytes).toOption = some ⟨"a"⟩ := by decide +kernel
  have htext : (sealedText strayBytes).toOption = none := by decide +kernel
  have hok := toOption_eq_some_iff.mp hpayload
  rw [result_payload, result_text, bytes_strayToken]
  refine ⟨bind_eq_ok_iff.mpr ⟨strayBytes, rfl, hok⟩, fun t ht => ?_⟩
  obtain ⟨b, hb, ht⟩ := bind_eq_ok_iff.mp ht
  rw [← Except.ok.inj hb] at ht
  rw [toOption_eq_some_iff.mpr ht] at htext
  cases htext

end Opener

end SealedToken

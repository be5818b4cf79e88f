import Mathlib.Data.List.Basic
import SealedToken.Proofs.Token.Reports
import SealedToken.Proofs.Token.RoundTrip

/-! # Layouts of tokens

What anybody sees of a token without its key: the header, and how long the
segments are. Opening reports on tokens of one layout alike, and sealing gives
texts of one length one layout. -/

namespace SealedToken

namespace Envelope

theorem textParts_of_parse {token : String} {e : Envelope} (h : parse token = .ok e) :
    ∃ first, Utf8.encode first = e.headerText ∧
      textParts '.' token = first ::
        [e.encryptedKey, e.nonce, e.ciphertext, e.tag].map Base64.urlText := by
  have hsegments := map_encode_textParts_of_parse h
  obtain ⟨first, hfirst, hassociated⟩ := exists_first_of_parse h
  refine ⟨first, hassociated, ?_⟩
  have hinjective : Function.Injective Utf8.encode := fun _ _ => Utf8.encode_injective
  apply List.map_injective_iff.mpr hinjective
  rw [hsegments, segments]
  simp only [List.map_cons, List.map_nil, hassociated, associated, Base64.encode_urlText]

end Envelope

theorem Gcm.lengths_of_sealText {key nonce associated text sealedText mac : Bytes}
    (h : sealText key nonce associated text = some (sealedText, mac)) :
    sealedText.length = text.length ∧ mac.length = tagLength := by
  obtain ⟨-, -, hsealed, hmac⟩ := sealText_eq_some_iff.mp h
  rw [hsealed, hmac, mask_length, tag_length]
  exact ⟨rfl, rfl⟩

end SealedToken

import SealedToken.Cipher.Gcm

/-! # Opening undoes sealing

The keystream is summed twice and the tag is computed from the same sealed
text, so a sealed text opens to what was sealed. The other way round, a sealed
text that opens at all is what sealing its text gives, tag included; only the
longest sealed texts that are looked at are longer than what may be sealed. -/

namespace SealedToken.Gcm

theorem sealText_eq_some_iff {key nonce associated text sealedText mac : Bytes} :
    sealText key nonce associated text = some (sealedText, mac) ↔
      text.length ≤ textLimit ∧ associated.length ≤ textLimit ∧
        sealedText = mask (Aes.schedule key) nonce text ∧
        mac = tag (Aes.schedule key) nonce associated sealedText := by
  unfold sealText
  split
  · rename_i hlimits
    simp only [Option.some.injEq, Prod.mk.injEq, hlimits, true_and]
    constructor
    · rintro ⟨rfl, rfl⟩
      exact ⟨rfl, rfl⟩
    · rintro ⟨rfl, rfl⟩
      exact ⟨rfl, rfl⟩
  · rename_i hlimits
    simp only [reduceCtorEq, false_iff]
    rintro ⟨htext, hassociated, -⟩
    exact hlimits ⟨htext, hassociated⟩

theorem exists_sealText {associated text : Bytes} (htext : text.length ≤ textLimit)
    (hassociated : associated.length ≤ textLimit) (key nonce : Bytes) :
    ∃ sealedText mac, sealText key nonce associated text = some (sealedText, mac) :=
  ⟨_, _, sealText_eq_some_iff.mpr ⟨htext, hassociated, rfl, rfl⟩⟩

theorem openText_eq_some_iff {key nonce associated sealedText mac text : Bytes} :
    openText key nonce associated sealedText mac = some text ↔
      sealedText.length ≤ sealedLimit ∧ associated.length ≤ textLimit ∧
        mac = tag (Aes.schedule key) nonce associated sealedText ∧
        text = mask (Aes.schedule key) nonce sealedText := by
  simp only [openText]
  split
  · rename_i hchecks
    simp only [Option.some.injEq, hchecks, true_and]
    exact eq_comm
  · rename_i hchecks
    simp only [reduceCtorEq, false_iff]
    rintro ⟨hsealed, hassociated, hmac, -⟩
    exact hchecks ⟨hsealed, hassociated, hmac⟩

/-- A tag of another length never agrees. -/
theorem mac_length_of_openText {key nonce associated sealedText mac text : Bytes}
    (h : openText key nonce associated sealedText mac = some text) : mac.length = tagLength := by
  obtain ⟨-, -, hmac, -⟩ := openText_eq_some_iff.mp h
  rw [hmac, tag_length]

/-- What the tag covers has one tag. -/
theorem mac_eq_of_openText {key nonce associated sealedText mac mac' text text' : Bytes}
    (h : openText key nonce associated sealedText mac = some text)
    (h' : openText key nonce associated sealedText mac' = some text') : mac' = mac := by
  obtain ⟨-, -, hmac, -⟩ := openText_eq_some_iff.mp h
  obtain ⟨-, -, hmac', -⟩ := openText_eq_some_iff.mp h'
  rw [hmac, hmac']

theorem openJoined_append {mac : Bytes} (h : mac.length = tagLength)
    (key nonce associated sealedText : Bytes) :
    openJoined key nonce associated (sealedText ++ mac) =
      openText key nonce associated sealedText mac := by
  have hlength : (sealedText ++ mac).length - tagLength = sealedText.length := by
    simp [h]
  have hle : tagLength ≤ (sealedText ++ mac).length := by
    simp [h]
  simp only [openJoined, if_pos hle, hlength, List.take_left, List.drop_left]

/-- A text that may be sealed is what its sealed text opens to, and of all
byte strings only its sealed text with its tag opens to it. -/
theorem openText_iff_sealText {key nonce associated sealedText mac text : Bytes}
    (hlimit : text.length ≤ textLimit) :
    openText key nonce associated sealedText mac = some text ↔
      sealText key nonce associated text = some (sealedText, mac) := by
  rw [openText_eq_some_iff, sealText_eq_some_iff]
  constructor
  · rintro ⟨-, hassociated, hmac, rfl⟩
    exact ⟨hlimit, hassociated, (mask_mask _ _ _).symm, hmac⟩
  · rintro ⟨-, hassociated, rfl, hmac⟩
    refine ⟨?_, hassociated, hmac, (mask_mask _ _ _).symm⟩
    rw [mask_length]
    exact Nat.le_trans hlimit (Nat.le_add_right textLimit 16)

end SealedToken.Gcm

import SealedToken.Proofs.Token.Header
import SealedToken.Proofs.Token.Opening

/-! # One tag, and one border before it

An envelope that opens has the one tag under which its ciphertext opens, and
the one border at which its ciphertext ends. The cipher takes both segments in
one row, so it does not see a border that moved; the length of the tag does. -/

namespace SealedToken.Envelope

theorem Resolves.congr {e e' : Envelope} {key : OctetKey} {content : Bytes}
    (h : e.Resolves key content) (hheader : e'.header = e.header)
    (hencrypted : e'.encryptedKey = e.encryptedKey) : e'.Resolves key content := by
  cases h with
  | direct hm hk hl =>
    rw [← hheader] at hm hl
    exact .direct hm hk hl
  | unwrapped hm hk hs hu hl =>
    rw [← hheader] at hm hl
    rw [← hencrypted] at hu
    exact .unwrapped hm hk hs hu hl

/-! ### Envelopes that open -/

theorem nonce_length_of_decrypt {e : Envelope} {key : OctetKey} {text : Bytes}
    (h : (decrypt e key).result = .ok text) : e.nonce.length = 12 := by
  by_contra hn
  rw [result_decrypt_of_ne_nonce hn] at h
  cases h

theorem exists_content_of_decrypt {e : Envelope} {key : OctetKey} {text : Bytes}
    (h : (decrypt e key).result = .ok text) :
    ∃ content, e.Resolves key content ∧
      Gcm.openText content e.nonce e.associated e.ciphertext e.tag = some text := by
  rw [result_decrypt_of_nonce (nonce_length_of_decrypt h)] at h
  rcases resolves_or_keyFails e key with ⟨content, hr⟩ | hfails
  · rw [result_decryptWith_of_resolves hr] at h
    exact ⟨content, hr, runCipher_eq_ok_iff.mp h⟩
  · rw [result_decryptWith_of_keyFails hfails] at h
    cases h

/-- The tag is another one, or the border before it moved while the row of
ciphertext and tag stayed. -/
inductive Altered (e e' : Envelope) : Prop
  | tag (hciphertext : e'.ciphertext = e.ciphertext) (h : e'.tag ≠ e.tag)
  | border (hrow : e'.ciphertext ++ e'.tag = e.ciphertext ++ e.tag)
    (h : e'.ciphertext ≠ e.ciphertext)

/-- With the tag as its segment has it, an altered copy of what opens does not open. -/
theorem Altered.openText_eq_none {e e' : Envelope} (halt : Altered e e')
    {content nonce associated text : Bytes}
    (h : Gcm.openText content nonce associated e.ciphertext e.tag = some text) :
    Gcm.openText content nonce associated e'.ciphertext e'.tag = none := by
  rw [Option.eq_none_iff_forall_ne_some]
  intro text' h'
  cases halt with
  | tag hciphertext hne =>
    rw [hciphertext] at h'
    exact hne (Gcm.mac_eq_of_openText h h')
  | border hrow hne =>
    have hlength : e'.tag.length = e.tag.length :=
      (Gcm.mac_length_of_openText h').trans (Gcm.mac_length_of_openText h).symm
    exact hne (List.append_inj_left' hrow hlength)

/-- An envelope that opens under a key has no other tag, and its ciphertext and
tag have no other border: an altered copy is refused for its tag. Envelopes are
read or assembled, so their header texts spell their headers. -/
theorem decrypt_altered {e e' : Envelope} {key : OctetKey} {text : Bytes}
    (he : e.HeaderAgrees) (he' : e'.HeaderAgrees) (h : (decrypt e key).result = .ok text)
    (hheader : e'.headerText = e.headerText) (hencrypted : e'.encryptedKey = e.encryptedKey)
    (hnonce : e'.nonce = e.nonce) (halt : Altered e e') :
    (decrypt e' key).result = .error .wrongTag := by
  obtain ⟨content, hr, hopen⟩ := exists_content_of_decrypt h
  have hr' : e'.Resolves key content := hr.congr (he.header_eq he' hheader) hencrypted
  have hassociated : e'.associated = e.associated := hheader
  have hlength : e'.nonce.length = 12 := by
    rw [hnonce]
    exact nonce_length_of_decrypt h
  rw [result_decrypt_of_nonce hlength, result_decryptWith_of_resolves hr', runCipher_eq, hnonce,
    hassociated, halt.openText_eq_none hopen]

/-! ### An envelope and its copies -/

def threeBytesTag : Bytes :=
  [0x22, 0x97, 0x81, 0xD7, 0xD2, 0xCA, 0xF6, 0x84, 0x76, 0xF5, 0x77, 0xD3, 0x16, 0x24, 0xB3, 0xF7]

/-- The bytes 1, 2 and 3 under a key and a nonce of zero bytes, with another
border before the tag or another tag. -/
def threeBytes (ciphertext tag : Bytes) : Envelope :=
  assemble (Header.plain .direct (.gcm .bits128)) [] (List.replicate 12 0) ciphertext tag

theorem decrypt_threeBytes :
    (decrypt (threeBytes [0x02, 0x8A, 0xD9] threeBytesTag)
      ⟨"oct", "AAAAAAAAAAAAAAAAAAAAAA"⟩).result = .ok [1, 2, 3] :=
  toOption_eq_some_iff.mp (by decide +kernel)

/-- The border one byte to the right, and the tag with a bit turned. -/
theorem decrypt_threeBytes_altered :
    (decrypt (threeBytes [0x02, 0x8A, 0xD9, 0x22] threeBytesTag.tail)
        ⟨"oct", "AAAAAAAAAAAAAAAAAAAAAA"⟩).result = .error .wrongTag ∧
      (decrypt (threeBytes [0x02, 0x8A, 0xD9] (0x23 :: threeBytesTag.tail))
        ⟨"oct", "AAAAAAAAAAAAAAAAAAAAAA"⟩).result = .error .wrongTag :=
  ⟨decrypt_altered (headerAgrees_assemble ..) (headerAgrees_assemble ..) decrypt_threeBytes rfl rfl
      rfl (.border rfl (by decide)),
    decrypt_altered (headerAgrees_assemble ..) (headerAgrees_assemble ..) decrypt_threeBytes rfl rfl
      rfl (.tag rfl (by decide))⟩

end SealedToken.Envelope

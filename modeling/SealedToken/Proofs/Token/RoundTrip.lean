import SealedToken.Proofs.Token.Opening
import SealedToken.Proofs.Token.Sealing

/-! # Sealing and opening

What is sealed under a key opens under it to the same text. And a token with a
header as sealing writes it that opens to a text is what sealing writes for
that text under some stream of random bytes: nothing else opens. -/

namespace SealedToken

/-! ### Streams -/

namespace RandomStream

/-- A stream that starts with the given bytes. -/
def startingWith (b : Bytes) : RandomStream := fun i => b[i]?.getD 0

theorem draw_startingWith (a b c : Bytes) :
    (startingWith (a ++ b ++ c)).draw a.length b.length = b := by
  apply List.ext_getElem
  · exact draw_length _ _ _
  intro i hi hb
  simp only [draw, startingWith, List.getElem_map, List.getElem_range]
  rw [List.append_assoc, List.getElem?_append_right (Nat.le_add_right _ _),
    Nat.add_sub_cancel_left, List.getElem?_append_left hb, List.getElem?_eq_getElem hb]
  rfl

end RandomStream

/-! ### Content keys on both sides -/

namespace Sealed

/-- Opening finds the content key of sealing. -/
theorem resolves_of_contentKey {m : KeyManagement} {enc : ContentEncryption} {shared : Bytes}
    {random : RandomStream} {content : ContentKey} {key : OctetKey} {e : Envelope}
    (hk : key.Denotes shared) (hcontent : contentKey m enc shared random = .ok content)
    (hl : content.key.length = enc.keyLength) (hplain : e.Plain m enc)
    (hencrypted : e.encryptedKey = content.encrypted) : e.Resolves key content.key := by
  rw [← hplain.enc] at hl
  cases m with
  | direct =>
    cases contentKey_direct_eq_ok_iff.mp hcontent
    exact .direct hplain.alg hk hl
  | wrap size =>
    obtain ⟨hs, rfl⟩ := contentKey_wrap_eq_ok_iff.mp hcontent
    have hdrawn := random.draw_length 0 enc.keyLength
    refine .unwrapped hplain.alg hk hs ?_ hl
    rw [hencrypted]
    apply KeyWrap.unwrap?_wrap
    · rw [hdrawn]
      exact enc.keyLength_mod
    · rw [hdrawn]
      exact enc.keyLength_pos

/-- Sealing may draw the content key that opening found, and any nonce. -/
theorem exists_contentKey_of_resolves {m : KeyManagement} {enc : ContentEncryption}
    {e : Envelope} {key : OctetKey} {content : Bytes} (hplain : e.Plain m enc)
    (hdirect : m = .direct → e.encryptedKey = []) (h : e.Resolves key content) (nonce : Bytes) :
    ∃ shared random drawn, key.Denotes shared ∧
      contentKey m enc shared random = .ok ⟨content, e.encryptedKey, drawn⟩ ∧
      random.draw drawn nonce.length = nonce := by
  cases h with
  | direct hm hk hl =>
    have hm' : m = .direct := hplain.alg.symm.trans hm
    have hdraw := RandomStream.draw_startingWith [] nonce []
    rw [List.nil_append, List.append_nil] at hdraw
    refine ⟨content, .startingWith nonce, 0, hk, ?_, hdraw⟩
    rw [hdirect hm', hm', contentKey]
  | @unwrapped size shared hm hk hs hu hl =>
    have hm' : m = .wrap size := hplain.alg.symm.trans hm
    rw [hplain.enc] at hl
    -- The stream starts with the content key and goes on with the nonce.
    have hdrawKey := RandomStream.draw_startingWith [] content nonce
    rw [List.nil_append, hl, List.length_nil] at hdrawKey
    have hdrawNonce := RandomStream.draw_startingWith content nonce []
    rw [List.append_nil, hl] at hdrawNonce
    refine ⟨shared, .startingWith (content ++ nonce), enc.keyLength, hk, ?_, hdrawNonce⟩
    rw [hm', contentKey_wrap_eq_ok_iff, hdrawKey, KeyWrap.wrap_of_unwrap? hu]
    exact ⟨hs, rfl⟩

end Sealed

/-! ### The round trip -/

/-- The length of the shared key that an algorithm asks for. -/
def KeyManagement.sharedLength (m : KeyManagement) (enc : ContentEncryption) : Nat :=
  m.wrappingLength?.getD enc.keyLength

/-- The envelope that sealing writes opens to the text. -/
theorem Sealed.outcome_of_envelope {m : KeyManagement} {enc : ContentEncryption} {shared : Bytes}
    {random : RandomStream} {content : ContentKey} {key : OctetKey} {text : Bytes} {e : Envelope}
    (hk : key.Denotes shared) (hcontent : contentKey m enc shared random = .ok content)
    (hl : content.key.length = enc.keyLength)
    (he : envelope m enc content (random.draw content.drawn Gcm.nonceLength) text = .ok e) :
    Envelope.Outcome e.serialize key (.ok text) := by
  obtain ⟨hplain, hencrypted, hnonce, hseal⟩ := envelope_eq_ok_iff.mp he
  have hparse := Envelope.parse_serialize hplain.headerAgrees
  have hlength : e.nonce.length = 12 := by
    rw [hnonce]
    exact random.draw_length _ _
  have hlimit := (Gcm.sealText_eq_some_iff.mp hseal).1
  have hopen := (Gcm.openText_iff_sealText hlimit).mpr hseal
  rw [← hnonce] at hopen
  have hrun := Envelope.runCipher_eq_ok_iff.mpr hopen
  exact .opened ⟨hparse, hlength⟩ (resolves_of_contentKey hk hcontent hl hplain hencrypted)
    ((Envelope.runCipher_eq_ok_iff_cipherOpens hparse).mp hrun)

/-- A shared key of the length that is asked for gives a content key of the right length. -/
theorem Sealed.exists_contentKey {m : KeyManagement} {enc : ContentEncryption} {shared : Bytes}
    (hl : shared.length = m.sharedLength enc) (random : RandomStream) :
    ∃ content, contentKey m enc shared random = .ok content ∧
      content.key.length = enc.keyLength := by
  cases m with
  | direct => exact ⟨_, contentKey_direct_eq_ok_iff.mpr rfl, hl⟩
  | wrap size => exact ⟨_, contentKey_wrap_eq_ok_iff.mpr ⟨hl, rfl⟩, random.draw_length _ _⟩

theorem exists_sealBytes {text shared : Bytes} {key : OctetKey} {m : KeyManagement}
    {enc : ContentEncryption} (hk : key.Denotes shared)
    (hl : shared.length = m.sharedLength enc) (hlimit : text.length ≤ Gcm.textLimit)
    (random : RandomStream) : ∃ s, sealBytes text key m enc random = .ok s := by
  obtain ⟨content, hcontent, hlength⟩ := Sealed.exists_contentKey hl random
  obtain ⟨e, he⟩ := Sealed.exists_envelope m enc content
    (random.draw content.drawn Gcm.nonceLength) hlimit
  exact ⟨_, sealBytes_eq_ok_iff.mpr ⟨shared, content, e, hk, hcontent, hlength, he, rfl⟩⟩

/-- Whatever is sealed opens to what it was; and a text that is not too long
is sealed under every key of the length that the algorithm asks for. -/
theorem sealBytes_opens (text : Bytes) (key : OctetKey) (m : KeyManagement)
    (enc : ContentEncryption) (random : RandomStream) :
    (∀ s, sealBytes text key m enc random = .ok s →
        (decryptToken s.token key).result = .ok text) ∧
      ((∃ shared, key.kty = "oct" ∧ key.k = Base64.urlText shared ∧
          shared.length = m.sharedLength enc) →
        text.length ≤ Gcm.textLimit → ∃ s, sealBytes text key m enc random = .ok s) := by
  constructor
  · intro s h
    obtain ⟨shared, content, e, hk, hcontent, hl, he, rfl⟩ := sealBytes_eq_ok_iff.mp h
    exact (Sealed.outcome_of_envelope hk hcontent hl he).result_eq
  · rintro ⟨shared, htype, hspelled, hl⟩ hlimit
    exact exists_sealBytes ⟨htype, hspelled⟩ hl hlimit random

/-! ### Nothing else opens -/

/-- A sealed token starts with the header of its algorithms. -/
theorem head_textParts_of_sealBytes {text : Bytes} {key : OctetKey} {m : KeyManagement}
    {enc : ContentEncryption} {random : RandomStream} {s : Sealed}
    (h : sealBytes text key m enc random = .ok s) :
    (textParts '.' s.token).head? = some (Header.plainText m enc) := by
  obtain ⟨shared, content, e, -, -, -, he, rfl⟩ := sealBytes_eq_ok_iff.mp h
  have hplain := (Sealed.envelope_eq_ok_iff.mp he).1
  obtain ⟨first, hfirst, hassociated⟩ :=
    Envelope.exists_first_of_parse (Envelope.parse_serialize hplain.headerAgrees)
  rw [hplain.associated_eq] at hassociated
  rw [hfirst, Utf8.encode_injective hassociated]

/-- An envelope with a header as sealing writes it that the cipher opens is
written by sealing, once the stream gives its content key and its nonce. -/
theorem sealBytes_of_resolves {e : Envelope} {key : OctetKey} {m : KeyManagement}
    {enc : ContentEncryption} {content text : Bytes} (hplain : e.Plain m enc)
    (hdirect : m = .direct → e.encryptedKey = []) (hnonce : e.nonce.length = 12)
    (hresolves : e.Resolves key content)
    (hopen : Gcm.openText content e.nonce e.associated e.ciphertext e.tag = some text)
    (hlimit : text.length ≤ Gcm.textLimit) :
    ∃ random, (sealBytes text key m enc random).map Sealed.token = .ok e.serialize := by
  obtain ⟨shared, random, drawn, hk, hcontent, hdraw⟩ :=
    Sealed.exists_contentKey_of_resolves hplain hdirect hresolves e.nonce
  rw [hnonce] at hdraw
  have hlength := hresolves.content_length
  rw [hplain.enc] at hlength
  have hseal := (Gcm.openText_iff_sealText hlimit).mp hopen
  have he : Sealed.envelope m enc ⟨content, e.encryptedKey, drawn⟩ e.nonce text = .ok e :=
    Sealed.envelope_eq_ok_iff.mpr ⟨hplain, rfl, rfl, hseal⟩
  rw [← hdraw] at he
  refine ⟨random, ?_⟩
  rw [sealBytes_eq_ok_iff.mpr ⟨shared, _, e, hk, hcontent, hlength, he, rfl⟩]
  rfl

/-- A token that opens, with a header as sealing writes it and no encrypted key
where none is used, is what sealing writes for the text under some stream. -/
theorem sealBytes_of_decryptToken {token : String} {key : OctetKey} {m : KeyManagement}
    {enc : ContentEncryption} {text : Bytes}
    (hheader : (textParts '.' token).head? = some (Header.plainText m enc))
    (hdirect : m = .direct → (textParts '.' token)[1]? = some "")
    (h : (decryptToken token key).result = .ok text) (hlimit : text.length ≤ Gcm.textLimit) :
    ∃ random, (sealBytes text key m enc random).map Sealed.token = .ok token := by
  obtain ⟨e, content, hspelled, hresolves, hopens⟩ := Envelope.result_decryptToken_eq_ok_iff.mp h
  have hparse := hspelled.parsed
  have hopen := Envelope.runCipher_eq_ok_iff.mp
    ((Envelope.runCipher_eq_ok_iff_cipherOpens hparse).mpr hopens)
  have hplain : e.Plain m enc := by
    obtain ⟨first, hfirst, hassociated⟩ := Envelope.exists_first_of_parse hparse
    rw [hheader, Option.some.injEq] at hfirst
    rw [← hfirst] at hassociated
    exact (Envelope.headerAgrees_of_parse hparse).plain hassociated.symm
  have hempty : m = .direct → e.encryptedKey = [] := by
    intro hm
    have hsecond := congrArg (·[1]?) (Envelope.map_encode_textParts_of_parse hparse)
    simp only [List.getElem?_map, hdirect hm, Option.map_some] at hsecond
    exact Base64.encode_injective Base64.url_lawful (Option.some.inj hsecond).symm
  obtain ⟨random, hrandom⟩ :=
    sealBytes_of_resolves hplain hempty hspelled.nonce hresolves hopen hlimit
  rw [Envelope.serialize_of_parse hparse] at hrandom
  exact ⟨random, hrandom⟩

/-- Three bytes sealed under a key of zero bytes, with a nonce of zero bytes. -/
theorem sealBytes_of_decryptToken_zero :
    ∃ random,
      (sealBytes [1, 2, 3] ⟨"oct", "AAAAAAAAAAAAAAAAAAAAAA"⟩ .direct (.gcm .bits128) random).map
        Sealed.token = .ok
      "eyJlbmMiOiJBMTI4R0NNIiwiYWxnIjoiZGlyIn0..AAAAAAAAAAAAAAAA.AorZ.IpeB19LK9oR29XfTFiSz9w" := by
  have hparts : textParts '.'
      "eyJlbmMiOiJBMTI4R0NNIiwiYWxnIjoiZGlyIn0..AAAAAAAAAAAAAAAA.AorZ.IpeB19LK9oR29XfTFiSz9w" =
      [Header.plainText .direct (.gcm .bits128), "", "AAAAAAAAAAAAAAAA", "AorZ",
        "IpeB19LK9oR29XfTFiSz9w"] := by
    rw [textParts_eq_splitOn]
    decide +kernel
  apply sealBytes_of_decryptToken
  · rw [hparts]
    rfl
  · intro _
    rw [hparts]
    rfl
  · exact toOption_eq_some_iff.mp (by decide +kernel)
  · decide

end SealedToken

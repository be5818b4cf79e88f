import SealedToken.Proofs.Token.Layout

/-! # Random bytes in a sealed token

What each part of a sealed token is made of. The content key, where one is
wrapped, and the nonce are consecutive pieces of the random stream, so they
share no byte; no other byte of the stream matters, and the lengths of the
parts follow from the text and the algorithms. -/

namespace SealedToken

/-- The bytes drawn depend on their own places in the stream only. -/
theorem RandomStream.draw_congr {r r' : RandomStream} {start n : Nat}
    (h : ∀ i < start + n, r' i = r i) : r'.draw start n = r.draw start n := by
  refine List.map_congr_left fun i hi => ?_
  have hlt := List.mem_range.mp hi
  exact h (start + i) (by omega)

namespace Sealed

/-! ### The content key -/

/-- How a content key comes about, what the token carries of it, and how many
bytes were drawn for it. -/
inductive Keying (enc : ContentEncryption) (shared : Bytes) (random : RandomStream) :
    KeyManagement → ContentKey → Prop
  | direct : Keying enc shared random .direct ⟨shared, [], 0⟩
  | wrapped {size : KeySize} {key : Bytes} (hkey : key = random.draw 0 enc.keyLength) :
    Keying enc shared random (.wrap size) ⟨key, KeyWrap.stepwise shared key, enc.keyLength⟩

theorem keying_of_contentKey {m : KeyManagement} {enc : ContentEncryption} {shared : Bytes}
    {random : RandomStream} {content : ContentKey}
    (h : contentKey m enc shared random = .ok content) : Keying enc shared random m content := by
  cases m with
  | direct =>
    cases contentKey_direct_eq_ok_iff.mp h
    exact .direct
  | wrap size =>
    obtain ⟨-, rfl⟩ := contentKey_wrap_eq_ok_iff.mp h
    rw [KeyWrap.wrap_eq_stepwise]
    exact .wrapped rfl

theorem contentKey_congr {m : KeyManagement} {enc : ContentEncryption} {shared : Bytes}
    {random random' : RandomStream} {content : ContentKey}
    (h : contentKey m enc shared random = .ok content)
    (hsame : ∀ i < content.drawn, random' i = random i) :
    contentKey m enc shared random' = .ok content := by
  cases m with
  | direct => exact h
  | wrap size =>
    obtain ⟨hs, rfl⟩ := contentKey_wrap_eq_ok_iff.mp h
    have hdraw : random'.draw 0 enc.keyLength = random.draw 0 enc.keyLength :=
      RandomStream.draw_congr (by simpa using hsame)
    exact contentKey_wrap_eq_ok_iff.mpr ⟨hs, by rw [hdraw]⟩

/-! ### The parts of a token -/

/-- What the token of a text is made of. -/
structure Parts (s : Sealed) (text : Bytes) (key : OctetKey) (m : KeyManagement)
    (enc : ContentEncryption) (random : RandomStream) where
  envelope : Envelope
  parsed : Envelope.parse s.token = .ok envelope
  header : envelope.header = { enc, alg := m, kid := none, typ := none, cty := none }
  headerText : (textParts '.' s.token).head? = some (Header.plainText m enc)
  shared : Bytes
  denotes : key.Denotes shared
  content : ContentKey
  keying : Keying enc shared random m content
  encryptedKey : envelope.encryptedKey = content.encrypted
  /-- The nonce is what comes next in the stream, -/
  nonce : envelope.nonce = random.draw content.drawn 12
  /-- and the last of what is drawn from it. -/
  drawn : s.drawn = content.drawn + 12
  sealing : Gcm.sealText content.key envelope.nonce envelope.associated text =
    some (envelope.ciphertext, envelope.tag)
  ciphertext_length : envelope.ciphertext.length = text.length
  tag_length : envelope.tag.length = 16
  /-- Three bytes are four characters, rounded up. -/
  characters : (textParts '.' s.token).tail.map String.length =
    [envelope.encryptedKey, envelope.nonce, envelope.ciphertext, envelope.tag].map
      fun b => (4 * b.length + 2) / 3

variable {s : Sealed} {text : Bytes} {key : OctetKey} {m : KeyManagement}
  {enc : ContentEncryption} {random random' : RandomStream}

theorem nonempty_parts (h : sealBytes text key m enc random = .ok s) :
    Nonempty (s.Parts text key m enc random) := by
  have hfirst := head_textParts_of_sealBytes h
  obtain ⟨shared, content, e, hk, hcontent, -, he, rfl⟩ := sealBytes_eq_ok_iff.mp h
  obtain ⟨hplain, hencrypted, hnonce, hseal⟩ := envelope_eq_ok_iff.mp he
  obtain ⟨hciphertext, htag⟩ := Gcm.lengths_of_sealText hseal
  have hparse := Envelope.parse_serialize hplain.headerAgrees
  obtain ⟨first, -, hparts⟩ := Envelope.textParts_of_parse hparse
  rw [← hnonce] at hseal
  exact ⟨{
    envelope := e
    parsed := hparse
    header := hplain.header
    headerText := hfirst
    shared := shared
    denotes := hk
    content := content
    keying := keying_of_contentKey hcontent
    encryptedKey := hencrypted
    nonce := hnonce
    drawn := rfl
    sealing := hseal
    ciphertext_length := hciphertext
    tag_length := htag
    characters := by
      rw [hparts, List.tail_cons, List.map_map]
      exact List.map_congr_left fun b _ => Base64.urlText_length b }⟩

theorem sealBytes_congr (h : sealBytes text key m enc random = .ok s)
    (hsame : ∀ i < s.drawn, random' i = random i) : sealBytes text key m enc random' = .ok s := by
  obtain ⟨shared, content, e, hk, hcontent, hl, he, rfl⟩ := sealBytes_eq_ok_iff.mp h
  have hnonce : random'.draw content.drawn Gcm.nonceLength =
      random.draw content.drawn Gcm.nonceLength := RandomStream.draw_congr hsame
  rw [← hnonce] at he
  have hcontent' := contentKey_congr hcontent fun i hi => hsame i (Nat.lt_add_right _ hi)
  exact sealBytes_eq_ok_iff.mpr ⟨shared, content, e, hk, hcontent', hl, he, rfl⟩

/-- Every token that is sealed has its parts, made of the key, the text and
consecutive pieces of the stream; and nothing else was drawn, since the bytes
behind those pieces may be any. -/
theorem parts_of_sealBytes (h : sealBytes text key m enc random = .ok s) :
    Nonempty (s.Parts text key m enc random) ∧
      ∀ random' : RandomStream, (∀ i < s.drawn, random' i = random i) →
        sealBytes text key m enc random' = .ok s :=
  ⟨nonempty_parts h, fun _ hsame => sealBytes_congr h hsame⟩

/-- Three bytes under a wrapped key: the stream gives sixteen bytes for the
content key and twelve for the nonce. -/
theorem parts_of_sealBytes_wrapped :
    ∃ (s : Sealed) (e : Envelope),
      sealBytes [1, 2, 3] (.ofText "AAAAAAAAAAAAAAAAAAAAAA") (.wrap .bits128) (.gcm .bits128)
          UInt8.ofNat = .ok s ∧
        Envelope.parse s.token = .ok e ∧ s.drawn = 28 ∧
        e.encryptedKey = KeyWrap.stepwise (List.replicate 16 0)
          [0, 1, 2, 3, 4, 5, 6, 7, 8, 9, 10, 11, 12, 13, 14, 15] ∧
        e.nonce = [16, 17, 18, 19, 20, 21, 22, 23, 24, 25, 26, 27] ∧
        e.ciphertext.length = 3 ∧ e.tag.length = 16 := by
  have hdenotes : (OctetKey.ofText "AAAAAAAAAAAAAAAAAAAAAA").Denotes (List.replicate 16 0) :=
    ⟨rfl, rfl⟩
  obtain ⟨s, hs⟩ : ∃ s, sealBytes [1, 2, 3] (.ofText "AAAAAAAAAAAAAAAAAAAAAA") (.wrap .bits128)
      (.gcm .bits128) UInt8.ofNat = .ok s := exists_sealBytes hdenotes rfl (by decide) UInt8.ofNat
  obtain ⟨⟨parts⟩, -⟩ := parts_of_sealBytes hs
  have hshared : parts.shared = List.replicate 16 0 :=
    Base64.urlText_injective (parts.denotes.spelled.symm.trans hdenotes.spelled)
  -- The keying says what the content key is, so the case of a wrapped one is enough.
  have hkeying := hshared ▸ parts.keying
  have hencrypted := parts.encryptedKey
  have hnonce := parts.nonce
  have hdrawn := parts.drawn
  generalize parts.content = content at hkeying hencrypted hnonce hdrawn
  cases hkeying with
  | wrapped hkey =>
    rw [hkey] at hencrypted
    exact ⟨s, parts.envelope, hs, parts.parsed, hdrawn, hencrypted, hnonce,
      parts.ciphertext_length, parts.tag_length⟩

end Sealed

end SealedToken

import SealedToken.Proofs.Cipher.Gcm
import SealedToken.Proofs.Key.Octet
import SealedToken.Proofs.Steps
import SealedToken.Proofs.Token.Header
import SealedToken.Proofs.Token.Wrapping
import SealedToken.Token.Sealing

/-! # What sealing writes

The header that sealing writes is read as it was meant, and is short enough to
be authenticated. Sealing succeeds exactly if each of its steps does, and its
token is then the written form of one envelope. -/

namespace SealedToken

/-! ### Algorithms -/

theorem KeyManagement.mem_all (m : KeyManagement) : m ∈ all := by
  cases m with
  | direct => decide
  | wrap size => cases size <;> decide

theorem ContentEncryption.mem_all (enc : ContentEncryption) : enc ∈ all := by
  cases enc with
  | gcm size => cases size <;> decide

/-- A content key has two semiblocks at least, and nothing besides. -/
theorem ContentEncryption.keyLength_mod (enc : ContentEncryption) : enc.keyLength % 8 = 0 := by
  cases enc with
  | gcm size => cases size <;> rfl

theorem ContentEncryption.keyLength_pos (enc : ContentEncryption) : 0 < enc.keyLength := by
  cases enc with
  | gcm size => cases size <;> decide

/-! ### Written headers -/

namespace Header

/-- A header without remarks as it stands in a token. -/
def plainText (m : KeyManagement) (enc : ContentEncryption) : String :=
  Base64.urlText (Utf8.encode (plain m enc).toJson)

theorem encode_plainText (m : KeyManagement) (enc : ContentEncryption) :
    Utf8.encode (plainText m enc) = Base64.encode Base64.url (Utf8.encode (plain m enc).toJson) :=
  Base64.encode_urlText _

/-- Says of every header without remarks what was checked of the twelve. -/
theorem forall_plain {P : Header → Prop}
    (h : ∀ m ∈ KeyManagement.all, ∀ enc ∈ ContentEncryption.all, P (plain m enc))
    (m : KeyManagement) (enc : ContentEncryption) : P (plain m enc) :=
  h m m.mem_all enc enc.mem_all

end Header

namespace Envelope

theorem associated_plain_length (m : KeyManagement) (enc : ContentEncryption) :
    (assemble (Header.plain m enc) [] [] [] []).associated.length ≤ Gcm.textLimit :=
  Header.forall_plain (P := fun h => (assemble h [] [] [] []).associated.length ≤ Gcm.textLimit)
    (by decide +kernel) m enc

/-- The header of an envelope is one without remarks, written as sealing does. -/
structure Plain (e : Envelope) (m : KeyManagement) (enc : ContentEncryption) : Prop where
  header : e.header = Header.plain m enc
  text : e.headerText = Base64.encode Base64.url (Utf8.encode (Header.plain m enc).toJson)

theorem Plain.alg {e : Envelope} {m : KeyManagement} {enc : ContentEncryption}
    (h : e.Plain m enc) : e.header.alg = m := congrArg Header.alg h.header

theorem Plain.enc {e : Envelope} {m : KeyManagement} {enc : ContentEncryption}
    (h : e.Plain m enc) : e.header.enc = enc := congrArg Header.enc h.header

theorem Plain.associated_eq {e : Envelope} {m : KeyManagement} {enc : ContentEncryption}
    (h : e.Plain m enc) : e.associated = Utf8.encode (Header.plainText m enc) := by
  rw [associated, h.text, Header.encode_plainText]

theorem Plain.eq_assemble {e : Envelope} {m : KeyManagement} {enc : ContentEncryption}
    (h : e.Plain m enc) :
    e = assemble (Header.plain m enc) e.encryptedKey e.nonce e.ciphertext e.tag :=
  calc e = ⟨e.headerText, e.header, e.encryptedKey, e.nonce, e.ciphertext, e.tag⟩ := rfl
    _ = assemble (Header.plain m enc) e.encryptedKey e.nonce e.ciphertext e.tag := by
      rw [h.text, h.header, assemble]

theorem Plain.headerAgrees {e : Envelope} {m : KeyManagement} {enc : ContentEncryption}
    (h : e.Plain m enc) : e.HeaderAgrees := by
  rw [h.eq_assemble]
  exact headerAgrees_assemble ..

theorem HeaderAgrees.plain {e : Envelope} {m : KeyManagement} {enc : ContentEncryption}
    (h : e.HeaderAgrees) (htext : e.associated = Utf8.encode (Header.plainText m enc)) :
    e.Plain m enc := by
  rw [Header.encode_plainText] at htext
  have hplain : (assemble (Header.plain m enc) [] [] [] []).HeaderAgrees :=
    headerAgrees_assemble ..
  exact ⟨hplain.header_eq h htext, htext⟩

end Envelope

/-! ### Steps of sealing -/

namespace Sealed

theorem contentKey_direct_eq_ok_iff {enc : ContentEncryption} {shared : Bytes}
    {random : RandomStream} {content : ContentKey} :
    contentKey .direct enc shared random = .ok content ↔ content = ⟨shared, [], 0⟩ := by
  rw [contentKey, Except.ok.injEq]
  exact eq_comm

theorem contentKey_wrap_eq_ok_iff {size : KeySize} {enc : ContentEncryption} {shared : Bytes}
    {random : RandomStream} {content : ContentKey} :
    contentKey (.wrap size) enc shared random = .ok content ↔
      shared.length = size.bytes ∧
        content = ⟨random.draw 0 enc.keyLength,
          KeyWrap.wrap shared (random.draw 0 enc.keyLength), enc.keyLength⟩ := by
  rw [contentKey]
  constructor
  · intro h
    cases hwrap : size.wrapKey shared (random.draw 0 enc.keyLength) with
    | error err => rw [hwrap] at h; cases h
    | ok wrapped =>
      obtain ⟨hs, rfl⟩ := KeySize.wrapKey_eq_ok_iff.mp hwrap
      rw [hwrap] at h
      exact ⟨hs, (Except.ok.inj h).symm⟩
  · rintro ⟨hs, rfl⟩
    rw [KeySize.wrapKey_eq_ok_iff.mpr ⟨hs, rfl⟩]
    rfl

theorem envelope_eq_ok_iff {m : KeyManagement} {enc : ContentEncryption} {content : ContentKey}
    {nonce text : Bytes} {e : Envelope} :
    envelope m enc content nonce text = .ok e ↔
      e.Plain m enc ∧ e.encryptedKey = content.encrypted ∧ e.nonce = nonce ∧
        Gcm.sealText content.key nonce e.associated text = some (e.ciphertext, e.tag) := by
  constructor
  · intro h
    unfold envelope at h
    dsimp only at h
    split at h
    · rename_i ciphertext tag hseal
      have he := Except.ok.inj h
      subst he
      exact ⟨⟨rfl, rfl⟩, rfl, rfl, hseal⟩
    · cases h
  · rintro ⟨hplain, hencrypted, hnonce, hseal⟩
    have hassociated :
        (Envelope.assemble (Header.plain m enc) [] [] [] []).associated = e.associated :=
      hplain.text.symm
    rw [envelope, hassociated, hseal, ← hencrypted, ← hnonce]
    exact congrArg Except.ok hplain.eq_assemble.symm

theorem exists_envelope (m : KeyManagement) (enc : ContentEncryption) (content : ContentKey)
    (nonce : Bytes) {text : Bytes} (hlimit : text.length ≤ Gcm.textLimit) :
    ∃ e, envelope m enc content nonce text = .ok e := by
  obtain ⟨ciphertext, tag, hseal⟩ := Gcm.exists_sealText hlimit
    (Envelope.associated_plain_length m enc) content.key nonce
  exact ⟨.assemble (Header.plain m enc) content.encrypted nonce ciphertext tag,
    envelope_eq_ok_iff.mpr ⟨⟨rfl, rfl⟩, rfl, rfl, hseal⟩⟩

end Sealed

/-- Sealing succeeds exactly if the key denotes bytes, they give a content key
of the right length, and the cipher takes the text. -/
theorem sealBytes_eq_ok_iff {text : Bytes} {key : OctetKey} {m : KeyManagement}
    {enc : ContentEncryption} {random : RandomStream} {s : Sealed} :
    sealBytes text key m enc random = .ok s ↔
      ∃ shared content e, key.Denotes shared ∧
        Sealed.contentKey m enc shared random = .ok content ∧
        content.key.length = enc.keyLength ∧
        Sealed.envelope m enc content (random.draw content.drawn Gcm.nonceLength) text = .ok e ∧
        s = ⟨e.serialize, content.drawn + Gcm.nonceLength⟩ := by
  unfold sealBytes
  cases hb : key.bytes? with
  | none =>
    constructor
    · intro h
      cases h
    · rintro ⟨shared, -, -, hk, -⟩
      rw [OctetKey.bytes?_eq_some_iff.mpr hk] at hb
      cases hb
  | some shared =>
    have hk := OctetKey.bytes?_eq_some_iff.mp hb
    constructor
    · intro h
      obtain ⟨content, hcontent, h⟩ := bind_eq_ok_iff.mp h
      split at h
      · cases h
      rename_i hl
      obtain ⟨e, he, h⟩ := bind_eq_ok_iff.mp h
      exact ⟨shared, content, e, hk, hcontent, Decidable.not_not.mp hl, he, (Except.ok.inj h).symm⟩
    · rintro ⟨shared', content, e, hk', hcontent, hl, he, rfl⟩
      rw [OctetKey.bytes?_eq_some_iff.mpr hk'] at hb
      cases hb
      refine bind_eq_ok_iff.mpr ⟨content, hcontent, ?_⟩
      rw [if_neg (not_not_intro hl)]
      exact bind_eq_ok_iff.mpr ⟨e, he, rfl⟩

end SealedToken

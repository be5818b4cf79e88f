import SealedToken.Proofs.Token.RoundTrip

/-! # How sealing fails

Sealing fails for a key that denotes no bytes, for a shared key of a length
that the algorithms do not ask for, and for a text beyond the limit of the
cipher; the random bytes have no part in it. Of these only the first is told as
opening tells a wrong key. -/

namespace SealedToken

/-! ### Failing steps -/

theorem KeySize.wrapKey_eq_error_iff {size : KeySize} {shared key : Bytes} {err : Error} :
    size.wrapKey shared key = .error err ↔
      shared.length ≠ size.bytes ∧ err = .keyLength size.bytes (KeyManagement.wrap size).name := by
  unfold wrapKey
  split
  · rename_i hs
    simp only [reduceCtorEq, hs, ne_eq, not_true_eq_false, false_and]
  · rename_i hs
    rw [Except.error.injEq]
    exact ⟨fun h => ⟨hs, h.symm⟩, fun h => h.2.symm⟩

namespace Sealed

theorem contentKey_wrap_eq_error_iff {size : KeySize} {enc : ContentEncryption} {shared : Bytes}
    {random : RandomStream} {err : Error} :
    contentKey (.wrap size) enc shared random = .error err ↔
      shared.length ≠ size.bytes ∧ err = .keyLength size.bytes (KeyManagement.wrap size).name := by
  have hwrap : size.wrapKey shared (random.draw 0 enc.keyLength) = .error err ↔ _ :=
    KeySize.wrapKey_eq_error_iff
  rw [← hwrap, contentKey]
  cases size.wrapKey shared (random.draw 0 enc.keyLength) with
  | error e =>
    show Except.error e = .error err ↔ _
    rw [Except.error.injEq, Except.error.injEq]
  | ok wrapped =>
    show Except.ok _ = .error err ↔ _
    simp only [reduceCtorEq]

theorem envelope_eq_error_iff {m : KeyManagement} {enc : ContentEncryption} {content : ContentKey}
    {nonce text : Bytes} {err : Error} :
    envelope m enc content nonce text = .error err ↔
      Gcm.textLimit < text.length ∧ err = .textTooLong := by
  unfold envelope
  dsimp only
  split
  · rename_i ciphertext tag hseal
    have hlimit := (Gcm.sealText_eq_some_iff.mp hseal).1
    simp only [reduceCtorEq, Nat.not_lt.mpr hlimit, false_and]
  · rename_i hnone
    have hlimit : Gcm.textLimit < text.length := by
      refine Nat.lt_of_not_le fun hle => ?_
      obtain ⟨sealedText, mac, hseal⟩ := Gcm.exists_sealText hle
        (Envelope.associated_plain_length m enc) content.key nonce
      rw [hnone] at hseal
      cases hseal
    rw [Except.error.injEq]
    exact ⟨fun h => ⟨hlimit, h.symm⟩, fun h => h.2.symm⟩

end Sealed

/-! ### Causes -/

/-- The ways for sealing to fail. -/
inductive SealingFails (text : Bytes) (key : OctetKey) (m : KeyManagement)
    (enc : ContentEncryption) : Error → Prop
  | key (h : ∀ b, ¬key.Denotes b) : SealingFails text key m enc .wrongKey
  | directLength {shared : Bytes} (hk : key.Denotes shared) (hm : m = .direct)
    (h : shared.length ≠ enc.keyLength) :
    SealingFails text key m enc (.keyLength enc.keyLength enc.name)
  | wrappingLength {size : KeySize} {shared : Bytes} (hk : key.Denotes shared)
    (hm : m = .wrap size) (h : shared.length ≠ size.bytes) :
    SealingFails text key m enc (.keyLength size.bytes m.name)
  | textLength {shared : Bytes} (hk : key.Denotes shared)
    (hl : shared.length = m.sharedLength enc) (h : Gcm.textLimit < text.length) :
    SealingFails text key m enc .textTooLong

/-- A key that denotes bytes leaves two ways to fail: their length and the text. -/
theorem sealBytes_eq_error_iff_of_denotes {text : Bytes} {key : OctetKey} {m : KeyManagement}
    {enc : ContentEncryption} {random : RandomStream} {shared : Bytes} {err : Error}
    (hk : key.Denotes shared) :
    sealBytes text key m enc random = .error err ↔
      Sealed.contentKey m enc shared random = .error err ∨
        ∃ content, Sealed.contentKey m enc shared random = .ok content ∧
          (content.key.length ≠ enc.keyLength ∧ err = .keyLength enc.keyLength enc.name ∨
            content.key.length = enc.keyLength ∧ Gcm.textLimit < text.length ∧
              err = .textTooLong) := by
  unfold sealBytes
  rw [OctetKey.bytes?_eq_some_iff.mpr hk]
  dsimp only
  rw [bind_eq_error_iff]
  refine or_congr_right (exists_congr fun content => and_congr_right fun _ => ?_)
  by_cases hl : content.key.length = enc.keyLength
  · rw [if_neg (not_not_intro hl)]
    have hlast : ∀ (x : Except Error Envelope) (f : Envelope → Sealed),
        (x >>= fun e => Except.ok (f e)) = .error err ↔ x = .error err := by
      intro x f
      rw [bind_eq_error_iff]
      simp only [reduceCtorEq, and_false, exists_false, or_false]
    refine (hlast _ _).trans ?_
    rw [Sealed.envelope_eq_error_iff]
    simp only [hl, ne_eq, not_true_eq_false, false_and, false_or, true_and]
  · rw [if_pos hl]
    show Except.error _ = .error err ↔ _
    simp only [Except.error.injEq, hl, ne_eq, not_false_eq_true, true_and, false_and, or_false]
    exact eq_comm

theorem sealBytes_eq_error_iff_of_undecodable {text : Bytes} {key : OctetKey} {m : KeyManagement}
    {enc : ContentEncryption} {random : RandomStream} {err : Error} (h : ∀ b, ¬key.Denotes b) :
    sealBytes text key m enc random = .error err ↔ err = .wrongKey := by
  rw [sealBytes_of_none (OctetKey.bytes?_eq_none_iff_forall.mpr h), Except.error.injEq]
  exact eq_comm

/-- The causes are all there are, whatever the random bytes. -/
theorem sealBytes_eq_error_iff {text : Bytes} {key : OctetKey} {m : KeyManagement}
    {enc : ContentEncryption} {random : RandomStream} {err : Error} :
    sealBytes text key m enc random = .error err ↔ SealingFails text key m enc err := by
  constructor
  · intro h
    by_cases hb : ∃ shared, key.Denotes shared
    · obtain ⟨shared, hk⟩ := hb
      rw [sealBytes_eq_error_iff_of_denotes hk] at h
      cases m with
      | direct =>
        rcases h with h | ⟨content, hcontent, h⟩
        · cases h
        obtain rfl := Sealed.contentKey_direct_eq_ok_iff.mp hcontent
        rcases h with ⟨hl, rfl⟩ | ⟨hl, htext, rfl⟩
        · exact .directLength hk rfl hl
        · exact .textLength hk hl htext
      | wrap size =>
        rcases h with h | ⟨content, hcontent, h⟩
        · obtain ⟨hl, rfl⟩ := Sealed.contentKey_wrap_eq_error_iff.mp h
          exact .wrappingLength hk rfl hl
        obtain ⟨hl, rfl⟩ := Sealed.contentKey_wrap_eq_ok_iff.mp hcontent
        rcases h with ⟨hdrawn, -⟩ | ⟨-, htext, rfl⟩
        · exact absurd (random.draw_length 0 enc.keyLength) hdrawn
        · exact .textLength hk hl htext
    · rw [sealBytes_eq_error_iff_of_undecodable (not_exists.mp hb)] at h
      rw [h]
      exact .key (not_exists.mp hb)
  · intro h
    cases h with
    | key h => exact (sealBytes_eq_error_iff_of_undecodable h).mpr rfl
    | directLength hk hm hl =>
      subst hm
      exact (sealBytes_eq_error_iff_of_denotes hk).mpr
        (.inr ⟨_, Sealed.contentKey_direct_eq_ok_iff.mpr rfl, .inl ⟨hl, rfl⟩⟩)
    | wrappingLength hk hm hl =>
      subst hm
      exact (sealBytes_eq_error_iff_of_denotes hk).mpr
        (.inl (Sealed.contentKey_wrap_eq_error_iff.mpr ⟨hl, rfl⟩))
    | textLength hk hl htext =>
      obtain ⟨content, hcontent, hlength⟩ := Sealed.exists_contentKey hl random
      exact (sealBytes_eq_error_iff_of_denotes hk).mpr
        (.inr ⟨content, hcontent, .inr ⟨hlength, htext, rfl⟩⟩)

/-! ### Kinds of failures -/

/-- The first letters differ. -/
theorem encryption_error_append_ne (detail : String) :
    "Encryption error: " ++ detail ≠ "Decryption failed" := by
  intro h
  have hfirst := congrArg (fun s => s.toList.head?) h
  simp only [String.toList_append] at hfirst
  cases hfirst

theorem Kind.encryption_message_ne (detail : String) :
    message .encryption detail ≠ "Decryption failed" := encryption_error_append_ne detail

theorem SealingFails.kind {text : Bytes} {key : OctetKey} {m : KeyManagement}
    {enc : ContentEncryption} {err : Error} (h : SealingFails text key m enc err) :
    (∃ b, key.Denotes b) ∧ err.kind = .encryption ∨ (∀ b, ¬key.Denotes b) ∧ err = .wrongKey := by
  cases h with
  | key h => exact .inr ⟨h, rfl⟩
  | directLength hk | wrappingLength hk | textLength hk => exact .inl ⟨⟨_, hk⟩, rfl⟩

/-- Sealing fails for the causes above and no other. A failure is one of
encryption exactly if the key denotes bytes; it is told as a failure to open
exactly if the key denotes none. -/
theorem sealBytes_failures (text : Bytes) (key : OctetKey) (m : KeyManagement)
    (enc : ContentEncryption) (random : RandomStream) :
    (∀ err, sealBytes text key m enc random = .error err ↔ SealingFails text key m enc err) ∧
      ∀ err, SealingFails text key m enc err →
        (err.kind = .encryption ↔ ∃ b, key.Denotes b) ∧
          (err.kind.isDecryptionFailure = true ↔ ∀ b, ¬key.Denotes b) ∧
          (err.message = "Decryption failed" ↔ ∀ b, ¬key.Denotes b) := by
  refine ⟨fun err => sealBytes_eq_error_iff, fun err h => ?_⟩
  rcases h.kind with ⟨hk, hkind⟩ | ⟨hk, rfl⟩
  · have hnot : ¬∀ b, ¬key.Denotes b := fun h => hk.elim h
    rw [Error.message, hkind]
    exact ⟨iff_of_true rfl hk, iff_of_false (by decide) hnot,
      iff_of_false (Kind.encryption_message_ne err.detail) hnot⟩
  · have hnot : ¬∃ b, key.Denotes b := not_exists.mpr hk
    exact ⟨iff_of_false (by decide) hnot, iff_of_true rfl hk, iff_of_true rfl hk⟩

/-- A key of another type: sealing says that it failed to open. -/
theorem sealBytes_undecodable_key :
    ¬∀ (text : Bytes) (key : OctetKey) (m : KeyManagement) (enc : ContentEncryption)
        (random : RandomStream) (err : Error), sealBytes text key m enc random = .error err →
          err.kind = .encryption ∧ err.kind.isDecryptionFailure = false ∧
            err.message ≠ "Decryption failed" := by
  intro h
  have hfail : sealBytes [0x78] ⟨"RSA", "CGyEZUf9ildQ-46nQMXmuw"⟩ .direct (.gcm .bits128)
      (fun _ => 0) = .error .wrongKey := rfl
  exact absurd (h _ _ _ _ _ _ hfail).1 (by decide)

end SealedToken

import SealedToken.Proofs.Cipher.Gcm
import SealedToken.Proofs.Key.Octet
import SealedToken.Proofs.Steps
import SealedToken.Proofs.Token.Envelope
import SealedToken.Proofs.Token.Wrapping
import SealedToken.Token.Opening

/-! # How opening ends

Opening ends in one of four ways. The token is refused for what it says, with
the same error under every key; or the key fails; or the cipher does; or there
is a text. The relations of this file say when, in terms of what the token and
the key spell. The key that stands in for a failed one never shows. -/

namespace SealedToken

/-! ### Refusals -/

/-- A failure that blames the token and not the key. -/
def Error.IsRefusal (e : Error) : Prop := e.kind = .parse ∨ e.kind = .unsupported

theorem Header.isRefusal_of_ofDraft {d : Draft} {err : Error} (h : ofDraft d = .error err) :
    err.IsRefusal := by
  unfold ofDraft at h
  rcases d with ⟨enc, alg, kid, typ, cty, zip, crit⟩
  cases zip with
  | some name => cases h; exact .inr rfl
  | none =>
    by_cases hcrit : crit = []
    · subst hcrit
      rcases bind_eq_error_iff.mp h with henc | ⟨enc', -, h⟩
      · unfold ContentEncryption.parse at henc
        split at henc
        · cases henc
        · cases henc; exact .inr rfl
      rcases bind_eq_error_iff.mp h with halg | ⟨alg', -, h⟩
      · unfold KeyManagement.parse at halg
        split at halg
        · cases halg
        · cases halg; exact .inr rfl
      cases h
    · simp only [ne_eq, hcrit, not_false_eq_true, if_true] at h
      cases h; exact .inr rfl

theorem Header.isRefusal_of_parse {json : Bytes} {err : Error} (h : parse json = .error err) :
    err.IsRefusal := by
  unfold parse at h
  split at h
  · cases h; exact .inl rfl
  · rcases bind_eq_error_iff.mp h with hdraft | ⟨d, -, hofDraft⟩
    · obtain ⟨cause, -, rfl⟩ := mapError_eq_error_iff.mp hdraft
      exact .inl rfl
    · exact isRefusal_of_ofDraft hofDraft
  · cases h; exact .inl rfl

namespace Envelope

theorem isRefusal_of_decodeSegment {s : Segment} {text : Bytes} {err : Error}
    (h : decodeSegment s text = .error err) : err.IsRefusal := by
  obtain ⟨fault, -, rfl⟩ := mapError_eq_error_iff.mp h
  exact .inl rfl

theorem isRefusal_of_ofSegments {parts : List Bytes} {err : Error}
    (h : ofSegments parts = .error err) : err.IsRefusal := by
  unfold ofSegments at h
  split at h
  · split at h
    · cases h; exact .inl rfl
    rcases bind_eq_error_iff.mp h with h | ⟨json, -, h⟩
    · exact isRefusal_of_decodeSegment h
    rcases bind_eq_error_iff.mp h with h | ⟨hd, -, h⟩
    · exact Header.isRefusal_of_parse h
    rcases bind_eq_error_iff.mp h with h | ⟨ek, -, h⟩
    · exact isRefusal_of_decodeSegment h
    rcases bind_eq_error_iff.mp h with h | ⟨n, -, h⟩
    · exact isRefusal_of_decodeSegment h
    rcases bind_eq_error_iff.mp h with h | ⟨c, -, h⟩
    · exact isRefusal_of_decodeSegment h
    rcases bind_eq_error_iff.mp h with h | ⟨t, -, h⟩
    · exact isRefusal_of_decodeSegment h
    cases h
  · cases h; exact .inl rfl

/-- Why a token is refused, whatever the key. -/
inductive Refused (token : String) : Error → Prop
  | malformed {err : Error} (h : parse token = .error err) : Refused token err
  | nonceLength {e : Envelope} (h : parse token = .ok e) (hn : e.nonce.length ≠ 12) :
    Refused token (.nonceLength e.nonce.length)

theorem Refused.isRefusal {token : String} {err : Error} (h : Refused token err) :
    err.IsRefusal := by
  cases h with
  | malformed h => exact isRefusal_of_ofSegments h
  | nonceLength h hn => exact .inl rfl

/-- A token that is not refused spells an envelope. -/
structure Spelled (token : String) (e : Envelope) : Prop where
  parsed : parse token = .ok e
  nonce : e.nonce.length = 12

theorem refused_or_spelled (token : String) :
    (∃ err, Refused token err) ∨ ∃ e, Spelled token e := by
  cases h : parse token with
  | error err => exact .inl ⟨err, .malformed h⟩
  | ok e =>
    by_cases hn : e.nonce.length = 12
    · exact .inr ⟨e, h, hn⟩
    · exact .inl ⟨_, .nonceLength h hn⟩

/-! ### The content key -/

/-- The ways for a key to fail on an envelope. -/
inductive KeyFails (e : Envelope) (key : OctetKey) : Prop
  | type (h : key.kty ≠ "oct")
  | spelling (h : ∀ b, key.k ≠ Base64.urlText b)
  | directLength {shared : Bytes} (hm : e.header.alg = .direct)
    (hk : key.k = Base64.urlText shared) (h : shared.length ≠ e.header.enc.keyLength)
  | sharedLength {size : KeySize} {shared : Bytes} (hm : e.header.alg = .wrap size)
    (hk : key.k = Base64.urlText shared) (h : shared.length ≠ size.bytes)
  | wrappedLength {size : KeySize} (hm : e.header.alg = .wrap size)
    (h : e.encryptedKey.length < 16 ∨ e.encryptedKey.length % 8 ≠ 0)
  | unwrapping {size : KeySize} {shared : Bytes} (hm : e.header.alg = .wrap size)
    (hk : key.k = Base64.urlText shared) (h : KeyWrap.unwrap? shared e.encryptedKey = none)
  | contentLength {size : KeySize} {shared content : Bytes} (hm : e.header.alg = .wrap size)
    (hk : key.k = Base64.urlText shared)
    (hu : KeyWrap.unwrap? shared e.encryptedKey = some content)
    (h : content.length ≠ e.header.enc.keyLength)

/-- The content key that a key gives on an envelope. -/
inductive Resolves (e : Envelope) (key : OctetKey) (content : Bytes) : Prop
  | direct (hm : e.header.alg = .direct) (hk : key.Denotes content)
    (hl : content.length = e.header.enc.keyLength)
  | unwrapped {size : KeySize} {shared : Bytes} (hm : e.header.alg = .wrap size)
    (hk : key.Denotes shared) (hs : shared.length = size.bytes)
    (hu : KeyWrap.unwrap? shared e.encryptedKey = some content)
    (hl : content.length = e.header.enc.keyLength)

theorem Resolves.content_length {e : Envelope} {key : OctetKey} {content : Bytes}
    (h : e.Resolves key content) : content.length = e.header.enc.keyLength := by
  cases h with
  | direct _ _ hl => exact hl
  | unwrapped _ _ _ _ hl => exact hl

theorem resolves_or_keyFails (e : Envelope) (key : OctetKey) :
    (∃ content, e.Resolves key content) ∨ e.KeyFails key := by
  cases hb : key.bytes? with
  | none =>
    rcases OctetKey.bytes?_eq_none_iff.mp hb with htype | hspelling
    · exact .inr (.type htype)
    · exact .inr (.spelling hspelling)
  | some shared =>
    have hk := OctetKey.bytes?_eq_some_iff.mp hb
    cases hm : e.header.alg with
    | direct =>
      by_cases hl : shared.length = e.header.enc.keyLength
      · exact .inl ⟨shared, .direct hm hk hl⟩
      · exact .inr (.directLength hm hk.spelled hl)
    | wrap size =>
      by_cases hs : shared.length = size.bytes
      · cases hu : KeyWrap.unwrap? shared e.encryptedKey with
        | none => exact .inr (.unwrapping hm hk.spelled hu)
        | some content =>
          by_cases hl : content.length = e.header.enc.keyLength
          · exact .inl ⟨content, .unwrapped hm hk hs hu hl⟩
          · exact .inr (.contentLength hm hk.spelled hu hl)
      · exact .inr (.sharedLength hm hk.spelled hs)

theorem Resolves.not_keyFails {e : Envelope} {key : OctetKey} {content : Bytes}
    (h : e.Resolves key content) : ¬e.KeyFails key := by
  intro hfails
  -- Each way to fail denies what the key resolved by: a key text spells one
  -- byte string, and an envelope names one algorithm.
  cases h with
  | direct hm hk hl =>
    cases hfails with
    | type h => exact h hk.type
    | spelling h => exact h content hk.spelled
    | directLength _ hk' h =>
      rw [Base64.urlText_injective (hk'.symm.trans hk.spelled)] at h
      exact h hl
    | sharedLength hm' | wrappedLength hm' | unwrapping hm' | contentLength hm' =>
      cases hm.symm.trans hm'
  | unwrapped hm hk hs hu hl =>
    cases hfails with
    | type h => exact h hk.type
    | spelling h => exact h _ hk.spelled
    | directLength hm' => cases hm.symm.trans hm'
    | sharedLength hm' hk' h =>
      rw [Base64.urlText_injective (hk'.symm.trans hk.spelled)] at h
      cases hm.symm.trans hm'
      exact h hs
    | wrappedLength hm' h =>
      rw [KeyWrap.unwrap?_eq_none_of_length h] at hu
      cases hu
    | unwrapping hm' hk' h =>
      rw [Base64.urlText_injective (hk'.symm.trans hk.spelled), hu] at h
      cases h
    | contentLength hm' hk' hu' h =>
      rw [Base64.urlText_injective (hk'.symm.trans hk.spelled), hu] at hu'
      cases hu'
      exact h hl

theorem checkLength_eq_ok_iff {enc : ContentEncryption} {key content : Bytes} :
    checkLength enc key = .ok content ↔ key = content ∧ content.length = enc.keyLength := by
  unfold checkLength
  split
  · rename_i hl
    rw [Except.ok.injEq]
    exact ⟨fun h => ⟨h, h ▸ hl⟩, And.left⟩
  · rename_i hl
    constructor
    · intro h
      cases h
    · rintro ⟨rfl, hl'⟩
      exact absurd hl' hl

theorem checkLength_error {enc : ContentEncryption} {key : Bytes} {err : Error}
    (h : checkLength enc key = .error err) : err = .wrongKey := by
  unfold checkLength at h
  split at h
  · cases h
  · cases h; rfl

theorem result_candidateKey (e : Envelope) (shared : Bytes) :
    (candidateKey e shared).result =
      match e.header.alg with
      | .direct => .ok shared
      | .wrap size => size.unwrapKey shared e.encryptedKey := by
  unfold candidateKey
  cases e.header.alg with
  | direct => dsimp only; split <;> rfl
  | wrap size => rfl

theorem result_contentKey (e : Envelope) {key : OctetKey} {shared : Bytes}
    (hk : key.Denotes shared) :
    (contentKey e key).result =
      (candidateKey e shared).result >>= checkLength e.header.enc := by
  rw [contentKey, OctetKey.bytes?_eq_some_iff.mpr hk]
  exact Traced.result_bind _ _

/-- Opening finds the content key that the relation names. -/
theorem result_contentKey_eq_ok_iff {e : Envelope} {key : OctetKey} {content : Bytes} :
    (contentKey e key).result = .ok content ↔ e.Resolves key content := by
  constructor
  · intro h
    cases hb : key.bytes? with
    | none =>
      rw [contentKey_of_none hb] at h
      cases h
    | some shared =>
      have hk := OctetKey.bytes?_eq_some_iff.mp hb
      rw [result_contentKey e hk, bind_eq_ok_iff] at h
      obtain ⟨candidate, hcandidate, hcheck⟩ := h
      obtain ⟨rfl, hl⟩ := checkLength_eq_ok_iff.mp hcheck
      rw [result_candidateKey] at hcandidate
      cases hm : e.header.alg with
      | direct =>
        rw [hm] at hcandidate
        cases hcandidate
        exact .direct hm hk hl
      | wrap size =>
        rw [hm] at hcandidate
        obtain ⟨hs, hu⟩ := KeySize.unwrapKey_eq_ok_iff.mp hcandidate
        exact .unwrapped hm hk hs hu hl
  · intro h
    cases h with
    | direct hm hk hl =>
      rw [result_contentKey e hk, result_candidateKey, hm]
      exact checkLength_eq_ok_iff.mpr ⟨rfl, hl⟩
    | unwrapped hm hk hs hu hl =>
      rw [result_contentKey e hk, result_candidateKey, hm]
      dsimp only
      rw [KeySize.unwrapKey_eq_ok_iff.mpr ⟨hs, hu⟩]
      exact checkLength_eq_ok_iff.mpr ⟨rfl, hl⟩

theorem contentKey_error {e : Envelope} {key : OctetKey} {err : Error}
    (h : (contentKey e key).result = .error err) : err = .wrongKey := by
  cases hb : key.bytes? with
  | none =>
    rw [contentKey_of_none hb] at h
    cases h; rfl
  | some shared =>
    rw [result_contentKey e (OctetKey.bytes?_eq_some_iff.mp hb), bind_eq_error_iff] at h
    rcases h with hcandidate | ⟨candidate, -, hcheck⟩
    · rw [result_candidateKey] at hcandidate
      split at hcandidate
      · cases hcandidate
      · exact KeySize.unwrapKey_error hcandidate
    · exact checkLength_error hcheck

theorem result_contentKey_of_keyFails {e : Envelope} {key : OctetKey} (h : e.KeyFails key) :
    (contentKey e key).result = .error .wrongKey := by
  cases hresult : (contentKey e key).result with
  | error err => rw [contentKey_error hresult]
  | ok content => exact absurd h (result_contentKey_eq_ok_iff.mp hresult).not_keyFails

/-! ### The cipher -/

theorem result_decryptWith_of_keyFails {e : Envelope} {key : OctetKey} (h : e.KeyFails key) :
    (decryptWith e key).result = .error .wrongKey := by
  rw [decryptWith, result_contentKey_of_keyFails h]
  rfl

theorem result_decryptWith_of_resolves {e : Envelope} {key : OctetKey} {content : Bytes}
    (h : e.Resolves key content) : (decryptWith e key).result = e.runCipher content := by
  rw [decryptWith, result_contentKey_eq_ok_iff.mpr h]
  rfl

/-- With the check of the tag's length, the border of the segments is where the
cipher finds the tag. -/
theorem runCipher_eq (e : Envelope) (content : Bytes) :
    e.runCipher content =
      match Gcm.openText content e.nonce e.associated e.ciphertext e.tag with
      | some text => .ok text
      | none => .error .wrongTag := by
  unfold runCipher
  by_cases htag : e.tag.length = Gcm.tagLength
  · have hjoined := Gcm.openJoined_append htag content e.nonce e.associated e.ciphertext
    rw [hjoined]
    cases Gcm.openText content e.nonce e.associated e.ciphertext e.tag with
    | none => simp only [ne_eq, htag, not_true_eq_false, if_false]
    | some text => simp only [ne_eq, htag, not_true_eq_false, if_false]
  · have hnone : Gcm.openText content e.nonce e.associated e.ciphertext e.tag = none := by
      rw [Option.eq_none_iff_forall_ne_some]
      intro text hopen
      exact htag (Gcm.mac_length_of_openText hopen)
    simp only [ne_eq, htag, not_false_eq_true, if_true, hnone]

theorem runCipher_eq_ok_iff {e : Envelope} {content text : Bytes} :
    e.runCipher content = .ok text ↔
      Gcm.openText content e.nonce e.associated e.ciphertext e.tag = some text := by
  rw [runCipher_eq]
  split
  · rename_i text' hopen
    rw [hopen, Except.ok.injEq, Option.some.injEq]
  · rename_i hopen
    rw [hopen]
    simp only [reduceCtorEq]

theorem runCipher_eq_error_iff {e : Envelope} {content : Bytes} {err : Error} :
    e.runCipher content = .error err ↔
      Gcm.openText content e.nonce e.associated e.ciphertext e.tag = none ∧ err = .wrongTag := by
  rw [runCipher_eq]
  split
  · rename_i text hopen
    rw [hopen]
    simp only [reduceCtorEq, false_and]
  · rename_i hopen
    rw [hopen, Except.error.injEq]
    exact ⟨fun h => ⟨rfl, h.symm⟩, fun h => h.2.symm⟩

/-! ### Tokens -/

theorem result_decrypt_of_nonce {e : Envelope} (h : e.nonce.length = 12) (key : OctetKey) :
    (decrypt e key).result = (decryptWith e key).result := by
  rw [decrypt, Traced.result_bind]
  exact congrArg Traced.result (if_neg (not_not_intro h))

theorem result_decrypt_of_ne_nonce {e : Envelope} (h : e.nonce.length ≠ 12) (key : OctetKey) :
    (decrypt e key).result = .error (.nonceLength e.nonce.length) := by
  rw [decrypt, Traced.result_bind]
  exact congrArg Traced.result (if_pos h)

theorem result_decryptToken_of_parse {token : String} {e : Envelope} (h : parse token = .ok e)
    (key : OctetKey) : (decryptToken token key).result = (decrypt e key).result := by
  rw [decryptToken, Traced.result_bind, h]
  rfl

theorem result_decryptToken_of_refused {token : String} {err : Error} (h : Refused token err)
    (key : OctetKey) : (decryptToken token key).result = .error err := by
  cases h with
  | malformed h =>
    rw [decryptToken, Traced.result_bind, h]
    rfl
  | nonceLength h hn => rw [result_decryptToken_of_parse h, result_decrypt_of_ne_nonce hn]

theorem result_decryptToken_of_spelled {token : String} {e : Envelope} (h : Spelled token e)
    (key : OctetKey) : (decryptToken token key).result = (decryptWith e key).result := by
  rw [result_decryptToken_of_parse h.parsed, result_decrypt_of_nonce h.nonce]

/-! ### Outcomes -/

/-- The cipher opens the envelope of a token to a text. What the tag covers
besides the sealed text is the token before its first dot, as it stands. -/
structure CipherOpens (token : String) (e : Envelope) (content text : Bytes) : Prop where
  tag : e.tag.length = 16
  opened : ∃ first, (textParts '.' token).head? = some first ∧
    Gcm.openText content e.nonce (Utf8.encode first) e.ciphertext e.tag = some text

inductive CipherFails (token : String) (e : Envelope) (content : Bytes) : Prop
  | tagLength (h : e.tag.length ≠ 16)
  | opening {first : String} (hf : (textParts '.' token).head? = some first)
    (h : Gcm.openText content e.nonce (Utf8.encode first) e.ciphertext e.tag = none)

theorem exists_first_of_parse {token : String} {e : Envelope} (h : parse token = .ok e) :
    ∃ first, (textParts '.' token).head? = some first ∧ Utf8.encode first = e.associated :=
  Option.map_eq_some_iff.mp (head_textParts_of_parse h)

theorem runCipher_eq_ok_iff_cipherOpens {token : String} {e : Envelope} {content text : Bytes}
    (h : parse token = .ok e) :
    e.runCipher content = .ok text ↔ CipherOpens token e content text := by
  obtain ⟨first, hfirst, hassociated⟩ := exists_first_of_parse h
  rw [runCipher_eq_ok_iff, ← hassociated]
  constructor
  · intro hopen
    exact ⟨Gcm.mac_length_of_openText hopen, first, hfirst, hopen⟩
  · rintro ⟨-, first', hfirst', hopen⟩
    rw [hfirst] at hfirst'
    cases hfirst'
    exact hopen

theorem runCipher_eq_error_iff_cipherFails {token : String} {e : Envelope} {content : Bytes}
    {err : Error} (h : parse token = .ok e) :
    e.runCipher content = .error err ↔ CipherFails token e content ∧ err = .wrongTag := by
  obtain ⟨first, hfirst, hassociated⟩ := exists_first_of_parse h
  rw [runCipher_eq_error_iff, ← hassociated]
  refine and_congr_left fun _ => ⟨fun hopen => .opening hfirst hopen, fun hfails => ?_⟩
  cases hfails with
  | tagLength htag =>
    rw [Option.eq_none_iff_forall_ne_some]
    intro text hopen
    exact htag (Gcm.mac_length_of_openText hopen)
  | opening hfirst' hopen =>
    rw [hfirst] at hfirst'
    cases hfirst'
    exact hopen

/-- The four ways for opening to end. -/
inductive Outcome (token : String) (key : OctetKey) : Except Error Bytes → Prop
  | refused {err : Error} (h : Refused token err) : Outcome token key (.error err)
  | wrongKey {e : Envelope} (hs : Spelled token e) (h : e.KeyFails key) :
    Outcome token key (.error .wrongKey)
  | wrongTag {e : Envelope} {content : Bytes} (hs : Spelled token e) (hr : e.Resolves key content)
    (h : CipherFails token e content) : Outcome token key (.error .wrongTag)
  | opened {e : Envelope} {content text : Bytes} (hs : Spelled token e)
    (hr : e.Resolves key content) (h : CipherOpens token e content text) :
    Outcome token key (.ok text)

theorem outcome (token : String) (key : OctetKey) :
    Outcome token key (decryptToken token key).result := by
  rcases refused_or_spelled token with ⟨err, hrefused⟩ | ⟨e, hs⟩
  · rw [result_decryptToken_of_refused hrefused]
    exact .refused hrefused
  rw [result_decryptToken_of_spelled hs]
  rcases resolves_or_keyFails e key with ⟨content, hr⟩ | hfails
  · rw [result_decryptWith_of_resolves hr]
    cases hrun : e.runCipher content with
    | ok text => exact .opened hs hr ((runCipher_eq_ok_iff_cipherOpens hs.parsed).mp hrun)
    | error err =>
      obtain ⟨hfails, rfl⟩ := (runCipher_eq_error_iff_cipherFails hs.parsed).mp hrun
      exact .wrongTag hs hr hfails
  · rw [result_decryptWith_of_keyFails hfails]
    exact .wrongKey hs hfails

theorem Outcome.result_eq {token : String} {key : OctetKey} {r : Except Error Bytes}
    (h : Outcome token key r) : (decryptToken token key).result = r := by
  cases h with
  | refused h => exact result_decryptToken_of_refused h key
  | wrongKey hs h => rw [result_decryptToken_of_spelled hs, result_decryptWith_of_keyFails h]
  | wrongTag hs hr h =>
    rw [result_decryptToken_of_spelled hs, result_decryptWith_of_resolves hr]
    exact (runCipher_eq_error_iff_cipherFails hs.parsed).mpr ⟨h, rfl⟩
  | opened hs hr h =>
    rw [result_decryptToken_of_spelled hs, result_decryptWith_of_resolves hr]
    exact (runCipher_eq_ok_iff_cipherOpens hs.parsed).mpr h

theorem result_decryptToken_iff_outcome {token : String} {key : OctetKey}
    {r : Except Error Bytes} : (decryptToken token key).result = r ↔ Outcome token key r :=
  ⟨fun h => h ▸ outcome token key, Outcome.result_eq⟩

theorem result_decryptToken_eq_ok_iff {token : String} {key : OctetKey} {text : Bytes} :
    (decryptToken token key).result = .ok text ↔
      ∃ e content, Spelled token e ∧ e.Resolves key content ∧
        CipherOpens token e content text := by
  rw [result_decryptToken_iff_outcome]
  constructor
  · intro h
    cases h with
    | opened hs hr h => exact ⟨_, _, hs, hr, h⟩
  · rintro ⟨e, content, hs, hr, h⟩
    exact .opened hs hr h

/-- How opening ends, in the order in which it is decided: what the token says
decides whether it is refused, and how, whatever the key; then a key failure
comes before a wrong tag; then the cipher decides. -/
theorem result_decryptToken_exact (token : String) (key : OctetKey) :
    (∀ err, (decryptToken token key).result = .error err ∧
        (err.kind = .parse ∨ err.kind = .unsupported) ↔ Refused token err) ∧
      ((decryptToken token key).result = .error .wrongKey ↔
        ∃ e, Spelled token e ∧ e.KeyFails key) ∧
      ((decryptToken token key).result = .error .wrongTag ↔
        ∃ e content, Spelled token e ∧ e.Resolves key content ∧ CipherFails token e content) ∧
      (∀ text, (decryptToken token key).result = .ok text ↔
        ∃ e content, Spelled token e ∧ e.Resolves key content ∧
          CipherOpens token e content text) ∧
      ∀ err, (decryptToken token key).result = .error err →
        err.kind = .parse ∨ err.kind = .unsupported ∨ err = .wrongKey ∨ err = .wrongTag := by
  refine ⟨fun err => ?_, ?_, ?_, fun text => result_decryptToken_eq_ok_iff, fun err => ?_⟩
  · rw [result_decryptToken_iff_outcome]
    constructor
    · rintro ⟨h, hrefusal⟩
      cases h with
      | refused h => exact h
      | wrongKey | wrongTag => rcases hrefusal with hkind | hkind <;> cases hkind
    · intro h
      exact ⟨.refused h, h.isRefusal⟩
  · rw [result_decryptToken_iff_outcome]
    constructor
    · intro h
      cases h with
      | refused h => rcases h.isRefusal with hkind | hkind <;> cases hkind
      | wrongKey hs h => exact ⟨_, hs, h⟩
    · rintro ⟨e, hs, h⟩
      exact .wrongKey hs h
  · rw [result_decryptToken_iff_outcome]
    constructor
    · intro h
      cases h with
      | refused h => rcases h.isRefusal with hkind | hkind <;> cases hkind
      | wrongTag hs hr h => exact ⟨_, _, hs, hr, h⟩
    · rintro ⟨e, content, hs, hr, h⟩
      exact .wrongTag hs hr h
  · rw [result_decryptToken_iff_outcome]
    intro h
    cases h with
    | refused h =>
      rcases h.isRefusal with hkind | hkind
      · exact .inl hkind
      · exact .inr (.inl hkind)
    | wrongKey => exact .inr (.inr (.inl rfl))
    | wrongTag => exact .inr (.inr (.inr rfl))

end Envelope

end SealedToken

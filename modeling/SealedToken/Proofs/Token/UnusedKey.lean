import SealedToken.Proofs.Token.Layout

/-! # Encrypted keys that nobody asked for

An envelope under a direct key has a segment for an encrypted key all the same.
Whatever the segment holds, the envelope is opened to the same text or fails
for the same reason, since neither the content key nor the tag depends on it.
A warning is all that it leaves behind, and only where a key is at hand. -/

namespace SealedToken

/-- The token with another segment in the place of its encrypted key. -/
def withEncryptedKey (token segment : String) : String :=
  ".".intercalate ((textParts '.' token).set 1 segment)

namespace Envelope

/-! ### The token with another segment -/

/-- The header stays what it is, so the other token spells the same envelope up
to the encrypted key. -/
theorem parse_withEncryptedKey {token : String} {e : Envelope} (h : parse token = .ok e)
    (x : Bytes) :
    parse (withEncryptedKey token (Base64.urlText x)) = .ok { e with encryptedKey := x } := by
  obtain ⟨first, hfirst, hparts⟩ := textParts_of_parse h
  have hagrees : HeaderAgrees { e with encryptedKey := x } :=
    ⟨(headerAgrees_of_parse h).nonempty, (headerAgrees_of_parse h).spelled⟩
  have hserialize :
      withEncryptedKey token (Base64.urlText x) = serialize { e with encryptedKey := x } := by
    apply Utf8.encode_injective
    have hsep : "." = String.singleton '.' := rfl
    rw [encode_serialize hagrees, withEncryptedKey, hparts, hsep,
      Utf8.encode_intercalate (by decide)]
    simp only [List.set_cons_succ, List.set_cons_zero, List.map_cons, List.map_nil, hfirst,
      Base64.encode_urlText]
    rfl
  rw [hserialize]
  exact parse_serialize hagrees

/-! ### The result -/

theorem result_contentKey_unused {e : Envelope} (hdirect : e.header.alg = .direct) (key : OctetKey)
    (x : Bytes) :
    (contentKey { e with encryptedKey := x } key).result = (contentKey e key).result := by
  cases hb : key.bytes? with
  | none => rw [contentKey_of_none hb, contentKey_of_none hb]
  | some shared =>
    have hk : key.Denotes shared := OctetKey.bytes?_eq_some_iff.mp hb
    rw [result_contentKey _ hk, result_contentKey _ hk, result_candidateKey, result_candidateKey,
      hdirect]

theorem result_decrypt_unused {e : Envelope} (hdirect : e.header.alg = .direct) (key : OctetKey)
    (x : Bytes) : (decrypt { e with encryptedKey := x } key).result = (decrypt e key).result := by
  let other : Envelope := { e with encryptedKey := x }
  -- Both envelopes have one nonce, and the first check is that of its length.
  by_cases hn : e.nonce.length = 12
  · have hother : other.nonce.length = 12 := hn
    rw [result_decrypt_of_nonce hn, result_decrypt_of_nonce hother, decryptWith, decryptWith,
      result_contentKey_unused hdirect]
    rfl
  · have hother : other.nonce.length ≠ 12 := hn
    rw [result_decrypt_of_ne_nonce hn, result_decrypt_of_ne_nonce hother]

/-! ### The warning -/

/-- What a run says of an encrypted key that nobody asked for: one warning with
its length if there are any bytes, the nonce has the right length and the key
denotes bytes, and nothing otherwise. -/
inductive Remarks (nonce : Bytes) (key : OctetKey) (x : Bytes) : List Event → Prop
  | warning {w : Event} {shared : Bytes} (hx : x ≠ []) (hn : nonce.length = 12)
      (hk : key.Denotes shared) (level : w.level = .warn)
      (data : w.data = [("len", .count x.length)]) : Remarks nonce key x [w]
  | nothing (h : x = [] ∨ nonce.length ≠ 12 ∨ ∀ shared, ¬key.Denotes shared) :
      Remarks nonce key x []

theorem events_decrypt_of_ne_nonce {e : Envelope} (hn : e.nonce.length ≠ 12) (key : OctetKey) :
    (decrypt e key).events = [e.openingEvent] := by
  show ((Traced.report e.openingEvent).andThen _).events = _
  have hlength : e.nonce.length ≠ Gcm.nonceLength := hn
  rw [Traced.events_andThen_ok _ _ () rfl, if_pos hlength]
  rfl

/-- After its opening a run reports the remarks and nothing else. -/
theorem exists_remarks {e : Envelope} (hdirect : e.header.alg = .direct) (key : OctetKey) :
    ∃ remarks, (decrypt e key).events = e.openingEvent :: remarks ∧
      Remarks e.nonce key e.encryptedKey remarks := by
  by_cases hn : e.nonce.length = 12
  · refine ⟨_, events_decrypt hn key, ?_⟩
    rw [events_contentKey]
    by_cases hunused : e.BringsUnusedKey ∧ key.bytes?.isSome
    · rw [if_pos hunused]
      obtain ⟨shared, hk⟩ := OctetKey.isSome_bytes?_iff.mp hunused.2
      exact .warning hunused.1.2 hn hk rfl rfl
    · rw [if_neg hunused]
      refine .nothing (or_iff_not_imp_left.mpr fun hx => .inr fun shared hk => hunused ?_)
      exact ⟨⟨hdirect, hx⟩, OctetKey.isSome_bytes?_iff.mpr ⟨shared, hk⟩⟩
  · exact ⟨[], events_decrypt_of_ne_nonce hn key, .nothing (.inr (.inl hn))⟩

theorem events_decryptToken_of_parse {token : String} {e : Envelope} (h : parse token = .ok e)
    (key : OctetKey) : (decryptToken token key).events = (decrypt e key).events := by
  have hparsed : (Traced.silent (parse token)).result = .ok e := h
  exact Traced.events_bind_ok hparsed _

/-- An envelope under a direct key is opened alike whatever stands in the place
of its encrypted key. The runs report the same but for the warning that each of
them gives of its own segment. -/
theorem decryptToken_ignores_encryptedKey {token : String} {e : Envelope} (h : parse token = .ok e)
    (hdirect : e.header.alg = .direct) (key : OctetKey) (x : Bytes) :
    let other := withEncryptedKey token (Base64.urlText x)
    (decryptToken other key).result = (decryptToken token key).result ∧
      ∃ opening remarks remarks', opening.level = .debug ∧
        (decryptToken token key).events = opening :: remarks ∧
        (decryptToken other key).events = opening :: remarks' ∧
        Remarks e.nonce key e.encryptedKey remarks ∧ Remarks e.nonce key x remarks' := by
  intro other
  have hother : parse other = .ok { e with encryptedKey := x } := parse_withEncryptedKey h x
  constructor
  · rw [result_decryptToken_of_parse hother, result_decryptToken_of_parse h,
      result_decrypt_unused hdirect]
  -- The opening names nothing but the header, which the two envelopes share.
  · obtain ⟨remarks, hevents, hremarks⟩ := exists_remarks hdirect key
    obtain ⟨remarks', hevents', hremarks'⟩ :=
      exists_remarks (e := { e with encryptedKey := x }) hdirect key
    rw [events_decryptToken_of_parse hother, events_decryptToken_of_parse h]
    exact ⟨e.openingEvent, remarks, remarks', rfl, hevents, hevents', hremarks, hremarks'⟩

/-- Four bytes are replaced by three other ones, under a key that opens nothing. -/
theorem decryptToken_ignores_threeBytes :
    let token := "eyJlbmMiOiJBMTI4R0NNIiwiYWxnIjoiZGlyIn0.3q2-7w." ++
      "AAAAAAAAAAAAAAAA.AQID.AAAAAAAAAAAAAAAAAAAAAA"
    let other := withEncryptedKey token "AQID"
    let key : OctetKey := .ofText "AAAAAAAAAAAAAAAAAAAAAA"
    (decryptToken other key).result = (decryptToken token key).result ∧
      ∃ opening w, opening.level = .debug ∧ (decryptToken other key).events = [opening, w] ∧
        w.level = .warn ∧ w.data = [("len", .count 3)] := by
  intro token other key
  have hparse : parse token = .ok withUnusedKey := toOption_eq_some_iff.mp (by decide +kernel)
  obtain ⟨hresult, opening, remarks, remarks', hlevel, -, hevents, -, hremarks⟩ :=
    decryptToken_ignores_encryptedKey hparse rfl key [1, 2, 3]
  refine ⟨hresult, ?_⟩
  cases hremarks with
  | warning hx hn hk level data => exact ⟨opening, _, hlevel, hevents, level, data⟩
  | nothing h =>
    rcases h with h | h | h
    · exact absurd h (List.cons_ne_nil _ _)
    · exact absurd rfl h
    · exact absurd ⟨rfl, rfl⟩ (h (List.replicate 16 0))

end Envelope

end SealedToken

import Mathlib.Data.List.Basic
import SealedToken.Proofs.Json.Value
import SealedToken.Proofs.Text.Base64
import SealedToken.Proofs.Text.Split
import SealedToken.Registration.Claims

/-! # What a verified token shows

A signed token is accepted exactly if there is evidence for its claims: three
segments, the claims in the second one, a key in the claims, and a signature of
the two first segments under this key. Whatever is missing, the failure is of
one kind. -/

namespace SealedToken

/-! ### Members as claims -/

namespace Claims

/-- The text of the last member of the name, or else nothing. -/
def IsText (ms : Json.Members) (name t : String) : Prop :=
  ms.Holds name (.text t) ∨ (∀ s, ¬ms.Holds name (.text s)) ∧ t = ""

/-- The number of the last member of the name without its fraction, or else zero. -/
def IsSeconds (ms : Json.Members) (name : String) (v : Int) : Prop :=
  (∃ n, ms.Holds name (.number n) ∧ v = saturate n.toBinary.truncate) ∨
    (∀ n, ¬ms.Holds name (.number n)) ∧ v = 0

theorem textMember_eq_iff {ms : Json.Members} {name t : String} :
    textMember ms name = t ↔ IsText ms name t := by
  simp only [IsText, ← Json.Members.get?_eq_some_iff, textMember]
  cases ms.get? name with
  | none => simp [eq_comm]
  | some v => cases v <;> simp [eq_comm]

theorem secondsMember_eq_iff {ms : Json.Members} {name : String} {v : Int} :
    secondsMember ms name = v ↔ IsSeconds ms name v := by
  simp only [IsSeconds, ← Json.Members.get?_eq_some_iff, secondsMember]
  cases ms.get? name with
  | none => simp [eq_comm]
  | some w => cases w <;> simp [eq_comm]

theorem ofMembers_eq_iff {ms : Json.Members} {c : Claims} :
    ofMembers ms = c ↔ IsText ms "publicKey" c.publicKey ∧ IsText ms "username" c.username ∧
      IsSeconds ms "iat" c.issuedAt := by
  obtain ⟨publicKey, username, issuedAt⟩ := c
  rw [← textMember_eq_iff, ← textMember_eq_iff, ← secondsMember_eq_iff, ofMembers, mk.injEq]

/-! ### Checks -/

theorem readPublicKey_eq_ok_iff {text : String} {key : Ed25519.PublicKey} :
    readPublicKey text = .ok key ↔
      Utf8.encode text = Base64.encode Base64.standard key.bytes ∧ key.bytes.length = 32 ∧
        Ed25519.Point.decode? key.bytes = some key.point := by
  rw [← Base64.decode_eq_ok_iff_encode Base64.standard_lawful]
  constructor
  · intro h
    unfold readPublicKey at h
    split at h
    · cases h
    rename_i b hb
    split at h
    · cases h
    rename_i hlength
    split at h
    · rename_i key' hkey
      cases h
      obtain ⟨p, hp, rfl⟩ := Option.map_eq_some_iff.mp hkey
      exact ⟨hb, Decidable.not_not.mp hlength, hp⟩
    · cases h
  · rintro ⟨hb, hlength, hp⟩
    have hkey : Ed25519.PublicKey.ofBytes? key.bytes = some key :=
      Option.map_eq_some_iff.mpr ⟨key.point, hp, rfl⟩
    simp only [readPublicKey, hb, hlength, hkey]
    rfl

theorem checkMethod_eq_ok_iff {header : Json.Members} {u : Unit} :
    checkMethod header = .ok u ↔ header.Holds "alg" (.text "EdDSA") := by
  have hiff : textMember header "alg" = signingMethod ↔ header.Holds "alg" (.text "EdDSA") := by
    rw [textMember_eq_iff]
    constructor
    · rintro (h | ⟨-, h⟩)
      · exact h
      · exact absurd h (by decide)
    · exact .inl
  rw [← hiff, checkMethod]
  split
  · simp_all
  · simp_all

theorem checkSignature_eq_ok_iff {key : Ed25519.PublicKey} {message segment : Bytes} {u : Unit} :
    checkSignature key message segment = .ok u ↔
      ∃ signature, segment = Base64.encode Base64.url signature ∧
        key.accepts message signature = true := by
  simp only [← Base64.decode_eq_ok_iff_encode Base64.url_lawful, checkSignature]
  cases Base64.decode Base64.url segment with
  | error f => simp
  | ok signature =>
    simp only [Except.ok.injEq, exists_eq_left']
    split
    · simp_all
    · simp_all

end Claims

/-! ### Evidence -/

/-- Why a signed token is accepted at a time, with these claims. What counts as
the text of an object is left open. -/
structure Evidence (IsObject : Json.Members → Bytes → Prop) (jws : String) (ttl : UInt32)
    (now : Int) (c : Claims) where
  header : String
  claims : String
  signature : String
  segments : textParts '.' jws = [header, claims, signature]
  headerText : Bytes
  headerMembers : Json.Members
  header_eq : header = Base64.urlText headerText
  header_isObject : IsObject headerMembers headerText
  claimsText : Bytes
  claimsMembers : Json.Members
  claims_eq : claims = Base64.urlText claimsText
  claims_isObject : IsObject claimsMembers claimsText
  publicKey : Claims.IsText claimsMembers "publicKey" c.publicKey
  username : Claims.IsText claimsMembers "username" c.username
  issuedAt : Claims.IsSeconds claimsMembers "iat" c.issuedAt
  fresh : now ≤ saturate (c.issuedAt + ttl.toNat)
  keyBytes : Bytes
  key_eq : Utf8.encode c.publicKey = Base64.encode Base64.standard keyBytes
  key_length : keyBytes.length = 32
  point : Ed25519.Point
  point_eq : Ed25519.Point.decode? keyBytes = some point
  method : headerMembers.Holds "alg" (.text "EdDSA")
  signatureBytes : Bytes
  signature_eq : signature = Base64.urlText signatureBytes
  signature_length : signatureBytes.length = 64
  accepted : Ed25519.PublicKey.accepts ⟨keyBytes, point⟩
    (Utf8.encode (header ++ "." ++ claims)) signatureBytes = true

namespace SignedToken

theorem encode_message (header claims : String) :
    Utf8.encode (header ++ "." ++ claims) = Utf8.encode header ++ dot :: Utf8.encode claims := by
  have hdot : Utf8.encode "." = [dot] := by decide
  rw [Utf8.encode_append, Utf8.encode_append, hdot, List.append_assoc, List.singleton_append]

/-! ### Form -/

theorem readPart_eq_ok_iff {p : SignedPart} {segment : Bytes} {ms : Json.Members} :
    readPart p segment = .ok ms ↔ ∃ text, segment = Base64.encode Base64.url text ∧
      Json.ObjectText Json.depthLimit ms text := by
  simp only [← Base64.decode_eq_ok_iff_encode Base64.url_lawful, ← Json.Members.parse_eq_ok_iff,
    readPart]
  cases Base64.decode Base64.url segment with
  | error f => simp
  | ok text => simp [mapError_eq_ok_iff]

theorem parse_eq_ok_iff {jws : String} {t : SignedToken} :
    parse jws = .ok t ↔ ∃ header claims signature ms,
      textParts '.' jws = [header, claims, signature] ∧
      readPart .header (Utf8.encode header) = .ok t.header ∧
      readPart .claims (Utf8.encode claims) = .ok ms ∧ t.claims = .ofMembers ms ∧
      t.message = Utf8.encode (header ++ "." ++ claims) ∧ t.signature = Utf8.encode signature := by
  have hparts : Split.parts dot (Utf8.encode jws) = (textParts '.' jws).map Utf8.encode :=
    Utf8.parts_encode (c := '.') (by decide) jws
  rw [parse, hparts]
  constructor
  · intro h
    unfold ofSegments at h
    split at h
    · rename_i hd cl sg heq
      obtain ⟨hms, hh, h⟩ := bind_eq_ok_iff.mp h
      obtain ⟨cms, hc, h⟩ := bind_eq_ok_iff.mp h
      cases h
      obtain ⟨header, l, hl, rfl, htail⟩ := List.map_eq_cons_iff.mp heq
      obtain ⟨claims, l', rfl, rfl, htail'⟩ := List.map_eq_cons_iff.mp htail
      obtain ⟨signature, l'', rfl, rfl, hnil⟩ := List.map_eq_cons_iff.mp htail'
      rw [List.map_eq_nil_iff.mp hnil] at hl
      exact ⟨header, claims, signature, cms, hl, hh, hc, rfl, (encode_message _ _).symm, rfl⟩
    · cases h
  · rintro ⟨header, claims, signature, ms, hsegments, hh, hc, hclaims, hmessage, hsignature⟩
    obtain ⟨th, tc, tm, ts⟩ := t
    simp only at hh hclaims hmessage hsignature
    rw [hsegments, hclaims, hmessage, hsignature, encode_message]
    exact bind_eq_ok_iff.mpr ⟨th, hh, bind_eq_ok_iff.mpr ⟨ms, hc, rfl⟩⟩

/-! ### Checks -/

theorem length_of_accepts {key : Ed25519.PublicKey} {message signature : Bytes}
    (h : key.accepts message signature = true) : signature.length = 64 := by
  simp only [Ed25519.PublicKey.accepts, Bool.and_eq_true, decide_eq_true_eq] at h
  exact h.1.1

theorem verify_eq_ok_iff {t : SignedToken} {ttl : UInt32} {now : Int} {c : Claims} :
    t.verify ttl now = .ok c ↔ t.claims = c ∧ now ≤ c.deadline ttl ∧
      ∃ key, Claims.readPublicKey c.publicKey = .ok key ∧ t.header.Holds "alg" (.text "EdDSA") ∧
        ∃ signature, t.signature = Base64.encode Base64.url signature ∧
          key.accepts t.message signature = true := by
  unfold verify
  constructor
  · intro h
    split at h
    · cases h
    rename_i hfresh
    obtain ⟨key, hkey, h⟩ := bind_eq_ok_iff.mp h
    obtain ⟨u, hmethod, h⟩ := bind_eq_ok_iff.mp h
    obtain ⟨v, hsignature, h⟩ := bind_eq_ok_iff.mp h
    cases h
    exact ⟨rfl, Int.not_lt.mp hfresh, key, hkey, Claims.checkMethod_eq_ok_iff.mp hmethod,
      Claims.checkSignature_eq_ok_iff.mp hsignature⟩
  · rintro ⟨rfl, hfresh, key, hkey, hmethod, hsignature⟩
    rw [if_neg (Int.not_lt.mpr hfresh)]
    refine bind_eq_ok_iff.mpr ⟨key, hkey, ?_⟩
    refine bind_eq_ok_iff.mpr ⟨(), Claims.checkMethod_eq_ok_iff.mpr hmethod, ?_⟩
    exact bind_eq_ok_iff.mpr ⟨(), Claims.checkSignature_eq_ok_iff.mpr hsignature, rfl⟩

end SignedToken

theorem Payload.result_verify (jws : String) (ttl : UInt32) (now : Int) :
    (Payload.verify ⟨jws⟩ ttl now).result =
      SignedToken.parse jws >>= fun t => t.verify ttl now := by
  rw [Payload.verify, Traced.result_bind]
  cases hparse : SignedToken.parse jws with
  | error e => rfl
  | ok t =>
    show (Traced.silent (t.verify ttl now) >>= _).result = t.verify ttl now
    rw [Traced.result_bind]
    cases hverify : t.verify ttl now with
    | error e => rfl
    | ok c => rfl

theorem Payload.result_verify_eq_ok_iff {jws : String} {ttl : UInt32} {now : Int} {c : Claims} :
    (Payload.verify ⟨jws⟩ ttl now).result = .ok c ↔
      ∃ t, SignedToken.parse jws = .ok t ∧ t.verify ttl now = .ok c := by
  rw [Payload.result_verify, bind_eq_ok_iff]

/-! ### Acceptance -/

theorem nonempty_evidence_iff {jws : String} {ttl : UInt32} {now : Int} {c : Claims} :
    Nonempty (Evidence (Json.ObjectText Json.depthLimit) jws ttl now c) ↔
      ∃ t, SignedToken.parse jws = .ok t ∧ t.verify ttl now = .ok c := by
  constructor
  · rintro ⟨e⟩
    have hheader : SignedToken.readPart .header (Utf8.encode e.header) = .ok e.headerMembers :=
      SignedToken.readPart_eq_ok_iff.mpr
        ⟨e.headerText, Base64.eq_urlText_iff.mp e.header_eq, e.header_isObject⟩
    have hclaims : SignedToken.readPart .claims (Utf8.encode e.claims) = .ok e.claimsMembers :=
      SignedToken.readPart_eq_ok_iff.mpr
        ⟨e.claimsText, Base64.eq_urlText_iff.mp e.claims_eq, e.claims_isObject⟩
    have hmembers : Claims.ofMembers e.claimsMembers = c :=
      Claims.ofMembers_eq_iff.mpr ⟨e.publicKey, e.username, e.issuedAt⟩
    have hkey : Claims.readPublicKey c.publicKey = .ok ⟨e.keyBytes, e.point⟩ :=
      Claims.readPublicKey_eq_ok_iff.mpr ⟨e.key_eq, e.key_length, e.point_eq⟩
    refine ⟨⟨e.headerMembers, c, Utf8.encode (e.header ++ "." ++ e.claims),
      Utf8.encode e.signature⟩, ?_, ?_⟩
    · exact SignedToken.parse_eq_ok_iff.mpr ⟨e.header, e.claims, e.signature, e.claimsMembers,
        e.segments, hheader, hclaims, hmembers.symm, rfl, rfl⟩
    · exact SignedToken.verify_eq_ok_iff.mpr ⟨rfl, e.fresh, _, hkey, e.method, e.signatureBytes,
        Base64.eq_urlText_iff.mp e.signature_eq, e.accepted⟩
  -- The segments come from the form of the token, all else from the checks in their order.
  · rintro ⟨t, hparse, hverify⟩
    obtain ⟨header, claims, signature, ms, hsegments, hheader, hclaims, hms, hmessage,
      hsignature⟩ := SignedToken.parse_eq_ok_iff.mp hparse
    obtain ⟨rfl, hfresh, key, hkey, hmethod, signatureBytes, hbytes, haccepts⟩ :=
      SignedToken.verify_eq_ok_iff.mp hverify
    obtain ⟨headerText, hheaderText, hheaderObject⟩ := SignedToken.readPart_eq_ok_iff.mp hheader
    obtain ⟨claimsText, hclaimsText, hclaimsObject⟩ := SignedToken.readPart_eq_ok_iff.mp hclaims
    obtain ⟨hpublicKey, husername, hissuedAt⟩ := Claims.ofMembers_eq_iff.mp hms.symm
    obtain ⟨hkeyText, hkeyLength, hpoint⟩ := Claims.readPublicKey_eq_ok_iff.mp hkey
    rw [hmessage] at haccepts
    rw [hsignature] at hbytes
    exact ⟨{
      header, claims, signature, headerText, claimsText, signatureBytes
      headerMembers := t.header
      claimsMembers := ms
      keyBytes := key.bytes
      point := key.point
      segments := hsegments
      header_eq := Base64.eq_urlText_iff.mpr hheaderText
      header_isObject := hheaderObject
      claims_eq := Base64.eq_urlText_iff.mpr hclaimsText
      claims_isObject := hclaimsObject
      publicKey := hpublicKey
      username := husername
      issuedAt := hissuedAt
      fresh := hfresh
      key_eq := hkeyText
      key_length := hkeyLength
      point_eq := hpoint
      method := hmethod
      signature_eq := Base64.eq_urlText_iff.mpr hbytes
      signature_length := SignedToken.length_of_accepts haccepts
      accepted := haccepts }⟩

/-! ### Written tokens -/

/-- The text of a signed token. -/
def signedText (header claims signature : Bytes) : String :=
  Base64.urlText header ++ "." ++ Base64.urlText claims ++ "." ++ Base64.urlText signature

theorem encode_signedText (header claims signature : Bytes) :
    Utf8.encode (signedText header claims signature) =
      Split.join SignedToken.dot ([header, claims, signature].map (Base64.encode Base64.url)) := by
  rw [signedText, SignedToken.encode_message, SignedToken.encode_message, Base64.encode_urlText,
    Base64.encode_urlText, Base64.encode_urlText, List.append_assoc]
  rfl

theorem textParts_signedText (header claims signature : Bytes) :
    textParts '.' (signedText header claims signature) =
      [Base64.urlText header, Base64.urlText claims, Base64.urlText signature] := by
  have hinjective : Function.Injective Utf8.encode := fun _ _ => Utf8.encode_injective
  -- The bytes are cut at the dot, and no base64url segment holds one.
  apply List.map_injective_iff.mpr hinjective
  have hparts := Utf8.parts_encode (c := '.') (by decide) (signedText header claims signature)
  have hdot : ∀ p ∈ [header, claims, signature].map (Base64.encode Base64.url),
      SignedToken.dot ∉ p := by
    intro p hp
    obtain ⟨b, -, rfl⟩ := List.mem_map.mp hp
    exact Base64.dot_notMem_encode_url b
  rw [← hparts, encode_signedText]
  refine (Split.parts_join (List.cons_ne_nil _ _) hdot).trans ?_
  simp only [List.map_cons, List.map_nil, Base64.encode_urlText]

theorem objectText_of_result_verify {header claims signature : Bytes} {ttl : UInt32} {now : Int}
    {c : Claims}
    (h : (Payload.verify ⟨signedText header claims signature⟩ ttl now).result = .ok c) :
    ∃ ms, Json.ObjectText Json.depthLimit ms header := by
  obtain ⟨t, hparse, -⟩ := Payload.result_verify_eq_ok_iff.mp h
  obtain ⟨h, b, s, -, hsegments, hpart, -⟩ := SignedToken.parse_eq_ok_iff.mp hparse
  rw [textParts_signedText, List.cons.injEq] at hsegments
  obtain ⟨text, htext, hobject⟩ := SignedToken.readPart_eq_ok_iff.mp hpart
  rw [← hsegments.1, Base64.encode_urlText] at htext
  have heq := Base64.encode_injective Base64.url_lawful htext
  exact ⟨t.header, heq ▸ hobject⟩

end SealedToken

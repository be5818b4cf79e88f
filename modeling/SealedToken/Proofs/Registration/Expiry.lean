import SealedToken.Proofs.Registration.IssueTime

/-! # What time decides

Time and lifetime enter the verification of a signed token at one place, the
comparison of its deadline with the clock. What comes before is the form of the
token and what comes after is its signer; neither looks at the time. So there
is one outcome for each token that time can only replace by expiry, and
expiry stays once it has come. -/

namespace SealedToken

/-! ### Deadlines -/

namespace Claims

theorem deadline_mono (c : Claims) {ttl ttl' : UInt32} (h : ttl ≤ ttl') :
    c.deadline ttl ≤ c.deadline ttl' := by
  have hle : ttl.toNat ≤ ttl'.toNat := UInt32.le_iff_toNat_le.mp h
  unfold deadline saturate
  omega

end Claims

theorem wholeSeconds_mono {time time' : Int} (h : time ≤ time') :
    wholeSeconds time ≤ wholeSeconds time' := by
  unfold wholeSeconds
  omega

/-! ### Form -/

namespace SignedToken

/-- A text without the form of a signed token: too few or too many segments, or
one of the two first is no base64url or not that of an object. -/
inductive Malformed (jws : String) : Prop
  | count (h : (textParts '.' jws).length ≠ 3)
  | encoding {segment : String} (hsegment : segment ∈ (textParts '.' jws).take 2)
      (h : ∀ text, segment ≠ Base64.urlText text)
  | grammar {segment : String} {text : Bytes} (hsegment : segment ∈ (textParts '.' jws).take 2)
      (htext : segment = Base64.urlText text) (h : ∀ ms, ¬Json.ObjectText Json.depthLimit ms text)

theorem exists_readPart_iff {p : SignedPart} {segment : String} :
    (∃ ms, readPart p (Utf8.encode segment) = .ok ms) ↔
      ∃ text, segment = Base64.urlText text ∧ ∃ ms, Json.ObjectText Json.depthLimit ms text := by
  simp only [readPart_eq_ok_iff, Base64.eq_urlText_iff]
  constructor
  · rintro ⟨ms, text, htext, hobject⟩
    exact ⟨text, htext, ms, hobject⟩
  · rintro ⟨text, htext, ms, hobject⟩
    exact ⟨ms, text, htext, hobject⟩

theorem malformed_of_not_readPart {jws segment : String} {p : SignedPart}
    (hsegment : segment ∈ (textParts '.' jws).take 2)
    (h : ∀ ms, readPart p (Utf8.encode segment) ≠ .ok ms) : Malformed jws := by
  by_cases htext : ∃ text, segment = Base64.urlText text
  · obtain ⟨text, htext⟩ := htext
    refine .grammar hsegment htext fun ms hobject => ?_
    obtain ⟨ms', hms'⟩ := exists_readPart_iff (p := p) |>.mpr ⟨text, htext, ms, hobject⟩
    exact h ms' hms'
  · exact .encoding hsegment (not_exists.mp htext)

/-- Exactly what has the form of a signed token is read as one. -/
theorem malformed_iff {jws : String} : Malformed jws ↔ ∃ err, parse jws = .error err := by
  constructor
  · intro hmalformed
    cases hparse : parse jws with
    | error err => exact ⟨err, rfl⟩
    | ok t =>
      obtain ⟨header, claims, signature, ms, hsegments, hheader, hclaims, -⟩ :=
        parse_eq_ok_iff.mp hparse
      -- Both parts were read, which none of the three cases allows.
      have hread : ∀ segment ∈ (textParts '.' jws).take 2,
          ∃ text, segment = Base64.urlText text ∧ ∃ ms, Json.ObjectText Json.depthLimit ms text := by
        rw [hsegments]
        intro segment hsegment
        simp only [List.take_succ_cons, List.take_zero, List.mem_cons, List.not_mem_nil,
          or_false] at hsegment
        rcases hsegment with rfl | rfl
        · exact exists_readPart_iff.mp ⟨_, hheader⟩
        · exact exists_readPart_iff.mp ⟨_, hclaims⟩
      cases hmalformed with
      | count h => exact absurd (congrArg List.length hsegments) h
      | encoding hsegment h =>
        obtain ⟨text, htext, -⟩ := hread _ hsegment
        exact absurd htext (h text)
      | grammar hsegment htext h =>
        obtain ⟨text', htext', ms', hobject⟩ := hread _ hsegment
        obtain rfl := Base64.urlText_injective (htext.symm.trans htext')
        exact absurd hobject (h ms')
  · rintro ⟨err, hparse⟩
    by_cases hlength : (textParts '.' jws).length = 3
    · obtain ⟨header, claims, signature, hsegments⟩ := List.length_eq_three.mp hlength
      by_cases hheader : ∃ ms, readPart .header (Utf8.encode header) = .ok ms
      · by_cases hclaims : ∃ ms, readPart .claims (Utf8.encode claims) = .ok ms
        · obtain ⟨hms, hheader⟩ := hheader
          obtain ⟨cms, hclaims⟩ := hclaims
          have hok : parse jws = .ok ⟨hms, .ofMembers cms, Utf8.encode (header ++ "." ++ claims),
              Utf8.encode signature⟩ :=
            parse_eq_ok_iff.mpr ⟨header, claims, signature, cms, hsegments, hheader, hclaims, rfl,
              rfl, rfl⟩
          rw [hok] at hparse
          cases hparse
        · exact malformed_of_not_readPart (by simp [hsegments]) (not_exists.mp hclaims)
      · exact malformed_of_not_readPart (by simp [hsegments]) (not_exists.mp hheader)
    · exact .count hlength

/-! ### The outcome without the clock -/

/-- What becomes of a fresh token. -/
def settle (t : SignedToken) : Traced Claims := do
  let c ← Traced.silent t.checkSigner
  Traced.report c.verifiedEvent
  return c

end SignedToken

namespace Payload

variable {jws : String} {t : SignedToken} {ttl ttl' : UInt32} {now now' : Int}

theorem verify_of_parse_error {err : Error} (hparse : SignedToken.parse jws = .error err)
    (ttl : UInt32) (now : Int) : Payload.verify ⟨jws⟩ ttl now = .fail err := by
  rw [verify, hparse]
  rfl

theorem verify_of_parse_ok (hparse : SignedToken.parse jws = .ok t) (ttl : UInt32) (now : Int) :
    Payload.verify ⟨jws⟩ ttl now =
      if t.claims.deadline ttl < now then .fail .expired else t.settle := by
  -- The clock is asked first, before the signer is looked at.
  have hstep : Payload.verify ⟨jws⟩ ttl now = (do
      let c ← Traced.silent (t.verify ttl now)
      Traced.report c.verifiedEvent
      return c) := by
    rw [verify, hparse]
    rfl
  rw [hstep, SignedToken.verify]
  split
  · rfl
  · rfl

/-! ### Expiry -/

theorem result_verify_eq_expired_iff :
    (Payload.verify ⟨jws⟩ ttl now).result = .error .expired ↔
      ∃ t, SignedToken.parse jws = .ok t ∧ t.claims.deadline ttl < now := by
  rw [result_verify, bind_eq_error_iff]
  constructor
  · rintro (hparse | ⟨t, hparse, hverify⟩)
    · exact absurd rfl (SignedToken.blamesForm_of_parse hparse).ne_expired
    · exact ⟨t, hparse, SignedToken.verify_eq_expired_iff.mp hverify⟩
  · rintro ⟨t, hparse, hlt⟩
    exact .inr ⟨t, hparse, SignedToken.verify_eq_expired_iff.mpr hlt⟩

theorem expired_mono (httl : ttl' ≤ ttl) (hnow : now ≤ now')
    (h : (Payload.verify ⟨jws⟩ ttl now).result = .error .expired) :
    (Payload.verify ⟨jws⟩ ttl' now').result = .error .expired := by
  obtain ⟨t, hparse, hlt⟩ := result_verify_eq_expired_iff.mp h
  have hdeadline := t.claims.deadline_mono httl
  exact result_verify_eq_expired_iff.mpr ⟨t, hparse, by omega⟩

/-- Runs that do not end with expiry are the same run, whatever their times. -/
theorem verify_eq_of_ne_expired (h : (Payload.verify ⟨jws⟩ ttl now).result ≠ .error .expired)
    (h' : (Payload.verify ⟨jws⟩ ttl' now').result ≠ .error .expired) :
    Payload.verify ⟨jws⟩ ttl now = Payload.verify ⟨jws⟩ ttl' now' := by
  cases hparse : SignedToken.parse jws with
  | error err => rw [verify_of_parse_error hparse, verify_of_parse_error hparse]
  | ok t =>
    have hfresh : ¬t.claims.deadline ttl < now := fun hlt =>
      h (result_verify_eq_expired_iff.mpr ⟨t, hparse, hlt⟩)
    have hfresh' : ¬t.claims.deadline ttl' < now' := fun hlt =>
      h' (result_verify_eq_expired_iff.mpr ⟨t, hparse, hlt⟩)
    rw [verify_of_parse_ok hparse, verify_of_parse_ok hparse, if_neg hfresh, if_neg hfresh']

theorem accepted_mono {c : Claims} (httl : ttl ≤ ttl') (hnow : now' ≤ now)
    (h : (Payload.verify ⟨jws⟩ ttl now).result = .ok c) :
    (Payload.verify ⟨jws⟩ ttl' now').result = .ok c := by
  have hfresh : (Payload.verify ⟨jws⟩ ttl now).result ≠ .error .expired := by
    intro hexpired
    rw [h] at hexpired
    cases hexpired
  have hfresh' : (Payload.verify ⟨jws⟩ ttl' now').result ≠ .error .expired := fun hexpired =>
    hfresh (expired_mono httl hnow hexpired)
  rw [← verify_eq_of_ne_expired hfresh hfresh', h]

/-! ### Other failures -/

theorem exists_fail_of_malformed (h : SignedToken.Malformed jws) :
    ∃ err : Error, err.BlamesForm ∧ ∀ ttl now, Payload.verify ⟨jws⟩ ttl now = .fail err := by
  obtain ⟨err, hparse⟩ := SignedToken.malformed_iff.mp h
  exact ⟨err, SignedToken.blamesForm_of_parse hparse, verify_of_parse_error hparse⟩

theorem fresh_of_blamesSigner {err : Error} (hsigner : err.BlamesSigner)
    (h : (Payload.verify ⟨jws⟩ ttl now).result = .error err) :
    ∃ t, SignedToken.parse jws = .ok t ∧ now ≤ t.claims.deadline ttl := by
  cases hparse : SignedToken.parse jws with
  | error e =>
    rw [verify_of_parse_error hparse] at h
    cases h
    exact absurd hsigner (SignedToken.blamesForm_of_parse hparse).not_blamesSigner
  | ok t =>
    refine ⟨t, rfl, Int.not_lt.mp fun hlt => ?_⟩
    rw [verify_of_parse_ok hparse, if_pos hlt] at h
    cases h
    exact hsigner.ne_expired rfl

/-- Verification at a time in nanoseconds since the epoch. -/
def verifyAt (p : Payload) (ttl : UInt32) (time : Int) : Traced Claims :=
  p.verify ttl (wholeSeconds time)

/-- Time decides about expiry and nothing else. Two runs that do not end with
it are the same; acceptance holds for longer lifetimes and earlier times,
expiry for shorter lifetimes and later times. A text without the form of a
signed token fails always in the same way, and a key, a method or a signature
is only blamed while the token is fresh. -/
theorem time_decides_expiry (jws : String) (ttl : UInt32) (time : Int) :
    (∀ ttl' time', (verifyAt ⟨jws⟩ ttl time).result ≠ .error .expired →
      (verifyAt ⟨jws⟩ ttl' time').result ≠ .error .expired →
        verifyAt ⟨jws⟩ ttl time = verifyAt ⟨jws⟩ ttl' time') ∧
    (∀ c, (verifyAt ⟨jws⟩ ttl time).result = .ok c →
      ∀ ttl' time', ttl ≤ ttl' → time' ≤ time → (verifyAt ⟨jws⟩ ttl' time').result = .ok c) ∧
    ((verifyAt ⟨jws⟩ ttl time).result = .error .expired →
      ∀ ttl' time', ttl' ≤ ttl → time ≤ time' →
        (verifyAt ⟨jws⟩ ttl' time').result = .error .expired) ∧
    (SignedToken.Malformed jws →
      ∃ err : Error, err.BlamesForm ∧ ∀ ttl' time', verifyAt ⟨jws⟩ ttl' time' = .fail err) ∧
    ∀ err : Error, err.BlamesSigner → (verifyAt ⟨jws⟩ ttl time).result = .error err →
      ∃ t, SignedToken.parse jws = .ok t ∧ wholeSeconds time ≤ t.claims.deadline ttl := by
  refine ⟨?_, ?_, ?_, ?_, ?_⟩
  · intro ttl' time' h h'
    exact verify_eq_of_ne_expired h h'
  · intro c h ttl' time' httl htime
    exact accepted_mono httl (wholeSeconds_mono htime) h
  · intro h ttl' time' httl htime
    exact expired_mono httl (wholeSeconds_mono htime) h
  · intro h
    obtain ⟨err, hform, hfail⟩ := exists_fail_of_malformed h
    exact ⟨err, hform, fun ttl' time' => hfail ttl' (wholeSeconds time')⟩
  · intro err hsigner h
    exact fresh_of_blamesSigner hsigner h

/-- One token is accepted up to its deadline and expired after it, another one
has no form at any time, and a third one names no key. -/
theorem time_decides_expiry_of_three :
    (verifyAt ⟨unsignedText neutralClaims⟩ 20 0).result = .ok neutralClaims ∧
      verifyAt ⟨unsignedText neutralClaims⟩ 20 0 =
        verifyAt ⟨unsignedText neutralClaims⟩ 10 1760000010999999999 ∧
      (verifyAt ⟨unsignedText neutralClaims⟩ 5 1760000012000000000).result = .error .expired ∧
      (∃ err : Error, err.BlamesForm ∧ ∀ ttl time, verifyAt ⟨"a.b"⟩ ttl time = .fail err) ∧
      ∃ t, SignedToken.parse "e30.e30." = .ok t ∧ wholeSeconds 0 ≤ t.claims.deadline 0 := by
  have haccepted : (verifyAt ⟨unsignedText neutralClaims⟩ 10 1760000010999999999).result =
      .ok neutralClaims := result_verify_unsignedText read_neutralClaims rfl (by decide)
  have hexpired : (verifyAt ⟨unsignedText neutralClaims⟩ 10 1760000011000000000).result =
      .error .expired := by
    obtain ⟨t, hparse, hverify⟩ := result_verify_eq_ok_iff.mp haccepted
    obtain ⟨hclaims, -⟩ := SignedToken.verify_eq_ok_iff.mp hverify
    exact result_verify_eq_expired_iff.mpr ⟨t, hparse, hclaims ▸ by decide⟩
  have hcount : SignedToken.parse "a.b" = .error (.signedPartCount 2) := rfl
  have hkey : (verifyAt ⟨"e30.e30."⟩ 0 0).result = .error (.publicKeyLength 0) := by decide +kernel
  obtain ⟨hsame, hearlier, -⟩ :=
    time_decides_expiry (unsignedText neutralClaims) 10 1760000010999999999
  obtain ⟨-, -, hlater, -⟩ := time_decides_expiry (unsignedText neutralClaims) 10 1760000011000000000
  obtain ⟨-, -, -, hmalformed, -⟩ := time_decides_expiry "a.b" 0 0
  obtain ⟨-, -, -, -, hfresh⟩ := time_decides_expiry "e30.e30." 0 0
  have hfirst := hearlier _ haccepted 20 0 (by decide) (by decide)
  have hboth := hsame 20 0 (by simp [haccepted]) (by simp [hfirst])
  exact ⟨hfirst, hboth.symm, hlater hexpired 5 1760000012000000000 (by decide) (by decide),
    hmalformed (SignedToken.malformed_iff.mpr ⟨_, hcount⟩), hfresh _ (.keyLength 0) hkey⟩

end Payload

end SealedToken

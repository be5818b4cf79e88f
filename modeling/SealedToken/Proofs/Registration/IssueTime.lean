import SealedToken.Proofs.Json.Integer
import SealedToken.Proofs.Registration.Failure
import SealedToken.Proofs.Registration.NeutralKey

/-! # Issue times

What becomes of an issue time that is written as an integer of any size. It is
rounded to fifty-three bits and cut at 64 bits, so it is not always what the
claims show; but neither step moves it across a time of our calendar, and the
decision whether a token is still fresh is that of exact arithmetic. -/

namespace SealedToken

/-! ### Issue times as they are written -/

/-- The claims of a signed token have an integer literal of the number as their
last member `iat`. -/
def SignedToken.IssuedAt (jws : String) (n : Int) : Prop :=
  ∃ header signature text raw,
    textParts '.' jws = [header, Base64.urlText text, signature] ∧
      Json.LastWritten text "iat" raw ∧ Json.IntegerText n raw

/-- The size of an issue time after reading, as a whole number of seconds. -/
structure Claims.Rounds (n : Int) (m : Nat) : Prop where
  fits : n.natAbs < Json.significandLimit → m = Binary64.rounded n.natAbs 1
  large : Json.significandLimit ≤ n.natAbs → 2 ^ 60 ≤ m

/-- An issue time is read with its sign, rounded, and cut at 64 bits. -/
theorem SignedToken.issuedAt_of_parse {jws : String} {t : SignedToken} {n : Int}
    (hparse : parse jws = .ok t) (hn : IssuedAt jws n) :
    ∃ m, t.claims.issuedAt = saturate (n.sign * (m : Nat)) ∧ Claims.Rounds n m := by
  obtain ⟨header, claims, signature, ms, hsegments, -, hclaims, hms, -⟩ :=
    parse_eq_ok_iff.mp hparse
  obtain ⟨header', signature', text, raw, hsegments', hlast, hraw⟩ := hn
  obtain ⟨text', htext', hobject⟩ := readPart_eq_ok_iff.mp hclaims
  have hsame : claims = Base64.urlText text := by
    rw [hsegments] at hsegments'
    simp only [List.cons.injEq] at hsegments'
    exact hsegments'.2.1
  rw [hsame, Base64.encode_urlText] at htext'
  rw [← Base64.encode_injective Base64.url_lawful htext'] at hobject
  obtain ⟨v, hholds, hv⟩ := hlast.holds hobject
  obtain ⟨x, m, rfl, htruncate, hfits, hlarge⟩ := hraw.truncate hv
  refine ⟨m, ?_, hfits, hlarge⟩
  rw [hms, ← htruncate]
  exact Claims.secondsMember_eq_iff.mpr (.inl ⟨x, hholds, rfl⟩)

/-! ### Written claims -/

/-- Claims are written with their issue time as an integer literal. -/
theorem Claims.lastWritten_toJson {c : Claims} (h : c.issuedAt.natAbs < Json.significandLimit) :
    Json.LastWritten (Utf8.encode c.toJson) "iat" (Json.Leaf.integer c.issuedAt).bytes := by
  refine Json.lastWritten_leaves
    [("publicKey", .text c.publicKey), ("username", .text c.username)] ?_ (List.forall_mem_nil _)
  rintro m hm
  simp only [List.cons_append, List.nil_append, List.mem_cons, List.not_mem_nil, or_false] at hm
  rcases hm with rfl | rfl | rfl
  · exact ⟨_, Json.valueText_text _ _⟩
  · exact ⟨_, Json.valueText_text _ _⟩
  · exact Json.exists_valueText_integer h _

theorem SignedToken.issuedAt_unsignedText {c : Claims}
    (h : c.issuedAt.natAbs < Json.significandLimit) : IssuedAt (unsignedText c) c.issuedAt :=
  ⟨_, _, _, _, textParts_signedText _ _ _, Claims.lastWritten_toJson h,
    Json.integerText_leaf c.issuedAt⟩

/-! ### Freshness -/

namespace Claims

theorem Rounds.eq_of_le {n : Int} {m : Nat} (h : Rounds n m) (hn : n.natAbs ≤ 2 ^ 53) :
    m = n.natAbs := by
  have hlt : n.natAbs < Json.significandLimit := by
    unfold Json.significandLimit
    omega
  rw [h.fits hlt, Binary64.rounded_of_le hn]

theorem Rounds.le_of_le {n : Int} {m : Nat} (h : Rounds n m) (hn : 2 ^ 53 ≤ n.natAbs) :
    2 ^ 53 ≤ m := by
  by_cases hlt : n.natAbs < Json.significandLimit
  · rw [h.fits hlt]
    exact Binary64.le_rounded Nat.one_pos (by rwa [Nat.mul_one])
  · have hlarge := h.large (Nat.not_lt.mp hlt)
    omega

/-- Neither the rounding of an issue time nor the cut of the deadline moves it
across a time that is far from their limits. -/
theorem deadline_lt_iff {c : Claims} {n now : Int} {m : Nat} (ttl : UInt32)
    (hc : c.issuedAt = saturate (n.sign * m)) (hm : Rounds n m) (hlow : -2 ^ 52 ≤ now)
    (hhigh : now ≤ 2 ^ 52) : c.deadline ttl < now ↔ n + ttl.toNat < now := by
  have httl := ttl.toNat_lt
  have hdeadline : c.deadline ttl = saturate (saturate (n.sign * m) + ttl.toNat) := by
    rw [deadline, hc]
  rw [hdeadline]
  by_cases hsmall : n.natAbs ≤ 2 ^ 53
  -- An issue time of this size is kept, and the sum with it.
  · have hkept : n.sign * m = n := by
      rw [hm.eq_of_le hsmall, Int.sign_mul_natAbs]
    rw [hkept, saturate, saturate]
    omega
  -- A larger one stays on its side of every such time.
  · have hlarge := hm.le_of_le (Nat.le_of_not_le hsmall)
    rcases Int.lt_or_lt_of_ne (show n ≠ 0 by omega) with hneg | hpos
    · rw [Int.sign_eq_neg_one_of_neg hneg, saturate, saturate]
      omega
    · rw [Int.sign_eq_one_of_pos hpos, saturate, saturate]
      omega

end Claims

/-- Time in nanoseconds since the epoch, cut to whole seconds. -/
def wholeSeconds (nanoseconds : Int) : Int := nanoseconds / 1000000000

theorem wholeSeconds_add (seconds : Int) {fraction : Nat} (h : fraction < 1000000000) :
    wholeSeconds (seconds * 1000000000 + fraction) = seconds := by
  unfold wholeSeconds
  omega

/-- A well-formed token with an integer of any size as its issue time is too old
exactly if it is in exact arithmetic, for every lifetime and at every time of
the calendar; a fraction of a second makes no difference. -/
theorem Payload.expired_iff {jws : String} {t : SignedToken} {n : Int}
    (hparse : SignedToken.parse jws = .ok t) (hn : SignedToken.IssuedAt jws n) (ttl : UInt32)
    (seconds : Int) (fraction : Nat) (hfraction : fraction < 1000000000)
    (hlow : -2 ^ 52 ≤ seconds) (hhigh : seconds ≤ 2 ^ 52) :
    (Payload.verify ⟨jws⟩ ttl (wholeSeconds (seconds * 1000000000 + fraction))).result =
        .error .expired ↔
      n + ttl.toNat < seconds := by
  obtain ⟨m, hissued, hm⟩ := SignedToken.issuedAt_of_parse hparse hn
  have hdeadline := Claims.deadline_lt_iff ttl hissued hm hlow hhigh
  rw [wholeSeconds_add seconds hfraction, Payload.result_verify, hparse, ← hdeadline,
    ← SignedToken.verify_eq_expired_iff]
  rfl

theorem exists_parse_unsignedText : ∃ t, SignedToken.parse (unsignedText neutralClaims) = .ok t := by
  have hfresh : 1760000000 ≤ neutralClaims.deadline 10 := by decide
  have hverify := result_verify_unsignedText read_neutralClaims rfl hfresh
  obtain ⟨t, ht, -⟩ := Payload.result_verify_eq_ok_iff.mp hverify
  exact ⟨t, ht⟩

/-- The last second of a token is fresh to its end. -/
theorem Payload.expired_iff_at_deadline :
    (Payload.verify ⟨unsignedText neutralClaims⟩ 10
        (wholeSeconds (1760000010 * 1000000000 + 999999999))).result ≠ .error .expired ∧
      (Payload.verify ⟨unsignedText neutralClaims⟩ 10
        (wholeSeconds (1760000011 * 1000000000 + 0))).result = .error .expired := by
  obtain ⟨t, ht⟩ := exists_parse_unsignedText
  have hissued : SignedToken.IssuedAt (unsignedText neutralClaims) 1760000000 :=
    SignedToken.issuedAt_unsignedText (c := neutralClaims) (by decide)
  have hfresh := expired_iff ht hissued 10 1760000010 999999999 (by decide) (by decide) (by decide)
  have hexpired := expired_iff ht hissued 10 1760000011 0 (by decide) (by decide) (by decide)
  exact ⟨fun h => absurd (hfresh.mp h) (by decide), hexpired.mpr (by decide)⟩

end SealedToken

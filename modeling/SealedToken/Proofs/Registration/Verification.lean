import SealedToken.Proofs.Registration.Failure
import SealedToken.Proofs.Registration.NeutralKey

/-! # Verification, exactly

Evidence for the claims is what acceptance needs and all that it needs, and
there is one kind of failure. Objects are those that are read: nested no deeper
than the reader goes. -/

namespace SealedToken

/-! ### Refusal -/

/-- A signed token is accepted exactly with the claims that there is evidence
for; every failure is one of verification. -/
theorem Payload.verify_exact (jws : String) (ttl : UInt32) (now : Int) :
    (∀ c, (Payload.verify ⟨jws⟩ ttl now).result = .ok c ↔
      Nonempty (Evidence (Json.ObjectText Json.depthLimit) jws ttl now c)) ∧
    ∀ err, (Payload.verify ⟨jws⟩ ttl now).result = .error err → err.kind = .verification := by
  constructor
  · intro c
    rw [nonempty_evidence_iff]
    exact result_verify_eq_ok_iff
  · intro err h
    rw [result_verify] at h
    rcases bind_eq_error_iff.mp h with h | ⟨t, -, h⟩
    · exact SignedToken.kind_of_parse h
    · exact SignedToken.kind_of_verify h

/-! ### Deep nesting -/

/-- A header with `n` lists inside each other as its last member. -/
def nestedHeader (n : Nat) : Bytes :=
  Utf8.encode "\x7b\"alg\":\"EdDSA\",\"x\":" ++
    (List.replicate n Json.openList ++ List.replicate n Json.closeList ++ [Json.closeObject])

/-- The text is an object that names the signing method. -/
def namesMethod (depth : Nat) (text : Bytes) : Bool :=
  match Json.whole (Json.value depth) text with
  | .ok (.object ms) => Claims.textMember ms "alg" = Claims.signingMethod
  | _ => false

theorem exists_of_namesMethod {depth : Nat} {text : Bytes} (h : namesMethod depth text = true) :
    ∃ ms, Json.ObjectText depth ms text ∧ ms.Holds "alg" (.text "EdDSA") := by
  unfold namesMethod at h
  split at h
  · rename_i ms hms
    have hmethod : Claims.checkMethod ms = .ok () := if_pos (of_decide_eq_true h)
    exact ⟨ms, (Json.value_reads depth).whole_eq_ok_iff.mp hms,
      Claims.checkMethod_eq_ok_iff.mp hmethod⟩
  · cases h

/-- With objects of any depth in the place of those that are read, the
statement fails: a header that is nested too deep is refused. -/
theorem Payload.verify_refuses_nested_header :
    ¬∀ (jws : String) (ttl : UInt32) (now : Int) (c : Claims),
      (Payload.verify ⟨jws⟩ ttl now).result = .ok c ↔
        Nonempty (Evidence (fun ms text => ∃ depth, Json.ObjectText depth ms text)
          jws ttl now c) := by
  intro hall
  have hnamed : namesMethod 128 (nestedHeader 127) = true := by decide +kernel
  have hrefused : (Json.Members.parse (nestedHeader 127)).isOk = false := by decide +kernel
  -- From here on only these two facts matter, and the text must not be unfolded.
  generalize nestedHeader 127 = headerText at hnamed hrefused
  obtain ⟨header, hheader, hmethod⟩ := exists_of_namesMethod hnamed
  obtain ⟨claims, hclaims, hms⟩ := exists_neutralClaims
  have hkey := hms ▸ readPublicKey_neutralClaims
  have hfresh : 1760000000 ≤ (Claims.ofMembers claims).deadline 10 := hms ▸ by decide
  have hevidence : Evidence (fun ms text => ∃ depth, Json.ObjectText depth ms text)
      (signedText headerText neutralClaimsText Ed25519.neutralSignature) 10 1760000000
      (Claims.ofMembers claims) :=
    .ofNeutralKey ⟨128, hheader⟩ ⟨Json.depthLimit, hclaims⟩ hmethod hkey
      Ed25519.Point.isNeutral_identity hfresh
  obtain ⟨ms, hobject⟩ := objectText_of_result_verify ((hall _ _ _ _).mpr ⟨hevidence⟩)
  rw [Json.Members.parse_eq_ok_iff.mpr hobject] at hrefused
  cases hrefused

end SealedToken

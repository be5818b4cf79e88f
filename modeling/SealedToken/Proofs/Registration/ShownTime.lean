import SealedToken.Proofs.Command.Log
import SealedToken.Proofs.Registration.IssueTime

/-! # Issue times as they are shown

Verified claims show the issue time after rounding to fifty-three bits, and so
does the text that a command prints of them. This is the time that was signed
only if it needs no more bits. -/

namespace SealedToken

/-! ### Rounded times -/

namespace Claims

/-- What is shown of an issue time. -/
def shownTime (n : Int) : Int := saturate (n.sign * Binary64.rounded n.natAbs 1)

/-- Fifty-three bits hold the number. The greatest number of 64 bits counts as
well: rounding takes it beyond the range and the cut takes it back. -/
def Keeps (n : Int) : Prop :=
  Binary64.spacing n.natAbs ∣ n.natAbs ∨ n = 0x7FFFFFFFFFFFFFFF

theorem keeps_of_le {n : Int} (h : n.natAbs ≤ 2 ^ 53) : Keeps n :=
  .inl (Binary64.rounded_eq_iff.mp (Binary64.rounded_of_le h))

theorem rounded_natAbs_le {n : Int} (hlow : -2 ^ 63 ≤ n) (hhigh : n < 2 ^ 63) :
    Binary64.rounded n.natAbs 1 ≤ 2 ^ 63 := by
  by_cases hlt : n.natAbs < 2 ^ 63
  · exact Binary64.rounded_le hlt
  · have hn : n.natAbs = 2 ^ 63 := by omega
    have hround : Binary64.rounded (2 ^ 63) 1 = 2 ^ 63 := by decide +kernel
    rw [hn, hround]

/-- Within 64 bits a time is shown as it is exactly if it is kept. -/
theorem shownTime_eq_iff {n : Int} (hlow : -2 ^ 63 ≤ n) (hhigh : n < 2 ^ 63) :
    shownTime n = n ↔ Keeps n := by
  have hle := rounded_natAbs_le hlow hhigh
  rw [shownTime, Keeps, ← Binary64.rounded_eq_iff]
  rcases lt_trichotomy n 0 with hneg | rfl | hpos
  · rw [Int.sign_eq_neg_one_of_neg hneg, saturate]
    omega
  · decide
  · rw [Int.sign_eq_one_of_pos hpos, saturate]
    have hgreatest : n = 0x7FFFFFFFFFFFFFFF → Binary64.rounded n.natAbs 1 = 2 ^ 63 := by
      rintro rfl
      decide +kernel
    omega

theorem Rounds.saturate_eq {n : Int} {m : Nat} (h : Rounds n m) (hlow : -2 ^ 63 ≤ n)
    (hhigh : n < 2 ^ 63) : saturate (n.sign * m) = shownTime n := by
  have hlt : n.natAbs < Json.significandLimit := by
    unfold Json.significandLimit
    omega
  rw [shownTime, h.fits hlt]

theorem natAbs_shownTime_lt (n : Int) : (shownTime n).natAbs < Json.significandLimit := by
  unfold shownTime saturate Json.significandLimit
  omega

end Claims

/-! ### Verified claims -/

theorem Payload.issuedAt_of_verify {jws : String} {n : Int} {ttl : UInt32} {now : Int}
    {c : Claims} (hn : SignedToken.IssuedAt jws n) (hlow : -2 ^ 63 ≤ n) (hhigh : n < 2 ^ 63)
    (h : (Payload.verify ⟨jws⟩ ttl now).result = .ok c) : c.issuedAt = Claims.shownTime n := by
  obtain ⟨t, hparse, hverify⟩ := result_verify_eq_ok_iff.mp h
  obtain ⟨rfl, -⟩ := SignedToken.verify_eq_ok_iff.mp hverify
  obtain ⟨m, hissued, hm⟩ := SignedToken.issuedAt_of_parse hparse hn
  rw [hissued, hm.saturate_eq hlow hhigh]

/-! ### Printed claims -/

/-- A token with an issue time of 64 bits shows, when it is accepted, this time
rounded, in the claims as well as in the text that is printed of them. It is
the time that was signed exactly if fifty-three bits hold it, as they do up to
`2 ^ 53`. -/
theorem SignedToken.shown_issue_time {jws : String} {n : Int} (hn : IssuedAt jws n)
    (hlow : -2 ^ 63 ≤ n) (hhigh : n < 2 ^ 63) :
    (∀ ttl now c, (Payload.verify ⟨jws⟩ ttl now).result = .ok c →
      c.issuedAt = Claims.shownTime n) ∧
    (∀ (command : OpenCommand) settings typed input now output,
      command.Verifies settings typed input jws →
        (command.run settings typed input now).result = .ok output →
        ∃ raw, Json.LastWritten (Utf8.encode output) "iat" raw ∧
          Json.IntegerText (Claims.shownTime n) raw) ∧
    (Claims.shownTime n = n ↔ Claims.Keeps n) ∧ (n.natAbs ≤ 2 ^ 53 → Claims.Keeps n) := by
  refine ⟨?_, ?_, Claims.shownTime_eq_iff hlow hhigh, Claims.keeps_of_le⟩
  · intro ttl now c h
    exact Payload.issuedAt_of_verify hn hlow hhigh h
  · intro command settings typed input now output hverifies hrun
    obtain ⟨ttl, c, hc, rfl⟩ := hverifies.exists_claims hrun
    have hissued := Payload.issuedAt_of_verify hn hlow hhigh hc
    have hsize : c.issuedAt.natAbs < Json.significandLimit :=
      hissued ▸ Claims.natAbs_shownTime_lt n
    exact ⟨_, Claims.lastWritten_toJson hsize, hissued ▸ Json.integerText_leaf c.issuedAt⟩

/-- A short issue time is printed as it was signed, by a command that opens a
sealed payload. -/
theorem SignedToken.shown_issue_time_short :
    ∃ (s : Sealed) (raw : Bytes),
      (OpenRun.verifying.run .default none (Utf8.encode (s.token ++ "\n")) 0).result =
          .ok neutralClaims.toJson ∧
        Json.LastWritten (Utf8.encode neutralClaims.toJson) "iat" raw ∧
        Json.IntegerText 1760000000 raw ∧ neutralClaims.issuedAt = 1760000000 := by
  have hissued : IssuedAt (OpenRun.payloadFor "s0").jws 1760000000 :=
    issuedAt_unsignedText (c := OpenRun.registering "s0") (by decide)
  obtain ⟨s, -, hverifies, hrun, -⟩ :=
    OpenRun.exists_verifying_payloadFor read_neutralClaims (by decide +kernel)
  obtain ⟨hclaims, hprinted, hkept, hsmall⟩ := shown_issue_time hissued (by decide) (by decide)
  have hsame := hkept.mpr (hsmall (by decide))
  obtain ⟨raw, hlast, hraw⟩ := hprinted _ _ _ _ _ _ hverifies hrun
  exact ⟨s, raw, hrun, hlast, hsame ▸ hraw, (hclaims _ _ _ (OpenRun.result_verify_payloadFor read_neutralClaims)).trans hsame⟩

/-- The least issue time after the epoch that is not kept. -/
def longTime : Claims := { neutralClaims with issuedAt := 9007199254740993 }

/-- Verified claims may show an issue time that was not signed. -/
theorem Payload.verify_shows_other_time :
    ¬∀ (jws : String) (n : Int) (ttl : UInt32) (now : Int) (c : Claims),
      SignedToken.IssuedAt jws n → -2 ^ 63 ≤ n → n < 2 ^ 63 →
        (Payload.verify ⟨jws⟩ ttl now).result = .ok c → c.issuedAt = n := by
  intro hall
  have hread : (Json.Members.parse (Utf8.encode longTime.toJson)).map Claims.ofMembers =
      .ok { longTime with issuedAt := 9007199254740992 } := by decide +kernel
  have hfresh : 1760000000 ≤ Claims.deadline { longTime with issuedAt := 9007199254740992 } 10 := by
    decide
  have haccepted := result_verify_unsignedText hread rfl hfresh
  have hissued : SignedToken.IssuedAt (unsignedText longTime) 9007199254740993 :=
    SignedToken.issuedAt_unsignedText (c := longTime) (by decide)
  have hshown := hall _ _ _ _ _ hissued (by decide) (by decide) haccepted
  exact absurd hshown (by decide)

end SealedToken

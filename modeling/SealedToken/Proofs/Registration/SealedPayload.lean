import SealedToken.Proofs.Command.Seal
import SealedToken.Proofs.Registration.Payload

/-! # Payloads in sealed tokens

A payload is written as JSON, sealed, carried in an authorization value, and
opened and read again. Each of these stages gives back what the one before it
was given, so the signed token in the payload arrives as it was. -/

namespace SealedToken

namespace Opener

/-- A token without blanks may come in an authorization value. -/
theorem authorized_bearer (o : Opener) {t : String} (hspace : ' ' ∉ t.toList) :
    (o.authorized ("Bearer " ++ t)).result = (o.payload t).result := by
  have htoken : Authorization.token ("Bearer " ++ t) = .ok t :=
    Authorization.token_scheme_append hspace
  rw [authorized, Traced.result_bind, htoken]
  rfl

end Opener

namespace Payload

variable {p : Payload} {key : MasterKey} {m : KeyManagement} {enc : ContentEncryption}
  {random : RandomStream} {s : Sealed}

theorem result_payload_of_sealBytes
    (h : sealBytes (Utf8.encode p.toJson) key.toOctetKey m enc random = .ok s) :
    ((Opener.ofMaster key).payload s.token).result = .ok p := by
  have hbytes : ((Opener.ofMaster key).bytes s.token).result = .ok (Utf8.encode p.toJson) := by
    rw [Opener.result_bytes]
    exact (outcome_of_sealBytes h).result_eq
  rw [Opener.result_payload]
  exact bind_eq_ok_iff.mpr ⟨_, hbytes, parse_toJson p⟩

/-- A signed token of any characters, unless it is longer than the cipher's
limit, is sealed as a payload by every algorithm for sixteen bytes, and by no
other. Whether the opener is made of the password or of its stored digest, and
whether the token comes alone or in an authorization value, the payload is
found again. -/
theorem sealed_opens (jws password : String) (m : KeyManagement) (enc : ContentEncryption)
    (random : RandomStream) :
    let key := MasterKey.ofPassword password
    let text := Utf8.encode (toJson ⟨jws⟩)
    ((∃ s, sealBytes text key.toOctetKey m enc random = .ok s) ↔
        (m.name = "dir" ∧ enc.name = "A128GCM" ∨ m.name = "A128KW") ∧
          text.length ≤ Gcm.textLimit) ∧
      Opener.ofHash key.toHex = .ok (.ofPassword password) ∧
      ∀ s, sealBytes text key.toOctetKey m enc random = .ok s →
        ∀ o, (o = .ofPassword password ∨ Opener.ofHash key.toHex = .ok o) →
          (o.payload s.token).result = .ok ⟨jws⟩ ∧
            (o.authorized ("Bearer " ++ s.token)).result = .ok ⟨jws⟩ := by
  intro key text
  have hhash : Opener.ofHash key.toHex = .ok (.ofPassword password) := Opener.ofHash_toHex key
  refine ⟨MasterKey.exists_sealBytes_iff, hhash, ?_⟩
  intro s hs o ho
  have ho : o = .ofPassword password := by
    rcases ho with ho | ho
    · exact ho
    · rw [hhash] at ho
      exact (Except.ok.inj ho).symm
  have hpayload : (o.payload s.token).result = .ok ⟨jws⟩ := by
    rw [ho]
    exact result_payload_of_sealBytes hs
  rw [Opener.authorized_bearer o (space_notMem_of_sealBytes hs)]
  exact ⟨hpayload, hpayload⟩

end Payload

end SealedToken

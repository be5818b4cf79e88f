import SealedToken.Proofs.Steps
import SealedToken.Registration.Claims

/-! # What a refused token is blamed for

A signed token is refused for its form, for its age, or for its signer: the
key, the signing method, or the signature. Reading blames the form and nothing
else, the checks after the one of the age blame the signer and nothing else,
and only the age remains for that check. -/

namespace SealedToken

namespace Error

/-- The text is no signed token. -/
inductive BlamesForm : Error → Prop
  | count (n : Nat) : BlamesForm (.signedPartCount n)
  | encoding (p : SignedPart) (f : Base64.Fault) : BlamesForm (.signedPartEncoding p f)
  | grammar (p : SignedPart) (r : Json.Refusal) : BlamesForm (.signedPartSyntax p r)

/-- The key is none, the method is another one, or the signature does not hold. -/
inductive BlamesSigner : Error → Prop
  | keyEncoding (f : Base64.Fault) : BlamesSigner (.publicKeyEncoding f)
  | keyLength (n : Nat) : BlamesSigner (.publicKeyLength n)
  | keyPoint : BlamesSigner .publicKeyPoint
  | method (name : String) : BlamesSigner (.signingMethod name)
  | signature : BlamesSigner .wrongSignature

theorem BlamesForm.kind_eq {err : Error} (h : err.BlamesForm) : err.kind = .verification := by
  cases h with
  | count n => rfl
  | encoding p f => rfl
  | grammar p r => rfl

theorem BlamesForm.ne_expired {err : Error} (h : err.BlamesForm) : err ≠ .expired := by
  rintro rfl
  cases h

theorem BlamesForm.not_blamesSigner {err : Error} (h : err.BlamesForm) : ¬err.BlamesSigner := by
  intro hsigner
  cases h with
  | count n => cases hsigner
  | encoding p f => cases hsigner
  | grammar p r => cases hsigner

theorem BlamesSigner.kind_eq {err : Error} (h : err.BlamesSigner) : err.kind = .verification := by
  cases h with
  | keyEncoding f => rfl
  | keyLength n => rfl
  | keyPoint => rfl
  | method name => rfl
  | signature => rfl

theorem BlamesSigner.ne_expired {err : Error} (h : err.BlamesSigner) : err ≠ .expired := by
  rintro rfl
  cases h

end Error

/-! ### Reading -/

namespace SignedToken

theorem blamesForm_of_readPart {p : SignedPart} {segment : Bytes} {err : Error}
    (h : readPart p segment = .error err) : err.BlamesForm := by
  unfold readPart at h
  split at h
  · cases h
    exact .encoding p _
  · obtain ⟨r, -, rfl⟩ := mapError_eq_error_iff.mp h
    exact .grammar p r

theorem blamesForm_of_parse {jws : String} {err : Error} (h : parse jws = .error err) :
    err.BlamesForm := by
  unfold parse ofSegments at h
  split at h
  · rcases bind_eq_error_iff.mp h with h | ⟨header, -, h⟩
    · exact blamesForm_of_readPart h
    rcases bind_eq_error_iff.mp h with h | ⟨claims, -, h⟩
    · exact blamesForm_of_readPart h
    · cases h
  · cases h
    exact .count _

theorem kind_of_parse {jws : String} {err : Error} (h : parse jws = .error err) :
    err.kind = .verification :=
  (blamesForm_of_parse h).kind_eq

end SignedToken

/-! ### Checking the signer -/

namespace Claims

theorem blamesSigner_of_readPublicKey {text : String} {err : Error}
    (h : readPublicKey text = .error err) : err.BlamesSigner := by
  unfold readPublicKey at h
  split at h
  · cases h
    exact .keyEncoding _
  split at h
  · cases h
    exact .keyLength _
  split at h
  · cases h
  · cases h
    exact .keyPoint

theorem blamesSigner_of_checkMethod {header : Json.Members} {err : Error}
    (h : checkMethod header = .error err) : err.BlamesSigner := by
  simp only [checkMethod] at h
  split at h
  · cases h
  · cases h
    exact .method _

theorem blamesSigner_of_checkSignature {key : Ed25519.PublicKey} {message segment : Bytes}
    {err : Error} (h : checkSignature key message segment = .error err) : err.BlamesSigner := by
  unfold checkSignature at h
  split at h
  · split at h
    · cases h
    · cases h
      exact .signature
  · cases h
    exact .signature

end Claims

namespace SignedToken

theorem blamesSigner_of_checkSigner {t : SignedToken} {err : Error}
    (h : t.checkSigner = .error err) : err.BlamesSigner := by
  rcases bind_eq_error_iff.mp h with h | ⟨key, -, h⟩
  · exact Claims.blamesSigner_of_readPublicKey h
  rcases bind_eq_error_iff.mp h with h | ⟨u, -, h⟩
  · exact Claims.blamesSigner_of_checkMethod h
  rcases bind_eq_error_iff.mp h with h | ⟨v, -, h⟩
  · exact Claims.blamesSigner_of_checkSignature h
  · cases h

theorem checkSigner_ne_expired (t : SignedToken) : t.checkSigner ≠ .error .expired :=
  fun h => (blamesSigner_of_checkSigner h).ne_expired rfl

theorem verify_eq_expired_iff {t : SignedToken} {ttl : UInt32} {now : Int} :
    t.verify ttl now = .error .expired ↔ t.claims.deadline ttl < now := by
  rw [verify]
  split
  · rename_i hlt
    simp [hlt]
  · rename_i hlt
    simp [hlt, t.checkSigner_ne_expired]

theorem kind_of_verify {t : SignedToken} {ttl : UInt32} {now : Int} {err : Error}
    (h : t.verify ttl now = .error err) : err.kind = .verification := by
  unfold verify at h
  split at h
  · cases h
    rfl
  · exact (blamesSigner_of_checkSigner h).kind_eq

end SignedToken

end SealedToken

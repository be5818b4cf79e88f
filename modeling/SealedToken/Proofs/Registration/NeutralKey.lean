import SealedToken.Proofs.Ed25519.Neutral
import SealedToken.Proofs.Registration.Claims

/-! # Tokens that nobody signed

The neutral point is a public key like any other here. The one signature that
holds under it for every message makes a token of any claims that name it, so
such a token shows nothing about its sender. -/

namespace SealedToken

/-- Under a key of the neutral point nothing is needed for evidence but the
claims: the signature is always the same. -/
def Evidence.ofNeutralKey {IsObject : Json.Members → Bytes → Prop} {headerText claimsText : Bytes}
    {header claims : Json.Members} {ttl : UInt32} {now : Int} {key : Ed25519.PublicKey}
    (hheader : IsObject header headerText) (hclaims : IsObject claims claimsText)
    (hmethod : header.Holds "alg" (.text "EdDSA"))
    (hkey : Claims.readPublicKey (Claims.ofMembers claims).publicKey = .ok key)
    (hneutral : key.point.IsNeutral) (hfresh : now ≤ (Claims.ofMembers claims).deadline ttl) :
    Evidence IsObject (signedText headerText claimsText Ed25519.neutralSignature) ttl now
      (Claims.ofMembers claims) where
  header := Base64.urlText headerText
  claims := Base64.urlText claimsText
  signature := Base64.urlText Ed25519.neutralSignature
  segments := textParts_signedText _ _ _
  headerText := headerText
  headerMembers := header
  header_eq := rfl
  header_isObject := hheader
  claimsText := claimsText
  claimsMembers := claims
  claims_eq := rfl
  claims_isObject := hclaims
  publicKey := (Claims.ofMembers_eq_iff.mp rfl).1
  username := (Claims.ofMembers_eq_iff.mp rfl).2.1
  issuedAt := (Claims.ofMembers_eq_iff.mp rfl).2.2
  fresh := hfresh
  keyBytes := key.bytes
  key_eq := (Claims.readPublicKey_eq_ok_iff.mp hkey).1
  key_length := (Claims.readPublicKey_eq_ok_iff.mp hkey).2.1
  point := key.point
  point_eq := (Claims.readPublicKey_eq_ok_iff.mp hkey).2.2
  method := hmethod
  signatureBytes := Ed25519.neutralSignature
  signature_eq := rfl
  signature_length := SignedToken.length_of_accepts (key.accepts_neutralSignature hneutral [])
  accepted := key.accepts_neutralSignature hneutral _

/-! ### A key of the neutral point -/

/-- Claims of the key of the neutral point. -/
def neutralClaims : Claims := ⟨"AQAAAAAAAAAAAAAAAAAAAAAAAAAAAAAAAAAAAAAAAAA=", "s0", 1760000000⟩

theorem readPublicKey_neutralClaims :
    Claims.readPublicKey neutralClaims.publicKey =
      .ok ⟨1 :: List.replicate 31 0, Ed25519.Point.identity⟩ := by
  decide +kernel

def neutralClaimsText : Bytes := Utf8.encode neutralClaims.toJson

theorem read_neutralClaims :
    (Json.Members.parse neutralClaimsText).map Claims.ofMembers = .ok neutralClaims := by
  decide +kernel

theorem exists_neutralClaims : ∃ ms, Json.ObjectText Json.depthLimit ms neutralClaimsText ∧
    Claims.ofMembers ms = neutralClaims := by
  obtain ⟨ms, hms, hclaims⟩ := Json.map_eq_ok_iff.mp read_neutralClaims
  exact ⟨ms, Json.Members.parse_eq_ok_iff.mp hms, hclaims⟩

def plainHeader : Bytes := Utf8.encode "\x7b\"alg\":\"EdDSA\",\"typ\":\"JWT\"\x7d"

theorem exists_plainHeader : ∃ ms, Json.ObjectText Json.depthLimit ms plainHeader ∧
    ms.Holds "alg" (.text "EdDSA") := by
  have h : (Json.Members.parse plainHeader).toOption.map Claims.checkMethod = some (.ok ()) := by
    decide +kernel
  obtain ⟨ms, hms, hmethod⟩ := Option.map_eq_some_iff.mp h
  exact ⟨ms, Json.Members.parse_eq_ok_iff.mp (toOption_eq_some_iff.mp hms),
    Claims.checkMethod_eq_ok_iff.mp hmethod⟩

/-- Claims as they are written, signed by nobody. -/
def unsignedText (c : Claims) : String :=
  signedText plainHeader (Utf8.encode c.toJson) Ed25519.neutralSignature

/-- Claims that are read with the key of the neutral point are accepted unsigned. -/
theorem result_verify_unsignedText {c read : Claims} {ttl : UInt32} {now : Int}
    (h : (Json.Members.parse (Utf8.encode c.toJson)).map Claims.ofMembers = .ok read)
    (hkey : read.publicKey = neutralClaims.publicKey) (hfresh : now ≤ read.deadline ttl) :
    (Payload.verify ⟨unsignedText c⟩ ttl now).result = .ok read := by
  obtain ⟨claims, hclaims, rfl⟩ := Json.map_eq_ok_iff.mp h
  obtain ⟨header, hheader, hmethod⟩ := exists_plainHeader
  have hkey' := hkey ▸ readPublicKey_neutralClaims
  have hobject := Json.Members.parse_eq_ok_iff.mp hclaims
  have hevidence := Evidence.ofNeutralKey hheader hobject hmethod hkey'
    Ed25519.Point.isNeutral_identity hfresh
  exact Payload.result_verify_eq_ok_iff.mpr (nonempty_evidence_iff.mp ⟨hevidence⟩)

/-! ### Acceptance without a private key -/

/-- Claims that name the key of the neutral point are accepted with one and the
same signature, whatever else they say. -/
theorem Payload.verify_neutral_key {headerText claimsText : Bytes} {header claims : Json.Members}
    {ttl : UInt32} {now : Int} {key : Ed25519.PublicKey}
    (hheader : Json.ObjectText Json.depthLimit header headerText)
    (hclaims : Json.ObjectText Json.depthLimit claims claimsText)
    (hmethod : header.Holds "alg" (.text "EdDSA"))
    (hkey : Claims.readPublicKey (Claims.ofMembers claims).publicKey = .ok key)
    (hneutral : key.point.IsNeutral) (hfresh : now ≤ (Claims.ofMembers claims).deadline ttl) :
    (Payload.verify ⟨signedText headerText claimsText Ed25519.neutralSignature⟩ ttl now).result =
        .ok (Claims.ofMembers claims) ∧
      key.point.HasSmallOrder := by
  have hevidence := Evidence.ofNeutralKey hheader hclaims hmethod hkey hneutral hfresh
  have haccepted := nonempty_evidence_iff.mp ⟨hevidence⟩
  exact ⟨result_verify_eq_ok_iff.mpr haccepted, hneutral.hasSmallOrder⟩

theorem Payload.verify_neutral_key_plain :
    (Payload.verify ⟨signedText plainHeader neutralClaimsText Ed25519.neutralSignature⟩
        10 1760000000).result = .ok neutralClaims ∧
      Ed25519.Point.identity.HasSmallOrder := by
  obtain ⟨header, hheader, hmethod⟩ := exists_plainHeader
  obtain ⟨claims, hclaims, hms⟩ := exists_neutralClaims
  have hkey := hms ▸ readPublicKey_neutralClaims
  have hfresh : 1760000000 ≤ (Claims.ofMembers claims).deadline 10 := hms ▸ by decide
  have haccepted := verify_neutral_key hheader hclaims hmethod hkey
    Ed25519.Point.isNeutral_identity hfresh
  rwa [hms] at haccepted

/-- Acceptance does not keep keys of small order out. -/
theorem Payload.verify_accepts_small_order :
    ¬∀ (jws : String) (ttl : UInt32) (now : Int) (c : Claims) (key : Ed25519.PublicKey),
      (Payload.verify ⟨jws⟩ ttl now).result = .ok c → Claims.readPublicKey c.publicKey = .ok key →
        ¬key.point.HasSmallOrder := by
  intro hall
  obtain ⟨header, hheader, hmethod⟩ := exists_plainHeader
  obtain ⟨claims, hclaims, hms⟩ := exists_neutralClaims
  have hkey := hms ▸ readPublicKey_neutralClaims
  have hfresh : 1760000000 ≤ (Claims.ofMembers claims).deadline 10 := hms ▸ by decide
  have hneutral := Ed25519.Point.isNeutral_identity
  have hevidence := Evidence.ofNeutralKey hheader hclaims hmethod hkey hneutral hfresh
  have haccepted := result_verify_eq_ok_iff.mpr (nonempty_evidence_iff.mp ⟨hevidence⟩)
  exact hall _ _ _ _ _ haccepted hkey hneutral.hasSmallOrder

end SealedToken

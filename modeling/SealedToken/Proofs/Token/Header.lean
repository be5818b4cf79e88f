import SealedToken.Proofs.Json.Writer
import SealedToken.Proofs.Token.Envelope

/-! # Headers and envelopes that are assembled

Every header is read as it was written, whatever its remarks say, and so an
envelope that is assembled from parts is read from its token as these parts. -/

namespace SealedToken

namespace Header

/-! ### Members of a written header -/

def remarkText (name : String) : Option String → List (String × String)
  | some s => [(name, s)]
  | none => []

/-- The members of a header, all of them strings. -/
def memberTexts (h : Header) : List (String × String) :=
  [("enc", h.enc.name), ("alg", h.alg.name)] ++ remarkText "kid" h.kid ++
    remarkText "typ" h.typ ++ remarkText "cty" h.cty

theorem textLeaves_remarkText (name : String) (s : Option String) :
    Json.textLeaves (remarkText name s) = remark name s := by
  cases s <;> rfl

theorem members_eq (h : Header) : h.members = Json.textLeaves h.memberTexts := by
  simp only [members, memberTexts, ← textLeaves_remarkText, Json.textLeaves, List.map_append,
    List.map_cons, List.map_nil]

theorem value_parse_toJson (h : Header) :
    Json.Value.parse (Utf8.encode h.toJson) = .ok (.object (Json.textMembers h.memberTexts)) := by
  have hobject := Json.objectText_written (Json.depthLimit - 1) h.memberTexts
  rw [← members_eq] at hobject
  exact (Json.value_reads Json.depthLimit).whole_eq_ok_iff.mpr hobject

theorem draft_memberTexts (h : Header) :
    draft (Json.textMembers h.memberTexts) =
      .ok ⟨h.enc.name, h.alg.name, h.kid, h.typ, h.cty, none, []⟩ := by
  rcases h with ⟨enc, alg, kid, typ, cty⟩
  cases kid <;> cases typ <;> cases cty <;> rfl

theorem ofDraft_names (h : Header) :
    ofDraft ⟨h.enc.name, h.alg.name, h.kid, h.typ, h.cty, none, []⟩ = .ok h := by
  have henc : ContentEncryption.parse h.enc.name = .ok h.enc := by
    rw [ContentEncryption.parse, ContentEncryption.ofName?_name]
  have halg : KeyManagement.parse h.alg.name = .ok h.alg := by
    rw [KeyManagement.parse, KeyManagement.ofName?_name]
  simp [ofDraft, henc, halg, bind, Except.bind, pure, Except.pure]

/-- A header is read as it was written. -/
theorem parse_toJson (h : Header) : parse (Utf8.encode h.toJson) = .ok h := by
  simp only [parse, value_parse_toJson, draft_memberTexts]
  exact ofDraft_names h

end Header

namespace Envelope

theorem headerAgrees_assemble (h : Header) (encryptedKey nonce ciphertext tag : Bytes) :
    (assemble h encryptedKey nonce ciphertext tag).HeaderAgrees where
  nonempty := by
    intro hnil
    have hempty : Utf8.encode h.toJson = [] := Base64.encode_injective Base64.url_lawful hnil
    have hparse := Header.parse_toJson h
    rw [hempty] at hparse
    cases hparse
  spelled := ⟨_, rfl, Header.parse_toJson h⟩

/-- Reading undoes writing: of a header with any remarks, and of an envelope
that is assembled with it from any bytes. -/
theorem parse_assemble (h : Header) :
    Header.parse (Utf8.encode h.toJson) = .ok h ∧
      ∀ encryptedKey nonce ciphertext tag,
        parse (assemble h encryptedKey nonce ciphertext tag).serialize =
          .ok (assemble h encryptedKey nonce ciphertext tag) := by
  constructor
  · exact Header.parse_toJson h
  · intro encryptedKey nonce ciphertext tag
    exact parse_serialize (headerAgrees_assemble h encryptedKey nonce ciphertext tag)

end Envelope

end SealedToken

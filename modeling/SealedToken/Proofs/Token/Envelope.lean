import SealedToken.Proofs.Steps
import SealedToken.Proofs.Text.Base64
import SealedToken.Proofs.Text.Split
import SealedToken.Token.Envelope

/-! # Canonical tokens

A token is read exactly if its parts between dots are the segments of the
envelope that is read, so an envelope that was read is written as the same
token again, and no two tokens are read as envelopes with the same segments. -/

namespace SealedToken.Envelope

/-! ### Segments -/

theorem decodeSegment_eq_ok_iff {s : Segment} {text b : Bytes} :
    decodeSegment s text = .ok b ↔ text = Base64.encode Base64.url b := by
  rw [decodeSegment, mapError_eq_ok_iff]
  exact Base64.decode_eq_ok_iff_encode Base64.url_lawful

/-- The header text of an envelope spells its header. -/
structure HeaderAgrees (e : Envelope) : Prop where
  nonempty : e.headerText ≠ []
  spelled : ∃ json, e.headerText = Base64.encode Base64.url json ∧ Header.parse json = .ok e.header

/-- A header text decides what the header is. -/
theorem HeaderAgrees.header_eq {e e' : Envelope} (he : e.HeaderAgrees) (he' : e'.HeaderAgrees)
    (h : e'.headerText = e.headerText) : e'.header = e.header := by
  obtain ⟨json, hjson, hparse⟩ := he.spelled
  obtain ⟨json', hjson', hparse'⟩ := he'.spelled
  have hsame : json' = json := by
    apply Base64.encode_injective Base64.url_lawful
    rw [← hjson, ← hjson', h]
  rw [hsame, hparse] at hparse'
  exact (Except.ok.inj hparse').symm

theorem eq_segments_of_ofSegments {parts : List Bytes} {e : Envelope}
    (h : ofSegments parts = .ok e) : parts = e.segments ∧ e.HeaderAgrees := by
  unfold ofSegments at h
  split at h
  · rename_i header encryptedKey nonce ciphertext tag
    split at h
    · cases h
    rename_i hne
    obtain ⟨json, hjson, h⟩ := bind_eq_ok_iff.mp h
    obtain ⟨hd, hheader, h⟩ := bind_eq_ok_iff.mp h
    obtain ⟨ek, hek, h⟩ := bind_eq_ok_iff.mp h
    obtain ⟨n, hn, h⟩ := bind_eq_ok_iff.mp h
    obtain ⟨c, hc, h⟩ := bind_eq_ok_iff.mp h
    obtain ⟨t, ht, h⟩ := bind_eq_ok_iff.mp h
    cases h
    refine ⟨?_, hne, json, decodeSegment_eq_ok_iff.mp hjson, hheader⟩
    rw [decodeSegment_eq_ok_iff.mp hek, decodeSegment_eq_ok_iff.mp hn,
      decodeSegment_eq_ok_iff.mp hc, decodeSegment_eq_ok_iff.mp ht]
    rfl
  · cases h

theorem ofSegments_segments {e : Envelope} (h : e.HeaderAgrees) :
    ofSegments e.segments = .ok e := by
  obtain ⟨hne, json, hjson, hheader⟩ := h
  have hdecode : ∀ s b, decodeSegment s (Base64.encode Base64.url b) = .ok b := fun s b =>
    decodeSegment_eq_ok_iff.mpr rfl
  have hdecodeHeader : decodeSegment .header e.headerText = .ok json := by
    rw [hjson, hdecode]
  simp [segments, ofSegments, hne, hdecodeHeader, hheader, hdecode, bind, Except.bind, pure,
    Except.pure]

/-- A token is read exactly if its parts are the segments of the envelope. -/
theorem parse_eq_ok_iff {token : String} {e : Envelope} :
    parse token = .ok e ↔ Split.parts dot (Utf8.encode token) = e.segments ∧ e.HeaderAgrees := by
  constructor
  · exact eq_segments_of_ofSegments
  · rintro ⟨hparts, hagrees⟩
    rw [parse, hparts, ofSegments_segments hagrees]

theorem headerAgrees_of_parse {token : String} {e : Envelope} (h : parse token = .ok e) :
    e.HeaderAgrees := (parse_eq_ok_iff.mp h).2

/-! ### Written tokens -/

theorem eq_encode_of_mem_segments {e : Envelope} (h : e.HeaderAgrees) {p : Bytes}
    (hp : p ∈ e.segments) : ∃ b, p = Base64.encode Base64.url b := by
  obtain ⟨-, json, hjson, -⟩ := h
  simp only [segments, List.mem_cons] at hp
  rcases hp with hp | hp
  · exact ⟨json, hp.trans hjson⟩
  · obtain ⟨b, -, hb⟩ := List.mem_map.mp hp
    exact ⟨b, hb.symm⟩

theorem isAscii_of_mem_segments {e : Envelope} (h : e.HeaderAgrees) {p : Bytes}
    (hp : p ∈ e.segments) : Utf8.IsAscii p := by
  obtain ⟨b, rfl⟩ := eq_encode_of_mem_segments h hp
  exact Base64.isAscii_encode_url b

theorem dot_notMem_of_mem_segments {e : Envelope} (h : e.HeaderAgrees) {p : Bytes}
    (hp : p ∈ e.segments) : dot ∉ p := by
  obtain ⟨b, rfl⟩ := eq_encode_of_mem_segments h hp
  exact Base64.dot_notMem_encode_url b

theorem encode_serialize {e : Envelope} (h : e.HeaderAgrees) :
    Utf8.encode e.serialize = Split.join dot e.segments := by
  rw [serialize, Utf8.encode_ascii]
  exact Split.isAscii_join (by decide) fun p hp => isAscii_of_mem_segments h hp

/-- An envelope whose header text spells its header is read from its token. -/
theorem parse_serialize {e : Envelope} (h : e.HeaderAgrees) : parse e.serialize = .ok e := by
  refine parse_eq_ok_iff.mpr ⟨?_, h⟩
  rw [encode_serialize h]
  exact Split.parts_join (List.cons_ne_nil _ _) fun p hp => dot_notMem_of_mem_segments h hp

/-- An envelope is written as the token that it was read from. -/
theorem serialize_of_parse {token : String} {e : Envelope} (h : parse token = .ok e) :
    e.serialize = token := by
  obtain ⟨hparts, hagrees⟩ := parse_eq_ok_iff.mp h
  apply Utf8.encode_injective
  rw [encode_serialize hagrees, ← hparts, Split.join_parts]

theorem map_encode_textParts_of_parse {token : String} {e : Envelope}
    (h : parse token = .ok e) : (textParts '.' token).map Utf8.encode = e.segments := by
  rw [← Utf8.parts_encode (by decide) token]
  exact (parse_eq_ok_iff.mp h).1

/-- The associated data is the text before the first dot, as it stands. -/
theorem head_textParts_of_parse {token : String} {e : Envelope} (h : parse token = .ok e) :
    (textParts '.' token).head?.map Utf8.encode = some e.associated := by
  rw [← List.head?_map, map_encode_textParts_of_parse h]
  rfl

/-! ### Canonicity -/

/-- A token that is read is written again as it was; its header text is kept
as it stands before the first of its four dots; and no other token has the
same five segments. -/
theorem parse_canonical {token : String} {e : Envelope} (h : parse token = .ok e) :
    e.serialize = token ∧
      (textParts '.' token).length = 5 ∧
      (textParts '.' token).head?.map Utf8.encode = some e.associated ∧
      ∀ (other : String) (e' : Envelope), parse other = .ok e' →
        e'.associated = e.associated → e'.encryptedKey = e.encryptedKey → e'.nonce = e.nonce →
        e'.ciphertext = e.ciphertext → e'.tag = e.tag → other = token := by
  refine ⟨serialize_of_parse h, ?_, head_textParts_of_parse h, ?_⟩
  · have hlength := congrArg List.length (map_encode_textParts_of_parse h)
    rw [List.length_map] at hlength
    exact hlength
  · intro other e' hother hassociated hek hnonce hciphertext htag
    have hsegments : e'.segments = e.segments := by
      rw [associated, associated] at hassociated
      rw [segments, segments, hassociated, hek, hnonce, hciphertext, htag]
    rw [← serialize_of_parse hother, ← serialize_of_parse h, serialize, serialize, hsegments]

/-- A token without an encrypted key, and with three sealed bytes. -/
theorem parse_canonical_direct :
    ∃ e, parse
        "eyJlbmMiOiJBMTI4R0NNIiwiYWxnIjoiZGlyIn0..AAAAAAAAAAAAAAAA.AQID.AAAAAAAAAAAAAAAAAAAAAA" =
        .ok e ∧
      e.serialize =
        "eyJlbmMiOiJBMTI4R0NNIiwiYWxnIjoiZGlyIn0..AAAAAAAAAAAAAAAA.AQID.AAAAAAAAAAAAAAAAAAAAAA" ∧
      e.ciphertext = [1, 2, 3] := by
  have h : parse
      "eyJlbmMiOiJBMTI4R0NNIiwiYWxnIjoiZGlyIn0..AAAAAAAAAAAAAAAA.AQID.AAAAAAAAAAAAAAAAAAAAAA" =
      .ok (assemble (Header.plain .direct (.gcm .bits128)) [] (List.replicate 12 0) [1, 2, 3]
        (List.replicate 16 0)) :=
    toOption_eq_some_iff.mp (by decide +kernel)
  exact ⟨_, h, (parse_canonical h).1, rfl⟩

end SealedToken.Envelope

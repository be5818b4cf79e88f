import SealedToken.Proofs.Json.Entries
import SealedToken.Proofs.Text.Utf8Cuts

/-! # Characters of a JSON text

All punctuation of a JSON text is made of bytes below 128, so the text may be
cut around every string and every value. Strings that are read hold nothing but
characters; whether a whole object does is a matter of the values in it. -/

namespace SealedToken.Json

open Utf8 (Valid)

/-! ### Punctuation -/

theorem lt_of_endsValue {b : Byte} (h : endsValue b = true) : b < 0x80 := by
  revert h
  exact Byte.forall_of_fin (P := fun b => endsValue b = true → b < 0x80) (by decide +kernel) b

theorem valid_blanks_append {ws s : Bytes} (hws : Blanks ws) : Valid (ws ++ s) ↔ Valid s := by
  induction ws with
  | nil => rfl
  | cons b ws ih =>
    have hb : b < 0x80 := lt_of_endsValue (endsValue_of_isBlank (hws b List.mem_cons_self))
    rw [List.cons_append, Utf8.valid_cons hb, ih fun x hx => hws x (List.mem_cons_of_mem b hx)]

theorem valid_of_blanks {ws : Bytes} (hws : Blanks ws) : Valid ws := by
  have hnil := (valid_blanks_append (s := []) hws).mpr Utf8.valid_nil
  rwa [List.append_nil] at hnil

theorem Ends.valid_append {a s : Bytes} (h : Ends s) : Valid (a ++ s) ↔ Valid a ∧ Valid s := by
  cases s with
  | nil => simp [Utf8.valid_nil]
  | cons b s =>
    have hb : b < 0x80 := lt_of_endsValue (h b rfl)
    rw [Utf8.valid_append_cons hb, Utf8.valid_cons hb]

/-! ### Strings -/

theorem lt_of_escaped {e c : Byte} (h : escaped? e = some c) : e < 0x80 ∧ c < 0x80 := by
  have hall : ∀ c ∈ escaped? e, e < 0x80 ∧ c < 0x80 :=
    Byte.forall_of_fin (P := fun e => ∀ c ∈ escaped? e, e < 0x80 ∧ c < 0x80) (by decide +kernel) e
  exact hall c h

theorem lt_of_hexValue {b : Byte} {v : Nat} (h : hexValue? b = some v) : b < 0x80 := by
  have hall : ∀ v ∈ hexValue? b, b < 0x80 :=
    Byte.forall_of_fin (P := fun b => ∀ v ∈ hexValue? b, b < 0x80) (by decide +kernel) b
  exact hall v h

theorem isAscii_of_hexWord {a b c d : Byte} {n : Nat} (h : hexWord? a b c d = some n) :
    Utf8.IsAscii [a, b, c, d] := by
  obtain ⟨va, ha, h⟩ := Option.bind_eq_some_iff.mp h
  obtain ⟨vb, hb, h⟩ := Option.bind_eq_some_iff.mp h
  obtain ⟨vc, hc, h⟩ := Option.bind_eq_some_iff.mp h
  obtain ⟨vd, hd, -⟩ := Option.bind_eq_some_iff.mp h
  simp [Utf8.isAscii_cons, Utf8.isAscii_nil, lt_of_hexValue ha, lt_of_hexValue hb,
    lt_of_hexValue hc, lt_of_hexValue hd]

/-- A piece is a byte that stands for itself, or it is written in bytes below
128 and stands for a character. -/
theorem Piece.verbatim_or_ascii {a b : Bytes} (h : Piece a b) :
    (∃ x, a = [x] ∧ b = [x]) ∨ Utf8.IsAscii a ∧ ∃ c, b = String.utf8EncodeChar c := by
  have hslash : backslash < 0x80 := by decide
  have hletter : letterU < 0x80 := by decide
  cases h with
  | plain => exact .inl ⟨_, rfl, rfl⟩
  | escape he =>
    obtain ⟨he, hc⟩ := lt_of_escaped he
    refine .inr ⟨?_, _, (Utf8.encodeChar_ofNat _ hc).symm⟩
    simp [Utf8.isAscii_cons, Utf8.isAscii_nil, hslash, he]
  | code hn =>
    have hdigits := isAscii_of_hexWord hn
    refine .inr ⟨?_, _, rfl⟩
    simpa [Utf8.isAscii_cons, hslash, hletter] using hdigits
  | pair hn _ hm =>
    have hdigits := isAscii_of_hexWord hn
    have hdigits' := isAscii_of_hexWord hm
    refine .inr ⟨?_, _, rfl⟩
    simp_all [Utf8.isAscii_cons]

/-- What spells characters behind some bytes still does as pieces of a string. -/
theorem valid_append_pieces {raw b pre : Bytes} (h : Pieces raw b) (hvalid : Valid (pre ++ b)) :
    Valid (pre ++ raw) := by
  -- A character may be written in several pieces, so the bytes in front are kept.
  induction h generalizing pre with
  | nil => exact hvalid
  | @cons a b raw out piece rest ih =>
    rcases piece.verbatim_or_ascii with ⟨x, rfl, rfl⟩ | ⟨ha, c, rfl⟩
    · rw [← List.append_assoc] at hvalid ⊢
      exact ih hvalid
    · obtain ⟨hpre, hout⟩ := (Utf8.valid_append_encodeChar c).mp hvalid
      have hraw : Valid ([] ++ raw) := ih hout
      exact hpre.append ((Utf8.valid_of_isAscii ha).append hraw)

theorem StringText.valid {t : String} {raw : Bytes} (h : StringText t raw) : Valid raw := by
  have hvalid : Valid ([] ++ Utf8.encode t) := Utf8.valid_iff.mpr ⟨t, rfl⟩
  exact valid_append_pieces h hvalid

theorem StringText.valid_quoted {t : String} {raw s : Bytes} (h : StringText t raw) :
    Valid (quoteMark :: (raw ++ quoteMark :: s)) ↔ Valid s := by
  have hquote : quoteMark < 0x80 := by decide
  rw [Utf8.valid_cons hquote, Utf8.valid_append_cons hquote]
  exact and_iff_right h.valid

/-! ### Members -/

theorem Lead.valid_append {first : Bool} {lead : Bytes} (h : Lead first lead) (s : Bytes) :
    Valid (lead ++ s) ↔ Valid s := by
  cases first with
  | true => exact valid_blanks_append h
  | false =>
    obtain ⟨ws, ws', hws, hws', rfl⟩ := h
    have hcomma : comma < 0x80 := by decide
    rw [List.append_assoc, List.cons_append, valid_blanks_append hws, Utf8.valid_cons hcomma,
      valid_blanks_append hws']

theorem MemberText.valid_append {m : String × Bytes} {b s : Bytes} (h : MemberText Verbatim m b)
    (hs : Ends s) : Valid (b ++ s) ↔ Valid m.2 ∧ Valid s := by
  obtain ⟨raw, ws, ws', v, hraw, hws, hws', hv, rfl⟩ := h
  have hcolon : colon < 0x80 := by decide
  simp only [List.cons_append, List.append_assoc, hraw.valid_quoted, valid_blanks_append hws,
    Utf8.valid_cons hcolon, valid_blanks_append hws', hs.valid_append]
  rw [show v = m.2 from hv]

/-- The characters of an object are those of the values in it. -/
theorem Entries.valid_append {first : Bool} {ms : List (String × Bytes)} {body : Bytes}
    (h : Entries (MemberText Verbatim) first ms body) (s : Bytes) :
    Valid (body ++ closeObject :: s) ↔ (∀ m ∈ ms, Valid m.2) ∧ Valid s := by
  have hclose : closeObject < 0x80 := by decide
  induction h with
  | nil hblanks =>
    rw [valid_blanks_append hblanks, Utf8.valid_cons hclose]
    simp
  | @cons _ m ms lead b body hlead hentry rest ih =>
    have hends : Ends (body ++ closeObject :: s) := rest.ends (by decide) s
    have hrest : Valid (body ++ closeObject :: s) ↔ (∀ m ∈ ms, Valid m.2) ∧ Valid s := ih
    rw [List.append_assoc, List.append_assoc, hlead.valid_append, hentry.valid_append hends, hrest,
      List.forall_mem_cons, and_assoc]

end SealedToken.Json

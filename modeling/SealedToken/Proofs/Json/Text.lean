import SealedToken.Json.Text
import SealedToken.Proofs.Steps
import SealedToken.Proofs.Text.Utf8Reading

/-! # Strings as they are written

Between its quote marks a string is a row of pieces, each of them the bytes of
a character or an escape. The reader takes exactly these rows, if the bytes that
they stand for are those of a text. -/

namespace SealedToken.Json

/-! ### Pieces -/

/-- A piece of a string and the bytes that it stands for. -/
inductive Piece : Bytes → Bytes → Prop
  | plain {b : Byte} (hquote : b ≠ quoteMark) (hslash : b ≠ backslash) (hcontrol : ¬b < 0x20) :
    Piece [b] [b]
  | escape {e c : Byte} (he : escaped? e = some c) : Piece [backslash, e] [c]
  | code {h1 h2 h3 h4 : Byte} {n : Nat} (hn : hexWord? h1 h2 h3 h4 = some n)
    (htrailing : isTrailingSurrogate n = false) (hleading : isLeadingSurrogate n = false) :
    Piece [backslash, letterU, h1, h2, h3, h4] (String.utf8EncodeChar (Char.ofNat n))
  | pair {h1 h2 h3 h4 l1 l2 l3 l4 : Byte} {n m : Nat} (hn : hexWord? h1 h2 h3 h4 = some n)
    (hleading : isLeadingSurrogate n = true) (hm : hexWord? l1 l2 l3 l4 = some m)
    (htrailing : isTrailingSurrogate m = true) :
    Piece [backslash, letterU, h1, h2, h3, h4, backslash, letterU, l1, l2, l3, l4]
      (String.utf8EncodeChar (joinSurrogates n m))

inductive Pieces : Bytes → Bytes → Prop
  | nil : Pieces [] []
  | cons {a b raw out : Bytes} (piece : Piece a b) (rest : Pieces raw out) :
    Pieces (a ++ raw) (b ++ out)

/-- A string between its quote marks. -/
def StringText (t : String) (raw : Bytes) : Prop := Pieces raw (Utf8.encode t)

/-! ### Reading pieces -/

theorem isTrailingSurrogate_of_leading {n : Nat} (h : isLeadingSurrogate n = true) :
    isTrailingSurrogate n = false := by
  simp only [isLeadingSurrogate, isTrailingSurrogate, Bool.and_eq_true, decide_eq_true_eq,
    Bool.and_eq_false_iff, decide_eq_false_iff_not] at *
  omega

theorem stringBytes_piece_append {a b : Bytes} (h : Piece a b) (s : Bytes) :
    stringBytes (a ++ s) = prepend b (stringBytes s) := by
  have hquote : backslash ≠ quoteMark := by decide
  rw [stringBytes.eq_def]
  cases h with
  | plain hquote hslash hcontrol =>
    simp only [List.cons_append, List.nil_append, if_neg hquote, if_neg hslash, if_neg hcontrol]
  | escape he =>
    rename_i e c
    have hu : e ≠ letterU := by
      intro h
      rw [h] at he
      have hnone : escaped? letterU = none := by decide
      rw [hnone] at he
      cases he
    simp only [List.cons_append, List.nil_append, if_neg hquote, if_true, if_neg hu, he]
  | code hn htrailing hleading =>
    simp only [List.cons_append, List.nil_append, if_neg hquote, if_true, hn, htrailing, hleading]
    rfl
  | pair hn hleading hm htrailing =>
    simp only [List.cons_append, List.nil_append, if_neg hquote, if_true, hn, hleading, hm,
      htrailing, isTrailingSurrogate_of_leading hleading]
    rfl

theorem stringBytes_complete {raw b : Bytes} (h : Pieces raw b) (s : Bytes) :
    stringBytes (raw ++ quoteMark :: s) = .ok (b, s) := by
  induction h with
  | nil => rw [List.nil_append, stringBytes.eq_def]; rfl
  | cons piece rest ih => rw [List.append_assoc, stringBytes_piece_append piece, ih]; rfl

theorem pieces_of_prepend {a b c r s : Bytes} (piece : Piece a b)
    (ih : ∀ c, stringBytes s = .ok (c, r) → ∃ raw, Pieces raw c ∧ s = raw ++ quoteMark :: r)
    (h : prepend b (stringBytes s) = .ok (c, r)) :
    ∃ raw, Pieces raw c ∧ a ++ s = raw ++ quoteMark :: r := by
  cases hs : stringBytes s with
  | error f =>
    rw [hs] at h
    cases h
  | ok p =>
    obtain ⟨d, t⟩ := p
    rw [hs] at h
    cases h
    obtain ⟨raw, hraw, hs⟩ := ih d hs
    exact ⟨a ++ raw, .cons piece hraw, by rw [hs, List.append_assoc]⟩

theorem stringBytes_sound {s c r : Bytes} (h : stringBytes s = .ok (c, r)) :
    ∃ raw, Pieces raw c ∧ s = raw ++ quoteMark :: r := by
  -- Four branches read on behind a piece; all others but the first end in a fault.
  fun_induction stringBytes s generalizing c with
  | case2 s =>
    cases h
    exact ⟨[], .nil, rfl⟩
  | case9 h1 h2 h3 h4 n hn _ hleading l1 l2 l3 l4 s m hm htrailing _ ih =>
    exact pieces_of_prepend (.pair hn hleading hm htrailing) (fun _ => ih) h
  | case14 h1 h2 h3 h4 s n hn htrailing hleading _ ih =>
    exact pieces_of_prepend (.code hn (Bool.not_eq_true _ ▸ htrailing)
      (Bool.not_eq_true _ ▸ hleading)) (fun _ => ih) h
  | case16 e s _ c' hc _ ih => exact pieces_of_prepend (.escape hc) (fun _ => ih) h
  | case19 b s hquote hslash hcontrol ih =>
    exact pieces_of_prepend (.plain hquote hslash hcontrol) (fun _ => ih) h
  | _ => cases h

/-! ### Reading strings -/

theorem string_eq_ok_iff {s r : Bytes} {t : String} :
    string s = .ok (t, r) ↔ ∃ raw, StringText t raw ∧ s = raw ++ quoteMark :: r := by
  constructor
  · intro h
    obtain ⟨⟨b, r'⟩, hb, h⟩ := bind_eq_ok_iff.mp h
    obtain ⟨raw, hraw, hs⟩ := stringBytes_sound hb
    cases hdecode : Utf8.decode b with
    | error f => simp only [hdecode] at h; cases h
    | ok t' =>
      simp only [hdecode] at h
      cases h
      rw [Utf8.decode_eq_ok_iff.mp hdecode] at hraw
      exact ⟨raw, hraw, hs⟩
  · rintro ⟨raw, hraw, rfl⟩
    refine bind_eq_ok_iff.mpr ⟨(Utf8.encode t, r), stringBytes_complete hraw r, ?_⟩
    simp only [Utf8.decode_eq_ok_iff.mpr rfl]

end SealedToken.Json

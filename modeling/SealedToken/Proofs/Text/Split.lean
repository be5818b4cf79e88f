import SealedToken.Proofs.Text.Utf8
import SealedToken.Text.Split

/-! # Splitting texts and splitting their bytes

Parts and joins of a row are those of the library. A text may be cut at a
character below 128 before or after its bytes are taken: the byte of such a
character belongs to no other one. -/

namespace SealedToken

namespace Split

theorem extendFirst_eq_modifyHead {α : Type} (a : α) {ps : List (List α)} (h : ps ≠ []) :
    extendFirst a ps = ps.modifyHead (List.cons a) := by
  cases ps with
  | nil => exact absurd rfl h
  | cons p ps => rfl

theorem parts_eq_splitOn {α : Type} [DecidableEq α] (sep : α) (s : List α) :
    parts sep s = s.splitOn sep := by
  induction s with
  | nil => rfl
  | cons a s ih =>
    rw [List.splitOn_cons_eq_if_modifyHead, parts]
    by_cases h : a = sep
    · rw [if_pos h, if_pos (beq_iff_eq.mpr h), ih]
    · rw [if_neg h, if_neg (fun hb => h (beq_iff_eq.mp hb)),
        extendFirst_eq_modifyHead a (parts_ne_nil sep s), ih]

theorem join_eq_intercalate {α : Type} (sep : α) (ps : List (List α)) :
    join sep ps = [sep].intercalate ps := by
  induction ps with
  | nil => rfl
  | cons p ps ih =>
    cases ps with
    | nil => exact List.intercalate_singleton.symm
    | cons q qs => rw [join, ih, List.intercalate_cons_cons, List.append_assoc]; rfl

theorem parts_join {α : Type} [DecidableEq α] {sep : α} {ps : List (List α)} (hne : ps ≠ [])
    (h : ∀ p ∈ ps, sep ∉ p) : parts sep (join sep ps) = ps := by
  rw [parts_eq_splitOn, join_eq_intercalate]
  exact List.splitOn_intercalate sep h hne

theorem parts_append_of_notMem {α : Type} [DecidableEq α] {sep : α} {p : List α} (h : sep ∉ p)
    (s : List α) : parts sep (p ++ s) = (parts sep s).modifyHead (p ++ ·) := by
  induction p with
  | nil =>
    rw [List.nil_append]
    cases parts sep s with
    | nil => rfl
    | cons q qs => rfl
  | cons a p ih =>
    have ha : a ≠ sep := fun he => h (he ▸ List.mem_cons_self)
    have hp : sep ∉ p := fun hm => h (List.mem_cons_of_mem a hm)
    rw [List.cons_append, parts, if_neg ha, ih hp]
    cases hs : parts sep s with
    | nil => exact absurd hs (parts_ne_nil sep s)
    | cons q qs => rfl

theorem forall_mem_join {α : Type} {P : α → Prop} {sep : α} {ps : List (List α)} (hsep : P sep)
    (h : ∀ p ∈ ps, ∀ a ∈ p, P a) : ∀ a ∈ join sep ps, P a := by
  induction ps with
  | nil => exact List.forall_mem_nil P
  | cons p ps ih =>
    have hp := h p List.mem_cons_self
    have hps := ih fun q hq => h q (List.mem_cons_of_mem p hq)
    cases ps with
    | nil => exact hp
    | cons q qs => exact List.forall_mem_append.mpr ⟨hp, List.forall_mem_cons.mpr ⟨hsep, hps⟩⟩

theorem isAscii_join {sep : Byte} {ps : List Bytes} (hsep : sep < 0x80)
    (h : ∀ p ∈ ps, Utf8.IsAscii p) : Utf8.IsAscii (join sep ps) := forall_mem_join hsep h

end Split

/-- The parts of a text between the occurrences of a character. -/
def textParts (c : Char) (s : String) : List String := (s.split c).toList.map (·.copy)

theorem textParts_eq_splitOn (c : Char) (s : String) :
    textParts c s = (s.toList.splitOn c).map String.ofList :=
  String.toList_split_char

namespace Utf8

theorem parts_flatMap_encodeChar {c : Char} (hc : c.toNat < 0x80) (cs : List Char) :
    Split.parts (UInt8.ofNat c.toNat) (cs.flatMap String.utf8EncodeChar) =
      (cs.splitOn c).map (·.flatMap String.utf8EncodeChar) := by
  induction cs with
  | nil => rfl
  | cons d cs ih =>
    rw [List.flatMap_cons, List.splitOn_cons_eq_if_modifyHead]
    by_cases h : d = c
    · rw [if_pos (beq_iff_eq.mpr h), h, encodeChar_of_lt hc, List.singleton_append, Split.parts,
        if_pos rfl, ih]
      rfl
    · have hnot : UInt8.ofNat c.toNat ∉ String.utf8EncodeChar d := by
        rw [mem_encodeChar_iff hc]
        exact h
      rw [if_neg (fun hb => h (beq_iff_eq.mp hb)), Split.parts_append_of_notMem hnot, ih]
      cases List.splitOn c cs with
      | nil => rfl
      | cons p ps => rfl

/-- The bytes of the parts are the parts of the bytes. -/
theorem parts_encode {c : Char} (hc : c.toNat < 0x80) (s : String) :
    Split.parts (UInt8.ofNat c.toNat) (encode s) = (textParts c s).map encode := by
  rw [encode, parts_flatMap_encodeChar hc, textParts_eq_splitOn, List.map_map]
  apply List.map_congr_left
  intro p _
  rw [Function.comp_apply, encode, String.toList_ofList]

/-- The bytes of joined parts are the joined bytes of the parts. -/
theorem encode_intercalate {c : Char} (hc : c.toNat < 0x80) (ps : List String) :
    encode ((String.singleton c).intercalate ps) =
      Split.join (UInt8.ofNat c.toNat) (ps.map encode) := by
  have hsep : encode (String.singleton c) = [UInt8.ofNat c.toNat] := by
    rw [encode, String.toList_singleton, List.flatMap_singleton, encodeChar_of_lt hc]
  induction ps with
  | nil => rfl
  | cons p ps ih =>
    cases ps with
    | nil => exact congrArg encode String.intercalate_singleton
    | cons q qs =>
      rw [String.intercalate_cons_cons, encode_append, encode_append, hsep, ih, List.append_assoc]
      rfl

end Utf8

end SealedToken

import SealedToken.Text.Utf8

/-! # UTF-8 as a code

Different texts have different bytes, and bytes below 128 are characters of
their own. Together: a text whose bytes are all below 128 is written by
`ascii`, and no other text has these bytes. -/

namespace SealedToken

/-- Checks a property of all bytes on their 256 values. -/
theorem Byte.forall_of_fin {P : Byte → Prop} (h : ∀ n : Fin 256, P (UInt8.ofNat n.val))
    (x : Byte) : P x := by
  have hx := h ⟨x.toNat, x.toNat_lt⟩
  rwa [UInt8.ofNat_toNat] at hx

namespace Utf8

/-! ### Bytes below 128 -/

/-- Every byte is a character of its own. -/
def IsAscii (b : Bytes) : Prop := ∀ x ∈ b, x < 0x80

theorem isAscii_nil : IsAscii [] := by
  intro x hx
  simp at hx

theorem isAscii_cons {x : Byte} {b : Bytes} : IsAscii (x :: b) ↔ x < 0x80 ∧ IsAscii b := by
  simp [IsAscii]

theorem encodeChar_of_lt {c : Char} (h : c.toNat < 0x80) :
    String.utf8EncodeChar c = [UInt8.ofNat c.toNat] := by
  have hle : c.val.toNat ≤ 0x7f := Nat.le_of_lt_succ h
  simp only [String.utf8EncodeChar, if_pos hle]
  rfl

theorem le_ofNat_mod_add (n : Nat) {m k : Nat} (hm : 0 < m) (hk : 0x80 ≤ k)
    (hsum : m + k ≤ 256) : 0x80 ≤ UInt8.ofNat (n % m + k) := by
  have hn := Nat.mod_lt n hm
  rw [UInt8.le_iff_toNat_le, UInt8.toNat_ofNat', Nat.mod_eq_of_lt (by omega)]
  exact Nat.le_trans hk (Nat.le_add_left k _)

/-- The bytes of every other character are at least 128. -/
theorem le_of_mem_encodeChar {c : Char} (h : ¬c.toNat < 0x80) :
    ∀ x ∈ String.utf8EncodeChar c, 0x80 ≤ x := by
  have hle : ¬c.val.toNat ≤ 0x7f := fun hc => h (Nat.lt_succ_of_le hc)
  have htail : ∀ n : Nat, 0x80 ≤ UInt8.ofNat (n % 0x40 + 0x80) := fun n =>
    le_ofNat_mod_add n (by decide) (by decide) (by decide)
  simp only [String.utf8EncodeChar, if_neg hle]
  split
  · simp only [List.forall_mem_cons, List.not_mem_nil, false_imp_iff, implies_true, and_true]
    exact ⟨le_ofNat_mod_add _ (by decide) (by decide) (by decide), htail _⟩
  · split
    · simp only [List.forall_mem_cons, List.not_mem_nil, false_imp_iff, implies_true, and_true]
      exact ⟨le_ofNat_mod_add _ (by decide) (by decide) (by decide), htail _, htail _⟩
    · simp only [List.forall_mem_cons, List.not_mem_nil, false_imp_iff, implies_true, and_true]
      exact ⟨le_ofNat_mod_add _ (by decide) (by decide) (by decide), htail _, htail _, htail _⟩

/-- A byte below 128 stands only for its own character. -/
theorem mem_encodeChar_iff {c d : Char} (hc : c.toNat < 0x80) :
    UInt8.ofNat c.toNat ∈ String.utf8EncodeChar d ↔ d = c := by
  by_cases hd : d.toNat < 0x80
  · rw [encodeChar_of_lt hd, List.mem_singleton, ← UInt8.toNat_inj, UInt8.toNat_ofNat',
      UInt8.toNat_ofNat', Nat.mod_eq_of_lt (by omega), Nat.mod_eq_of_lt (by omega), eq_comm,
      Char.toNat_inj]
  · constructor
    · intro hmem
      have hle := le_of_mem_encodeChar hd _ hmem
      rw [UInt8.le_iff_toNat_le, UInt8.toNat_ofNat', Nat.mod_eq_of_lt (by omega)] at hle
      exact absurd hc (Nat.not_lt.mpr hle)
    · intro hdc
      exact absurd (hdc ▸ hc) hd

theorem encodeChar_ofNat (x : Byte) (h : x < 0x80) :
    String.utf8EncodeChar (Char.ofNat x.toNat) = [x] := by
  have hx : x.toNat < 0x80 := UInt8.lt_iff_toNat_lt.mp h
  have hvalid : x.toNat.isValidChar := Or.inl (by omega)
  have hc : (Char.ofNat x.toNat).toNat = x.toNat := by
    rw [Char.ofNat, dif_pos hvalid]
    rfl
  rw [encodeChar_of_lt (hc.symm ▸ hx), hc, UInt8.ofNat_toNat]

theorem encode_ascii (b : Bytes) (h : IsAscii b) : encode (ascii b) = b := by
  simp only [encode, ascii, String.toList_ofList, List.flatMap_map]
  induction b with
  | nil => rfl
  | cons x b ih =>
    obtain ⟨hx, hb⟩ := isAscii_cons.mp h
    rw [List.flatMap_cons, encodeChar_ofNat x hx, ih hb]
    rfl

/-! ### Writing is injective -/

/-- The first character is read back off any bytes that begin with it. -/
theorem head_eq_of_encodeChar_append {c d : Char} {r s : Bytes}
    (h : String.utf8EncodeChar c ++ r = String.utf8EncodeChar d ++ s) : c = d := by
  have hb := congrArg List.toByteArray h
  rw [List.toByteArray_append, List.toByteArray_append] at hb
  have hc := ByteArray.utf8DecodeChar?_utf8EncodeChar_append (c := c) (b := r.toByteArray)
  have hd := ByteArray.utf8DecodeChar?_utf8EncodeChar_append (c := d) (b := s.toByteArray)
  rw [hb, hd] at hc
  exact (Option.some.inj hc).symm

theorem flatMap_encodeChar_eq_nil {cs : List Char}
    (h : cs.flatMap String.utf8EncodeChar = []) : cs = [] := by
  cases cs with
  | nil => rfl
  | cons c cs =>
    rw [List.flatMap_cons, List.append_eq_nil_iff] at h
    exact absurd h.1 String.utf8EncodeChar_ne_nil

theorem flatMap_encodeChar_injective (cs ds : List Char)
    (h : cs.flatMap String.utf8EncodeChar = ds.flatMap String.utf8EncodeChar) : cs = ds := by
  induction cs generalizing ds with
  | nil => exact (flatMap_encodeChar_eq_nil h.symm).symm
  | cons c cs ih =>
    cases ds with
    | nil => exact flatMap_encodeChar_eq_nil h
    | cons d ds =>
      rw [List.flatMap_cons, List.flatMap_cons] at h
      have hcd := head_eq_of_encodeChar_append h
      subst hcd
      have ht := List.append_cancel_left h
      rw [ih ds ht]

theorem encode_injective {s t : String} (h : encode s = encode t) : s = t := by
  have hl := flatMap_encodeChar_injective s.toList t.toList h
  exact String.toList_inj.mp hl

/-- A text with bytes below 128 is what these bytes write. -/
theorem eq_ascii_iff {s : String} {b : Bytes} (h : IsAscii b) :
    s = ascii b ↔ encode s = b := by
  constructor
  · intro hs
    rw [hs, encode_ascii b h]
  · intro hs
    apply encode_injective
    rw [hs, encode_ascii b h]

end Utf8

end SealedToken

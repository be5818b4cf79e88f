import SealedToken.Proofs.Text.Utf8

/-! # Reading UTF-8

Reading is the inverse of writing: a byte string is read exactly if it is the
bytes of a text, and then as that text. Both directions go through the shapes
that a character has in bytes, of which there are four. -/

namespace SealedToken.Utf8

/-! ### Bytes that follow -/

theorem continues_iff {b : Byte} : continues b = true ↔ 0x80 ≤ b.toNat ∧ b.toNat ≤ 0xBF := by
  simp [continues, UInt8.le_iff_toNat_le]

/-- A byte may follow if it continues a character, and some leading bytes narrow this down. -/
theorem mayFollow_iff {a b : Byte} :
    mayFollow a b = true ↔ 0x80 ≤ b.toNat ∧ b.toNat ≤ 0xBF ∧
      (a.toNat = 0xE0 → 0xA0 ≤ b.toNat) ∧ (a.toNat = 0xED → b.toNat ≤ 0x9F) ∧
      (a.toNat = 0xF0 → 0x90 ≤ b.toNat) ∧ (a.toNat = 0xF4 → b.toNat ≤ 0x8F) := by
  unfold mayFollow
  simp only [← UInt8.toNat_inj]
  repeat' split
  all_goals
    simp only [Bool.and_eq_true, decide_eq_true_eq, UInt8.le_iff_toNat_le, UInt8.reduceToNat,
      continues_iff] at *
    omega

/-! ### Shapes of characters -/

/-- The bytes of a character, by their number. -/
inductive Spells : Char → Bytes → Prop
  | one {a : Byte} (ha : a.toNat < 0x80) : Spells (Char.ofNat a.toNat) [a]
  | two {a b : Byte} (ha : 0xC2 ≤ a.toNat) (ha' : a.toNat < 0xE0) (hb : continues b = true) :
    Spells (assemble (a.toNat % 32) [b]) [a, b]
  | three {a b c : Byte} (ha : 0xE0 ≤ a.toNat) (ha' : a.toNat < 0xF0) (hb : mayFollow a b = true)
    (hc : continues c = true) : Spells (assemble (a.toNat % 16) [b, c]) [a, b, c]
  | four {a b c d : Byte} (ha : 0xF0 ≤ a.toNat) (ha' : a.toNat < 0xF5) (hb : mayFollow a b = true)
    (hc : continues c = true) (hd : continues d = true) :
    Spells (assemble (a.toNat % 8) [b, c, d]) [a, b, c, d]

theorem toNat_ofNat {v : Nat} (h : v.isValidChar) : (Char.ofNat v).val.toNat = v := by
  rw [Char.ofNat, dif_pos h]
  rfl

theorem ofNat_eq_of_toNat {n : Nat} {x : Byte} (h : n = x.toNat) : UInt8.ofNat n = x := by
  rw [h, UInt8.ofNat_toNat]

theorem encodeChar_of_spells {c : Char} {b : Bytes} (h : Spells c b) :
    String.utf8EncodeChar c = b := by
  cases h with
  | @one a ha => exact encodeChar_ofNat a (UInt8.lt_iff_toNat_lt.mpr ha)
  | @two a b ha ha' hb =>
    obtain ⟨hb, hb'⟩ := continues_iff.mp hb
    have hv : a.toNat % 32 * 64 + payload b = (a.toNat - 0xC0) * 64 + (b.toNat - 0x80) := by
      unfold payload
      omega
    have hval := toNat_ofNat (v := (a.toNat - 0xC0) * 64 + (b.toNat - 0x80)) (.inl (by omega))
    simp only [assemble, List.foldl_cons, List.foldl_nil, hv, String.utf8EncodeChar, hval]
    rw [if_neg (by omega), if_pos (by omega), ofNat_eq_of_toNat (x := a) (by omega),
      ofNat_eq_of_toNat (x := b) (by omega)]
  | @three a b c ha ha' hb hc =>
    obtain ⟨hb, hb', hE0, hED, -, -⟩ := mayFollow_iff.mp hb
    obtain ⟨hc, hc'⟩ := continues_iff.mp hc
    have hv : (a.toNat % 16 * 64 + payload b) * 64 + payload c =
        (a.toNat - 0xE0) * 4096 + (b.toNat - 0x80) * 64 + (c.toNat - 0x80) := by
      unfold payload
      omega
    have hvalid : ((a.toNat - 0xE0) * 4096 + (b.toNat - 0x80) * 64 +
        (c.toNat - 0x80)).isValidChar := by
      unfold Nat.isValidChar
      omega
    have hval := toNat_ofNat hvalid
    simp only [assemble, List.foldl_cons, List.foldl_nil, hv, String.utf8EncodeChar, hval]
    rw [if_neg (by omega), if_neg (by omega), if_pos (by omega),
      ofNat_eq_of_toNat (x := a) (by omega), ofNat_eq_of_toNat (x := b) (by omega),
      ofNat_eq_of_toNat (x := c) (by omega)]
  | @four a b c d ha ha' hb hc hd =>
    obtain ⟨hb, hb', -, -, hF0, hF4⟩ := mayFollow_iff.mp hb
    obtain ⟨hc, hc'⟩ := continues_iff.mp hc
    obtain ⟨hd, hd'⟩ := continues_iff.mp hd
    have hv : ((a.toNat % 8 * 64 + payload b) * 64 + payload c) * 64 + payload d =
        (a.toNat - 0xF0) * 262144 + (b.toNat - 0x80) * 4096 + (c.toNat - 0x80) * 64 +
          (d.toNat - 0x80) := by
      unfold payload
      omega
    have hvalid : ((a.toNat - 0xF0) * 262144 + (b.toNat - 0x80) * 4096 + (c.toNat - 0x80) * 64 +
        (d.toNat - 0x80)).isValidChar := by
      unfold Nat.isValidChar
      omega
    have hval := toNat_ofNat hvalid
    simp only [assemble, List.foldl_cons, List.foldl_nil, hv, String.utf8EncodeChar, hval]
    rw [if_neg (by omega), if_neg (by omega), if_neg (by omega),
      ofNat_eq_of_toNat (x := a) (by omega), ofNat_eq_of_toNat (x := b) (by omega),
      ofNat_eq_of_toNat (x := c) (by omega), ofNat_eq_of_toNat (x := d) (by omega)]

theorem toNat_ofNat_of_lt {n : Nat} (h : n < 256) : (UInt8.ofNat n).toNat = n := by
  rw [UInt8.toNat_ofNat', Nat.mod_eq_of_lt h]

theorem continues_ofNat (n : Nat) : continues (UInt8.ofNat (n % 64 + 0x80)) = true := by
  rw [continues_iff, toNat_ofNat_of_lt (by omega)]
  omega

theorem payload_ofNat (n : Nat) : payload (UInt8.ofNat (n % 64 + 0x80)) = n % 64 := by
  rw [payload, toNat_ofNat_of_lt (by omega)]
  omega

/-- Every character has one of the four shapes. -/
theorem spells_encodeChar (c : Char) : Spells c (String.utf8EncodeChar c) := by
  have hvalid := c.valid
  unfold UInt32.isValidChar Nat.isValidChar at hvalid
  have hc : Char.ofNat c.val.toNat = c := Char.ofNat_toNat c
  simp only [String.utf8EncodeChar]
  generalize c.val.toNat = v at *
  split
  · have ha : (UInt8.ofNat v).toNat = v := toNat_ofNat_of_lt (by omega)
    have h := Spells.one (a := UInt8.ofNat v) (by omega)
    rwa [ha, hc] at h
  split
  · have ha : (UInt8.ofNat (v / 64 % 32 + 0xC0)).toNat = v / 64 % 32 + 0xC0 :=
      toNat_ofNat_of_lt (by omega)
    have h := Spells.two (a := UInt8.ofNat (v / 64 % 32 + 0xC0)) (by omega) (by omega)
      (continues_ofNat v)
    have hv : (v / 64 % 32 + 0xC0) % 32 * 64 + v % 64 = v := by omega
    rwa [assemble, ha, List.foldl_cons, List.foldl_nil, payload_ofNat, hv, hc] at h
  split
  · have ha : (UInt8.ofNat (v / 4096 % 16 + 0xE0)).toNat = v / 4096 % 16 + 0xE0 :=
      toNat_ofNat_of_lt (by omega)
    have hb : (UInt8.ofNat (v / 64 % 64 + 0x80)).toNat = v / 64 % 64 + 0x80 :=
      toNat_ofNat_of_lt (by omega)
    have hfollow : mayFollow (UInt8.ofNat (v / 4096 % 16 + 0xE0))
        (UInt8.ofNat (v / 64 % 64 + 0x80)) = true := by
      rw [mayFollow_iff, ha, hb]
      omega
    have h := Spells.three (by omega) (by omega) hfollow (continues_ofNat v)
    have hv : ((v / 4096 % 16 + 0xE0) % 16 * 64 + v / 64 % 64) * 64 + v % 64 = v := by omega
    rwa [assemble, ha, List.foldl_cons, List.foldl_cons, List.foldl_nil, payload_ofNat,
      payload_ofNat, hv, hc] at h
  · have ha : (UInt8.ofNat (v / 262144 % 8 + 0xF0)).toNat = v / 262144 % 8 + 0xF0 :=
      toNat_ofNat_of_lt (by omega)
    have hb : (UInt8.ofNat (v / 4096 % 64 + 0x80)).toNat = v / 4096 % 64 + 0x80 :=
      toNat_ofNat_of_lt (by omega)
    have hfollow : mayFollow (UInt8.ofNat (v / 262144 % 8 + 0xF0))
        (UInt8.ofNat (v / 4096 % 64 + 0x80)) = true := by
      rw [mayFollow_iff, ha, hb]
      omega
    have h := Spells.four (by omega) (by omega) hfollow (continues_ofNat (v / 64))
      (continues_ofNat v)
    have hv : (((v / 262144 % 8 + 0xF0) % 8 * 64 + v / 4096 % 64) * 64 + v / 64 % 64) * 64 +
        v % 64 = v := by omega
    rwa [assemble, ha, List.foldl_cons, List.foldl_cons, List.foldl_cons, List.foldl_nil,
      payload_ofNat, payload_ofNat, payload_ofNat, hv, hc] at h

/-! ### Reading a character -/

theorem read_spells_append {c : Char} {b : Bytes} (h : Spells c b) (start : Nat) (s : Bytes) :
    read start (b ++ s) = (read (start + b.length) s).map (c :: ·) := by
  have hlt : ∀ {x : Byte} {n : Byte}, n.toNat ≤ x.toNat → ¬x < n := fun hle hlt =>
    absurd (UInt8.lt_iff_toNat_lt.mp hlt) (Nat.not_lt.mpr hle)
  rw [read.eq_def]
  cases h with
  | one ha => exact if_pos (UInt8.lt_iff_toNat_lt.mpr ha)
  | two ha ha' hb =>
    simp only [List.cons_append, List.nil_append]
    rw [if_neg (hlt (Nat.le_trans (by decide) ha)), if_neg (hlt (n := 0xC2) ha),
      if_pos (UInt8.lt_iff_toNat_lt.mpr ha'), if_pos hb]
    rfl
  | three ha ha' hb hc =>
    simp only [List.cons_append, List.nil_append]
    rw [if_neg (hlt (Nat.le_trans (by decide) ha)), if_neg (hlt (Nat.le_trans (by decide) ha)),
      if_neg (hlt (n := 0xE0) ha), if_pos (UInt8.lt_iff_toNat_lt.mpr ha'), if_pos hb, if_pos hc]
    rfl
  | four ha ha' hb hc hd =>
    simp only [List.cons_append, List.nil_append]
    rw [if_neg (hlt (Nat.le_trans (by decide) ha)), if_neg (hlt (Nat.le_trans (by decide) ha)),
      if_neg (hlt (Nat.le_trans (by decide) ha)), if_neg (hlt (n := 0xF0) ha),
      if_pos (UInt8.lt_iff_toNat_lt.mpr ha'), if_pos hb, if_pos hc, if_pos hd]
    rfl

theorem read_flatMap_encodeChar (start : Nat) (cs : List Char) :
    read start (cs.flatMap String.utf8EncodeChar) = .ok cs := by
  induction cs generalizing start with
  | nil => rfl
  | cons c cs ih =>
    rw [List.flatMap_cons, read_spells_append (spells_encodeChar c), ih]
    rfl

/-- What is read in front of the rest, if the rest is read at all. -/
theorem eq_of_map_cons {c : Char} {b rest : Bytes} {r : Except Fault (List Char)}
    {cs : List Char} (hspells : Spells c b)
    (ih : ∀ cs, r = .ok cs → rest = cs.flatMap String.utf8EncodeChar)
    (h : r.map (c :: ·) = .ok cs) : b ++ rest = cs.flatMap String.utf8EncodeChar := by
  cases r with
  | error f => cases h
  | ok ds =>
    cases h
    rw [List.flatMap_cons, encodeChar_of_spells hspells, ← ih ds rfl]

theorem eq_flatMap_encodeChar_of_read {start : Nat} {b : Bytes} {cs : List Char}
    (h : read start b = .ok cs) : b = cs.flatMap String.utf8EncodeChar := by
  have hle : ∀ {x n : Byte}, ¬x < n → n.toNat ≤ x.toNat := fun hlt =>
    Nat.not_lt.mp fun h => hlt (UInt8.lt_iff_toNat_lt.mpr h)
  fun_induction read start b generalizing cs with
  | case1 => cases h; rfl
  | case2 start a rest ha ih =>
    exact eq_of_map_cons (.one (UInt8.lt_iff_toNat_lt.mp ha)) (fun _ => ih) h
  | case5 start a _ ha ha' b rest hb ih =>
    exact eq_of_map_cons (.two (hle ha) (UInt8.lt_iff_toNat_lt.mp ha') hb) (fun _ => ih) h
  | case9 start a _ _ ha ha' b hb c rest hc ih =>
    exact eq_of_map_cons (.three (hle ha) (UInt8.lt_iff_toNat_lt.mp ha') hb hc) (fun _ => ih) h
  | case15 start a _ _ _ ha ha' b hb c hc d rest hd ih =>
    exact eq_of_map_cons (.four (hle ha) (UInt8.lt_iff_toNat_lt.mp ha') hb hc hd) (fun _ => ih) h
  | _ => cases h

/-- A byte string is read exactly if it is the bytes of the text that is read. -/
theorem decode_eq_ok_iff {b : Bytes} {t : String} : decode b = .ok t ↔ b = encode t := by
  constructor
  · intro h
    cases hread : read 0 b with
    | error f => rw [decode, hread] at h; cases h
    | ok cs =>
      rw [decode, hread] at h
      cases h
      rw [eq_flatMap_encodeChar_of_read hread, encode, String.toList_ofList]
  · intro h
    rw [h, decode, encode, read_flatMap_encodeChar]
    exact congrArg Except.ok String.ofList_toList

end SealedToken.Utf8

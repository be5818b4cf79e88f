import SealedToken.Text.Hex

/-! # Hexadecimal texts as they are written

A row of characters is read as bytes exactly if its lowercase form is what is
written for these bytes. So the rows that are read are those of an even number
of digits, of either case. -/

namespace SealedToken.Hex

/-! ### Digits -/

/-- A digit of either case. -/
def IsDigit (c : Char) : Prop := c ∈ "0123456789abcdefABCDEF".toList

instance (c : Char) : Decidable (IsDigit c) :=
  inferInstanceAs (Decidable (c ∈ "0123456789abcdefABCDEF".toList))

theorem toLower_of_le {c : Char} (h : 128 ≤ c.toNat) : c.toLower = c := by
  unfold Char.toLower
  apply dif_neg
  rintro ⟨-, hle⟩
  have hbound : c.toNat ≤ 90 := UInt32.le_iff_toNat_le.mp hle
  omega

theorem digit_lt (v : Fin 16) : (digit v).toNat < 128 := by
  revert v
  decide

theorem not_isDigit_of_le {c : Char} (h : 128 ≤ c.toNat) : ¬IsDigit c := by
  have hsmall : "0123456789abcdefABCDEF".toList.all (fun d => d.toNat < 128) = true := by decide
  intro hc
  have hlt := List.all_eq_true.mp hsmall c hc
  exact absurd (of_decide_eq_true hlt) (Nat.not_lt.mpr h)

/-- A digit has the value of its lowercase form. -/
theorem value?_eq_some_iff {c : Char} (v : Fin 16) :
    value? c = some v.val ↔ c.toLower = digit v := by
  by_cases hc : c.toNat < 128
  · have hall : ∀ (n : Fin 128) (v : Fin 16),
        value? (Char.ofNat n) = some v.val ↔ (Char.ofNat n).toLower = digit v := by
      decide +kernel
    have hone := hall ⟨c.toNat, hc⟩ v
    rwa [Char.ofNat_toNat] at hone
  -- Beyond these a character is its own lowercase form, and no digit.
  · have hnone : value? c = none := by
      unfold value?
      rw [if_neg (by omega), if_neg (by omega), if_neg (by omega)]
    rw [hnone, toLower_of_le (by omega)]
    constructor
    · intro h
      cases h
    · intro h
      have hlt := digit_lt v
      rw [← h] at hlt
      exact absurd hlt hc

theorem isDigit_iff {c : Char} : IsDigit c ↔ ∃ v : Fin 16, c.toLower = digit v := by
  by_cases hc : c.toNat < 128
  · have hall : ∀ n : Fin 128,
        IsDigit (Char.ofNat n) ↔ ∃ v : Fin 16, (Char.ofNat n).toLower = digit v := by
      decide +kernel
    have hone := hall ⟨c.toNat, hc⟩
    rwa [Char.ofNat_toNat] at hone
  · rw [toLower_of_le (by omega)]
    constructor
    · intro h
      exact absurd h (not_isDigit_of_le (by omega))
    · rintro ⟨v, rfl⟩
      exact absurd (digit_lt v) hc

/-! ### Rows of digits -/

theorem digits_cons (x : Byte) (b : Bytes) :
    digits (x :: b) = digit (x.toNat / 16) :: digit (x.toNat % 16) :: digits b := rfl

theorem digits_ofNat_cons (hi lo : Fin 16) (b : Bytes) :
    digits (UInt8.ofNat (16 * hi.val + lo.val) :: b) = digit hi :: digit lo :: digits b := by
  have hvalue : (UInt8.ofNat (16 * hi.val + lo.val)).toNat = 16 * hi.val + lo.val :=
    UInt8.toNat_ofNat_of_lt' (Nat.lt_of_lt_of_le (m := 256) (by omega) (by decide))
  have hdiv : (16 * hi.val + lo.val) / 16 = hi.val := by omega
  have hmod : (16 * hi.val + lo.val) % 16 = lo.val := by omega
  rw [digits_cons, hvalue, hdiv, hmod]

theorem exists_digit_of_mem_digits {b : Bytes} {c : Char} (h : c ∈ digits b) :
    ∃ v : Fin 16, c = digit v := by
  obtain ⟨x, -, hc⟩ := List.mem_flatMap.mp h
  have hx : x.toNat < 256 := x.toNat_lt
  simp only [List.mem_cons, List.not_mem_nil, or_false] at hc
  rcases hc with rfl | rfl
  · exact ⟨⟨x.toNat / 16, by omega⟩, rfl⟩
  · exact ⟨⟨x.toNat % 16, by omega⟩, rfl⟩

/-- A row is read as the bytes that are written as its lowercase form. -/
theorem ofDigits?_eq_some_iff {cs : List Char} {b : Bytes} :
    ofDigits? cs = some b ↔ cs.map Char.toLower = digits b := by
  induction cs using ofDigits?.induct generalizing b with
  | case1 =>
    cases b with
    | nil => exact ⟨fun _ => rfl, fun _ => rfl⟩
    | cons x b => simp [ofDigits?, digits_cons]
  | case2 c =>
    cases b with
    | nil => simp [ofDigits?, digits]
    | cons x b => simp [ofDigits?, digits_cons]
  | case3 h l cs ih =>
    simp only [ofDigits?, Option.bind_eq_bind, Option.bind_eq_some_iff, Option.pure_def,
      Option.some.injEq, List.map_cons]
    constructor
    · rintro ⟨hi, hhi, lo, hlo, b', hb', rfl⟩
      have hh := (value?_eq_some_iff ⟨hi, value?_lt hhi⟩).mp hhi
      have hl := (value?_eq_some_iff ⟨lo, value?_lt hlo⟩).mp hlo
      rw [hh, hl, ih.mp hb']
      exact (digits_ofNat_cons ⟨hi, value?_lt hhi⟩ ⟨lo, value?_lt hlo⟩ b').symm
    · intro hmap
      cases b with
      | nil => cases hmap
      | cons x b =>
        rw [digits_cons, List.cons.injEq, List.cons.injEq] at hmap
        obtain ⟨hh, hl, hcs⟩ := hmap
        have hx : x.toNat < 256 := x.toNat_lt
        refine ⟨x.toNat / 16, (value?_eq_some_iff ⟨x.toNat / 16, by omega⟩).mpr hh, x.toNat % 16,
          (value?_eq_some_iff ⟨x.toNat % 16, by omega⟩).mpr hl, b, ih.mpr hcs, ?_⟩
        rw [Nat.div_add_mod, UInt8.ofNat_toNat]

/-- Rows of digits are read as bytes, two digits to a byte. -/
theorem exists_ofDigits?_iff {cs : List Char} {n : Nat} :
    (∃ b, ofDigits? cs = some b ∧ b.length = n) ↔ cs.length = 2 * n ∧ ∀ c ∈ cs, IsDigit c := by
  simp only [ofDigits?_eq_some_iff]
  constructor
  · rintro ⟨b, hb, rfl⟩
    constructor
    · rw [← digits_length, ← hb, List.length_map]
    · intro c hc
      have hlower : c.toLower ∈ digits b := hb ▸ List.mem_map_of_mem hc
      exact isDigit_iff.mpr (exists_digit_of_mem_digits hlower)
  -- Two digits at a time make the next byte.
  · rintro ⟨hlength, hdigits⟩
    induction n generalizing cs with
    | zero =>
      cases List.eq_nil_of_length_eq_zero hlength
      exact ⟨[], rfl, rfl⟩
    | succ n ih =>
      match cs, hlength with
      | h :: l :: cs, hlength =>
        simp only [List.length_cons] at hlength
        simp only [List.forall_mem_cons] at hdigits
        obtain ⟨hh, hl, hcs⟩ := hdigits
        obtain ⟨hi, hhi⟩ := isDigit_iff.mp hh
        obtain ⟨lo, hlo⟩ := isDigit_iff.mp hl
        obtain ⟨b, hb, hn⟩ := ih (by omega) hcs
        refine ⟨UInt8.ofNat (16 * hi.val + lo.val) :: b, ?_, by rw [List.length_cons, hn]⟩
        rw [List.map_cons, List.map_cons, hhi, hlo, hb, digits_ofNat_cons]

end SealedToken.Hex

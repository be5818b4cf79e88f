import Mathlib.Algebra.Group.Nat.Defs
import SealedToken.Number.Binary64

/-! # Rounding to fifty-three bits

A natural number is kept exactly if it is a multiple of the spacing at its
size. Rounding never crosses a power of two, in either direction. -/

namespace SealedToken.Binary64

/-! ### Nearest multiples -/

theorem div_le_nearest (num den : Nat) : num / den ≤ nearest num den := by
  simp only [nearest]
  split
  · exact Nat.le_refl _
  split
  · exact Nat.le_succ _
  split
  · exact Nat.le_refl _
  · exact Nat.le_succ _

theorem nearest_le (num den : Nat) : nearest num den ≤ num / den + 1 := by
  simp only [nearest]
  split
  · exact Nat.le_succ _
  split
  · exact Nat.le_refl _
  split
  · exact Nat.le_succ _
  · exact Nat.le_refl _

theorem nearest_mul_right (num den : Nat) {c : Nat} (hc : 0 < c) :
    nearest (num * c) (den * c) = nearest num den := by
  have hlt {a b : Nat} : 2 * (a * c) < b * c ↔ 2 * a < b := by
    rw [← Nat.mul_assoc]
    exact Nat.mul_lt_mul_right hc
  have hgt {a b : Nat} : b * c < 2 * (a * c) ↔ b < 2 * a := by
    rw [← Nat.mul_assoc]
    exact Nat.mul_lt_mul_right hc
  simp only [nearest, Nat.mul_div_mul_right num den hc, Nat.mul_mod_mul_right, hlt, hgt]

theorem nearest_mul_eq_iff {num den : Nat} (hden : 0 < den) :
    nearest num den * den = num ↔ den ∣ num := by
  constructor
  · intro h
    exact ⟨nearest num den, by rw [Nat.mul_comm, h]⟩
  · rintro ⟨q, rfl⟩
    rw [Nat.mul_comm den q, nearest_of_mul hden]

/-! ### Spacing -/

/-- One is this power of two, counted in units. -/
def unitBits : Nat := 1074

theorem one_eq : one = 2 ^ unitBits := by decide +kernel

theorem one_pos : 0 < one := one_eq ▸ Nat.two_pow_pos unitBits

theorem spacing_eq (n : Nat) : spacing n = 2 ^ (n.log2 - 52) := by
  have h : surplus n = n.log2 - 52 := by
    unfold surplus
    omega
  rw [spacing, h]
  rfl

theorem spacing_pos (n : Nat) : 0 < spacing n := Nat.two_pow_pos _

/-- Up to fifty-three bits every number is kept. -/
theorem spacing_eq_one {n : Nat} (h : n < 2 ^ 53) : spacing n = 1 := by
  have hlog : n.log2 - 52 = 0 := by
    by_cases hn : n = 0
    · subst hn
      rfl
    · have hlt := (Nat.log2_lt hn).mpr h
      omega
  rw [spacing_eq, hlog, Nat.pow_zero]

/-! ### Rounding of whole numbers -/

theorem rounded_one (n : Nat) : rounded n 1 = nearest n (spacing n) * spacing n := by
  rw [rounded, Nat.div_one, Nat.one_mul]

theorem rounded_eq_iff {n : Nat} : rounded n 1 = n ↔ spacing n ∣ n := by
  rw [rounded_one, nearest_mul_eq_iff (spacing_pos n)]

theorem rounded_of_le {n : Nat} (h : n ≤ 2 ^ 53) : rounded n 1 = n := by
  rw [rounded_eq_iff]
  rcases Nat.lt_or_eq_of_le h with hlt | rfl
  · rw [spacing_eq_one hlt]
    exact Nat.one_dvd n
  · rw [spacing_eq, Nat.log2_two_pow]
    exact ⟨2 ^ 52, rfl⟩

/-- A quotient that reaches a power of two is not rounded below it. -/
theorem le_rounded {k num den : Nat} (hden : 0 < den) (h : 2 ^ k * den ≤ num) :
    2 ^ k ≤ rounded num den := by
  have hq : 2 ^ k ≤ num / den := (Nat.le_div_iff_mul_le hden).mpr h
  have hne : num / den ≠ 0 := Nat.pos_iff_ne_zero.mp (Nat.lt_of_lt_of_le (Nat.two_pow_pos k) hq)
  have hlog : k ≤ (num / den).log2 := (Nat.le_log2 hne).mpr hq
  have hself : 2 ^ (num / den).log2 ≤ num / den := Nat.log2_self_le hne
  -- The leading power of two is itself a multiple of the spacing.
  have hdvd : spacing (num / den) ∣ 2 ^ (num / den).log2 := by
    rw [spacing_eq]
    exact Nat.pow_dvd_pow 2 (Nat.sub_le _ _)
  calc 2 ^ k ≤ 2 ^ (num / den).log2 := Nat.pow_le_pow_right (by decide) hlog
    _ = 2 ^ (num / den).log2 / spacing (num / den) * spacing (num / den) :=
      (Nat.div_mul_cancel hdvd).symm
    _ ≤ num / den / spacing (num / den) * spacing (num / den) :=
      Nat.mul_le_mul_right _ (Nat.div_le_div_right hself)
    _ = num / (den * spacing (num / den)) * spacing (num / den) := by rw [Nat.div_div_eq_div_mul]
    _ ≤ rounded num den := Nat.mul_le_mul_right _ (div_le_nearest _ _)

/-- A number below a power of two is not rounded beyond it. -/
theorem rounded_le {k n : Nat} (h : n < 2 ^ k) : rounded n 1 ≤ 2 ^ k := by
  have hdvd : spacing n ∣ 2 ^ k := by
    rw [spacing_eq]
    refine Nat.pow_dvd_pow 2 ?_
    by_cases hn : n = 0
    · subst hn
      exact Nat.zero_le k
    · have hlt := (Nat.log2_lt hn).mpr h
      omega
  obtain ⟨m, hm⟩ := hdvd
  have hlt : n / spacing n < m := by
    rw [Nat.div_lt_iff_lt_mul (spacing_pos n), Nat.mul_comm, ← hm]
    exact h
  have hle : nearest n (spacing n) ≤ m := Nat.le_trans (nearest_le _ _) hlt
  rw [rounded_one, hm, Nat.mul_comm]
  exact Nat.mul_le_mul_left _ hle

/-! ### Magnitudes of whole numbers -/

theorem log2_mul_two_pow {n : Nat} (hn : n ≠ 0) (k : Nat) : (n * 2 ^ k).log2 = n.log2 + k := by
  induction k with
  | zero => rw [Nat.pow_zero, Nat.mul_one, Nat.add_zero]
  | succ k ih =>
    have hne : n * 2 ^ k ≠ 0 := Nat.mul_ne_zero hn (Nat.pos_iff_ne_zero.mp (Nat.two_pow_pos k))
    rw [Nat.pow_succ, ← Nat.mul_assoc, Nat.mul_comm _ 2, Nat.log2_two_mul hne, ih, Nat.add_assoc]

theorem spacing_mul_one {n : Nat} (hn : n ≠ 0) :
    spacing (n * one) = 2 ^ (n.log2 + unitBits - 52) := by
  rw [spacing_eq, one_eq, log2_mul_two_pow hn]

/-- The magnitude of a whole number is whole again. -/
theorem ofNat_eq (n : Nat) : ofNat n = rounded n 1 * one := by
  rcases Nat.eq_zero_or_pos n with rfl | hpos
  · rw [ofNat, Nat.zero_mul, rounded_of_le (Nat.zero_le _), Nat.zero_mul]
  have hn := Nat.pos_iff_ne_zero.mp hpos
  by_cases hlog : n.log2 < 52
  -- The spacing is a fraction of one, and nothing is rounded.
  · have hdvd : spacing (n * one) ∣ n * one := by
      have hle : n.log2 + unitBits - 52 ≤ unitBits := by omega
      rw [spacing_mul_one hn, one_eq]
      exact Nat.dvd_mul_left_of_dvd (Nat.pow_dvd_pow 2 hle) n
    have hsmall : n < 2 ^ 53 := (Nat.log2_lt hn).mp (by omega)
    rw [rounded_of_le (Nat.le_of_lt hsmall), ofNat, rounded_eq_iff]
    exact hdvd
  · have hspacing : spacing (n * one) = spacing n * one := by
      have hsplit : n.log2 + unitBits - 52 = n.log2 - 52 + unitBits := by omega
      rw [spacing_mul_one hn, spacing_eq, hsplit, Nat.pow_add, one_eq]
    rw [ofNat, rounded_one, rounded_one, hspacing, nearest_mul_right _ _ one_pos, Nat.mul_assoc]

theorem ofNat_div_one (n : Nat) : ofNat n / one = rounded n 1 := by
  rw [ofNat_eq, Nat.mul_div_cancel _ one_pos]

theorem le_ofNat {k n : Nat} (h : 2 ^ k ≤ n) : 2 ^ k * one ≤ ofNat n := by
  rw [ofNat_eq]
  exact Nat.mul_le_mul_right one (le_rounded Nat.one_pos (by rwa [Nat.mul_one]))

theorem one_le_ofNat {n : Nat} (h : 0 < n) : one ≤ ofNat n := by
  have hle : 2 ^ 0 * 1 ≤ n := h
  rw [ofNat_eq]
  exact Nat.le_mul_of_pos_left one (le_rounded Nat.one_pos hle)

/-- Powers of ten only make a magnitude larger. -/
theorem le_of_raise? {k i a b : Nat} (ha : 2 ^ i * one ≤ a) (h : raise? k a = some b) :
    2 ^ i * one ≤ b := by
  have hten : one ≤ tenPower k := one_le_ofNat (Nat.pow_pos (by decide))
  have hsplit : 2 ^ i * one = 2 ^ (i + unitBits) := by rw [one_eq, Nat.pow_add]
  have hproduct : 2 ^ (i + unitBits) ≤ product a (tenPower k) := by
    refine le_rounded one_pos ?_
    rw [← hsplit]
    exact Nat.mul_le_mul ha hten
  unfold raise? at h
  split at h
  · rename_i hzero
    have hpos : 0 < 2 ^ i * one := Nat.mul_pos (Nat.two_pow_pos i) one_pos
    omega
  split at h
  · cases h
  · simp only [Option.ite_none_right_eq_some, Option.some.injEq] at h
    rw [← h.2, hsplit]
    exact hproduct

end SealedToken.Binary64

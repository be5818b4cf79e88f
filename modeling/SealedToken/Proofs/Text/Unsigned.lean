import SealedToken.Text.Unsigned

/-! # Unsigned decimal texts as they are written

A text is read as a number exactly if it is a row of decimal digits that
denotes the number, perhaps behind a plus sign. -/

namespace SealedToken.Unsigned

/-- An optional plus sign and decimal digits, which denote the number. -/
def Spells (s : String) (n : UInt32) : Prop :=
  ∃ sign ds, s.toList = sign ++ ds ∧ (sign = [] ∨ sign = ['+']) ∧ ds ≠ [] ∧
    (∀ d ∈ ds, d.isDigit = true) ∧ Nat.ofDigitChars 10 ds 0 = n.toNat

/-! ### Digits -/

theorem isDigit_iff {c : Char} : c.isDigit = true ↔ 48 ≤ c.toNat ∧ c.toNat ≤ 57 := by
  rw [Char.isDigit, Bool.and_eq_true, decide_eq_true_iff, decide_eq_true_iff]
  exact and_congr UInt32.le_iff_toNat_le UInt32.le_iff_toNat_le

theorem digit?_eq_some_iff {c : Char} {v : Nat} :
    digit? c = some v ↔ c.isDigit = true ∧ v = c.toNat - '0'.toNat := by
  rw [isDigit_iff, digit?, Option.ite_none_right_eq_some, Option.some.injEq]
  exact and_congr_right fun _ => eq_comm

/-- What is read behind a value goes on from this value. -/
theorem ofDigits?_eq_some_iff {cs : List Char} {v w : Nat} :
    ofDigits? v cs = some w ↔ (∀ c ∈ cs, c.isDigit = true) ∧ Nat.ofDigitChars 10 cs v = w := by
  induction cs generalizing v with
  | nil => simp [ofDigits?]
  | cons c cs ih =>
    rw [List.forall_mem_cons, Nat.ofDigitChars_cons, Nat.mul_comm, ofDigits?]
    cases hd : digit? c with
    | none =>
      have hc : c.isDigit ≠ true := by
        intro hc
        rw [digit?_eq_some_iff.mpr ⟨hc, rfl⟩] at hd
        cases hd
      simp [hc]
    | some d =>
      obtain ⟨hc, rfl⟩ := digit?_eq_some_iff.mp hd
      simp only [ih, hc, true_and]

/-! ### Signs -/

theorem exists_sign (cs : List Char) :
    ∃ sign, cs = sign ++ unsign cs ∧ (sign = [] ∨ sign = ['+']) := by
  unfold unsign
  split
  · exact ⟨['+'], rfl, .inr rfl⟩
  · exact ⟨[], rfl, .inl rfl⟩

theorem unsign_append {sign ds : List Char} (hsign : sign = [] ∨ sign = ['+'])
    (hds : ∀ d ∈ ds, d.isDigit = true) : unsign (sign ++ ds) = ds := by
  rcases hsign with rfl | rfl
  · cases ds with
    | nil => rfl
    -- Without a sign the first character is a digit, so nothing is dropped.
    | cons d ds =>
      have hplus : d ≠ '+' := by
        rintro rfl
        exact absurd (hds '+' List.mem_cons_self) (by decide)
      rw [List.nil_append, unsign]
      simp [hplus]
  · rfl

/-! ### Texts -/

theorem ofChars?_eq_some_iff {cs : List Char} {n : UInt32} :
    ofChars? cs = some n ↔ unsign cs ≠ [] ∧ ofDigits? 0 (unsign cs) = some n.toNat := by
  unfold ofChars?
  split
  · rename_i hnil
    simp [hnil]
  · rename_i hnil
    simp only [Option.bind_eq_bind, Option.bind_eq_some_iff, Option.ite_none_right_eq_some,
      Option.some.injEq]
    constructor
    · rintro ⟨v, hv, hlt, rfl⟩
      rw [UInt32.toNat_ofNat_of_lt' hlt]
      exact ⟨hnil, hv⟩
    · rintro ⟨-, hv⟩
      exact ⟨n.toNat, hv, n.toNat_lt, UInt32.ofNat_toNat⟩

theorem parse?_eq_some_iff {s : String} {n : UInt32} : parse? s = some n ↔ Spells s n := by
  rw [parse?, ofChars?_eq_some_iff, ofDigits?_eq_some_iff]
  constructor
  · rintro ⟨hne, hdigits, hvalue⟩
    obtain ⟨sign, hs, hsign⟩ := exists_sign s.toList
    exact ⟨sign, unsign s.toList, hs, hsign, hne, hdigits, hvalue⟩
  · rintro ⟨sign, ds, hs, hsign, hne, hdigits, hvalue⟩
    rw [hs, unsign_append hsign hdigits]
    exact ⟨hne, hdigits, hvalue⟩

end SealedToken.Unsigned

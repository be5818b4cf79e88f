import SealedToken.Key.Master
import SealedToken.Proofs.Key.Octet
import SealedToken.Proofs.Text.Blank
import SealedToken.Proofs.Text.Hex

/-! # Texts of master keys

A key is read from thirty-two hexadecimal digits of either case, whatever
blanks stand around them, and from nothing else: any other text fails as a
wrong key does. It is written as the digits in lowercase, so what is written is
read as the same key; and its other text denotes its bytes. -/

namespace SealedToken.MasterKey

/-- Thirty-two hexadecimal digits, each of either case. -/
def IsDigits (t : String) : Prop := t.length = 32 ∧ ∀ c ∈ t.toList, Hex.IsDigit c

/-- Thirty-two hexadecimal digits between blanks. -/
def IsHexText (s : String) : Prop :=
  (Blank.trim s).length = 32 ∧ ∀ c ∈ (Blank.trim s).toList, Hex.IsDigit c

instance (s : String) : Decidable (IsHexText s) :=
  @instDecidableAnd _ _ inferInstance (List.decidableBAll Hex.IsDigit (Blank.trim s).toList)

/-- The digits of the key, in either case, between blanks. -/
def HasDigits (key : MasterKey) (s : String) : Prop := (Blank.trim s).toLower = key.toHex

theorem ofHex?_eq_some_iff_decode {s : String} {key : MasterKey} :
    ofHex? s = some key ↔ Hex.decode? (Blank.trim s) = some key.bytes := by
  obtain ⟨bytes, hlength⟩ := key
  unfold ofHex?
  split
  · rename_i hnone
    simp [hnone]
  · rename_i b hsome
    rw [hsome, Option.some.injEq]
    split
    · simp
    · rename_i hne
      constructor
      · intro h
        cases h
      · rintro rfl
        exact absurd hlength hne

/-- A text is read as the key whose digits it holds. -/
theorem ofHex?_eq_some_iff {s : String} {key : MasterKey} :
    ofHex? s = some key ↔ key.HasDigits s := by
  have hlower : (Blank.trim s).toLower.toList = (Blank.trim s).toList.map Char.toLower :=
    String.toList_map
  rw [ofHex?_eq_some_iff_decode, Hex.decode?, Hex.ofDigits?_eq_some_iff, HasDigits, toHex,
    Hex.encode, ← String.toList_inj, String.toList_ofList, hlower]

theorem exists_ofHex?_iff {s : String} : (∃ key, ofHex? s = some key) ↔ IsHexText s := by
  have hdigits : (∃ b, Hex.decode? (Blank.trim s) = some b ∧ b.length = 16) ↔ IsHexText s :=
    Hex.exists_ofDigits?_iff
  rw [← hdigits]
  simp only [ofHex?_eq_some_iff_decode]
  constructor
  · rintro ⟨key, hkey⟩
    exact ⟨key.bytes, hkey, key.length_eq⟩
  · rintro ⟨b, hb, hlength⟩
    exact ⟨⟨b, hlength⟩, hb⟩

theorem ofHex?_eq_none_iff {s : String} : ofHex? s = none ↔ ¬IsHexText s := by
  rw [← exists_ofHex?_iff, Option.eq_none_iff_forall_ne_some, not_exists]

theorem ofHex_eq_ok_iff {s : String} {key : MasterKey} :
    ofHex s = .ok key ↔ key.HasDigits s := by
  rw [← ofHex?_eq_some_iff, ofHex]
  cases ofHex? s <;> simp

theorem exists_ofHex_iff {s : String} : (∃ key, ofHex s = .ok key) ↔ IsHexText s := by
  simp only [ofHex_eq_ok_iff, ← ofHex?_eq_some_iff, exists_ofHex?_iff]

theorem ofHex_eq_error_iff {s : String} {e : Error} :
    ofHex s = .error e ↔ e = .wrongKey ∧ ¬IsHexText s := by
  rw [← ofHex?_eq_none_iff, ofHex]
  cases ofHex? s <;> simp [eq_comm]

/-! ### Written digits -/

theorem not_blank_digit (v : Fin 16) : Blank.isBlank (Hex.digit v) = false := by
  revert v
  decide

theorem trim_toHex (key : MasterKey) : Blank.trim key.toHex = key.toHex := by
  apply Blank.trim_of_tight
  apply Blank.tight_of_forall
  intro c hc
  rw [toHex, Hex.encode, String.toList_ofList] at hc
  obtain ⟨v, rfl⟩ := Hex.exists_digit_of_mem_digits hc
  exact not_blank_digit v

/-- A key is read from the digits that are written for it. -/
theorem ofHex?_toHex (key : MasterKey) : ofHex? key.toHex = some key := by
  rw [ofHex?_eq_some_iff_decode, trim_toHex, toHex, Hex.decode?_encode]

theorem ofHex_toHex (key : MasterKey) : ofHex key.toHex = .ok key := by
  rw [ofHex, ofHex?_toHex]

theorem toHex_ne_empty (key : MasterKey) : key.toHex ≠ "" := by
  intro hempty
  have hnone : ofHex? "" = none := by decide
  rw [← hempty, ofHex?_toHex] at hnone
  cases hnone

theorem denotes (key : MasterKey) : key.toOctetKey.Denotes key.bytes := ⟨rfl, rfl⟩

/-! ### Reading and writing together -/

/-- What stands between the blanks at the ends of a text decides how the text is
read. Digits are read as the key that is written as their lowercase form; all
else fails as a wrong key does. Every key is read from what is written for it. -/
theorem ofHex_exact :
    (∀ s, ∃ t, (∀ u, Blank.Trimmed s u ↔ u = t) ∧
      ((∃ key, ofHex s = .ok key) ↔ IsDigits t) ∧
      (∀ e, ofHex s = .error e ↔ e = .wrongKey ∧ ¬IsDigits t) ∧
      ∀ key, ofHex s = .ok key ↔ key.toHex = t.toLower) ∧
    ∀ key : MasterKey, ofHex key.toHex = .ok key := by
  refine ⟨fun s => ⟨Blank.trim s, ?_, exists_ofHex_iff, ?_, ?_⟩, ofHex_toHex⟩
  · intro u
    exact Blank.trimmed_iff
  · intro e
    exact ofHex_eq_error_iff
  · intro key
    rw [ofHex_eq_ok_iff, HasDigits, eq_comm]

-- U+3000 is a blank, and both cases may be mixed.
example : (ofHex "\u3000086C846547fd8a5750FB8EA740c5e6bb\n").toOption.map toHex =
    some "086c846547fd8a5750fb8ea740c5e6bb" := rfl

end SealedToken.MasterKey

import SealedToken.Json.Skip
import SealedToken.Proofs.Json.Entries

/-! # What is passed over

The scanner that passes over a value gives back an end of what it was given.
This is all that is said of the bytes before it: they may spell no text. -/

namespace SealedToken.Json

variable {s r : Bytes}

/-! ### Scalars -/

theorem suffix_of_word {w : Bytes} (h : word w s = .ok r) : r <:+ s :=
  ⟨w, (word_eq_ok_iff.mp h).symm⟩

theorem suffix_of_skipString (h : skipString s = .ok r) : r <:+ s := by
  fun_induction skipString s <;> grind [List.IsSuffix.trans, List.suffix_cons]

theorem suffix_of_skipExponent (h : skipExponent s = .ok r) : r <:+ s := by
  unfold skipExponent at h
  grind [List.IsSuffix.trans, List.suffix_cons, List.dropWhile_suffix]

theorem suffix_of_skipMark (h : skipMark s = .ok r) : r <:+ s := by
  unfold skipMark at h
  grind [→ suffix_of_skipExponent, List.IsSuffix.trans, List.suffix_cons]

theorem suffix_of_skipFraction (h : skipFraction s = .ok r) : r <:+ s := by
  unfold skipFraction at h
  grind [→ suffix_of_skipMark, List.IsSuffix.trans, List.suffix_cons, List.dropWhile_suffix]

theorem suffix_of_skipAfterWhole (h : skipAfterWhole s = .ok r) : r <:+ s := by
  unfold skipAfterWhole at h
  grind [→ suffix_of_skipFraction, → suffix_of_skipMark, List.IsSuffix.trans, List.suffix_cons]

theorem suffix_of_skipUnsigned (h : skipUnsigned s = .ok r) : r <:+ s := by
  unfold skipUnsigned at h
  grind [→ suffix_of_skipAfterWhole, List.IsSuffix.trans, List.suffix_cons,
    List.dropWhile_suffix]

theorem suffix_of_skipNumber (h : skipNumber s = .ok r) : r <:+ s := by
  unfold skipNumber at h
  grind [→ suffix_of_skipUnsigned, List.IsSuffix.trans, List.suffix_cons]

/-! ### Brackets -/

theorem skipBlanks_suffix (s : Bytes) : skipBlanks s <:+ s := List.dropWhile_suffix isBlank

theorem suffix_of_afterKey (h : afterKey s = .ok r) : r <:+ s := by
  obtain ⟨ws, -, rfl⟩ := afterKey_eq_ok_iff.mp h
  exact ⟨ws ++ [colon], by simp⟩

theorem suffix_of_skipKey {bracket : Bracket} (h : bracket.skipKey s = .ok r) : r <:+ s := by
  have hblanks := skipBlanks_suffix s
  unfold Bracket.skipKey at h
  cases bracket with
  | list =>
    cases h
    exact List.suffix_refl _
  | object =>
    dsimp only at h
    split at h
    · cases h
    split at h
    · rename_i q u hs _
      obtain ⟨t, ht, hr⟩ := bind_eq_ok_iff.mp h
      have hrest : u <:+ s := (List.suffix_cons q u).trans (hs ▸ hblanks)
      exact ((suffix_of_afterKey hr).trans (suffix_of_skipString ht)).trans hrest
    · cases h

/-! ### Values -/

theorem suffix_of_skip {fuel : Nat} {due : Due} {stack : List Bracket}
    (h : skip fuel due stack s = .ok r) : r <:+ s := by
  -- Every step looks behind the blanks, takes something, and goes on with less fuel.
  induction fuel generalizing due stack s with
  | zero =>
    rw [skip] at h
    cases h
  | succ fuel ih =>
    have hblanks := skipBlanks_suffix s
    have hstep : ∀ {x : Except Fault Bytes} {due stack t}, (∀ u, x = .ok u → u <:+ t) →
        (x >>= fun u => skip fuel due stack u) = .ok r → r <:+ t := by
      intro x due stack t hx hr
      obtain ⟨u, hu, hr⟩ := bind_eq_ok_iff.mp hr
      exact (ih hr).trans (hx u hu)
    rw [skip.eq_def] at h
    cases due with
    | value =>
      dsimp only at h
      split at h
      · cases h
      rename_i b u hs
      rw [hs] at hblanks
      have hrest : u <:+ s := (List.suffix_cons b u).trans hblanks
      repeat' split at h
      · exact (hstep (fun _ => suffix_of_word) h).trans hblanks
      · exact (hstep (fun _ => suffix_of_word) h).trans hblanks
      · exact (hstep (fun _ => suffix_of_word) h).trans hblanks
      · exact (hstep (fun _ => suffix_of_skipNumber) h).trans hblanks
      · exact (hstep (fun _ => suffix_of_skipString) h).trans hrest
      · exact (ih h).trans hrest
      · exact (ih h).trans hrest
      · cases h
    | entry =>
      cases stack with
      | nil =>
        cases h
        exact List.suffix_refl _
      | cons bracket stack =>
        dsimp only at h
        split at h
        · cases h
        rename_i b u hs
        rw [hs] at hblanks
        split at h
        · exact (ih h).trans ((List.suffix_cons b u).trans hblanks)
        · exact (hstep (fun _ => suffix_of_skipKey) h).trans hblanks
    | comma =>
      cases stack with
      | nil =>
        cases h
        exact List.suffix_refl _
      | cons bracket stack =>
        dsimp only at h
        split at h
        · cases h
        rename_i b u hs
        rw [hs] at hblanks
        have hrest : u <:+ s := (List.suffix_cons b u).trans hblanks
        repeat' split at h
        · exact (ih h).trans hrest
        · exact (hstep (fun _ => suffix_of_skipKey) h).trans hrest
        · cases h

/-- Bytes that the scanner passes over in front of some others. -/
def Passed (raw : Bytes) : Prop :=
  ∃ ws rest, Blanks ws ∧ skipValue (ws ++ (raw ++ rest)) = .ok rest

theorem exists_passed_of_skipValue (h : skipValue s = .ok r) :
    ∃ ws raw, Blanks ws ∧ Passed raw ∧ s = ws ++ (raw ++ r) := by
  obtain ⟨ws, hws, hs⟩ := exists_blanks s
  have hblanks : skipBlanks (skipBlanks s) = skipBlanks s := by
    rw [← skipBlanks_append hws, ← hs]
  have hskip : skip (2 * s.length + 2) .value [] (skipBlanks s) = .ok r := by
    rw [skipValue, skip.eq_def] at h
    rw [skip.eq_def]
    simpa only [hblanks] using h
  obtain ⟨raw, hraw⟩ := suffix_of_skip hskip
  have hparts : s = ws ++ (raw ++ r) := by
    rw [hraw, ← hs]
  exact ⟨ws, raw, hws, ⟨ws, r, hws, hparts ▸ h⟩, hparts⟩

end SealedToken.Json

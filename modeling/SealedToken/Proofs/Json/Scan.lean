import Mathlib.Data.List.TakeWhile
import SealedToken.Json.Scan
import SealedToken.Proofs.Text.Utf8

/-! # Blanks, literal words and ends

What the small readers take, as statements about the bytes in front of the
rest. A value is followed by the end of the text or by a byte that belongs to
no value, and this is all that a reader of values asks of the rest. -/

namespace SealedToken.Json

/-! ### Blanks -/

/-- Nothing but blanks. -/
def Blanks (b : Bytes) : Prop := ∀ x ∈ b, isBlank x = true

theorem blanks_nil : Blanks [] := fun _ h => absurd h List.not_mem_nil

theorem blanks_append {a b : Bytes} : Blanks (a ++ b) ↔ Blanks a ∧ Blanks b :=
  List.forall_mem_append

theorem skipBlanks_append {ws : Bytes} (h : Blanks ws) (s : Bytes) :
    skipBlanks (ws ++ s) = skipBlanks s := List.dropWhile_append_of_pos h

theorem skipBlanks_cons {b : Byte} (h : isBlank b = false) (s : Bytes) :
    skipBlanks (b :: s) = b :: s := List.dropWhile_cons_of_neg (Bool.not_eq_true _ ▸ h)

theorem exists_blanks (s : Bytes) : ∃ ws, Blanks ws ∧ s = ws ++ skipBlanks s :=
  ⟨s.takeWhile isBlank, fun _ => List.mem_takeWhile_imp, List.takeWhile_append_dropWhile.symm⟩

theorem isBlank_of_skipBlanks {b : Byte} {s r : Bytes} (h : skipBlanks s = b :: r) :
    isBlank b = false := by
  have hb := List.head?_dropWhile_not isBlank s
  unfold skipBlanks at h
  rw [h] at hb
  exact hb

theorem skipBlanks_eq_nil_iff {s : Bytes} : skipBlanks s = [] ↔ Blanks s :=
  List.dropWhile_eq_nil_iff

theorem skipBlanks_eq_cons_iff {b : Byte} {s r : Bytes} :
    skipBlanks s = b :: r ↔ isBlank b = false ∧ ∃ ws, Blanks ws ∧ s = ws ++ b :: r := by
  constructor
  · intro h
    obtain ⟨ws, hws, hs⟩ := exists_blanks s
    rw [h] at hs
    exact ⟨isBlank_of_skipBlanks h, ws, hws, hs⟩
  · rintro ⟨hb, ws, hws, rfl⟩
    rw [skipBlanks_append hws, skipBlanks_cons hb]

/-! ### Words -/

theorem word_eq_ok_iff {w s r : Bytes} : word w s = .ok r ↔ s = w ++ r := by
  induction w generalizing s with
  | nil =>
    rw [word, List.nil_append, Except.ok.injEq]
  | cons x w ih =>
    cases s with
    | nil =>
      rw [word]
      constructor
      · intro h
        cases h
      · intro h
        cases h
    | cons b s =>
      rw [word, List.cons_append, List.cons.injEq]
      split
      · rename_i hb
        rw [ih]
        exact ⟨fun h => ⟨hb, h⟩, fun h => h.2⟩
      · rename_i hb
        constructor
        · intro h
          cases h
        · rintro ⟨h, -⟩
          exact absurd h hb

/-! ### Ends -/

/-- A byte that belongs to no value and may follow one. -/
def endsValue (b : Byte) : Bool := isBlank b || b = comma || b = closeList || b = closeObject

/-- A value may stand in front of these bytes. -/
def Ends (s : Bytes) : Prop := ∀ b, s.head? = some b → endsValue b = true

theorem ends_nil : Ends [] := fun _ h => by cases h

theorem ends_cons {b : Byte} (h : endsValue b = true) (s : Bytes) : Ends (b :: s) := by
  intro c hc
  cases hc
  exact h

theorem endsValue_of_isBlank {b : Byte} (h : isBlank b = true) : endsValue b = true := by
  simp only [endsValue, h, Bool.true_or]

theorem Ends.blanks_append {ws s : Bytes} (hws : Blanks ws) (hs : Ends s) : Ends (ws ++ s) := by
  cases ws with
  | nil => exact hs
  | cons b ws => exact ends_cons (endsValue_of_isBlank (hws b List.mem_cons_self)) _

/-- The bytes do not begin with one of a kind. -/
def Stops (p : Byte → Bool) (s : Bytes) : Prop := ∀ b, s.head? = some b → p b = false

theorem Ends.stops {p : Byte → Bool} {s : Bytes} (h : Ends s)
    (hp : ∀ b, endsValue b = true → p b = false) : Stops p s := fun b hb => hp b (h b hb)

theorem stops_cons {p : Byte → Bool} {b : Byte} {s : Bytes} : Stops p (b :: s) ↔ p b = false := by
  simp [Stops]

theorem stops_dropWhile (p : Byte → Bool) (s : Bytes) : Stops p (s.dropWhile p) := by
  intro b hb
  have h := List.head?_dropWhile_not p s
  rw [hb] at h
  exact h

theorem takeWhile_append_stops {p : Byte → Bool} {a s : Bytes} (ha : ∀ x ∈ a, p x = true)
    (hs : Stops p s) : (a ++ s).takeWhile p = a := by
  rw [List.takeWhile_append_of_pos ha]
  cases s with
  | nil => rw [List.takeWhile_nil, List.append_nil]
  | cons b s =>
    rw [List.takeWhile_cons_of_neg (Bool.not_eq_true _ ▸ stops_cons.mp hs), List.append_nil]

theorem dropWhile_append_stops {p : Byte → Bool} {a s : Bytes} (ha : ∀ x ∈ a, p x = true)
    (hs : Stops p s) : (a ++ s).dropWhile p = s := by
  rw [List.dropWhile_append_of_pos ha]
  cases s with
  | nil => rfl
  | cons b s => exact List.dropWhile_cons_of_neg (Bool.not_eq_true _ ▸ stops_cons.mp hs)

end SealedToken.Json

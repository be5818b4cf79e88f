/-! # Splitting at a separator

Cuts a row of symbols at every occurrence of one of them. There is always at
least one part, and joining the parts gives the row back. -/

namespace SealedToken.Split

/-- Puts a symbol in front of the first part. -/
def extendFirst {α : Type} (a : α) : List (List α) → List (List α)
  | [] => [[a]]
  | p :: ps => (a :: p) :: ps

/-- The parts between the separators. -/
def parts {α : Type} [DecidableEq α] (sep : α) : List α → List (List α)
  | [] => [[]]
  | a :: s => if a = sep then [] :: parts sep s else extendFirst a (parts sep s)

/-- The parts in a row, with a separator between any two. -/
def join {α : Type} (sep : α) : List (List α) → List α
  | [] => []
  | [p] => p
  | p :: q :: ps => p ++ sep :: join sep (q :: ps)

theorem parts_ne_nil {α : Type} [DecidableEq α] (sep : α) (s : List α) : parts sep s ≠ [] := by
  cases s with
  | nil => simp [parts]
  | cons a s =>
    by_cases h : a = sep
    · simp [parts, h]
    · simp only [parts, h, if_false]
      cases parts sep s <;> simp [extendFirst]

theorem join_extendFirst {α : Type} (sep a : α) (ps : List (List α)) (h : ps ≠ []) :
    join sep (extendFirst a ps) = a :: join sep ps := by
  cases ps with
  | nil => exact absurd rfl h
  | cons p ps => cases ps <;> simp [extendFirst, join]

theorem join_parts {α : Type} [DecidableEq α] (sep : α) (s : List α) :
    join sep (parts sep s) = s := by
  induction s with
  | nil => rfl
  | cons a s ih =>
    by_cases h : a = sep
    · have hne := parts_ne_nil sep s
      cases hs : parts sep s with
      | nil => exact absurd hs hne
      | cons p ps =>
        rw [hs] at ih
        simp [parts, h, hs, join, ih]
    · simp [parts, h, join_extendFirst sep a _ (parts_ne_nil sep s), ih]

end SealedToken.Split

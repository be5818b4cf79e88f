import Mathlib.Data.List.Basic
import Mathlib.Data.List.TakeWhile
import SealedToken.Text.Blank

/-! # What trimming leaves

Trimming leaves the one row without blanks at its ends that the text holds
between blanks, so more blanks around a text change nothing. -/

namespace SealedToken.Blank

/-- Nothing but blanks. -/
def Blanks (cs : List Char) : Prop := ∀ c ∈ cs, isBlank c = true

-- named, since the quantifier alone may also be decided over all characters there are
instance (cs : List Char) : Decidable (Blanks cs) :=
  List.decidableBAll _ cs

/-- No blank at either end. -/
structure Tight (cs : List Char) : Prop where
  head : ∀ c, cs.head? = some c → isBlank c = false
  last : ∀ c, cs.getLast? = some c → isBlank c = false

theorem blanks_append {a b : List Char} : Blanks (a ++ b) ↔ Blanks a ∧ Blanks b :=
  List.forall_mem_append

theorem tight_of_forall {cs : List Char} (h : ∀ c ∈ cs, isBlank c = false) : Tight cs where
  head c hc := h c (List.mem_of_head? hc)
  last c hc := h c (List.mem_of_getLast? hc)

theorem dropWhile_of_head {cs : List Char} (h : ∀ c, cs.head? = some c → isBlank c = false) :
    cs.dropWhile isBlank = cs := by
  cases cs with
  | nil => rfl
  | cons c cs => exact List.dropWhile_cons_of_neg (by simp [h c rfl])

theorem trimChars_blanks_append {before cs after : List Char} (hbefore : Blanks before)
    (hcs : Tight cs) (hafter : Blanks after) : trimChars (before ++ cs ++ after) = cs := by
  by_cases hnil : cs = []
  · subst hnil
    rw [List.append_nil]
    exact trimChars_of_all_blank _ (blanks_append.mpr ⟨hbefore, hafter⟩)
  have hfront : (cs ++ after).dropWhile isBlank = cs ++ after := by
    apply dropWhile_of_head
    intro c hc
    rw [List.head?_append_of_ne_nil cs hnil] at hc
    exact hcs.head c hc
  have hback : cs.reverse.dropWhile isBlank = cs.reverse := by
    apply dropWhile_of_head
    intro c hc
    rw [List.head?_reverse] at hc
    exact hcs.last c hc
  have hreverse : ∀ c ∈ after.reverse, isBlank c = true := by
    intro c hc
    exact hafter c (List.mem_reverse.mp hc)
  rw [trimChars, List.append_assoc, List.dropWhile_append_of_pos hbefore, hfront,
    List.reverse_append, List.dropWhile_append_of_pos hreverse, hback, List.reverse_reverse]

theorem head_dropWhile (cs : List Char) :
    ∀ c, (cs.dropWhile isBlank).head? = some c → isBlank c = false := by
  intro c hc
  have hnot := List.head?_dropWhile_not isBlank cs
  rw [hc] at hnot
  exact hnot

theorem tight_trimChars (cs : List Char) : Tight (trimChars cs) := by
  have hprefix : trimChars cs <+: cs.dropWhile isBlank := by
    have hsuffix := List.dropWhile_suffix isBlank (l := (cs.dropWhile isBlank).reverse)
    simpa [trimChars] using List.reverse_prefix.mpr hsuffix
  constructor
  · intro c hc
    obtain ⟨rest, hrest⟩ := hprefix
    apply head_dropWhile cs c
    rw [← hrest, List.head?_append, hc]
    rfl
  · intro c hc
    rw [trimChars, List.getLast?_reverse] at hc
    exact head_dropWhile _ c hc

/-- What is left stood between blanks. -/
theorem exists_blanks (cs : List Char) :
    ∃ before after, Blanks before ∧ Blanks after ∧ cs = before ++ trimChars cs ++ after := by
  have hblanks : ∀ ds : List Char, Blanks (ds.takeWhile isBlank) := fun ds c hc =>
    List.mem_takeWhile_imp hc
  refine ⟨cs.takeWhile isBlank, ((cs.dropWhile isBlank).reverse.takeWhile isBlank).reverse,
    hblanks cs, fun c hc => hblanks _ c (List.mem_reverse.mp hc), ?_⟩
  rw [trimChars, List.append_assoc, ← List.reverse_append, List.takeWhile_append_dropWhile,
    List.reverse_reverse, List.takeWhile_append_dropWhile]

theorem trimChars_ne_nil {cs : List Char} (h : ∃ c ∈ cs, isBlank c = false) :
    trimChars cs ≠ [] := by
  intro hnil
  obtain ⟨before, after, hbefore, hafter, hcs⟩ := exists_blanks cs
  obtain ⟨c, hc, hword⟩ := h
  rw [hcs, hnil, List.append_nil] at hc
  rw [blanks_append.mpr ⟨hbefore, hafter⟩ c hc] at hword
  cases hword

/-! ### Texts -/

theorem trim_of_tight {s : String} (h : Tight s.toList) : trim s = s := by
  have hnil : Blanks [] := List.forall_mem_nil _
  have hself := trimChars_blanks_append hnil h hnil
  rw [List.nil_append, List.append_nil] at hself
  rw [trim, hself, String.ofList_toList]

/-- Blanks around a text change nothing. -/
theorem trim_blanks_append {before after : String} (hbefore : Blanks before.toList)
    (hafter : Blanks after.toList) (s : String) : trim (before ++ s ++ after) = trim s := by
  obtain ⟨front, back, hfront, hback, hs⟩ := exists_blanks s.toList
  have hsplit : (before ++ s ++ after).toList =
      before.toList ++ front ++ trimChars s.toList ++ (back ++ after.toList) :=
    calc (before ++ s ++ after).toList = before.toList ++ s.toList ++ after.toList := by
          rw [String.toList_append, String.toList_append]
      _ = before.toList ++ (front ++ trimChars s.toList ++ back) ++ after.toList := by rw [← hs]
      _ = before.toList ++ front ++ trimChars s.toList ++ (back ++ after.toList) := by
          simp only [List.append_assoc]
  rw [trim, trim, hsplit, trimChars_blanks_append (blanks_append.mpr ⟨hbefore, hfront⟩)
    (tight_trimChars _) (blanks_append.mpr ⟨hback, hafter⟩)]

/-- `t` is what `s` holds between the blanks at its ends. -/
structure Trimmed (s t : String) : Prop where
  tight : Tight t.toList
  split : ∃ before after, Blanks before ∧ Blanks after ∧ s.toList = before ++ t.toList ++ after

theorem trimmed_iff {s t : String} : Trimmed s t ↔ t = trim s := by
  constructor
  · rintro ⟨htight, before, after, hbefore, hafter, hs⟩
    rw [trim, hs, trimChars_blanks_append hbefore htight hafter, String.ofList_toList]
  · rintro rfl
    have hlist : (trim s).toList = trimChars s.toList := String.toList_ofList
    constructor
    · rw [hlist]
      exact tight_trimChars s.toList
    · rw [hlist]
      exact exists_blanks s.toList

theorem trim_trim (s : String) : trim (trim s) = trim s := by
  apply trim_of_tight
  rw [trim, String.toList_ofList]
  exact tight_trimChars _

/-- Behind a text that begins with no blank, only the end is trimmed. -/
theorem exists_trim_append {a s : String} (ha : ∀ c, a.toList.head? = some c → isBlank c = false)
    (hne : a ≠ "") (hs : ∃ c ∈ s.toList, isBlank c = false) :
    ∃ front back : String, Blanks front.toList ∧ Blanks back.toList ∧
      s = front ++ trim s ++ back ∧ trim (a ++ s) = a ++ (front ++ trim s) := by
  obtain ⟨front, back, hfront, hback, hcs⟩ := exists_blanks s.toList
  have hword := trimChars_ne_nil hs
  have hlist : a.toList ≠ [] := fun h => hne (String.toList_eq_nil_iff.mp h)
  have htight : Tight (a.toList ++ (front ++ trimChars s.toList)) := by
    constructor
    · intro c hc
      rw [List.head?_append_of_ne_nil _ hlist] at hc
      exact ha c hc
    · intro c hc
      rw [← List.append_assoc, List.getLast?_append_of_ne_nil _ hword] at hc
      exact (tight_trimChars _).last c hc
  refine ⟨.ofList front, .ofList back, ?_, ?_, ?_, ?_⟩
  · rwa [String.toList_ofList]
  · rwa [String.toList_ofList]
  · apply String.toList_injective
    simp only [String.toList_append, String.toList_ofList, trim]
    exact hcs
  · have hsplit : (a ++ s).toList = [] ++ (a.toList ++ (front ++ trimChars s.toList)) ++ back :=
      calc (a ++ s).toList = a.toList ++ s.toList := String.toList_append
        _ = a.toList ++ (front ++ trimChars s.toList ++ back) := by rw [← hcs]
        _ = _ := by simp only [List.append_assoc, List.nil_append]
    rw [trim, hsplit, trimChars_blanks_append (List.forall_mem_nil _) htight hback]
    apply String.toList_injective
    simp only [String.toList_append, String.toList_ofList, trim]

end SealedToken.Blank

/-! # Blanks at the ends of a text

A blank is a character with the Unicode property `White_Space`: twenty-five
code points. Inner blanks are never touched. -/

namespace SealedToken.Blank

def isBlank (c : Char) : Bool :=
  (0x09 ≤ c.toNat && c.toNat ≤ 0x0D) || c.toNat = 0x20 || c.toNat = 0x85 || c.toNat = 0xA0 ||
    c.toNat = 0x1680 || (0x2000 ≤ c.toNat && c.toNat ≤ 0x200A) || c.toNat = 0x2028 ||
    c.toNat = 0x2029 || c.toNat = 0x202F || c.toNat = 0x205F || c.toNat = 0x3000

/-- Characters between the first and the last that are no blanks, both kept. -/
def trimChars (cs : List Char) : List Char :=
  ((cs.dropWhile isBlank).reverse.dropWhile isBlank).reverse

/-- A text without the blanks at its two ends. -/
def trim (s : String) : String := String.ofList (trimChars s.toList)

theorem trimChars_of_all_blank (cs : List Char) (h : ∀ c ∈ cs, isBlank c) :
    trimChars cs = [] := by
  have hd : cs.dropWhile isBlank = [] := by
    induction cs with
    | nil => rfl
    | cons c cs ih =>
      simp [h c List.mem_cons_self, ih fun x hx => h x (List.mem_cons_of_mem _ hx)]
  simp [trimChars, hd]

end SealedToken.Blank

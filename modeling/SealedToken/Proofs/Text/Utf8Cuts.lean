import SealedToken.Proofs.Text.Utf8Reading

/-! # Cuts of a text

A byte string that is a text may be cut where a character begins, and both
parts are texts. The bytes inside a character say that no character begins
there, so a text has no other place where a character could be found. -/

namespace SealedToken.Utf8

/-! ### First bytes and others -/

theorem continues_of_mayFollow {a b : Byte} (h : mayFollow a b = true) : continues b = true := by
  obtain ⟨hb, hb', -⟩ := mayFollow_iff.mp h
  exact continues_iff.mpr ⟨hb, hb'⟩

theorem Spells.continues_of_mem_tail {c : Char} {b : Bytes} (h : Spells c b) :
    ∀ x ∈ b.tail, continues x = true := by
  cases h with
  | one => simp
  | two _ _ hb => simpa using hb
  | three _ _ hb hc => simpa using ⟨continues_of_mayFollow hb, hc⟩
  | four _ _ hb hc hd => simpa using ⟨continues_of_mayFollow hb, hc, hd⟩

theorem Spells.not_continues_head {c : Char} {x : Byte} {r : Bytes} (h : Spells c (x :: r)) :
    continues x = false := by
  have hx : x.toNat < 0x80 ∨ 0xBF < x.toNat := by
    cases h <;> omega
  have hiff := continues_iff (b := x)
  rw [Bool.eq_false_iff, ne_eq, hiff]
  omega

/-! ### Cuts -/

/-- The bytes of some text. -/
def Valid (b : Bytes) : Prop := ∃ cs : List Char, b = cs.flatMap String.utf8EncodeChar

theorem valid_nil : Valid [] := ⟨[], rfl⟩

theorem valid_iff {b : Bytes} : Valid b ↔ ∃ t, b = encode t := by
  constructor
  · intro h
    obtain ⟨cs, hcs⟩ := h
    exact ⟨String.ofList cs, by rw [encode, String.toList_ofList, hcs]⟩
  · intro h
    obtain ⟨t, ht⟩ := h
    exact ⟨t.toList, ht⟩

theorem Valid.append {a b : Bytes} (ha : Valid a) (hb : Valid b) : Valid (a ++ b) := by
  obtain ⟨cs, rfl⟩ := ha
  obtain ⟨ds, rfl⟩ := hb
  exact ⟨cs ++ ds, List.flatMap_append.symm⟩

theorem valid_encodeChar (c : Char) : Valid (String.utf8EncodeChar c) := ⟨[c], by simp⟩

theorem valid_parts {cs : List Char} {a s : Bytes} {c : Char}
    (h : cs.flatMap String.utf8EncodeChar = a ++ (String.utf8EncodeChar c ++ s)) :
    Valid a ∧ Valid s := by
  induction cs generalizing a with
  | nil =>
    have hnil : String.utf8EncodeChar c = [] := by simp_all
    exact absurd hnil String.utf8EncodeChar_ne_nil
  | cons d ds ih =>
    rw [List.flatMap_cons, List.append_eq_append_iff] at h
    rcases h with ⟨a', rfl, h⟩ | ⟨inner, hd, h⟩
    · obtain ⟨ha', hs⟩ := ih h
      exact ⟨(valid_encodeChar d).append ha', hs⟩
    cases inner with
    | nil =>
      obtain ⟨-, hs⟩ := ih (a := []) h.symm
      have ha : a = String.utf8EncodeChar d := by simpa using hd.symm
      exact ⟨ha ▸ valid_encodeChar d, hs⟩
    | cons x inner =>
      cases a with
      | nil =>
        have hboth : String.utf8EncodeChar c ++ s =
            String.utf8EncodeChar d ++ ds.flatMap String.utf8EncodeChar := by
          rw [h, hd, List.nil_append]
        have hcd : c = d := head_eq_of_encodeChar_append hboth
        rw [hcd] at hboth
        exact ⟨valid_nil, ds, List.append_cancel_left hboth⟩
      | cons y a =>
        -- The byte would both begin a character and stand inside one.
        have hinside : continues x = true := by
          apply (spells_encodeChar d).continues_of_mem_tail
          simp [hd]
        have hfirst : ∃ r, String.utf8EncodeChar c = x :: r := by
          cases hc : String.utf8EncodeChar c with
          | nil => exact absurd hc String.utf8EncodeChar_ne_nil
          | cons z r =>
            rw [hc, List.cons_append, List.cons_append, List.cons.injEq] at h
            exact ⟨r, by rw [h.1]⟩
        obtain ⟨r, hr⟩ := hfirst
        have hbegins : continues x = false := (hr ▸ spells_encodeChar c).not_continues_head
        rw [hinside] at hbegins
        cases hbegins

theorem valid_append_encodeChar {a s : Bytes} (c : Char) :
    Valid (a ++ (String.utf8EncodeChar c ++ s)) ↔ Valid a ∧ Valid s := by
  constructor
  · intro h
    obtain ⟨cs, hcs⟩ := h
    exact valid_parts hcs.symm
  · intro h
    exact h.1.append ((valid_encodeChar c).append h.2)

/-- A byte below 128 is a character of its own. -/
theorem valid_append_cons {a s : Bytes} {x : Byte} (hx : x < 0x80) :
    Valid (a ++ x :: s) ↔ Valid a ∧ Valid s := by
  have hcut := valid_append_encodeChar (a := a) (s := s) (Char.ofNat x.toNat)
  rwa [encodeChar_ofNat x hx] at hcut

theorem valid_of_isAscii {b : Bytes} (h : IsAscii b) : Valid b :=
  valid_iff.mpr ⟨ascii b, (encode_ascii b h).symm⟩

theorem valid_cons {s : Bytes} {x : Byte} (hx : x < 0x80) : Valid (x :: s) ↔ Valid s := by
  have hcut := valid_append_cons (a := []) (s := s) hx
  simpa [valid_nil] using hcut

end SealedToken.Utf8

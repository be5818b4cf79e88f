import SealedToken.Proofs.Json.Writer
import SealedToken.Proofs.Number.Binary64
import SealedToken.Proofs.Text.Unsigned

/-! # Integers in JSON texts

What becomes of an integer that is written in full: without its fraction the
number that is read is the integer rounded to fifty-three bits. Beyond the
integers that fit 64 bits, digits are dropped while reading, and only the size
is kept. -/

namespace SealedToken.Json

/-! ### Integer literals -/

namespace Literal

/-- There is neither a fraction nor an exponent. -/
def IsInteger (l : Literal) : Prop := l.fraction = none ∧ l.exponent = none

def integer (l : Literal) : Int := if l.negative then -(l.whole.value : Int) else l.whole.value

end Literal

/-- The bytes are an integer literal of the number. -/
def IntegerText (n : Int) (b : Bytes) : Prop :=
  ∃ l : Literal, l.IsInteger ∧ b = l.bytes ∧ l.integer = n

theorem Literal.unsignedBytes_of_isInteger {l : Literal} (h : l.IsInteger) :
    l.unsignedBytes = l.whole.digits := by
  rw [unsignedBytes, h.1, h.2]
  exact List.append_nil _

theorem Literal.natAbs_integer (l : Literal) : l.integer.natAbs = l.whole.value := by
  unfold integer
  split
  · rw [Int.natAbs_neg, Int.natAbs_natCast]
  · exact Int.natAbs_natCast _

theorem ValueText.number_of_starts {depth : Nat} {v : Value} {c : Byte} {s : Bytes}
    (hc : startsNumber c = true) (h : ValueText depth v (c :: s)) :
    ∃ x, v = .number x ∧ NumberText x (c :: s) := by
  have hscalar : Scalar v (c :: s) := by
    cases depth with
    | zero => exact h
    | succ depth =>
      generalize hb : c :: s = b at h
      cases h with
      | scalar h => exact h
      | list => cases hb; cases hc
      | object => cases hb; cases hc
  generalize hb : c :: s = b at hscalar
  cases hscalar with
  | null => cases hb; cases hc
  | yes => cases hb; cases hc
  | no => cases hb; cases hc
  | number h => exact ⟨_, rfl, h⟩
  | text h => cases hb; cases hc

theorem IntegerText.exists_literal {depth : Nat} {n : Int} {v : Value} {b : Bytes}
    (hn : IntegerText n b) (hv : ValueText depth v b) :
    ∃ l : Literal, l.integer = n ∧ l.IsInteger ∧ ∃ x, v = .number x ∧ l.value? = some x := by
  obtain ⟨l, hl, rfl, hn⟩ := hn
  obtain ⟨c, s, hb, hc⟩ := l.exists_cons
  obtain ⟨x, rfl, hx⟩ := (hb ▸ hv).number_of_starts hc
  have hread : number (l.bytes ++ []) = .ok (x, []) := number_complete (hb ▸ hx) ends_nil
  exact ⟨l, hn, hl, x, rfl, ((l.number_append ends_nil).mp hread).1⟩

/-! ### Digits that find room -/

theorem digitValue_le {d : Byte} (hd : isDigit d = true) : digitValue d ≤ 9 := by
  simp only [isDigit, Bool.and_eq_true, decide_eq_true_eq] at hd
  have hle := UInt8.le_iff_toNat_le.mp hd.2
  rw [digitValue]
  exact Nat.sub_le_sub_right hle 48

theorem fit_of_lt {ds : Bytes} {v : Nat} (h : appendDigits v ds < significandLimit) :
    fit v ds = (appendDigits v ds, ds.length) := by
  induction ds generalizing v with
  | nil => rfl
  | cons d ds ih =>
    have hstep : appendDigits v (d :: ds) = appendDigits (v * 10 + digitValue d) ds := rfl
    rw [hstep] at h
    have hroom := Nat.lt_of_le_of_lt (le_appendDigits _ ds) h
    rw [fit, if_pos hroom, ih h, hstep, List.length_cons]

/-- If not all digits find room, the next one would not have fitted any more. -/
theorem fit_of_le {ds : Bytes} (hds : ∀ d ∈ ds, isDigit d = true) {v : Nat}
    (hv : v < significandLimit) (h : significandLimit ≤ appendDigits v ds) :
    (fit v ds).2 < ds.length ∧ significandLimit ≤ (fit v ds).1 * 10 + 9 := by
  induction ds generalizing v with
  | nil => exact absurd hv (Nat.not_lt.mpr h)
  | cons d ds ih =>
    obtain ⟨hd, hds⟩ := List.forall_mem_cons.mp hds
    rw [fit]
    split
    · rename_i hroom
      obtain ⟨hlength, hvalue⟩ := ih hds hroom h
      exact ⟨Nat.succ_lt_succ hlength, hvalue⟩
    · rename_i hfull
      have hle := digitValue_le hd
      exact ⟨Nat.succ_pos _, by omega⟩

/-! ### The number of a literal -/

/-- An integer that fits is read as it is written, and its sign with it. -/
theorem Number.toBinary_ofInteger (negative : Bool) (n : Nat) :
    (ofInteger negative n).toBinary = ⟨negative, Binary64.ofNat n⟩ := by
  unfold ofInteger
  split
  · rename_i hneg
    split
    · rename_i hfits
      have hlt : -(n : Int) < 0 := by omega
      rw [toBinary, Binary64.ofInt, Int.natAbs_neg, Int.natAbs_natCast, decide_eq_true hlt, hneg]
    · rw [toBinary, hneg]
  · rename_i hneg
    have hlt : ¬(n : Int) < 0 := by omega
    rw [toBinary, Binary64.ofInt, Int.natAbs_natCast, decide_eq_false hlt,
      Bool.eq_false_iff.mpr hneg]

theorem scaled?_ne_natural (negative : Bool) (significand : Nat) (exponent : Int) (n : Nat) :
    scaled? negative significand exponent ≠ some (.natural n) := by
  intro h
  obtain ⟨x, -, hx⟩ := Option.map_eq_some_iff.mp h
  cases hx

/-- With an exponent or behind a point a number is none of the naturals. -/
theorem scale?_ne_natural (negative : Bool) (significand : Nat) (start : Int) (e : Option Exponent)
    (n : Nat) : scale? negative significand start e ≠ some (.natural n) := by
  intro h
  cases e with
  | none => exact scaled?_ne_natural _ _ _ _ h
  | some e =>
    rw [scale?, moved?] at h
    split at h
    · exact scaled?_ne_natural _ _ _ _ h
    split at h
    · cases h
    · cases h

theorem Number.ofInteger_eq_natural_iff {negative : Bool} {m n : Nat} :
    ofInteger negative m = .natural n ↔ negative = false ∧ m = n := by
  cases negative with
  | false => simp [ofInteger]
  | true =>
    rw [ofInteger, if_pos rfl]
    split
    · simp
    · simp

/-- The literals of naturals are those of digits alone. -/
theorem Literal.value?_eq_natural_iff {l : Literal} {n : Nat} :
    l.value? = some (.natural n) ↔
      l.IsInteger ∧ l.negative = false ∧ l.whole.value = n ∧ n < significandLimit := by
  have hvalue : l.whole.value = appendDigits 0 l.whole.digits := rfl
  rw [value?, IsInteger]
  cases l.fraction with
  | some f =>
    refine iff_of_false ?_ fun h => Option.some_ne_none f h.1.1
    exact scale?_ne_natural _ _ _ _ _
  | none =>
    cases l.exponent with
    | some e =>
      rw [continued?]
      exact iff_of_false (scale?_ne_natural _ _ _ _ _) fun h => Option.some_ne_none e h.1.2
    | none =>
      rw [continued?]
      by_cases hlt : l.whole.value < significandLimit
      · rw [fit_of_lt (hvalue ▸ hlt), Nat.sub_self, if_pos rfl, Option.some.injEq,
          Number.ofInteger_eq_natural_iff, ← hvalue]
        constructor
        · rintro ⟨hneg, rfl⟩
          exact ⟨⟨rfl, rfl⟩, hneg, rfl, hlt⟩
        · rintro ⟨-, hneg, hn, -⟩
          exact ⟨hneg, hn⟩
      -- Some digit finds no room, so the number is scaled.
      · obtain ⟨hlength, -⟩ :=
          fit_of_le l.whole.all_digits (by decide) (hvalue ▸ Nat.not_lt.mp hlt)
        have hdropped : l.whole.digits.length - (fit 0 l.whole.digits).2 ≠ 0 := by omega
        rw [if_neg hdropped]
        refine iff_of_false (scaled?_ne_natural _ _ _ _) ?_
        rintro ⟨-, -, rfl, hsmall⟩
        exact hlt hsmall

/-- What the number of an integer literal keeps: its sign, and its size after
rounding; beyond the numbers that fit, only that the size is large. -/
theorem Literal.toBinary_of_value? {l : Literal} (hl : l.IsInteger) {x : Number}
    (h : l.value? = some x) :
    ∃ units, x.toBinary = ⟨l.negative, units⟩ ∧
      (l.whole.value < significandLimit → units = Binary64.ofNat l.whole.value) ∧
      (significandLimit ≤ l.whole.value → 2 ^ 60 * Binary64.one ≤ units) := by
  have hvalue : l.whole.value = appendDigits 0 l.whole.digits := rfl
  rw [value?, hl.1, hl.2, continued?] at h
  by_cases hlt : l.whole.value < significandLimit
  · have hfit := fit_of_lt (hvalue ▸ hlt)
    simp only [hfit, Nat.sub_self, if_true, Option.some.injEq] at h
    rw [← h, Number.toBinary_ofInteger]
    exact ⟨_, rfl, fun _ => rfl, fun hle => absurd hlt (Nat.not_lt.mpr hle)⟩
  -- Here the number is a significand of sixty bits at least, times a power of ten.
  · obtain ⟨hlength, hlarge⟩ :=
      fit_of_le l.whole.all_digits (by decide) (hvalue ▸ Nat.not_lt.mp hlt)
    have hdropped : l.whole.digits.length - (fit 0 l.whole.digits).2 ≠ 0 := by omega
    simp only [if_neg hdropped, scaled?] at h
    obtain ⟨y, hy, rfl⟩ := Option.map_eq_some_iff.mp h
    obtain ⟨units, hunits, rfl⟩ := Option.map_eq_some_iff.mp hy
    have hsignificand : 2 ^ 60 ≤ (fit 0 l.whole.digits).1 := by
      unfold significandLimit at hlarge
      omega
    refine ⟨units, rfl, fun h => absurd h hlt, fun _ => ?_⟩
    exact Binary64.le_of_raise? (Binary64.le_ofNat hsignificand) hunits

/-- Without its fraction the number of an integer literal is the integer rounded
to fifty-three bits, with the sign of the integer. -/
theorem IntegerText.truncate {depth : Nat} {n : Int} {v : Value} {b : Bytes}
    (hn : IntegerText n b) (hv : ValueText depth v b) :
    ∃ x m, v = .number x ∧ x.toBinary.truncate = n.sign * (m : Nat) ∧
      (n.natAbs < significandLimit → m = Binary64.rounded n.natAbs 1) ∧
      (significandLimit ≤ n.natAbs → 2 ^ 60 ≤ m) := by
  obtain ⟨l, rfl, hl, x, rfl, hx⟩ := hn.exists_literal hv
  obtain ⟨units, hbinary, hfits, hlarge⟩ := l.toBinary_of_value? hl hx
  rw [l.natAbs_integer]
  have hm : l.whole.value < significandLimit →
      units / Binary64.one = Binary64.rounded l.whole.value 1 := by
    intro hlt
    rw [hfits hlt, Binary64.ofNat_div_one]
  have hm' (hle : significandLimit ≤ l.whole.value) : 2 ^ 60 ≤ units / Binary64.one :=
    (Nat.le_div_iff_mul_le Binary64.one_pos).mpr (hlarge hle)
  refine ⟨x, units / Binary64.one, rfl, ?_, hm, hm'⟩
  rw [hbinary, Binary64.truncate, Literal.integer]
  rcases Nat.eq_zero_or_pos l.whole.value with hzero | hpos
  · have hquotient := hm (hzero ▸ by decide)
    rw [hzero, Binary64.rounded_of_le (Nat.zero_le _)] at hquotient
    rw [hquotient, hzero]
    cases l.negative <;> rfl
  · have hsign : (l.whole.value : Int).sign = 1 := Int.sign_eq_one_of_pos (by omega)
    cases l.negative with
    | true => rw [if_pos rfl, if_pos rfl, Int.sign_neg, hsign, Int.neg_one_mul]
    | false => rw [if_neg Bool.false_ne_true, if_neg Bool.false_ne_true, hsign, Int.one_mul]

/-! ### Members as they are written -/

/-- The text is an object, and its last member of the name is written like this. -/
def LastWritten (text : Bytes) (name : String) (raw : Bytes) : Prop :=
  ∃ before after, VerbatimText (before ++ (name, raw) :: after) text ∧
    (∀ m ∈ before ++ (name, raw) :: after, ∃ v, ValueText (depthLimit - 1) v m.2) ∧
    ∀ m ∈ after, m.1 ≠ name

theorem Entries.map_members {α : Type} {P : α → Bytes → Prop} {f : Bytes → α} {first : Bool}
    {ms : List (String × Bytes)} {body : Bytes} (h : Entries (MemberText Verbatim) first ms body)
    (hf : ∀ m ∈ ms, P (f m.2) m.2) :
    Entries (MemberText P) first (ms.map fun m => (m.1, f m.2)) body := by
  induction h with
  | nil blanks => exact .nil blanks
  | cons lead_ok entry _ ih =>
    obtain ⟨ha, has⟩ := List.forall_mem_cons.mp hf
    obtain ⟨raw, ws, ws', v, hkey, hws, hws', hv, hb⟩ := entry
    have hv : v = _ := hv
    exact .cons lead_ok ⟨raw, ws, ws', v, hkey, hws, hws', hv ▸ ha, hb⟩ (ih has)

/-- The last member of a name holds the value that it is written as. -/
theorem LastWritten.holds {text raw : Bytes} {name : String} {ms : Members}
    (h : LastWritten text name raw) (hms : ObjectText depthLimit ms text) :
    ∃ v, ms.Holds name v ∧ ValueText (depthLimit - 1) v raw := by
  obtain ⟨before, after, ⟨ws, body, ws', hws, hbody, hws', htext⟩, hvalues, hafter⟩ := h
  have hvalue : ∀ b, ∃ v, (∃ v, ValueText (depthLimit - 1) v b) → ValueText (depthLimit - 1) v b := by
    intro b
    by_cases hb : ∃ v, ValueText (depthLimit - 1) v b
    · obtain ⟨v, hv⟩ := hb
      exact ⟨v, fun _ => hv⟩
    · exact ⟨.null, fun h => absurd h hb⟩
  obtain ⟨f, hf⟩ := Classical.axiomOfChoice hvalue
  have hentries := hbody.map_members fun m hm => hf m.2 (hvalues m hm)
  -- The same text is read as one row of members only.
  have hobject : ObjectText depthLimit
      ((before ++ (name, raw) :: after).map fun m => (m.1, f m.2)) text := by
    refine ⟨ws, _, ws', hws, Bracketed.object hentries, hws', ?_⟩
    rw [htext, List.cons_append, List.append_assoc, List.singleton_append]
  have hsame := Members.parse_eq_ok_iff.mpr hms
  rw [Members.parse_eq_ok_iff.mpr hobject, Except.ok.injEq] at hsame
  refine ⟨f raw, ⟨before.map fun m => (m.1, f m.2), after.map fun m => (m.1, f m.2), ?_, ?_⟩, ?_⟩
  · rw [← hsame, List.map_append, List.map_cons]
  · exact List.forall_mem_map.mpr hafter
  · exact hf raw (hvalues _ (List.mem_append_right before List.mem_cons_self))

theorem lastWritten_leaves (before : List (String × Leaf)) {after : List (String × Leaf)}
    {name : String} {v : Leaf}
    (hvalues : ∀ m ∈ before ++ (name, v) :: after, ∃ w, ValueText (depthLimit - 1) w m.2.bytes)
    (hafter : ∀ m ∈ after, m.1 ≠ name) :
    LastWritten (Utf8.encode (written (before ++ (name, v) :: after))) name v.bytes := by
  have htext := verbatimText_leaves (before ++ (name, v) :: after)
  have hleaves : leafMembers (before ++ (name, v) :: after) =
      leafMembers before ++ (name, v.bytes) :: leafMembers after := by
    rw [leafMembers, List.map_append, List.map_cons]
    rfl
  refine ⟨leafMembers before, leafMembers after, hleaves ▸ htext, ?_, ?_⟩
  · rw [← hleaves]
    exact List.forall_mem_map.mpr hvalues
  · exact List.forall_mem_map.mpr hafter

/-! ### Written integers -/

/-- A decimal digit as one byte. -/
def digitByte (c : Char) : Byte := UInt8.ofNat c.toNat

/-- What holds of the ten digits holds of every character that is one. -/
theorem forall_isDigit {P : Char → Prop} (h : ∀ d : Fin 10, P (Nat.digitChar d)) {c : Char}
    (hc : c.isDigit = true) : P c := by
  have hrange := Unsigned.isDigit_iff.mp hc
  have hlt : c.toNat - 48 < 10 := by omega
  have hchar : Nat.digitChar (c.toNat - 48) = c := by
    apply Char.toNat_inj.mp
    rw [Nat.toNat_digitChar_of_lt_ten hlt]
    omega
  exact hchar ▸ h ⟨c.toNat - 48, hlt⟩

theorem encodeChar_digit {c : Char} (hc : c.isDigit = true) :
    String.utf8EncodeChar c = [digitByte c] :=
  forall_isDigit (P := fun c => String.utf8EncodeChar c = [digitByte c]) (by decide) hc

theorem isDigit_digitByte {c : Char} (hc : c.isDigit = true) : isDigit (digitByte c) = true :=
  forall_isDigit (P := fun c => isDigit (digitByte c) = true) (by decide) hc

theorem digitValue_digitByte {c : Char} (hc : c.isDigit = true) :
    digitValue (digitByte c) = c.toNat - '0'.toNat :=
  forall_isDigit (P := fun c => digitValue (digitByte c) = c.toNat - '0'.toNat) (by decide) hc

theorem eq_zero_of_digitByte {c : Char} (hc : c.isDigit = true) (h : digitByte c = 0x30) :
    c = '0' :=
  forall_isDigit (P := fun c => digitByte c = 0x30 → c = '0') (by decide) hc h

theorem appendDigits_map {cs : List Char} (hcs : ∀ c ∈ cs, c.isDigit = true) (v : Nat) :
    appendDigits v (cs.map digitByte) = Nat.ofDigitChars 10 cs v := by
  induction cs generalizing v with
  | nil => rfl
  | cons c cs ih =>
    obtain ⟨hc, hcs⟩ := List.forall_mem_cons.mp hcs
    rw [List.map_cons, Nat.ofDigitChars_cons, ← ih hcs, ← digitValue_digitByte hc, Nat.mul_comm]
    rfl

/-- Only zero is written with a zero in front. -/
theorem head?_toDigits {n : Nat} (h : (Nat.toDigits 10 n).head? = some '0') : n = 0 := by
  induction n using Nat.strongRecOn with
  | ind n ih =>
    rw [Nat.toDigits_eq_if (by decide)] at h
    split at h
    · rename_i hlt
      have hzero : ∀ d : Fin 10, Nat.digitChar d = '0' → d = 0 := by decide
      exact congrArg Fin.val (hzero ⟨n, hlt⟩ (Option.some.inj h))
    · rw [List.head?_append_of_ne_nil _ Nat.toDigits_ne_nil] at h
      have hquotient := ih (n / 10) (by omega) h
      omega

/-- The decimal digits of a number. -/
def decimal (n : Nat) : Numeral where
  digits := (Nat.toDigits 10 n).map digitByte
  ne_nil := by simp [Nat.toDigits_ne_nil]
  all_digits := List.forall_mem_map.mpr fun _ hc =>
    isDigit_digitByte (Nat.isDigit_of_mem_toDigits (by decide) (by decide) hc)

theorem value_decimal (n : Nat) : (decimal n).value = n := by
  have hdigits : ∀ c ∈ Nat.toDigits 10 n, c.isDigit = true := fun _ hc =>
    Nat.isDigit_of_mem_toDigits (by decide) (by decide) hc
  rw [Numeral.value, decimal, appendDigits_map hdigits, Nat.ofDigitChars_ten_toDigits]

theorem decimal_noLeadingZero {n : Nat} (h : (decimal n).digits.head? = some 0x30) :
    (decimal n).digits = [0x30] := by
  rw [decimal, List.head?_map] at h
  obtain ⟨c, hc, hbyte⟩ := Option.map_eq_some_iff.mp h
  have hdigit : c.isDigit = true :=
    Nat.isDigit_of_mem_toDigits (by decide) (by decide) (List.mem_of_mem_head? hc)
  rw [eq_zero_of_digitByte hdigit hbyte] at hc
  rw [head?_toDigits hc]
  rfl

/-- An integer in decimal digits. -/
def decimalLiteral (n : Int) : Literal :=
  ⟨n < 0, decimal n.natAbs, none, none, decimal_noLeadingZero⟩

theorem bytes_integer (n : Int) : (Leaf.integer n).bytes = (decimalLiteral n).bytes := by
  have hdigits (m : Nat) : (m.repr).toList.flatMap String.utf8EncodeChar = (decimal m).digits := by
    rw [Nat.toList_repr, decimal, List.flatMap_def, List.map_congr_left fun c hc =>
      encodeChar_digit (Nat.isDigit_of_mem_toDigits (by decide) (by decide) hc)]
    exact List.flatMap_pure_eq_map digitByte _
  have hbytes : (Leaf.integer n).bytes = n.repr.toList.flatMap String.utf8EncodeChar := by
    rw [Leaf.bytes, Leaf.chars, Int.toString_eq_repr]
  have hdecimal : (decimalLiteral n).unsignedBytes = (decimal n.natAbs).digits :=
    Literal.unsignedBytes_of_isInteger ⟨rfl, rfl⟩
  rw [hbytes, Literal.bytes, hdecimal, Int.repr_eq_if]
  by_cases hn : 0 ≤ n
  · have hsign : (decimalLiteral n).negative = false := decide_eq_false (by omega)
    have habs : n.toNat = n.natAbs := by omega
    rw [if_pos hn, hsign, habs, hdigits]
    rfl
  · have hsign : (decimalLiteral n).negative = true := decide_eq_true (by omega)
    have habs : (-n).toNat = n.natAbs := by omega
    rw [if_neg hn, hsign, habs, String.toList_append, List.flatMap_append, hdigits]
    rfl

theorem integer_decimalLiteral (n : Int) : (decimalLiteral n).integer = n := by
  rw [Literal.integer, decimalLiteral, value_decimal]
  by_cases hn : n < 0
  · rw [decide_eq_true hn, if_pos rfl]
    omega
  · rw [decide_eq_false hn, if_neg Bool.false_ne_true]
    omega

/-- A written integer is its own literal. -/
theorem integerText_leaf (n : Int) : IntegerText n (Leaf.integer n).bytes :=
  ⟨decimalLiteral n, ⟨rfl, rfl⟩, bytes_integer n, integer_decimalLiteral n⟩

/-- A written integer that fits 64 bits is a value. -/
theorem exists_valueText_integer {n : Int} (h : n.natAbs < significandLimit) (depth : Nat) :
    ∃ v, ValueText depth v (Leaf.integer n).bytes := by
  have hlt : appendDigits 0 (decimal n.natAbs).digits < significandLimit :=
    lt_of_eq_of_lt (value_decimal n.natAbs) h
  have hvalue : (decimalLiteral n).value? =
      some (.ofInteger (decimalLiteral n).negative n.natAbs) := by
    simp only [Literal.value?, decimalLiteral, fit_of_lt hlt, continued?, Nat.sub_self, if_true]
    exact congrArg (fun m => some (Number.ofInteger _ m)) (value_decimal n.natAbs)
  have hscalar : Scalar (.number _) (Leaf.integer n).bytes :=
    .number ⟨decimalLiteral n, bytes_integer n, hvalue⟩
  cases depth with
  | zero => exact ⟨_, hscalar⟩
  | succ depth => exact ⟨_, .scalar hscalar⟩

end SealedToken.Json

import SealedToken.Proofs.Json.Scan

/-! # Numbers as they are written

A number is a sign, digits, perhaps a fraction and perhaps an exponent. The
reader takes exactly these literals; what a literal denotes is a function of
its parts, and nothing if it is beyond the finite binary numbers. -/

namespace SealedToken.Json

/-! ### Literals -/

/-- Digits in a row, at least one. -/
structure Numeral where
  digits : Bytes
  ne_nil : digits ≠ []
  all_digits : ∀ d ∈ digits, isDigit d = true

inductive ExponentSign where
  | absent
  | plus
  | minus
  deriving DecidableEq, Repr

def ExponentSign.bytes : ExponentSign → Bytes
  | absent => []
  | plus => [Json.plus]
  | minus => [Json.minus]

def ExponentSign.isMinus : ExponentSign → Bool
  | minus => true
  | _ => false

structure Exponent where
  /-- `e` or `E`. -/
  mark : Byte
  sign : ExponentSign
  numeral : Numeral
  isMark : isExponentMark mark = true

structure Literal where
  negative : Bool
  /-- The digits before the point. A leading zero stands alone. -/
  whole : Numeral
  fraction : Option Numeral
  exponent : Option Exponent
  noLeadingZero : whole.digits.head? = some 0x30 → whole.digits = [0x30]

def Exponent.bytes (e : Exponent) : Bytes := e.mark :: (e.sign.bytes ++ e.numeral.digits)

def fractionBytes : Option Numeral → Bytes
  | none => []
  | some f => point :: f.digits

def exponentBytes : Option Exponent → Bytes
  | none => []
  | some e => e.bytes

def Literal.unsignedBytes (l : Literal) : Bytes :=
  l.whole.digits ++ (fractionBytes l.fraction ++ exponentBytes l.exponent)

def Literal.bytes (l : Literal) : Bytes :=
  (if l.negative then [minus] else []) ++ l.unsignedBytes

/-! ### What a literal denotes -/

/-- Digits put behind a number. -/
def appendDigits (v : Nat) (ds : Bytes) : Nat := ds.foldl (fun v d => v * 10 + digitValue d) v

def Numeral.value (n : Numeral) : Nat := appendDigits 0 n.digits

/-- Digits taken into a significand as long as there is room: what it becomes,
and how many digits went into it. -/
def fit (significand : Nat) : Bytes → Nat × Nat
  | [] => (significand, 0)
  | d :: ds =>
    if significand * 10 + digitValue d < significandLimit then
      let r := fit (significand * 10 + digitValue d) ds
      (r.1, r.2 + 1)
    else (significand, 0)

/-- A number with its decimal exponent. -/
def scaled? (negative : Bool) (significand : Nat) (exponent : Int) : Option Number :=
  (Binary64.ofDecimal? negative significand exponent).map .binary

/-- Moves a decimal exponent by `k`. If `k` is too large, the number is zero
or not finite. -/
def moved? (negative : Bool) (significand : Nat) (start : Int) (down : Bool) (k : Nat) :
    Option Number :=
  if k < exponentLimit then
    scaled? negative significand (if down then start - k else start + k)
  else if significand ≠ 0 ∧ ¬down then none
  else some (.binary ⟨negative, 0⟩)

def scale? (negative : Bool) (significand : Nat) (start : Int) : Option Exponent → Option Number
  | none => scaled? negative significand start
  | some e => moved? negative significand start e.sign.isMinus e.numeral.value

/-- What the significand before the point denotes together with what follows
it, when `dropped` digits before the point found no room. -/
def continued? (negative : Bool) (significand dropped : Nat) (f : Option Numeral)
    (e : Option Exponent) : Option Number :=
  match f, e with
  | none, none =>
    if dropped = 0 then some (.ofInteger negative significand)
    else scaled? negative significand dropped
  | none, some e => scale? negative significand dropped (some e)
  | some f, e =>
    let r := fit significand f.digits
    scale? negative r.1 (dropped - r.2) e

def Literal.value? (l : Literal) : Option Number :=
  let r := fit 0 l.whole.digits
  continued? l.negative r.1 (l.whole.digits.length - r.2) l.fraction l.exponent

/-- The bytes are a literal of the number. -/
def NumberText (n : Number) (b : Bytes) : Prop := ∃ l : Literal, b = l.bytes ∧ l.value? = some n

/-! ### Digits -/

theorem wholePart_append {ds : Bytes} (hds : ∀ d ∈ ds, isDigit d = true) {s : Bytes}
    (hs : Stops isDigit s) (v : Nat) :
    wholePart v (ds ++ s) = ((fit v ds).1, ds.length - (fit v ds).2, s) := by
  induction ds generalizing v with
  | nil =>
    cases s with
    | nil => rfl
    | cons b s =>
      rw [List.nil_append, wholePart, if_neg (Bool.not_eq_true _ ▸ stops_cons.mp hs)]
      rfl
  | cons d ds ih =>
    have htail : ∀ x ∈ ds, isDigit x = true := fun x hx => hds x (List.mem_cons_of_mem d hx)
    rw [List.cons_append, wholePart, if_pos (hds d List.mem_cons_self), fit]
    split
    · rw [ih htail, List.length_cons, Nat.add_sub_add_right]
    · rw [takeWhile_append_stops htail hs, dropWhile_append_stops htail hs]
      rfl

theorem fractionPart_append {ds : Bytes} (hds : ∀ d ∈ ds, isDigit d = true) {s : Bytes}
    (hs : Stops isDigit s) (v taken : Nat) :
    fractionPart v taken (ds ++ s) = ((fit v ds).1, taken + (fit v ds).2, s) := by
  induction ds generalizing v taken with
  | nil =>
    cases s with
    | nil => rfl
    | cons b s =>
      rw [List.nil_append, fractionPart, if_neg (Bool.not_eq_true _ ▸ stops_cons.mp hs)]
      rfl
  | cons d ds ih =>
    have htail : ∀ x ∈ ds, isDigit x = true := fun x hx => hds x (List.mem_cons_of_mem d hx)
    rw [List.cons_append, fractionPart, if_pos (hds d List.mem_cons_self), fit]
    split
    · rw [ih htail, Nat.add_assoc, Nat.add_comm 1]
    · rw [dropWhile_append_stops htail hs]
      rfl

theorem le_appendDigits (v : Nat) (ds : Bytes) : v ≤ appendDigits v ds := by
  induction ds generalizing v with
  | nil => exact Nat.le_refl v
  | cons d ds ih =>
    have h := ih (v * 10 + digitValue d)
    rw [appendDigits, List.foldl_cons]
    unfold appendDigits at h
    omega

theorem exponentPart_append {ds : Bytes} (hds : ∀ d ∈ ds, isDigit d = true) {s : Bytes}
    (hs : Stops isDigit s) {v : Nat} (h : appendDigits v ds < exponentLimit) :
    exponentPart v (ds ++ s) = (some (appendDigits v ds), s) := by
  induction ds generalizing v with
  | nil =>
    cases s with
    | nil => rfl
    | cons b s =>
      rw [List.nil_append, exponentPart, if_neg (Bool.not_eq_true _ ▸ stops_cons.mp hs)]
      rfl
  | cons d ds ih =>
    have hstep : appendDigits v (d :: ds) = appendDigits (v * 10 + digitValue d) ds := rfl
    rw [hstep] at h ⊢
    have hroom := Nat.lt_of_le_of_lt (le_appendDigits _ ds) h
    rw [List.cons_append, exponentPart, if_pos (hds d List.mem_cons_self), if_pos hroom]
    exact ih (fun x hx => hds x (List.mem_cons_of_mem d hx)) h

theorem exponentPart_append_of_le {ds : Bytes} (hds : ∀ d ∈ ds, isDigit d = true) {s : Bytes}
    (hs : Stops isDigit s) {v : Nat} (hv : v < exponentLimit)
    (h : exponentLimit ≤ appendDigits v ds) :
    ∃ r, exponentPart v (ds ++ s) = (none, r) ∧ r.dropWhile isDigit = s := by
  induction ds generalizing v with
  | nil => exact absurd hv (Nat.not_lt.mpr h)
  | cons d ds ih =>
    have htail : ∀ x ∈ ds, isDigit x = true := fun x hx => hds x (List.mem_cons_of_mem d hx)
    rw [List.cons_append, exponentPart, if_pos (hds d List.mem_cons_self)]
    split
    · rename_i hroom
      exact ih htail hroom h
    -- The exponent is given up in the middle of its digits.
    · exact ⟨_, rfl, dropWhile_append_stops htail hs⟩

theorem exists_numeral {d : Byte} (hd : isDigit d = true) (s : Bytes) :
    ∃ (n : Numeral) (r : Bytes), d :: s = n.digits ++ r ∧ n.digits = d :: s.takeWhile isDigit ∧
      r = s.dropWhile isDigit ∧ Stops isDigit r := by
  refine ⟨⟨d :: s.takeWhile isDigit, List.cons_ne_nil _ _, ?_⟩, s.dropWhile isDigit, ?_, rfl, rfl,
    stops_dropWhile isDigit s⟩
  · intro x hx
    rcases List.mem_cons.mp hx with rfl | hx
    · exact hd
    · exact List.mem_takeWhile_imp hx
  · rw [List.cons_append, List.takeWhile_append_dropWhile]

theorem Numeral.exists_cons (n : Numeral) :
    ∃ d ds, n.digits = d :: ds ∧ isDigit d = true ∧ ∀ x ∈ ds, isDigit x = true := by
  cases h : n.digits with
  | nil => exact absurd h n.ne_nil
  | cons d ds =>
    have hall := n.all_digits
    rw [h] at hall
    exact ⟨d, ds, rfl, hall d List.mem_cons_self, fun x hx => hall x (List.mem_cons_of_mem d hx)⟩

/-! ### Exponents -/

theorem scaled_eq_ok_iff {neg : Bool} {v : Nat} {e : Int} {s r : Bytes} {n : Number} :
    scaled neg v e s = .ok (n, r) ↔ scaled? neg v e = some n ∧ r = s := by
  unfold scaled scaled?
  cases Binary64.ofDecimal? neg v e with
  | none => simp
  | some x => simp [eq_comm]

/-- What follows the sign of an exponent. -/
def afterSign (neg : Bool) (v : Nat) (start : Int) (down : Bool) : Bytes → Reading Number
  | [] => .error (.before .endOfValue [])
  | b :: s =>
    if isDigit b then
      match exponentPart (digitValue b) s with
      | (some e, s) => scaled neg v (if down then start - e else start + e) s
      | (none, s) =>
        if v ≠ 0 ∧ ¬down then .error (.before .infiniteNumber s)
        else .ok (.binary ⟨neg, 0⟩, s.dropWhile isDigit)
    else .error (.before .malformedNumber s)

theorem exponent_minus (neg : Bool) (v : Nat) (start : Int) (s : Bytes) :
    exponent neg v start (minus :: s) = afterSign neg v start true s := by
  cases s with
  | nil => rfl
  | cons b s => rfl

theorem exponent_plus (neg : Bool) (v : Nat) (start : Int) (s : Bytes) :
    exponent neg v start (plus :: s) = afterSign neg v start false s := by
  cases s with
  | nil => rfl
  | cons b s => rfl

theorem exponent_unsigned {b : Byte} (hminus : b ≠ minus) (hplus : b ≠ plus) (neg : Bool)
    (v : Nat) (start : Int) (s : Bytes) :
    exponent neg v start (b :: s) = afterSign neg v start false (b :: s) := by
  simp only [exponent, if_neg hminus, if_neg hplus]
  rfl

theorem afterSign_numeral (neg : Bool) (v : Nat) (start : Int) (down : Bool)
    (n : Numeral) {s r : Bytes} {x : Number} (hs : Stops isDigit s) :
    afterSign neg v start down (n.digits ++ s) = .ok (x, r) ↔
      moved? neg v start down n.value = some x ∧ r = s := by
  obtain ⟨d, ds, hn, hd, hds⟩ := n.exists_cons
  have hvalue : n.value = appendDigits (digitValue d) ds := by
    rw [Numeral.value, hn]
    simp [appendDigits]
  rw [hn, List.cons_append, afterSign, if_pos hd, moved?, hvalue]
  by_cases hlt : appendDigits (digitValue d) ds < exponentLimit
  · rw [exponentPart_append hds hs hlt, if_pos hlt]
    exact scaled_eq_ok_iff
  · have hdigit : digitValue d < exponentLimit := by
      have hlt := d.toNat_lt
      unfold digitValue exponentLimit
      omega
    obtain ⟨t, ht, hrest⟩ := exponentPart_append_of_le hds hs hdigit (Nat.not_lt.mp hlt)
    rw [ht, if_neg hlt]
    simp only [hrest]
    split
    · simp
    · simp [eq_comm]

theorem afterSign_eq_ok_iff {neg : Bool} {v : Nat} {start : Int} {down : Bool}
    {s r : Bytes} {x : Number} :
    afterSign neg v start down s = .ok (x, r) ↔ ∃ n : Numeral, s = n.digits ++ r ∧
      Stops isDigit r ∧ moved? neg v start down n.value = some x := by
  constructor
  · intro h
    cases s with
    | nil => cases h
    | cons b s =>
      by_cases hb : isDigit b = true
      · obtain ⟨n, t, hs, -, -, ht⟩ := exists_numeral hb s
        rw [hs] at h ⊢
        obtain ⟨hx, rfl⟩ := (afterSign_numeral neg v start down n ht).mp h
        exact ⟨n, rfl, ht, hx⟩
      · rw [afterSign, if_neg hb] at h
        cases h
  · rintro ⟨n, rfl, hr, hx⟩
    exact (afterSign_numeral neg v start down n hr).mpr ⟨hx, rfl⟩

theorem exponent_append (neg : Bool) (v : Nat) (start : Int) (sign : ExponentSign) (n : Numeral)
    (s : Bytes) : exponent neg v start (sign.bytes ++ (n.digits ++ s)) =
      afterSign neg v start sign.isMinus (n.digits ++ s) := by
  cases sign with
  | minus => exact exponent_minus neg v start _
  | plus => exact exponent_plus neg v start _
  | absent =>
    obtain ⟨d, ds, hds, hd, -⟩ := n.exists_cons
    have hminus : d ≠ minus := fun he => absurd (he ▸ hd) (by decide)
    have hplus : d ≠ plus := fun he => absurd (he ▸ hd) (by decide)
    rw [hds]
    exact exponent_unsigned hminus hplus neg v start _

theorem exponent_eq_ok_iff {neg : Bool} {v : Nat} {start : Int} {s r : Bytes} {x : Number} :
    exponent neg v start s = .ok (x, r) ↔ ∃ (sign : ExponentSign) (n : Numeral),
      s = sign.bytes ++ (n.digits ++ r) ∧ Stops isDigit r ∧
        moved? neg v start sign.isMinus n.value = some x := by
  constructor
  · intro h
    cases s with
    | nil => cases h
    | cons b s =>
      by_cases hminus : b = minus
      · subst hminus
        rw [exponent_minus] at h
        obtain ⟨n, rfl, hn⟩ := afterSign_eq_ok_iff.mp h
        exact ⟨.minus, n, rfl, hn⟩
      by_cases hplus : b = plus
      · subst hplus
        rw [exponent_plus] at h
        obtain ⟨n, rfl, hn⟩ := afterSign_eq_ok_iff.mp h
        exact ⟨.plus, n, rfl, hn⟩
      rw [exponent_unsigned hminus hplus] at h
      obtain ⟨n, hs, hn⟩ := afterSign_eq_ok_iff.mp h
      exact ⟨.absent, n, hs, hn⟩
  · rintro ⟨sign, n, rfl, hn⟩
    rw [exponent_append]
    exact afterSign_eq_ok_iff.mpr ⟨n, rfl, hn⟩

/-! ### Fractions -/

theorem endsValue_not {p : Byte → Bool}
    (h : p 0x20 = false ∧ p 0x09 = false ∧ p newline = false ∧ p 0x0D = false ∧
      p comma = false ∧ p closeList = false ∧ p closeObject = false) (b : Byte)
    (hb : endsValue b = true) : p b = false := by
  simp only [endsValue, isBlank, Bool.or_eq_true, decide_eq_true_eq] at hb
  obtain ⟨h1, h2, h3, h4, h5, h6, h7⟩ := h
  rcases hb with (((((rfl | rfl) | rfl) | rfl) | rfl) | rfl) | rfl <;> assumption

def afterFraction (neg : Bool) (v : Nat) (start : Int) : Bytes → Reading Number
  | [] => scaled neg v start []
  | e :: s => if isExponentMark e then exponent neg v start s else scaled neg v start (e :: s)

theorem afterFraction_sound {neg : Bool} {v : Nat} {start : Int} {s r : Bytes} {x : Number}
    (h : afterFraction neg v start s = .ok (x, r)) :
    ∃ e, s = exponentBytes e ++ r ∧ scale? neg v start e = some x := by
  cases s with
  | nil =>
    obtain ⟨hx, rfl⟩ := scaled_eq_ok_iff.mp h
    exact ⟨none, rfl, hx⟩
  | cons b s =>
    rw [afterFraction] at h
    split at h
    · rename_i hmark
      obtain ⟨sign, n, rfl, -, hx⟩ := exponent_eq_ok_iff.mp h
      refine ⟨some ⟨b, sign, n, hmark⟩, ?_, hx⟩
      rw [exponentBytes, Exponent.bytes, List.cons_append, List.append_assoc]
    · obtain ⟨hx, rfl⟩ := scaled_eq_ok_iff.mp h
      exact ⟨none, rfl, hx⟩

/-- The exponent of a literal, if there is one, is read to its end. -/
theorem afterFraction_append {neg : Bool} {v : Nat} {start : Int} (e : Option Exponent)
    {r s : Bytes} {x : Number} (hr : Ends r) :
    afterFraction neg v start (exponentBytes e ++ r) = .ok (x, s) ↔
      scale? neg v start e = some x ∧ s = r := by
  cases e with
  | none =>
    cases r with
    | nil => exact scaled_eq_ok_iff
    | cons b r =>
      have hmark := endsValue_not (p := isExponentMark) (by decide) b (hr b rfl)
      rw [exponentBytes, List.nil_append, afterFraction, if_neg (Bool.not_eq_true _ ▸ hmark)]
      exact scaled_eq_ok_iff
  | some e =>
    rw [exponentBytes, Exponent.bytes, List.cons_append, afterFraction, if_pos e.isMark,
      List.append_assoc, exponent_append]
    exact afterSign_numeral neg v start e.sign.isMinus e.numeral (hr.stops (endsValue_not (by decide)))

theorem fraction_numeral (neg : Bool) (v dropped : Nat) (n : Numeral) {s : Bytes}
    (hs : Stops isDigit s) :
    fraction neg v dropped (n.digits ++ s) =
      afterFraction neg (fit v n.digits).1 (dropped - (fit v n.digits).2) s := by
  have hpart := fractionPart_append n.all_digits hs v 0
  obtain ⟨d, ds, hn, hd, -⟩ := n.exists_cons
  rw [hn, List.cons_append] at hpart ⊢
  rw [fraction, if_pos hd, hpart, Nat.zero_add]
  cases s with
  | nil => rfl
  | cons b s => rfl

theorem fraction_sound {neg : Bool} {v dropped : Nat} {s r : Bytes} {x : Number}
    (h : fraction neg v dropped s = .ok (x, r)) :
    ∃ (n : Numeral) (e : Option Exponent), s = n.digits ++ (exponentBytes e ++ r) ∧
      continued? neg v dropped (some n) e = some x := by
  cases s with
  | nil => cases h
  | cons b s =>
    by_cases hb : isDigit b = true
    · obtain ⟨n, t, hs, -, -, ht⟩ := exists_numeral hb s
      rw [hs] at h ⊢
      rw [fraction_numeral neg v dropped n ht] at h
      obtain ⟨e, rfl, hx⟩ := afterFraction_sound h
      exact ⟨n, e, rfl, hx⟩
    · rw [fraction, if_neg hb] at h
      cases h

/-- What follows the digits of a number begins with none of a kind. -/
theorem stops_exponent {p : Byte → Bool} (hmark : p 0x65 = false ∧ p 0x45 = false)
    (hends : ∀ b, endsValue b = true → p b = false) (e : Option Exponent) {r : Bytes}
    (hr : Ends r) : Stops p (exponentBytes e ++ r) := by
  cases e with
  | none => exact hr.stops hends
  | some e =>
    have hbyte := e.isMark
    simp only [isExponentMark, Bool.or_eq_true, decide_eq_true_eq] at hbyte
    refine stops_cons.mpr ?_
    rcases hbyte with hbyte | hbyte
    · exact hbyte ▸ hmark.1
    · exact hbyte ▸ hmark.2

theorem stops_isDigit_exponent (e : Option Exponent) {r : Bytes} (hr : Ends r) :
    Stops isDigit (exponentBytes e ++ r) :=
  stops_exponent (by decide) (endsValue_not (by decide)) e hr

theorem fraction_append {neg : Bool} {v dropped : Nat} {n : Numeral} {e : Option Exponent}
    {r s : Bytes} {x : Number} (hr : Ends r) :
    fraction neg v dropped (n.digits ++ (exponentBytes e ++ r)) = .ok (x, s) ↔
      continued? neg v dropped (some n) e = some x ∧ s = r := by
  rw [fraction_numeral neg v dropped n (stops_isDigit_exponent e hr)]
  exact afterFraction_append e hr

/-! ### Whole numbers -/

theorem plain_eq_ok_iff {neg : Bool} {v dropped : Nat} {s r : Bytes} {x : Number} :
    (if dropped = 0 then Except.ok (Number.ofInteger neg v, s) else scaled neg v dropped s) =
        .ok (x, r) ↔ continued? neg v dropped none none = some x ∧ r = s := by
  rw [continued?]
  split
  · simp [eq_comm]
  · exact scaled_eq_ok_iff

theorem afterWhole_sound {neg : Bool} {v dropped : Nat} {s r : Bytes} {x : Number}
    (h : afterWhole neg v dropped s = .ok (x, r)) :
    ∃ f e, s = fractionBytes f ++ (exponentBytes e ++ r) ∧
      continued? neg v dropped f e = some x := by
  cases s with
  | nil =>
    obtain ⟨hx, rfl⟩ := plain_eq_ok_iff.mp h
    exact ⟨none, none, rfl, hx⟩
  | cons b s =>
    rw [afterWhole] at h
    split at h
    · rename_i hpoint
      subst hpoint
      obtain ⟨n, e, rfl, hx⟩ := fraction_sound h
      exact ⟨some n, e, rfl, hx⟩
    split at h
    · rename_i hmark
      obtain ⟨sign, n, rfl, -, hx⟩ := exponent_eq_ok_iff.mp h
      refine ⟨none, some ⟨b, sign, n, hmark⟩, ?_, hx⟩
      rw [fractionBytes, List.nil_append, exponentBytes, Exponent.bytes, List.cons_append,
        List.append_assoc]
    · obtain ⟨hx, rfl⟩ := plain_eq_ok_iff.mp h
      exact ⟨none, none, rfl, hx⟩

/-- What follows the whole part of a literal is read to its end. -/
theorem afterWhole_append {neg : Bool} {v dropped : Nat} (f : Option Numeral)
    (e : Option Exponent) {r s : Bytes} {x : Number} (hr : Ends r) :
    afterWhole neg v dropped (fractionBytes f ++ (exponentBytes e ++ r)) = .ok (x, s) ↔
      continued? neg v dropped f e = some x ∧ s = r := by
  cases f with
  | some n =>
    rw [fractionBytes, List.cons_append, afterWhole, if_pos rfl]
    exact fraction_append hr
  | none =>
    rw [fractionBytes, List.nil_append]
    cases e with
    | some e =>
      have hpoint : e.mark ≠ point := fun he => absurd (he ▸ e.isMark) (by decide)
      have hstops : Stops isDigit r := hr.stops (endsValue_not (by decide))
      rw [exponentBytes, Exponent.bytes, List.cons_append, List.append_assoc, afterWhole,
        if_neg hpoint, if_pos e.isMark, exponent_append]
      exact afterSign_numeral neg v dropped e.sign.isMinus e.numeral hstops
    | none =>
      rw [exponentBytes, List.nil_append]
      cases r with
      | nil => exact plain_eq_ok_iff
      | cons b r =>
        have hpoint : (decide (b = point)) = false :=
          endsValue_not (p := fun b => decide (b = point)) (by decide) b (hr b rfl)
        have hmark := endsValue_not (p := isExponentMark) (by decide) b (hr b rfl)
        rw [afterWhole, if_neg (of_decide_eq_false hpoint), if_neg (Bool.not_eq_true _ ▸ hmark)]
        exact plain_eq_ok_iff

theorem fit_zero_cons {d : Byte} (ds : Bytes) :
    fit 0 (d :: ds) = ((fit (digitValue d) ds).1, (fit (digitValue d) ds).2 + 1) := by
  have hlt : 0 * 10 + digitValue d < significandLimit := by
    have hlt := d.toNat_lt
    unfold digitValue significandLimit
    omega
  rw [fit, if_pos hlt, Nat.zero_mul, Nat.zero_add]

theorem unsigned_numeral (neg : Bool) {n : Numeral}
    (hn : n.digits.head? = some 0x30 → n.digits = [0x30]) {s : Bytes} (hs : Stops isDigit s) :
    unsigned neg (n.digits ++ s) =
      afterWhole neg (fit 0 n.digits).1 (n.digits.length - (fit 0 n.digits).2) s := by
  obtain ⟨d, ds, hds, hd, hall⟩ := n.exists_cons
  rw [hds] at hn ⊢
  by_cases hzero : d = 0x30
  · subst hzero
    rw [hn rfl, List.singleton_append]
    cases s with
    | nil => rfl
    | cons b s =>
      simp only [unsigned, if_true, stops_cons.mp hs]
      rfl
  · simp only [List.cons_append, unsigned, if_neg hzero, if_pos hd, wholePart_append hall hs,
      fit_zero_cons, List.length_cons, Nat.add_sub_add_right]

theorem unsigned_sound {neg : Bool} {s r : Bytes} {x : Number}
    (h : unsigned neg s = .ok (x, r)) :
    ∃ l : Literal, l.negative = neg ∧ s = l.unsignedBytes ++ r ∧ l.value? = some x := by
  -- However the digits come about, they are the whole part of a literal.
  have hliteral : ∀ {n : Numeral} {t : Bytes}
      (hn : n.digits.head? = some 0x30 → n.digits = [0x30]), s = n.digits ++ t →
      Stops isDigit t →
      ∃ l : Literal, l.negative = neg ∧ s = l.unsignedBytes ++ r ∧ l.value? = some x := by
    intro n t hn hs ht
    rw [hs, unsigned_numeral neg hn ht] at h
    obtain ⟨f, e, rfl, hx⟩ := afterWhole_sound h
    refine ⟨⟨neg, n, f, e, hn⟩, rfl, ?_, hx⟩
    rw [hs, Literal.unsignedBytes, List.append_assoc, List.append_assoc]
  cases s with
  | nil => cases h
  | cons b s =>
    by_cases hdigit : isDigit b = true
    · by_cases hzero : b = 0x30
      · subst hzero
        refine hliteral (n := ⟨[0x30], List.cons_ne_nil _ _, ?_⟩) (t := s) (fun _ => rfl) rfl ?_
        · intro d hd
          rw [List.mem_singleton.mp hd]
          exact hdigit
        · intro d hd
          cases s with
          | nil => cases hd
          | cons c s =>
            cases hd
            cases hc : isDigit d with
            | false => rfl
            | true =>
              simp only [unsigned, if_true, hc] at h
              cases h
      · obtain ⟨n, t, hs, hn, -, ht⟩ := exists_numeral hdigit s
        refine hliteral (n := n) (fun hhead => ?_) hs ht
        rw [hn] at hhead
        exact absurd (Option.some.inj hhead) hzero
    · have hzero : b ≠ 0x30 := fun he => hdigit (he ▸ by decide)
      simp only [unsigned, if_neg hzero, if_neg hdigit] at h
      cases h

theorem Literal.stops_fraction (l : Literal) {r : Bytes} (hr : Ends r) :
    Stops isDigit (fractionBytes l.fraction ++ (exponentBytes l.exponent ++ r)) := by
  cases l.fraction with
  | none => exact stops_isDigit_exponent l.exponent hr
  | some f => exact stops_cons.mpr (by decide)

theorem Literal.unsigned_append (l : Literal) {r s : Bytes} {x : Number} (hr : Ends r) :
    unsigned l.negative (l.unsignedBytes ++ r) = .ok (x, s) ↔ l.value? = some x ∧ s = r := by
  rw [unsignedBytes, List.append_assoc, List.append_assoc,
    unsigned_numeral l.negative l.noLeadingZero (l.stops_fraction hr)]
  exact afterWhole_append l.fraction l.exponent hr

/-! ### Numbers -/

theorem Literal.exists_digit (l : Literal) :
    ∃ d ds, l.unsignedBytes = d :: ds ∧ isDigit d = true := by
  obtain ⟨d, ds, hds, hd, -⟩ := l.whole.exists_cons
  exact ⟨d, _, by rw [unsignedBytes, hds, List.cons_append], hd⟩

theorem number_sound {s r : Bytes} {x : Number} (h : number s = .ok (x, r)) :
    ∃ b, NumberText x b ∧ s = b ++ r := by
  cases s with
  | nil => cases h
  | cons b s =>
    rw [number] at h
    split at h
    · rename_i hb
      obtain ⟨l, hneg, rfl, hx⟩ := unsigned_sound h
      refine ⟨l.bytes, ⟨l, rfl, hx⟩, ?_⟩
      rw [Literal.bytes, if_pos hneg, hb]
      rfl
    · obtain ⟨l, hneg, hs, hx⟩ := unsigned_sound h
      refine ⟨l.bytes, ⟨l, rfl, hx⟩, ?_⟩
      rw [Literal.bytes, if_neg (by rw [hneg]; decide), hs]
      rfl

/-- A literal is read to its end, and as what it denotes. -/
theorem Literal.number_append (l : Literal) {r s : Bytes} {x : Number} (hr : Ends r) :
    number (l.bytes ++ r) = .ok (x, s) ↔ l.value? = some x ∧ s = r := by
  rw [← l.unsigned_append hr, Literal.bytes]
  cases l.negative with
  | true => exact Iff.rfl
  | false =>
    obtain ⟨d, ds, hds, hd⟩ := l.exists_digit
    have hminus : d ≠ minus := fun he => absurd (he ▸ hd) (by decide)
    rw [if_neg (by decide), List.nil_append, hds, List.cons_append, number, if_neg hminus]

theorem number_complete {b r : Bytes} {x : Number} (h : NumberText x b) (hr : Ends r) :
    number (b ++ r) = .ok (x, r) := by
  obtain ⟨l, rfl, hx⟩ := h
  exact (l.number_append hr).mpr ⟨hx, rfl⟩

theorem not_of_startsNumber {c : Byte} (h : startsNumber c = true) :
    isBlank c = false ∧ c ≠ closeList ∧ c ≠ 0x6E ∧ c ≠ 0x74 ∧ c ≠ 0x66 := by
  revert h
  exact Byte.forall_of_fin (P := fun c => startsNumber c = true →
    isBlank c = false ∧ c ≠ closeList ∧ c ≠ 0x6E ∧ c ≠ 0x74 ∧ c ≠ 0x66) (by decide +kernel) c

theorem Literal.exists_cons (l : Literal) : ∃ c s, l.bytes = c :: s ∧ startsNumber c = true := by
  obtain ⟨d, ds, hds, hd⟩ := l.exists_digit
  rw [Literal.bytes, hds]
  cases l.negative with
  | true => exact ⟨minus, d :: ds, rfl, by decide⟩
  | false => exact ⟨d, ds, rfl, by rw [startsNumber, hd, Bool.or_true]⟩

theorem NumberText.exists_cons {b : Bytes} {x : Number} (h : NumberText x b) :
    ∃ c s, b = c :: s ∧ startsNumber c = true := by
  obtain ⟨l, rfl, -⟩ := h
  exact l.exists_cons

end SealedToken.Json

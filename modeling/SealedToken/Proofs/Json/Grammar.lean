import SealedToken.Proofs.Json.Integer
import SealedToken.Proofs.Json.Record

/-! # Any JSON value

The grammar of JSON without what the readers of values add to it: numbers may
be of any size and brackets may be nested to any depth. The scanner passes over
all of it, and its fuel is enough for every value, since no step but the one
behind an entry goes without a byte of its own. -/

namespace SealedToken.Json

/-- A value as it is written. -/
inductive JsonText : Bytes → Prop
  | null : JsonText wordNull
  | yes : JsonText wordTrue
  | no : JsonText wordFalse
  | number (l : Literal) : JsonText l.bytes
  | text {t : String} {raw : Bytes} (h : StringText t raw) :
    JsonText (quoteMark :: (raw ++ [quoteMark]))
  | list {vs : List Bytes} {body : Bytes} (h : Entries Verbatim true vs body)
    (hvs : ∀ v ∈ vs, JsonText v) : JsonText (openList :: (body ++ [closeList]))
  | object {ms : List (String × Bytes)} {body : Bytes}
    (h : Entries (MemberText Verbatim) true ms body) (hms : ∀ m ∈ ms, JsonText m.2) :
    JsonText (openObject :: (body ++ [closeObject]))

theorem JsonText.starts {raw : Bytes} (h : JsonText raw) : StartsValue raw := by
  cases h with
  | null => exact ⟨_, _, rfl, by decide, by decide⟩
  | yes => exact ⟨_, _, rfl, by decide, by decide⟩
  | no => exact ⟨_, _, rfl, by decide, by decide⟩
  | number l =>
    obtain ⟨c, s, hcs, hc⟩ := l.exists_cons
    obtain ⟨hblank, hclose, -⟩ := not_of_startsNumber hc
    exact ⟨c, s, hcs, hblank, hclose⟩
  | text => exact ⟨_, _, rfl, by decide, by decide⟩
  | list => exact ⟨_, _, rfl, by decide, by decide⟩
  | object => exact ⟨_, _, rfl, by decide, by decide⟩

/-! ### Strings -/

theorem skipString_piece {a b : Bytes} (h : Piece a b) (s : Bytes) :
    skipString (a ++ s) = skipString s := by
  have hquote : backslash ≠ quoteMark := by decide
  cases h with
  | plain hquote hslash hcontrol =>
    rw [List.singleton_append, skipString.eq_def]
    simp only [if_neg hquote, if_neg hslash, if_neg hcontrol]
  | @escape e c he =>
    have hu : e ≠ letterU := by
      rintro rfl
      have hnone : escaped? letterU = none := by decide
      rw [hnone] at he
      cases he
    rw [List.cons_append, List.singleton_append, skipString.eq_def]
    simp only [if_neg hquote, if_true, if_neg hu, he]
  | code hn =>
    rw [skipString.eq_def]
    simp only [List.cons_append, List.nil_append, if_neg hquote, if_true, hn]
  | pair hn _ hm =>
    rw [skipString.eq_def]
    simp only [List.cons_append, List.nil_append, if_neg hquote, if_true, hn]
    rw [skipString.eq_def]
    simp only [if_neg hquote, if_true, hm]

theorem skipString_append {raw b : Bytes} (h : Pieces raw b) (s : Bytes) :
    skipString (raw ++ quoteMark :: s) = .ok s := by
  induction h with
  | nil => rw [List.nil_append, skipString.eq_def]; rfl
  | cons piece _ ih => rw [List.append_assoc, skipString_piece piece, ih]

/-! ### Numbers -/

section

variable {r : Bytes}

theorem skipExponent_append (sign : ExponentSign) (n : Numeral) (hr : Stops isDigit r) :
    skipExponent (sign.bytes ++ (n.digits ++ r)) = .ok r := by
  obtain ⟨d, ds, hn, hd, hds⟩ := n.exists_cons
  have hrest := dropWhile_append_stops hds hr
  have hsign : ¬(d = minus ∨ d = plus) := by
    rintro (rfl | rfl)
    · exact absurd hd (by decide)
    · exact absurd hd (by decide)
  rw [hn]
  cases sign with
  | absent => simp [skipExponent, ExponentSign.bytes, hsign, hd, hrest]
  | plus => simp [skipExponent, ExponentSign.bytes, hd, hrest]
  | minus => simp [skipExponent, ExponentSign.bytes, hd, hrest]

theorem skipMark_append (e : Option Exponent) (hr : Ends r) :
    skipMark (exponentBytes e ++ r) = .ok r := by
  cases e with
  | none =>
    cases r with
    | nil => rfl
    | cons b r =>
      have hmark := endsValue_not (p := isExponentMark) (by decide) b (hr b rfl)
      rw [exponentBytes, List.nil_append, skipMark, if_neg (Bool.not_eq_true _ ▸ hmark)]
  | some e =>
    rw [exponentBytes, Exponent.bytes, List.cons_append, skipMark, if_pos e.isMark,
      List.append_assoc]
    exact skipExponent_append e.sign e.numeral (hr.stops (endsValue_not (by decide)))

theorem skipFraction_append (n : Numeral) (e : Option Exponent) (hr : Ends r) :
    skipFraction (n.digits ++ (exponentBytes e ++ r)) = .ok r := by
  obtain ⟨d, ds, hn, hd, hds⟩ := n.exists_cons
  rw [hn, List.cons_append, skipFraction, if_pos hd,
    dropWhile_append_stops hds (stops_isDigit_exponent e hr)]
  exact skipMark_append e hr

theorem skipAfterWhole_append (f : Option Numeral) (e : Option Exponent) (hr : Ends r) :
    skipAfterWhole (fractionBytes f ++ (exponentBytes e ++ r)) = .ok r := by
  cases f with
  | some n =>
    rw [fractionBytes, List.cons_append, skipAfterWhole, if_pos rfl]
    exact skipFraction_append n e hr
  | none =>
    have hmark := skipMark_append e hr
    have hstops : Stops (fun b => decide (b = point)) (exponentBytes e ++ r) :=
      stops_exponent (by decide) (endsValue_not (by decide)) e hr
    rw [fractionBytes, List.nil_append]
    generalize exponentBytes e ++ r = s at hmark hstops
    cases s with
    | nil => exact hmark
    | cons b s =>
      rw [skipAfterWhole, if_neg (of_decide_eq_false (stops_cons.mp hstops)), hmark]

theorem Literal.skipUnsigned_append (l : Literal) (hr : Ends r) :
    skipUnsigned (l.unsignedBytes ++ r) = .ok r := by
  obtain ⟨d, ds, hn, hd, hds⟩ := l.whole.exists_cons
  have hrest := skipAfterWhole_append l.fraction l.exponent hr
  have hstops := l.stops_fraction hr
  rw [unsignedBytes, List.append_assoc, List.append_assoc, hn, List.cons_append]
  by_cases hzero : d = 0x30
  · have hnil : ds = [] := by
      have hdigits := l.noLeadingZero (by rw [hn, hzero]; rfl)
      rw [hn] at hdigits
      exact (List.cons.inj hdigits).2
    rw [hnil, List.nil_append]
    generalize fractionBytes l.fraction ++ (exponentBytes l.exponent ++ r) = s at hrest hstops
    cases s with
    | nil =>
      simp only [skipUnsigned, hzero, if_true]
      exact hrest
    | cons b s =>
      simp only [skipUnsigned, hzero, if_true, stops_cons.mp hstops, Bool.false_eq_true, if_false]
      exact hrest
  · simp only [skipUnsigned, if_neg hzero, if_pos hd, dropWhile_append_stops hds hstops]
    exact hrest

theorem Literal.skipNumber_append (l : Literal) (hr : Ends r) :
    skipNumber (l.bytes ++ r) = .ok r := by
  have hunsigned := l.skipUnsigned_append hr
  rw [Literal.bytes]
  cases l.negative with
  | true => exact hunsigned
  | false =>
    obtain ⟨d, ds, hds, hd⟩ := l.exists_digit
    have hminus : d ≠ minus := fun he => absurd (he ▸ hd) (by decide)
    rw [if_neg (by decide), List.nil_append]
    rw [hds, List.cons_append] at hunsigned ⊢
    rw [skipNumber, if_neg hminus, hunsigned]

end

/-! ### Scalars -/

/-- Passes over a value without brackets, by its first byte. -/
def skipScalar (b : Byte) (s : Bytes) : Except Fault Bytes :=
  if b = 0x6E then word wordNull (b :: s)
  else if b = 0x74 then word wordTrue (b :: s)
  else if b = 0x66 then word wordFalse (b :: s)
  else if startsNumber b then skipNumber (b :: s)
  else if b = quoteMark then skipString s
  else .error (.at .noValue (b :: s))

theorem skip_scalar {b : Byte} {s r ws : Bytes} (hlist : b ≠ openList) (hobject : b ≠ openObject)
    (h : skipScalar b s = .ok r) (hws : Blanks ws) (hb : isBlank b = false) (fuel : Nat)
    (stack : List Bracket) :
    skip (fuel + 1) .value stack (ws ++ b :: s) = skip fuel .comma stack r := by
  rw [skip]
  simp only [skipBlanks_append_cons hws hb, if_neg hlist, if_neg hobject]
  unfold skipScalar at h
  split at h
  · rename_i hnull
    rw [if_pos hnull, h]
    rfl
  rename_i hnull
  rw [if_neg hnull]
  split at h
  · rename_i hyes
    rw [if_pos hyes, h]
    rfl
  rename_i hyes
  rw [if_neg hyes]
  split at h
  · rename_i hno
    rw [if_pos hno, h]
    rfl
  rename_i hno
  rw [if_neg hno]
  split at h
  · rename_i hnumber
    rw [if_pos hnumber, h]
    rfl
  rename_i hnumber
  rw [if_neg hnumber]
  split at h
  · rename_i hquote
    rw [if_pos hquote, h]
    rfl
  · cases h

/-! ### Brackets -/

/-- The scanner passes over the value in `n` steps. -/
def SkipsIn (n : Nat) (raw : Bytes) : Prop :=
  ∀ {fuel : Nat} {stack : List Bracket} {ws r : Bytes}, Blanks ws → Ends r →
    skip (fuel + n) .value stack (ws ++ (raw ++ r)) = skip fuel .comma stack r

/-- An entry of a bracket: the scanner passes over its key, and over its value in
`n` steps. -/
structure Bracket.SkipsIn (bracket : Bracket) (n : Nat) (entry : Bytes) : Prop where
  starts : ∃ b s, entry = b :: s ∧ isBlank b = false ∧ b ≠ bracket.closing
  skips : ∀ {ws r : Bytes}, Blanks ws → Ends r → ∃ t, bracket.skipKey (ws ++ (entry ++ r)) = .ok t ∧
    ∀ fuel stack, skip (fuel + n) .value stack t = skip fuel .comma stack r

theorem Bracket.endsValue_closing (bracket : Bracket) : endsValue bracket.closing = true := by
  cases bracket <;> decide

theorem Bracket.isBlank_closing (bracket : Bracket) : isBlank bracket.closing = false := by
  cases bracket <;> decide

theorem Bracket.comma_ne_closing (bracket : Bracket) : comma ≠ bracket.closing := by
  cases bracket <;> decide

theorem Bracket.skipsIn_list {n : Nat} {raw : Bytes} (hraw : StartsValue raw)
    (h : Json.SkipsIn n raw) : list.SkipsIn n raw :=
  ⟨hraw, fun hws hr => ⟨_, rfl, fun _ _ => h hws hr⟩⟩

theorem Bracket.skipsIn_object {n : Nat} {m : String × Bytes} {b : Bytes}
    (hm : MemberText Verbatim m b) (h : Json.SkipsIn n m.2) : object.SkipsIn n b := by
  obtain ⟨raw, ws₁, ws₂, v, hkey, hws₁, hws₂, hv, rfl⟩ := hm
  have hv : v = m.2 := hv
  subst hv
  refine ⟨⟨_, _, rfl, by decide, by decide⟩, fun {ws r} hws hr => ⟨ws₂ ++ (m.2 ++ r), ?_, ?_⟩⟩
  · have hstring := skipString_append hkey (ws₁ ++ colon :: (ws₂ ++ (m.2 ++ r)))
    have hcolon : afterKey (ws₁ ++ colon :: (ws₂ ++ (m.2 ++ r))) = .ok (ws₂ ++ (m.2 ++ r)) :=
      afterKey_eq_ok_iff.mpr ⟨ws₁, hws₁, rfl⟩
    simp only [List.cons_append, List.append_assoc, skipKey,
      skipBlanks_append_cons hws (b := quoteMark) (by decide), if_true, hstring]
    exact hcolon
  · intro fuel stack
    exact h hws₂ hr

/-- What is due in front of the first entry, and in front of any other one. -/
def dueEntry (first : Bool) : Due := if first then .entry else .comma

theorem skip_closing (bracket : Bracket) (first : Bool) {ws : Bytes} (hws : Blanks ws) (fuel : Nat)
    (stack : List Bracket) (r : Bytes) :
    skip (fuel + 1) (dueEntry first) (bracket :: stack) (ws ++ bracket.closing :: r) =
      skip fuel .comma stack r := by
  have hskip := skipBlanks_append_cons hws bracket.isBlank_closing r
  cases first with
  | true =>
    show skip (fuel + 1) .entry _ _ = _
    rw [skip]
    simp only [hskip, if_true]
  | false =>
    show skip (fuel + 1) .comma _ _ = _
    rw [skip]
    simp only [hskip, if_true]

theorem skip_entry {bracket : Bracket} {n : Nat} {entry : Bytes} (h : bracket.SkipsIn n entry)
    {first : Bool} {lead r : Bytes} (hlead : Lead first lead) (hr : Ends r) (fuel : Nat)
    (stack : List Bracket) :
    skip (fuel + n + 1) (dueEntry first) (bracket :: stack) (lead ++ (entry ++ r)) =
      skip fuel .comma (bracket :: stack) r := by
  cases first with
  | true =>
    obtain ⟨b, s, hentry, hb, hclosing⟩ := h.starts
    obtain ⟨t, hkey, hvalue⟩ := h.skips blanks_nil hr
    rw [hentry, List.nil_append, List.cons_append] at hkey
    show skip (fuel + n + 1) .entry _ _ = _
    rw [skip, hentry, List.cons_append]
    simp only [skipBlanks_append_cons hlead hb, if_neg hclosing, hkey]
    exact hvalue fuel (bracket :: stack)
  | false =>
    obtain ⟨ws, ws', hws, hws', rfl⟩ := hlead
    obtain ⟨t, hkey, hvalue⟩ := h.skips hws' hr
    show skip (fuel + n + 1) .comma _ _ = _
    rw [skip, List.append_assoc, List.cons_append]
    simp only [skipBlanks_append_cons hws (b := comma) (by decide), if_neg bracket.comma_ne_closing,
      if_true, hkey]
    exact hvalue fuel (bracket :: stack)

/-- The entries of a bracket and its end are passed over in two steps for each
byte, and one. -/
theorem skip_entries {α : Type} {P : α → Bytes → Prop} {bracket : Bracket} {first : Bool}
    {as : List α} {body : Bytes} (h : Entries P first as body)
    (hentry : ∀ a ∈ as, ∀ b, P a b → ∃ n, n + 1 ≤ 2 * b.length ∧ bracket.SkipsIn n b) :
    ∃ n, n ≤ 2 * body.length + 1 ∧ ∀ fuel stack r,
      skip (fuel + n) (dueEntry first) (bracket :: stack) (body ++ bracket.closing :: r) =
        skip fuel .comma stack r := by
  -- An entry takes a step for its punctuation and fewer than two for each of its bytes.
  induction h with
  | @nil first ws hws =>
    exact ⟨1, Nat.le_add_left _ _, fun fuel stack r => skip_closing bracket first hws fuel stack r⟩
  | @cons first a as lead b body hlead hb hbody ih =>
    obtain ⟨ha, has⟩ := List.forall_mem_cons.mp hentry
    obtain ⟨n, hn, hskips⟩ := ha b hb
    obtain ⟨m, hm, hrest⟩ := ih has
    refine ⟨m + n + 1, ?_, fun fuel stack r => ?_⟩
    · simp only [List.length_append]
      omega
    · have hends := hbody.ends bracket.endsValue_closing r
      rw [List.append_assoc, List.append_assoc, ← Nat.add_assoc, ← Nat.add_assoc,
        skip_entry hskips hlead hends]
      exact hrest fuel stack r

/-! ### Values -/

theorem exists_skipsIn_of_scalar {raw : Bytes} (h : ∀ {r}, Ends r → ∃ b s, raw ++ r = b :: s ∧
    skipScalar b s = .ok r ∧ isBlank b = false ∧ b ≠ openList ∧ b ≠ openObject) :
    ∃ n, n + 1 ≤ 2 * raw.length ∧ SkipsIn n raw := by
  refine ⟨1, ?_, ?_⟩
  · obtain ⟨b, s, hbs, -⟩ := h ends_nil
    rw [List.append_nil] at hbs
    rw [hbs, List.length_cons]
    omega
  · intro fuel stack ws r hws hr
    obtain ⟨b, s, hbs, hskip, hb, hlist, hobject⟩ := h hr
    rw [hbs]
    exact skip_scalar hlist hobject hskip hws hb fuel stack

def Bracket.opening : Bracket → Byte
  | list => openList
  | object => openObject

theorem skip_opening (bracket : Bracket) {ws : Bytes} (hws : Blanks ws) (fuel : Nat)
    (stack : List Bracket) (s : Bytes) :
    skip (fuel + 1) .value stack (ws ++ bracket.opening :: s) =
      skip fuel .entry (bracket :: stack) s := by
  have hblank : isBlank bracket.opening = false := by
    cases bracket <;> decide
  rw [skip]
  simp only [skipBlanks_append_cons hws hblank]
  cases bracket with
  | list => rfl
  | object => rfl

/-- Entries in brackets are passed over. -/
theorem exists_skipsIn_of_entries {α : Type} {P : α → Bytes → Prop} (bracket : Bracket)
    {as : List α} {body : Bytes} (h : Entries P true as body)
    (hentry : ∀ a ∈ as, ∀ b, P a b → ∃ n, n + 1 ≤ 2 * b.length ∧ bracket.SkipsIn n b) :
    ∃ n, n + 1 ≤ 2 * (bracket.opening :: (body ++ [bracket.closing])).length ∧
      SkipsIn n (bracket.opening :: (body ++ [bracket.closing])) := by
  obtain ⟨n, hn, hskip⟩ := skip_entries h hentry
  refine ⟨n + 1, ?_, ?_⟩
  · simp only [List.length_cons, List.length_append, List.length_nil]
    omega
  · intro fuel stack ws r hws _
    rw [List.cons_append, List.append_assoc, List.singleton_append, ← Nat.add_assoc,
      skip_opening bracket hws]
    exact hskip fuel stack r

/-- Every value is passed over in fewer than two steps for each byte. -/
theorem JsonText.exists_skipsIn {raw : Bytes} (h : JsonText raw) :
    ∃ n, n + 1 ≤ 2 * raw.length ∧ SkipsIn n raw := by
  induction h with
  | null => exact exists_skipsIn_of_scalar fun _ => ⟨_, _, rfl, rfl, by decide, by decide, by decide⟩
  | yes => exact exists_skipsIn_of_scalar fun _ => ⟨_, _, rfl, rfl, by decide, by decide, by decide⟩
  | no => exact exists_skipsIn_of_scalar fun _ => ⟨_, _, rfl, rfl, by decide, by decide, by decide⟩
  | number l =>
    obtain ⟨c, s, hcs, hc⟩ := l.exists_cons
    obtain ⟨hblank, -, hnull, hyes, hno⟩ := not_of_startsNumber hc
    refine exists_skipsIn_of_scalar fun {r} hr => ⟨c, s ++ r, by rw [hcs]; rfl, ?_, hblank, ?_, ?_⟩
    · have hskip := l.skipNumber_append hr
      rw [hcs, List.cons_append] at hskip
      rw [skipScalar, if_neg hnull, if_neg hyes, if_neg hno, if_pos hc, hskip]
    · rintro rfl
      exact absurd hc (by decide)
    · rintro rfl
      exact absurd hc (by decide)
  | @text t raw hraw =>
    refine exists_skipsIn_of_scalar fun {r} _ => ?_
    refine ⟨quoteMark, raw ++ quoteMark :: r, by simp, ?_, by decide, by decide, by decide⟩
    exact skipString_append hraw r
  | list hbody hvs ih =>
    refine exists_skipsIn_of_entries .list hbody ?_
    rintro v hv b rfl
    obtain ⟨n, hn, hskips⟩ := ih b hv
    exact ⟨n, hn, Bracket.skipsIn_list (hvs b hv).starts hskips⟩
  | object hbody hms ih =>
    refine exists_skipsIn_of_entries .object hbody ?_
    intro m hm b hb
    obtain ⟨n, hn, hskips⟩ := ih m hm
    obtain ⟨raw, ws, ws', v, -, -, -, hv, hlength⟩ := id hb
    refine ⟨n, ?_, Bracket.skipsIn_object hb hskips⟩
    have hv : v = m.2 := hv
    rw [hlength, hv]
    simp only [List.length_cons, List.length_append]
    omega

/-- The scanner finds what is behind a value. -/
theorem JsonText.skipValue_append {raw ws r : Bytes} (h : JsonText raw) (hws : Blanks ws)
    (hr : Ends r) : skipValue (ws ++ (raw ++ r)) = .ok r := by
  obtain ⟨n, hn, hskips⟩ := h.exists_skipsIn
  obtain ⟨k, hk⟩ : ∃ k, 2 * (ws ++ (raw ++ r)).length + 2 = k + 1 + n := by
    refine ⟨2 * (ws ++ (raw ++ r)).length + 1 - n, ?_⟩
    simp only [List.length_append]
    omega
  rw [skipValue, hk, hskips hws hr, skip]

/-! ### Objects -/

/-- A whole text that is an object, with values of any kind. -/
structure ObjectOf (ms : List (String × Bytes)) (text : Bytes) : Prop where
  verbatim : VerbatimText ms text
  values : ∀ m ∈ ms, JsonText m.2

mutual

/-- What is written is a value. -/
theorem jsonText_leaf : (v : Leaf) → JsonText v.bytes
  | .text s => by
    rw [Leaf.bytes_text]
    exact .text (stringText_escapedBytes s)
  | .integer n => by
    rw [bytes_integer]
    exact .number _
  | .flag true => .yes
  | .flag false => .no
  | .object ms => by
    rw [Leaf.bytes_object]
    exact .object (entries_leaves ms) (jsonText_leaves ms)

theorem jsonText_leaves : (ms : List (String × Leaf)) → ∀ m ∈ leafMembers ms, JsonText m.2
  | [] => List.forall_mem_nil _
  | (_, v) :: ms => List.forall_mem_cons.mpr ⟨jsonText_leaf v, jsonText_leaves ms⟩

end

theorem objectOf_leaves (ms : List (String × Leaf)) :
    ObjectOf (leafMembers ms) (Utf8.encode (written ms)) :=
  ⟨verbatimText_leaves ms, jsonText_leaves ms⟩

end SealedToken.Json

import SealedToken.Proofs.Json.Entries
import SealedToken.Proofs.Json.Number

/-! # Values as they are written

The grammar of JSON texts, by the depth to which lists and objects are nested.
The reader of values takes exactly the texts of the grammar up to its depth,
and gives the value that the grammar gives. -/

namespace SealedToken.Json

/-! ### The grammar -/

/-- Values without brackets. -/
inductive Scalar : Value → Bytes → Prop
  | null : Scalar .null wordNull
  | yes : Scalar (.flag true) wordTrue
  | no : Scalar (.flag false) wordFalse
  | number {n : Number} {b : Bytes} (h : NumberText n b) : Scalar (.number n) b
  | text {t : String} {raw : Bytes} (h : StringText t raw) :
    Scalar (.text t) (quoteMark :: (raw ++ [quoteMark]))

/-- Values without brackets, and brackets around values that are written as `P` says. -/
inductive Bracketed (P : Value → Bytes → Prop) : Value → Bytes → Prop
  | scalar {v : Value} {b : Bytes} (h : Scalar v b) : Bracketed P v b
  | list {vs : List Value} {body : Bytes} (h : Entries P true vs body) :
    Bracketed P (.list vs) (openList :: (body ++ [closeList]))
  | object {ms : Members} {body : Bytes} (h : Entries (MemberText P) true ms body) :
    Bracketed P (.object ms) (openObject :: (body ++ [closeObject]))

/-- Values with at most `depth` brackets around each other. -/
def ValueText : Nat → Value → Bytes → Prop
  | 0 => Scalar
  | depth + 1 => Bracketed (ValueText depth)

/-- What `P` says, with blanks before and behind. -/
def Padded {α : Type} (P : α → Bytes → Prop) (a : α) (text : Bytes) : Prop :=
  ∃ ws b ws', Blanks ws ∧ P a b ∧ Blanks ws' ∧ text = ws ++ (b ++ ws')

/-- A whole text that is an object. -/
def ObjectText (depth : Nat) (ms : Members) (text : Bytes) : Prop :=
  Padded (fun ms => ValueText depth (.object ms)) ms text

/-! ### First bytes -/

theorem Scalar.starts {v : Value} {b : Bytes} (h : Scalar v b) : StartsValue b := by
  cases h with
  | null => exact ⟨_, _, rfl, by decide, by decide⟩
  | yes => exact ⟨_, _, rfl, by decide, by decide⟩
  | no => exact ⟨_, _, rfl, by decide, by decide⟩
  | number h =>
    obtain ⟨c, s, rfl, hc⟩ := h.exists_cons
    obtain ⟨hblank, hclose, -⟩ := not_of_startsNumber hc
    exact ⟨c, s, rfl, hblank, hclose⟩
  | text => exact ⟨_, _, rfl, by decide, by decide⟩

theorem Bracketed.starts {P : Value → Bytes → Prop} {v : Value} {b : Bytes}
    (h : Bracketed P v b) : StartsValue b := by
  cases h with
  | scalar h => exact h.starts
  | list => exact ⟨_, _, rfl, by decide, by decide⟩
  | object => exact ⟨_, _, rfl, by decide, by decide⟩

theorem ValueText.starts {depth : Nat} {v : Value} {b : Bytes} (h : ValueText depth v b) :
    StartsValue b := by
  cases depth with
  | zero => exact Scalar.starts h
  | succ depth => exact Bracketed.starts h

/-! ### Reading lists and objects -/

theorem map_eq_ok_iff {ε α β : Type} {x : Except ε α} {f : α → β} {b : β} :
    x.map f = .ok b ↔ ∃ a, x = .ok a ∧ f a = b := by
  cases x with
  | error e => simp [Except.map]
  | ok a => simp [Except.map]

section

variable {α : Type} {read : Bytes → Reading α} {P : α → Bytes → Prop}

theorem elements_sound (h : Reads read P) {fuel : Nat} {s r : Bytes} {vs : List α}
    (hread : elements read fuel true s = .ok (vs, r)) :
    ∃ body, Entries P true vs body ∧ s = body ++ closeList :: r := by
  rw [elements_eq_entries] at hread
  exact entries_sound (enters_list h) hread

theorem elements_complete (h : Reads read P) {vs : List α} {body : Bytes}
    (hbody : Entries P true vs body) (r : Bytes) :
    elements read ((body ++ closeList :: r).length + 1) true (body ++ closeList :: r) =
      .ok (vs, r) := by
  have hlength := hbody.length_le (enters_list h).ne_nil
  rw [elements_eq_entries]
  refine entries_complete (enters_list h) hbody ?_ r
  rw [List.length_append]
  omega

theorem members_sound (h : Reads read P) {fuel : Nat} {s r : Bytes} {ms : List (String × α)}
    (hread : members read fuel true s = .ok (ms, r)) :
    ∃ body, Entries (MemberText P) true ms body ∧ s = body ++ closeObject :: r := by
  rw [members_eq_entries] at hread
  exact entries_sound (enters_object h) hread

theorem members_complete (h : Reads read P) {ms : List (String × α)} {body : Bytes}
    (hbody : Entries (MemberText P) true ms body) (r : Bytes) :
    members read ((body ++ closeObject :: r).length + 1) true (body ++ closeObject :: r) =
      .ok (ms, r) := by
  have hlength := hbody.length_le (enters_object h).ne_nil
  rw [members_eq_entries]
  refine entries_complete (enters_object h) hbody ?_ r
  rw [List.length_append]
  omega

end

/-! ### Reading values -/

/-- Values by their first byte, the brackets left out. -/
def scalar (b : Byte) (s : Bytes) : Reading Value :=
  if b = 0x6E then (word wordNull (b :: s)).map fun s => (.null, s)
  else if b = 0x74 then (word wordTrue (b :: s)).map fun s => (.flag true, s)
  else if b = 0x66 then (word wordFalse (b :: s)).map fun s => (.flag false, s)
  else if startsNumber b then (number (b :: s)).map fun (n, s) => (.number n, s)
  else if b = quoteMark then (string s).map fun (t, s) => (.text t, s)
  else .error (.at .noValue (b :: s))

/-- What makes a row of bytes a value of each kind, when `r` is left of it. -/
def ReadAs (b : Byte) (s r : Bytes) : Value → Prop
  | .null => b :: s = wordNull ++ r
  | .flag true => b :: s = wordTrue ++ r
  | .flag false => b :: s = wordFalse ++ r
  | .number n => startsNumber b = true ∧ number (b :: s) = .ok (n, r)
  | .text t => b = quoteMark ∧ string s = .ok (t, r)
  | .list _ => False
  | .object _ => False

theorem scalar_of_readAs {b : Byte} {s r : Bytes} {v : Value} (h : ReadAs b s r v) :
    scalar b s = .ok (v, r) := by
  cases v with
  | null =>
    have hb : b = 0x6E := (List.cons.inj h).1
    rw [scalar, if_pos hb, word_eq_ok_iff.mpr h]
    rfl
  | flag v =>
    cases v with
    | true =>
      have hb : b = 0x74 := (List.cons.inj h).1
      rw [scalar, if_neg (hb ▸ by decide), if_pos hb, word_eq_ok_iff.mpr h]
      rfl
    | false =>
      have hb : b = 0x66 := (List.cons.inj h).1
      rw [scalar, if_neg (hb ▸ by decide), if_neg (hb ▸ by decide), if_pos hb,
        word_eq_ok_iff.mpr h]
      rfl
  | number n =>
    obtain ⟨hb, hn⟩ := h
    obtain ⟨-, -, hnull, hyes, hno⟩ := not_of_startsNumber hb
    rw [scalar, if_neg hnull, if_neg hyes, if_neg hno, if_pos hb, hn]
    rfl
  | text t =>
    obtain ⟨rfl, ht⟩ := h
    show (string s).map _ = _
    rw [ht]
    rfl
  | list => exact h.elim
  | object => exact h.elim

theorem scalar_eq_ok_iff {b : Byte} {s r : Bytes} {v : Value} :
    scalar b s = .ok (v, r) ↔ ReadAs b s r v := by
  refine ⟨fun h => ?_, scalar_of_readAs⟩
  unfold scalar at h
  split at h
  · obtain ⟨t, ht, h⟩ := map_eq_ok_iff.mp h
    cases h
    exact word_eq_ok_iff.mp ht
  split at h
  · obtain ⟨t, ht, h⟩ := map_eq_ok_iff.mp h
    cases h
    exact word_eq_ok_iff.mp ht
  split at h
  · obtain ⟨t, ht, h⟩ := map_eq_ok_iff.mp h
    cases h
    exact word_eq_ok_iff.mp ht
  split at h
  · rename_i hb
    obtain ⟨⟨n, t⟩, hn, h⟩ := map_eq_ok_iff.mp h
    cases h
    exact ⟨hb, hn⟩
  split at h
  · rename_i hquote
    obtain ⟨⟨t, t'⟩, ht, h⟩ := map_eq_ok_iff.mp h
    cases h
    exact ⟨hquote, ht⟩
  · cases h

theorem scalar_sound {b : Byte} {s r : Bytes} {v : Value} (h : scalar b s = .ok (v, r)) :
    ∃ t, Scalar v t ∧ b :: s = t ++ r := by
  have hread := scalar_eq_ok_iff.mp h
  cases v with
  | null => exact ⟨_, .null, hread⟩
  | flag v =>
    cases v with
    | true => exact ⟨_, .yes, hread⟩
    | false => exact ⟨_, .no, hread⟩
  | number n =>
    obtain ⟨t, ht, hs⟩ := number_sound hread.2
    exact ⟨t, .number ht, hs⟩
  | text t =>
    obtain ⟨rfl, ht⟩ := hread
    obtain ⟨raw, hraw, rfl⟩ := string_eq_ok_iff.mp ht
    exact ⟨_, .text hraw, by simp⟩
  | list => exact hread.elim
  | object => exact hread.elim

theorem scalar_complete {v : Value} {b : Bytes} (h : Scalar v b) {r : Bytes} (hr : Ends r) :
    ∃ c s, b ++ r = c :: s ∧ scalar c s = .ok (v, r) ∧ c ≠ openList ∧ c ≠ openObject := by
  cases h with
  | null => exact ⟨_, _, rfl, rfl, by decide, by decide⟩
  | yes => exact ⟨_, _, rfl, rfl, by decide, by decide⟩
  | no => exact ⟨_, _, rfl, rfl, by decide, by decide⟩
  | number h =>
    have hread := number_complete h hr
    obtain ⟨c, s, rfl, hc⟩ := h.exists_cons
    refine ⟨c, s ++ r, rfl, scalar_of_readAs ⟨hc, hread⟩, ?_, ?_⟩
    · intro he
      exact absurd (he ▸ hc) (by decide)
    · intro he
      exact absurd (he ▸ hc) (by decide)
  | @text t raw h =>
    have hread : string (raw ++ quoteMark :: r) = .ok (t, r) := string_eq_ok_iff.mpr ⟨raw, h, rfl⟩
    refine ⟨quoteMark, raw ++ quoteMark :: r, ?_, scalar_of_readAs ⟨rfl, hread⟩, by decide, by decide⟩
    rw [List.cons_append, List.append_assoc, List.singleton_append]

section

variable {s t : Bytes}

theorem value_list (depth : Nat) (h : skipBlanks s = openList :: t) :
    value (depth + 1) s =
      (elements (value depth) (t.length + 1) true t).map fun (vs, s) => (.list vs, s) := by
  simp only [value, h]
  rfl

theorem value_object (depth : Nat) (h : skipBlanks s = openObject :: t) :
    value (depth + 1) s =
      (members (value depth) (t.length + 1) true t).map fun (ms, s) => (.object ms, s) := by
  simp only [value, h]
  rfl

theorem value_zero {b : Byte} (hb : b = openList ∨ b = openObject) (h : skipBlanks s = b :: t) :
    value 0 s = .error (.at .nestedTooDeep (b :: t)) := by
  simp only [value, h]
  rcases hb with rfl | rfl
  · rfl
  · rfl

theorem value_scalar (depth : Nat) {b : Byte} (hlist : b ≠ openList) (hobject : b ≠ openObject)
    (h : skipBlanks s = b :: t) : value depth s = scalar b t := by
  simp only [value, h, if_neg hlist, if_neg hobject, scalar]

/-- Where no bracket may be opened, there is a scalar or nothing. -/
theorem value_zero_eq_ok_iff {b : Byte} (h : skipBlanks s = b :: t) {v : Value} {r : Bytes} :
    value 0 s = .ok (v, r) ↔ ReadAs b t r v := by
  by_cases hb : b = openList ∨ b = openObject
  · have hscalar : scalar b t = .error (.at .noValue (b :: t)) := by
      rcases hb with rfl | rfl
      · rfl
      · rfl
    rw [value_zero hb h, ← scalar_eq_ok_iff, hscalar]
    simp only [reduceCtorEq]
  · rw [value_scalar 0 (fun h => hb (.inl h)) (fun h => hb (.inr h)) h, scalar_eq_ok_iff]

end

theorem value_sound_of_scalar {depth : Nat} {s r : Bytes} {v : Value} {P : Value → Bytes → Prop}
    (hP : ∀ {v b}, Scalar v b → P v b)
    (hlist : ∀ {t}, skipBlanks s = openList :: t → ∃ b, P v b ∧ openList :: t = b ++ r)
    (hobject : ∀ {t}, skipBlanks s = openObject :: t → ∃ b, P v b ∧ openObject :: t = b ++ r)
    (h : value depth s = .ok (v, r)) : ∃ ws b, Blanks ws ∧ P v b ∧ s = ws ++ (b ++ r) := by
  obtain ⟨ws, hws, hs⟩ := exists_blanks s
  cases hskip : skipBlanks s with
  | nil => simp only [value, hskip] at h; cases h
  | cons c t =>
    have hb : ∃ b, P v b ∧ c :: t = b ++ r := by
      by_cases hc : c = openList
      · subst hc
        exact hlist hskip
      by_cases hc' : c = openObject
      · subst hc'
        exact hobject hskip
      rw [value_scalar depth hc hc' hskip] at h
      obtain ⟨b, hb, ht⟩ := scalar_sound h
      exact ⟨b, hP hb, ht⟩
    obtain ⟨b, hb, ht⟩ := hb
    rw [hskip, ht] at hs
    exact ⟨ws, b, hws, hb, hs⟩

theorem value_complete_of_scalar (depth : Nat) {ws b r : Bytes} {v : Value} (hws : Blanks ws)
    (h : Scalar v b) (hr : Ends r) : value depth (ws ++ (b ++ r)) = .ok (v, r) := by
  obtain ⟨c, t, hct, hread, hlist, hobject⟩ := scalar_complete h hr
  obtain ⟨d, u, hdu, hblank, -⟩ := h.starts
  have hcd : c = d := by
    rw [hdu, List.cons_append, List.cons.injEq] at hct
    exact hct.1.symm
  have hskip : skipBlanks (ws ++ (b ++ r)) = c :: t := by
    rw [hct]
    exact skipBlanks_append_cons hws (hcd ▸ hblank) t
  rw [value_scalar depth hlist hobject hskip, hread]

/-- The reader of values takes exactly the values of the grammar. -/
theorem value_reads (depth : Nat) : Reads (value depth) (ValueText depth) := by
  induction depth with
  | zero =>
    refine ⟨fun h => ?_, fun hws hb hr => value_complete_of_scalar 0 hws hb hr, Scalar.starts⟩
    refine value_sound_of_scalar id (fun hs => ?_) (fun hs => ?_) h
    · rw [value_zero (.inl rfl) hs] at h
      cases h
    · rw [value_zero (.inr rfl) hs] at h
      cases h
  | succ depth ih =>
    -- Inside one more bracket the values are those of the induction hypothesis.
    refine ⟨fun h => ?_, fun hws hb hr => ?_, Bracketed.starts⟩
    · refine value_sound_of_scalar .scalar (fun hs => ?_) (fun hs => ?_) h
      · rw [value_list depth hs] at h
        obtain ⟨⟨vs, t'⟩, hread, h⟩ := map_eq_ok_iff.mp h
        cases h
        obtain ⟨body, hbody, rfl⟩ := elements_sound ih hread
        refine ⟨_, .list hbody, ?_⟩
        rw [List.cons_append, List.append_assoc, List.singleton_append]
      · rw [value_object depth hs] at h
        obtain ⟨⟨ms, t'⟩, hread, h⟩ := map_eq_ok_iff.mp h
        cases h
        obtain ⟨body, hbody, rfl⟩ := members_sound ih hread
        refine ⟨_, .object hbody, ?_⟩
        rw [List.cons_append, List.append_assoc, List.singleton_append]
    · cases hb with
      | scalar hb => exact value_complete_of_scalar (depth + 1) hws hb hr
      | list hbody =>
        rw [List.cons_append, List.append_assoc, List.singleton_append,
          value_list depth (skipBlanks_append_cons hws (by decide) _),
          elements_complete ih hbody]
        rfl
      | object hbody =>
        rw [List.cons_append, List.append_assoc, List.singleton_append,
          value_object depth (skipBlanks_append_cons hws (by decide) _),
          members_complete ih hbody]
        rfl

/-! ### Whole texts -/

theorem finish_eq_ok_iff {α : Type} {r : α × Bytes} {a : α} :
    finish r = .ok a ↔ r.1 = a ∧ Blanks r.2 := by
  unfold finish
  cases hs : skipBlanks r.2 with
  | nil =>
    have hblanks := skipBlanks_eq_nil_iff.mp hs
    simp [hblanks]
  | cons b s =>
    have hblanks : ¬Blanks r.2 := by
      intro h
      rw [skipBlanks_eq_nil_iff.mpr h] at hs
      cases hs
    simp [hblanks]

theorem whole_eq_ok_iff {α : Type} {read : Bytes → Except Fault (α × Bytes)} {text : Bytes}
    {a : α} : whole read text = .ok a ↔ ∃ r, read text = .ok (a, r) ∧ Blanks r := by
  unfold whole
  cases read text with
  | error f => simp
  | ok p =>
    obtain ⟨b, r⟩ := p
    simp only [mapError_eq_ok_iff, finish_eq_ok_iff, Except.ok.injEq, Prod.mk.injEq]
    constructor
    · rintro ⟨rfl, hr⟩
      exact ⟨r, ⟨rfl, rfl⟩, hr⟩
    · rintro ⟨r, ⟨rfl, rfl⟩, hr⟩
      exact ⟨rfl, hr⟩

theorem Reads.whole_eq_ok_iff {α : Type} {read : Bytes → Reading α} {P : α → Bytes → Prop}
    (h : Reads read P) {text : Bytes} {a : α} :
    whole read text = .ok a ↔ Padded P a text := by
  rw [Json.whole_eq_ok_iff]
  constructor
  · rintro ⟨r, hread, hr⟩
    obtain ⟨ws, b, hws, hb, hs⟩ := h.sound hread
    exact ⟨ws, b, r, hws, hb, hr, hs⟩
  · rintro ⟨ws, b, r, hws, hb, hr, rfl⟩
    have hends : Ends r := List.append_nil r ▸ ends_nil.blanks_append hr
    exact ⟨r, h.complete hws hb hends, hr⟩

/-! ### Objects -/

theorem bind_error_ne_ok {ε α β : Type} (x : Except ε α) (f : α → ε) (r : β) :
    (x >>= fun a => Except.error (f a)) ≠ .ok r := by
  intro h
  obtain ⟨a, -, h⟩ := bind_eq_ok_iff.mp h
  cases h

theorem wrongKind_ne_ok {α : Type} (wanted : String) (s : Bytes) (r : α × Bytes) :
    wrongKind wanted s ≠ .ok r := by
  intro h
  cases s with
  | nil => cases h
  | cons b s =>
    simp only [wrongKind] at h
    split at h
    · exact bind_error_ne_ok _ _ _ h
    split at h
    · exact bind_error_ne_ok _ _ _ h
    split at h
    · exact bind_error_ne_ok _ _ _ h
    split at h
    · exact bind_error_ne_ok _ _ _ h
    split at h
    · exact bind_error_ne_ok _ _ _ h
    split at h
    · cases h
    split at h
    · cases h
    · cases h

theorem objectMembers_reads :
    Reads objectMembers fun ms => ValueText depthLimit (.object ms) where
  sound := by
    intro s ms r h
    unfold objectMembers at h
    split at h
    · cases h
    rename_i b t hs
    split at h
    · rename_i hb
      subst hb
      obtain ⟨-, ws, hws, rfl⟩ := skipBlanks_eq_cons_iff.mp hs
      obtain ⟨body, hbody, rfl⟩ := members_sound (value_reads (depthLimit - 1)) h
      refine ⟨ws, _, hws, Bracketed.object hbody, ?_⟩
      rw [List.cons_append, List.append_assoc, List.singleton_append]
    · exact absurd h (wrongKind_ne_ok _ _ _)
  complete := by
    intro ws ms b r hws hb hr
    cases hb with
    | scalar hb => cases hb
    | object hbody =>
      rw [List.cons_append, List.append_assoc, List.singleton_append, objectMembers,
        skipBlanks_append_cons hws (by decide)]
      exact members_complete (value_reads (depthLimit - 1)) hbody r
  starts := ValueText.starts

/-- The texts that are read as objects are the objects of the grammar, up to
the depth that is read. -/
theorem Members.parse_eq_ok_iff {text : Bytes} {ms : Members} :
    Members.parse text = .ok ms ↔ ObjectText depthLimit ms text :=
  objectMembers_reads.whole_eq_ok_iff

/-! ### Members of a name -/

namespace Members

/-- The last member of the name has the value. -/
def Holds (ms : Members) (name : String) (v : Value) : Prop :=
  ∃ before after, ms = before ++ (name, v) :: after ∧ ∀ m ∈ after, m.1 ≠ name

theorem get?_eq_none_iff {ms : Members} {name : String} :
    get? ms name = none ↔ ∀ m ∈ ms, m.1 ≠ name := by
  induction ms with
  | nil => simp [get?]
  | cons m ms ih =>
    obtain ⟨k, w⟩ := m
    rw [List.forall_mem_cons, ← ih, get?]
    cases get? ms name with
    | some u => simp
    | none => simp

theorem get?_eq_some_iff {ms : Members} {name : String} {v : Value} :
    get? ms name = some v ↔ ms.Holds name v := by
  induction ms with
  | nil => simp [get?, Holds]
  | cons m ms ih =>
    obtain ⟨k, w⟩ := m
    have hcons : Holds ((k, w) :: ms) name v ↔
        Holds ms name v ∨ (k = name ∧ w = v ∧ ∀ m ∈ ms, m.1 ≠ name) := by
      constructor
      · rintro ⟨before, after, heq, hafter⟩
        cases before with
        | nil =>
          cases heq
          exact .inr ⟨rfl, rfl, hafter⟩
        | cons m before =>
          cases heq
          exact .inl ⟨before, after, rfl, hafter⟩
      · rintro (⟨before, after, rfl, hafter⟩ | ⟨rfl, rfl, hms⟩)
        · exact ⟨(k, w) :: before, after, rfl, hafter⟩
        · exact ⟨[], ms, rfl, hms⟩
    rw [hcons, ← ih, ← get?_eq_none_iff, get?]
    cases get? ms name with
    | some u => simp
    | none => simp

theorem Holds.unique {ms : Members} {name : String} {v w : Value} (hv : ms.Holds name v)
    (hw : ms.Holds name w) : v = w := by
  rw [← get?_eq_some_iff] at hv hw
  rw [hv] at hw
  exact Option.some.inj hw

/-- Members that are left out by their names change no member that is kept. -/
theorem get?_filter {ms : Members} {p : String → Bool} {name : String} (h : p name = true) :
    get? (ms.filter fun m => p m.1) name = ms.get? name := by
  induction ms with
  | nil => rfl
  | cons m ms ih =>
    obtain ⟨k, v⟩ := m
    rw [List.filter_cons]
    split
    · rw [get?, get?, ih]
    · rename_i hk
      have hne : k ≠ name := by
        rintro rfl
        exact hk h
      rw [ih, get?, if_neg hne]
      cases get? ms name <;> rfl

end Members

end SealedToken.Json

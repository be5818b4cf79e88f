import Mathlib.Data.List.Nodup
import SealedToken.Proofs.Json.Grammar

/-! # Columns of a record

A record reads an object into slots, whatever order its members come in. Seen
from one slot the other members have no part in this: all that counts are the
values that stand under the slot's own name. -/

namespace SealedToken.Json

/-! ### Values of one kind -/

/-- A string between its quote marks. -/
def TextForm (t : String) (raw : Bytes) : Prop :=
  ∃ body, StringText t body ∧ raw = quoteMark :: (body ++ [quoteMark])

/-- A string, or `null` for none. -/
inductive OptionalTextForm : Option String → Bytes → Prop
  | null : OptionalTextForm none wordNull
  | text {t : String} {raw : Bytes} (h : TextForm t raw) : OptionalTextForm (some t) raw

inductive FlagForm : Bool → Bytes → Prop
  | yes : FlagForm true wordTrue
  | no : FlagForm false wordFalse

/-- Digits of a number of 32 bits, without sign, fraction or exponent. -/
def WordForm (w : UInt32) (raw : Bytes) : Prop :=
  ∃ l : Literal, raw = l.bytes ∧ l.negative = false ∧ l.IsInteger ∧ l.whole.value = w.toNat

theorem scalar_text_iff {t : String} {raw : Bytes} : Scalar (.text t) raw ↔ TextForm t raw := by
  constructor
  · intro h
    cases h with
    | text hbody => exact ⟨_, hbody, rfl⟩
  · rintro ⟨body, hbody, rfl⟩
    exact .text hbody

theorem scalar_optionalText_iff {o : Option String} {raw : Bytes} :
    Scalar (o.elim .null .text) raw ↔ OptionalTextForm o raw := by
  cases o with
  | none =>
    constructor
    · intro h
      cases h
      exact .null
    · intro h
      cases h
      exact .null
  | some t =>
    constructor
    · intro h
      exact .text (scalar_text_iff.mp h)
    · intro h
      cases h with
      | text h => exact scalar_text_iff.mpr h

theorem scalar_flag_iff {b : Bool} {raw : Bytes} : Scalar (.flag b) raw ↔ FlagForm b raw := by
  constructor
  · intro h
    cases h with
    | yes => exact .yes
    | no => exact .no
  · intro h
    cases h with
    | yes => exact .yes
    | no => exact .no

theorem scalar_word_iff {w : UInt32} {raw : Bytes} :
    Scalar (.number (.natural w.toNat)) raw ↔ WordForm w raw := by
  have hfits : w.toNat < significandLimit := w.toNat_lt.trans (by decide)
  constructor
  · intro h
    cases h with
    | number h =>
      obtain ⟨l, rfl, hl⟩ := h
      obtain ⟨hinteger, hsign, hvalue, -⟩ := Literal.value?_eq_natural_iff.mp hl
      exact ⟨l, rfl, hsign, hinteger, hvalue⟩
  · rintro ⟨l, rfl, hsign, hinteger, hvalue⟩
    exact .number ⟨l, rfl, Literal.value?_eq_natural_iff.mpr ⟨hinteger, hsign, hvalue, hfits⟩⟩

/-! ### Readers in front of any value -/

theorem value_append_of_scalar {v w : Value} {raw ws r s : Bytes} (hw : Scalar w raw)
    (hws : Blanks ws) (hr : Ends r) (h : value 0 (ws ++ (raw ++ r)) = .ok (v, s)) :
    Scalar v raw ∧ s = r := by
  rw [value_complete_of_scalar 0 hws hw hr] at h
  cases h
  exact ⟨hw, rfl⟩

theorem value_append_of_bracket {v : Value} {b : Byte} {ws t s : Bytes}
    (hb : b = openList ∨ b = openObject) (hws : Blanks ws) :
    value 0 (ws ++ b :: t) ≠ .ok (v, s) := by
  have hblank : isBlank b = false := by
    rcases hb with rfl | rfl
    · decide
    · decide
  rw [value_zero hb (skipBlanks_append_cons hws hblank t)]
  exact nofun

/-- In front of a value, the reader of scalars takes all of it or fails. -/
theorem JsonText.value_append {raw ws r s : Bytes} {v : Value} (h : JsonText raw)
    (hws : Blanks ws) (hr : Ends r) :
    value 0 (ws ++ (raw ++ r)) = .ok (v, s) ↔ Scalar v raw ∧ s = r := by
  constructor
  · intro hread
    cases h with
    | null => exact value_append_of_scalar .null hws hr hread
    | yes => exact value_append_of_scalar .yes hws hr hread
    | no => exact value_append_of_scalar .no hws hr hread
    | text hbody => exact value_append_of_scalar (.text hbody) hws hr hread
    | list => exact absurd hread (value_append_of_bracket (.inl rfl) hws)
    | object => exact absurd hread (value_append_of_bracket (.inr rfl) hws)
    | number l =>
      -- A number may be too large to be read, so it need not be a scalar.
      obtain ⟨c, u, hcu, hc⟩ := l.exists_cons
      obtain ⟨hblank, -, hnull, hyes, hno⟩ := not_of_startsNumber hc
      have hskip : skipBlanks (ws ++ (l.bytes ++ r)) = c :: (u ++ r) := by
        rw [hcu, List.cons_append, skipBlanks_append_cons hws hblank]
      have hlist : c ≠ openList := by
        rintro rfl
        exact absurd hc (by decide)
      have hobject : c ≠ openObject := by
        rintro rfl
        exact absurd hc (by decide)
      rw [value_scalar 0 hlist hobject hskip, scalar, if_neg hnull, if_neg hyes, if_neg hno,
        if_pos hc, ← List.cons_append, ← hcu] at hread
      obtain ⟨⟨n, t⟩, hn, hread⟩ := map_eq_ok_iff.mp hread
      cases hread
      obtain ⟨hl, hs⟩ := (l.number_append hr).mp hn
      exact ⟨.number ⟨l, rfl, hl⟩, hs⟩
  · rintro ⟨hv, rfl⟩
    exact value_complete_of_scalar 0 hws hv hr

/-- In front of a value, the reader takes all of it if it is written as `form`
says, and fails otherwise. -/
def Settles {β : Type} (read : Bytes → Reading β) (form : β → Bytes → Prop) : Prop :=
  ∀ {raw ws r s a}, JsonText raw → Blanks ws → Ends r →
    (read (ws ++ (raw ++ r)) = .ok (a, s) ↔ form a raw ∧ s = r)

theorem Chooses.settles {β : Type} {read : Bytes → Reading β} {take : Value → Option β}
    {form : β → Bytes → Prop} (h : Chooses read take)
    (hform : ∀ {a raw}, Typed take a raw ↔ form a raw) : Settles read form := by
  intro raw ws r s a hraw hws hr
  rw [h, ← hform]
  simp only [hraw.value_append hws hr, Typed]
  constructor
  · rintro ⟨v, ⟨hv, hs⟩, htake⟩
    exact ⟨⟨v, hv, htake⟩, hs⟩
  · rintro ⟨⟨v, hv, htake⟩, hs⟩
    exact ⟨v, ⟨hv, hs⟩, htake⟩

theorem fieldText_settles : Settles fieldText TextForm :=
  fieldText_chooses.settles <| by simp [Typed, Value.text?_eq_some_iff, scalar_text_iff]

theorem fieldOptionalText_settles : Settles fieldOptionalText OptionalTextForm :=
  fieldOptionalText_chooses.settles <| by
    simp [Typed, Value.optionalText?_eq_some_iff, scalar_optionalText_iff]

theorem fieldFlag_settles : Settles fieldFlag FlagForm :=
  fieldFlag_chooses.settles <| by simp [Typed, Value.flag?_eq_some_iff, scalar_flag_iff]

theorem fieldWord_settles : Settles fieldWord WordForm :=
  fieldWord_chooses.settles <| by simp [Typed, Value.word?_eq_some_iff, scalar_word_iff]

/-! ### The values under a name -/

/-- The values under a name, in order. -/
def values (ms : List (String × Bytes)) (name : String) : List Bytes :=
  (ms.filter (·.1 = name)).map Prod.snd

theorem values_cons_self (k : String) (raw : Bytes) (ms : List (String × Bytes)) :
    values ((k, raw) :: ms) k = raw :: values ms k := by
  simp [values]

theorem values_cons_of_ne {k name : String} (h : k ≠ name) (raw : Bytes)
    (ms : List (String × Bytes)) : values ((k, raw) :: ms) name = values ms name := by
  simp [values, h]

/-- What values make of a slot: none leave it as it is, and one fills it if it
is free. -/
inductive Fills {β : Type} (form : β → Bytes → Prop) : Option β → List Bytes → Option β → Prop
  | left {slot : Option β} : Fills form slot [] slot
  | filled {a : β} {raw : Bytes} (h : form a raw) : Fills form none [raw] (some a)

theorem fills_nil_iff {β : Type} {form : β → Bytes → Prop} {slot slot' : Option β} :
    Fills form slot [] slot' ↔ slot = slot' := by
  constructor
  · intro h
    cases h
    rfl
  · rintro rfl
    exact .left

/-- A value fills the slot at once, and no other one may follow. -/
theorem fills_cons_iff {β : Type} {form : β → Bytes → Prop} {slot slot' : Option β}
    {raw : Bytes} {raws : List Bytes} :
    Fills form slot (raw :: raws) slot' ↔
      slot = none ∧ ∃ a, form a raw ∧ Fills form (some a) raws slot' := by
  constructor
  · intro h
    cases h with
    | filled h => exact ⟨rfl, _, h, .left⟩
  · rintro ⟨rfl, a, ha, hrest⟩
    cases hrest with
    | left => exact .filled ha

/-! ### Columns -/

/-- A member of a record: its slot, its reader, and how its values are written. -/
structure Column (σ : Type) where
  name : String
  required : Bool
  content : Type
  get : σ → Option content
  set : σ → content → σ
  item : Bytes → Reading content
  form : content → Bytes → Prop

section

variable {σ : Type}

def Column.field (c : Column σ) : Field σ := .of c.name c.required c.get c.set c.item

/-- The record is read column by column: the slots are all there is, each is set
on its own, and no two have one name. -/
structure LaidOut (r : Record σ) (columns : List (Column σ)) : Prop where
  fields : r.fields = columns.map Column.field
  settles : ∀ c ∈ columns, Settles c.item c.form
  names : (columns.map Column.name).Nodup
  get_set : ∀ c ∈ columns, ∀ slots a, c.get (c.set slots a) = some a
  get_set_other : ∀ c ∈ columns, ∀ d ∈ columns, d.name ≠ c.name →
    ∀ slots a, d.get (c.set slots a) = d.get slots
  ext : ∀ slots slots', (∀ c ∈ columns, c.get slots = c.get slots') → slots = slots'

/-- Every slot is filled from the values under its name. -/
def AllFill (columns : List (Column σ)) (slots : σ) (ms : List (String × Bytes)) (slots' : σ) :
    Prop :=
  ∀ c ∈ columns, Fills c.form (c.get slots) (values ms c.name) (c.get slots')

variable {r : Record σ} {columns : List (Column σ)} {slots slots' : σ} {k : String} {raw : Bytes}
  {ms : List (String × Bytes)}

theorem LaidOut.eq_of_name (h : LaidOut r columns) {c d : Column σ} (hc : c ∈ columns)
    (hd : d ∈ columns) (hname : d.name = c.name) : d = c :=
  List.inj_on_of_nodup_map h.names hd hc hname

theorem LaidOut.find?_eq_none_iff (h : LaidOut r columns) :
    r.fields.find? (·.name = k) = none ↔ ∀ c ∈ columns, c.name ≠ k := by
  simp [h.fields, Column.field, Field.of]

theorem LaidOut.exists_of_find? (h : LaidOut r columns) {f : Field σ}
    (hk : r.fields.find? (·.name = k) = some f) : ∃ c ∈ columns, c.name = k ∧ c.field = f := by
  rw [h.fields, List.find?_map, Option.map_eq_some_iff] at hk
  obtain ⟨c, hc, hf⟩ := hk
  have hname := List.find?_some hc
  exact ⟨c, List.mem_of_find?_eq_some hc, by simpa [Column.field, Field.of] using hname, hf⟩

theorem LaidOut.allFill_nil_iff (h : LaidOut r columns) :
    AllFill columns slots [] slots' ↔ slots = slots' := by
  constructor
  · intro hfill
    exact h.ext _ _ fun c hc => fills_nil_iff.mp (hfill c hc)
  · rintro rfl c -
    exact .left

theorem allFill_cons_of_ne (hk : ∀ c ∈ columns, c.name ≠ k) :
    AllFill columns slots ((k, raw) :: ms) slots' ↔ AllFill columns slots ms slots' := by
  refine forall₂_congr fun c hc => ?_
  rw [values_cons_of_ne (hk c hc).symm]

/-- A member of a column fills its slot, which must be free. -/
theorem LaidOut.allFill_cons_iff (h : LaidOut r columns) {c : Column σ} (hc : c ∈ columns) :
    AllFill columns slots ((c.name, raw) :: ms) slots' ↔
      c.get slots = none ∧ ∃ a, c.form a raw ∧ AllFill columns (c.set slots a) ms slots' := by
  -- The other columns see neither the value nor what is written into the slot.
  have hother : ∀ d ∈ columns, d.name ≠ c.name → ∀ a,
      (Fills d.form (d.get slots) (values ((c.name, raw) :: ms) d.name) (d.get slots') ↔
        Fills d.form (d.get (c.set slots a)) (values ms d.name) (d.get slots')) := by
    intro d hd hname a
    rw [values_cons_of_ne hname.symm, h.get_set_other c hc d hd hname]
  constructor
  · intro hfill
    have hown := hfill c hc
    rw [values_cons_self] at hown
    obtain ⟨hfree, a, ha, hrest⟩ := fills_cons_iff.mp hown
    refine ⟨hfree, a, ha, fun d hd => ?_⟩
    by_cases hname : d.name = c.name
    · rw [h.eq_of_name hc hd hname, h.get_set c hc]
      exact hrest
    · exact (hother d hd hname a).mp (hfill d hd)
  · rintro ⟨hfree, a, ha, hrest⟩ d hd
    by_cases hname : d.name = c.name
    · have hown := hrest c hc
      rw [h.get_set c hc] at hown
      rw [h.eq_of_name hc hd hname, values_cons_self]
      exact fills_cons_iff.mpr ⟨hfree, a, ha, hown⟩
    · exact (hother d hd hname a).mpr (hrest d hd)

/-! ### Reading members -/

variable {first : Bool} {lead b rest : Bytes} {fuel : Nat}

theorem readMembers_passed (hk : r.fields.find? (·.name = k) = none) (hraw : JsonText raw)
    (hlead : Lead first lead) (hb : MemberText Verbatim (k, raw) b) (hrest : Ends rest) :
    r.readMembers (fuel + 1) first slots (lead ++ (b ++ rest)) =
      r.readMembers fuel false slots rest := by
  obtain ⟨t, u, ws, v, ht, hkey, hcolon, hws, rfl⟩ := hb.steps rest
  have hstep := objectStep_append hlead ht
  rw [Record.readMembers]
  simp only [hstep, hkey, hk, hcolon, hraw.skipValue_append hws hrest, bind, Except.bind]

theorem Column.taken_field (c : Column σ) : c.field.taken slots = (c.get slots).isSome := rfl

theorem Column.read_field_eq_ok_iff (c : Column σ) {s t : Bytes} :
    c.field.read slots s = .ok (slots', t) ↔ ∃ a, c.item s = .ok (a, t) ∧ c.set slots a = slots' := by
  constructor
  · intro h
    obtain ⟨⟨a, t'⟩, ha, h⟩ := bind_eq_ok_iff.mp h
    cases h
    exact ⟨a, ha, rfl⟩
  · rintro ⟨a, ha, rfl⟩
    exact bind_eq_ok_iff.mpr ⟨(a, t), ha, rfl⟩

theorem readMembers_stored {c : Column σ} (hc : Settles c.item c.form)
    (hk : r.fields.find? (·.name = k) = some c.field) (hraw : JsonText raw)
    (hlead : Lead first lead) (hb : MemberText Verbatim (k, raw) b) (hrest : Ends rest)
    {p : σ × Bytes} :
    r.readMembers (fuel + 1) first slots (lead ++ (b ++ rest)) = .ok p ↔
      c.get slots = none ∧ ∃ a, c.form a raw ∧
        r.readMembers fuel false (c.set slots a) rest = .ok p := by
  obtain ⟨t, u, ws, v, ht, hkey, hcolon, hws, rfl⟩ := hb.steps rest
  have hstep := objectStep_append hlead ht
  rw [Record.readMembers]
  simp only [hstep, hkey, hk, c.taken_field, bind_eq_ok_iff, Except.ok.injEq, exists_eq_left']
  -- The slot is looked at before the value is read.
  cases hfree : c.get slots with
  | some a => simp [throw, throwThe, MonadExceptOf.throw]
  | none =>
    simp only [Option.isSome_none, Bool.false_eq_true, if_false, true_and, bind_eq_ok_iff, hcolon,
      Except.ok.injEq, exists_eq_left', Prod.exists, c.read_field_eq_ok_iff, hc hraw hws hrest]
    constructor
    · rintro ⟨_, _, ⟨a, ⟨ha, rfl⟩, rfl⟩, hread⟩
      exact ⟨a, ha, hread⟩
    · rintro ⟨a, ha, hread⟩
      exact ⟨_, _, ⟨a, ⟨ha, rfl⟩, rfl⟩, hread⟩

/-- A record reads the members of an object into its columns. -/
theorem LaidOut.readMembers_iff (h : LaidOut r columns) {body : Bytes}
    (hbody : Entries (MemberText Verbatim) first ms body) (hms : ∀ m ∈ ms, JsonText m.2)
    (hfuel : ms.length < fuel) (rest : Bytes) {rest' : Bytes} :
    r.readMembers fuel first slots (body ++ closeObject :: rest) = .ok (slots', rest') ↔
      AllFill columns slots ms slots' ∧ rest' = rest := by
  -- By induction on the members: each costs one unit of fuel, and what it does to the
  -- slots is what it does to the values under its name.
  induction hbody generalizing fuel slots with
  | @nil first ws hws =>
    obtain ⟨fuel, rfl⟩ := Nat.exists_eq_add_one_of_ne_zero (Nat.ne_zero_of_lt hfuel)
    have hdone : objectStep first (ws ++ closeObject :: rest) = .ok (.done rest) :=
      objectStep_done_iff.mpr ⟨ws, hws, rfl⟩
    rw [Record.readMembers, h.allFill_nil_iff, bind_eq_ok_iff]
    simp only [hdone, Except.ok.injEq, exists_eq_left', pure, Except.pure, Prod.mk.injEq]
    exact and_congr_right fun _ => eq_comm
  | @cons first m ms lead b body hlead hb hbody ih =>
    obtain ⟨fuel, rfl⟩ := Nat.exists_eq_add_one_of_ne_zero (Nat.ne_zero_of_lt hfuel)
    obtain ⟨k, raw⟩ := m
    obtain ⟨hraw, hms⟩ := List.forall_mem_cons.mp hms
    have hends : Ends (body ++ closeObject :: rest) := hbody.ends (by decide) rest
    have ih : ∀ slots, r.readMembers fuel false slots (body ++ closeObject :: rest) =
        .ok (slots', rest') ↔ AllFill columns slots ms slots' ∧ rest' = rest := fun _ =>
      ih hms (Nat.lt_of_succ_lt_succ hfuel)
    rw [List.append_assoc, List.append_assoc]
    cases hk : r.fields.find? (·.name = k) with
    | none =>
      rw [readMembers_passed hk hraw hlead hb hends, ih,
        allFill_cons_of_ne (h.find?_eq_none_iff.mp hk)]
    | some f =>
      obtain ⟨c, hc, rfl, rfl⟩ := h.exists_of_find? hk
      rw [readMembers_stored (h.settles c hc) hk hraw hlead hb hends, h.allFill_cons_iff hc]
      simp only [ih, ← and_assoc, exists_and_right]

/-! ### Whole objects -/

/-- A record reads an object into its columns, if no required one is left. -/
theorem LaidOut.parse_iff (h : LaidOut r columns) {text : Bytes} (htext : ObjectOf ms text) :
    r.parse text = .ok slots ↔ AllFill columns r.start ms slots ∧ r.missing? slots = none := by
  obtain ⟨⟨ws, body, ws', hws, hbody, hws', rfl⟩, hms⟩ := htext
  have hfuel := hbody.length_lt_fuel (closeObject :: ws')
  rw [Record.parse_braced_iff hws]
  simp only [h.readMembers_iff hbody hms hfuel]
  constructor
  · rintro ⟨⟨_, ⟨hfill, -⟩, -⟩, hmissing⟩
    exact ⟨hfill, hmissing⟩
  · rintro ⟨hfill, hmissing⟩
    exact ⟨⟨ws', ⟨hfill, rfl⟩, hws'⟩, hmissing⟩

end

end SealedToken.Json

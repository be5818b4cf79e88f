import Mathlib.Data.List.Forall2
import SealedToken.Json.Record
import SealedToken.Proofs.Json.Skip
import SealedToken.Proofs.Json.Value

/-! # Records as they are written

The readers of single members take scalars of one kind, and a list of scalars
goes to the members of a record in order. It may stop where only members with
a default are left, and it may not go on behind the last member. An object
fills every slot at most once, in any order, and its other members are passed
over. -/

namespace SealedToken.Json

/-! ### Typed values -/

namespace Value

def text? : Value → Option String
  | text s => some s
  | _ => none

def optionalText? : Value → Option (Option String)
  | null => some none
  | text s => some (some s)
  | _ => none

def flag? : Value → Option Bool
  | flag b => some b
  | _ => none

def word? : Value → Option UInt32
  | number (.natural n) => if n < 0x100000000 then some (UInt32.ofNat n) else none
  | _ => none

theorem text?_eq_some_iff {v : Value} {s : String} : v.text? = some s ↔ v = .text s := by
  cases v <;> simp [text?]

theorem optionalText?_eq_some_iff {v : Value} {o : Option String} :
    v.optionalText? = some o ↔ v = o.elim .null .text := by
  cases v <;> cases o <;> simp [optionalText?]

theorem flag?_eq_some_iff {v : Value} {b : Bool} : v.flag? = some b ↔ v = .flag b := by
  cases v <;> simp [flag?]

theorem word?_eq_some_iff {v : Value} {w : UInt32} :
    v.word? = some w ↔ v = .number (.natural w.toNat) := by
  constructor
  · intro h
    unfold word? at h
    split at h
    · rename_i n
      rw [Option.ite_none_right_eq_some, Option.some.injEq] at h
      obtain ⟨hn, rfl⟩ := h
      rw [UInt32.toNat_ofNat_of_lt' hn]
    · cases h
  · rintro rfl
    rw [word?, if_pos w.toNat_lt, UInt32.ofNat_toNat]

end Value

/-- A scalar that `take` takes as `a`. -/
def Typed {β : Type} (take : Value → Option β) (a : β) (b : Bytes) : Prop :=
  ∃ v, Scalar v b ∧ take v = some a

theorem Typed.starts {β : Type} {take : Value → Option β} {a : β} {b : Bytes}
    (h : Typed take a b) : StartsValue b := by
  obtain ⟨v, hv, -⟩ := h
  exact hv.starts

/-- The reader reads a scalar and takes it by `take`. -/
def Chooses {β : Type} (read : Bytes → Reading β) (take : Value → Option β) : Prop :=
  ∀ s a r, read s = .ok (a, r) ↔ ∃ v, value 0 s = .ok (v, r) ∧ take v = some a

theorem Chooses.reads {β : Type} {read : Bytes → Reading β} {take : Value → Option β}
    (h : Chooses read take) : Reads read (Typed take) where
  sound := by
    intro s a r hread
    obtain ⟨v, hv, htake⟩ := (h s a r).mp hread
    obtain ⟨ws, b, hws, hb, hs⟩ := (value_reads 0).sound hv
    exact ⟨ws, b, hws, ⟨v, hb, htake⟩, hs⟩
  complete := by
    intro ws a b r hws hb hr
    obtain ⟨v, hv, htake⟩ := hb
    exact (h _ a r).mpr ⟨v, (value_reads 0).complete hws hv hr, htake⟩
  starts := Typed.starts

theorem chooses_of_first {β : Type} {first : Byte → Bytes → Reading β} {take : Value → Option β}
    (h : ∀ {b s a r}, isBlank b = false →
      (first b s = .ok (a, r) ↔ ∃ v, ReadAs b s r v ∧ take v = some a)) :
    Chooses (fun s => match skipBlanks s with
      | [] => .error (.before .endOfValue [])
      | b :: s => first b s) take := by
  intro s a r
  cases hs : skipBlanks s with
  | nil => simp [value, hs]
  | cons b t => simp only [hs, h (isBlank_of_skipBlanks hs), value_zero_eq_ok_iff hs]

theorem ite_wrongKind_eq_ok_iff {α : Type} {p : Prop} [Decidable p] {x : Reading α}
    {wanted : String} {s : Bytes} {a : α × Bytes} :
    (if p then x else wrongKind wanted s) = .ok a ↔ p ∧ x = .ok a := by
  by_cases hp : p
  · simp [hp]
  · simp [hp, wrongKind_ne_ok]

theorem fieldText_of_not_blank {b : Byte} (hb : isBlank b = false) {s r : Bytes} {t : String} :
    fieldText (b :: s) = .ok (t, r) ↔ ReadAs b s r (.text t) := by
  simp only [fieldText, skipBlanks_cons hb]
  exact ite_wrongKind_eq_ok_iff

theorem fieldText_chooses : Chooses fieldText Value.text? := by
  refine chooses_of_first fun {b s t r} _ => ?_
  simp only [ite_wrongKind_eq_ok_iff, Value.text?_eq_some_iff, exists_eq_right]
  rfl

theorem fieldOptionalText_chooses : Chooses fieldOptionalText Value.optionalText? := by
  refine chooses_of_first fun {b s o r} hb => ?_
  simp only [Value.optionalText?_eq_some_iff, exists_eq_right]
  by_cases hnull : b = 0x6E
  · have htext : b ≠ quoteMark := by
      rw [hnull]
      decide
    rw [if_pos hnull, map_eq_ok_iff]
    simp only [word_eq_ok_iff, Prod.mk.injEq]
    cases o with
    | none => simp [ReadAs]
    | some t => simp [ReadAs, htext]
  · rw [if_neg hnull, map_eq_ok_iff]
    simp only [Prod.exists, fieldText_of_not_blank hb, Prod.mk.injEq]
    cases o with
    | none =>
      have hword : b :: s ≠ wordNull ++ r := fun h => hnull (List.cons.inj h).1
      simp [ReadAs, hword]
    | some t => simp

theorem fieldFlag_chooses : Chooses fieldFlag Value.flag? := by
  refine chooses_of_first fun {b s a r} _ => ?_
  simp only [Value.flag?_eq_some_iff, exists_eq_right]
  by_cases hyes : b = 0x74
  · rw [if_pos hyes, map_eq_ok_iff]
    simp only [word_eq_ok_iff, Prod.mk.injEq]
    cases a with
    | true => simp [ReadAs]
    | false => simp [ReadAs, wordFalse, hyes]
  · rw [if_neg hyes, ite_wrongKind_eq_ok_iff, map_eq_ok_iff]
    simp only [word_eq_ok_iff, Prod.mk.injEq]
    cases a with
    | true => simp [ReadAs, wordTrue, hyes]
    | false => simp [ReadAs, wordFalse]

theorem fieldWord_chooses : Chooses fieldWord Value.word? := by
  refine chooses_of_first fun {b s w r} _ => ?_
  simp only [Value.word?_eq_some_iff, exists_eq_right, ite_wrongKind_eq_ok_iff, bind_eq_ok_iff]
  refine and_congr_right fun _ => ?_
  constructor
  · rintro ⟨⟨n, t⟩, hn, h⟩
    cases n with
    | natural m =>
      dsimp only at h
      split at h
      · rename_i hm
        cases h
        rw [UInt32.toNat_ofNat_of_lt' hm]
        exact hn
      · cases h
    | negative => cases h
    | binary => cases h
  · intro h
    refine ⟨_, h, (if_pos w.toNat_lt).trans ?_⟩
    rw [UInt32.ofNat_toNat]
    rfl

/-! ### Lists of a record's members -/

section

variable {σ : Type}

/-- The member is read from the scalars that `take` takes. -/
def Field.Takes (f : Field σ) (take : σ → Value → Option σ) : Prop :=
  ∀ slots, Reads (f.read slots) (Typed (take slots))

theorem Field.of_takes {β : Type} {item : Bytes → Reading β} {take : Value → Option β}
    (h : Chooses item take) (name : String) (required : Bool) (get : σ → Option β)
    (set : σ → β → σ) :
    (Field.of name required get set item).Takes fun slots v => (take v).map (set slots) := by
  intro slots
  refine ⟨fun {s slots' r} hread => ?_, fun {ws slots' b r} hws hb hr => ?_, Typed.starts⟩
  · obtain ⟨⟨a, t⟩, hitem, h'⟩ := bind_eq_ok_iff.mp hread
    cases h'
    obtain ⟨ws, b, hws, ⟨v, hv, htake⟩, hs⟩ := h.reads.sound hitem
    exact ⟨ws, b, hws, ⟨v, hv, by simp [htake]⟩, hs⟩
  · obtain ⟨v, hv, htake⟩ := hb
    obtain ⟨a, ha, rfl⟩ := Option.map_eq_some_iff.mp htake
    have hitem := h.reads.complete hws ⟨v, hv, ha⟩ hr
    exact bind_eq_ok_iff.mpr ⟨_, hitem, rfl⟩

/-- The slots that the elements of a list fill, in order. -/
def fill : List (σ → Value → Option σ) → σ → List Value → Option σ
  | _, slots, [] => some slots
  | [], _, _ :: _ => none
  | take :: takes, slots, v :: vs => (take slots v).bind fun slots => fill takes slots vs

theorem listEnd_eq_ok_iff {s r : Bytes} :
    listEnd s = .ok r ↔ ∃ ws, Blanks ws ∧ s = ws ++ closeList :: r := by
  constructor
  · intro h
    cases hs : skipBlanks s with
    | nil => simp [listEnd, hs] at h
    | cons c t =>
      obtain ⟨-, ws, hws, rfl⟩ := skipBlanks_eq_cons_iff.mp hs
      simp only [listEnd, hs] at h
      split at h
      · rename_i hclose
        cases h
        exact ⟨ws, hws, by rw [hclose]⟩
      split at h
      · split at h
        · cases h
        · split at h
          · cases h
          · cases h
      · cases h
  · intro h
    obtain ⟨ws, hws, rfl⟩ := h
    simp only [listEnd, skipBlanks_append_cons hws (b := closeList) (by decide), if_true]

variable {r : Record σ} {fields : List (Field σ)} {takes : List (σ → Value → Option σ)}

/-- Where the list ends, no member is read, and no required one may be left. -/
theorem readElements_done {n : Nat} {s rest : Bytes} (slots : σ)
    (hdone : listStep (n = 0) s = .ok (.done rest)) {p : σ × Bytes} :
    r.readElements n fields slots s = .ok p ↔
      p = (slots, s) ∧ ∀ f ∈ fields, f.required = false := by
  induction fields with
  | nil =>
    rw [Record.readElements, Except.ok.injEq]
    exact ⟨fun h => ⟨h.symm, by simp⟩, fun h => h.1.symm⟩
  | cons f fields ih =>
    rw [Record.readElements, hdone, List.forall_mem_cons]
    cases hf : f.required with
    | true => simp [bind, Except.bind, throw, throwThe, MonadExceptOf.throw]
    | false => simpa [bind, Except.bind] using ih

theorem readElements_sound (htakes : List.Forall₂ Field.Takes fields takes) {n : Nat}
    {slots slots' : σ} {s t rest : Bytes} (h : r.readElements n fields slots s = .ok (slots', t))
    (hend : listEnd t = .ok rest) :
    ∃ vs body, Entries Scalar (n = 0) vs body ∧ s = body ++ closeList :: rest ∧
      fill takes slots vs = some slots' ∧ ∀ f ∈ fields.drop vs.length, f.required = false := by
  induction htakes generalizing n slots s with
  | nil =>
    cases h
    obtain ⟨ws, hws, hs⟩ := listEnd_eq_ok_iff.mp hend
    exact ⟨[], ws, .nil hws, hs, rfl, by simp⟩
  | @cons f take fields takes hf htakes ih =>
    obtain ⟨step, hstep, hrest⟩ := bind_eq_ok_iff.mp h
    cases step with
    | done u =>
      obtain ⟨hp, hrequired⟩ := (readElements_done slots hstep).mp h
      cases hp
      obtain ⟨ws, hws, hs⟩ := listEnd_eq_ok_iff.mp hend
      exact ⟨[], ws, .nil hws, hs, by simp [fill], by simpa using hrequired⟩
    | more u =>
      obtain ⟨⟨slots₁, s₁⟩, hread, hrest⟩ := bind_eq_ok_iff.mp hrest
      obtain ⟨lead, b, hlead, ⟨v, hv, htake⟩, hs⟩ := (enters_list (hf slots)).sound hstep hread
      obtain ⟨vs, body, hbody, hs₁, hfill, hrequired⟩ := ih hrest
      refine ⟨v :: vs, lead ++ (b ++ body), .cons hlead hv hbody, ?_, ?_, ?_⟩
      · rw [hs, hs₁]
        simp
      · simp [fill, htake, hfill]
      · simpa using hrequired

theorem readElements_complete (htakes : List.Forall₂ Field.Takes fields takes) {n : Nat}
    {slots slots' : σ} {vs : List Value} {body : Bytes} (hbody : Entries Scalar (n = 0) vs body)
    (hfill : fill takes slots vs = some slots')
    (hrequired : ∀ f ∈ fields.drop vs.length, f.required = false) (rest : Bytes) :
    ∃ t, r.readElements n fields slots (body ++ closeList :: rest) = .ok (slots', t) ∧
      listEnd t = .ok rest := by
  induction htakes generalizing n slots vs body with
  | nil =>
    cases hbody with
    | nil hws =>
      cases hfill
      exact ⟨_, rfl, listEnd_eq_ok_iff.mpr ⟨_, hws, rfl⟩⟩
    | cons => cases hfill
  | @cons f take fields takes hf htakes ih =>
    cases hbody with
    | nil hws =>
      have hslots : slots = slots' := by simpa [fill] using hfill
      have hdone : listStep (n = 0) (body ++ closeList :: rest) = .ok (.done rest) :=
        listStep_done_iff.mpr ⟨body, hws, rfl⟩
      rw [← hslots]
      exact ⟨_, (readElements_done slots hdone).mpr ⟨rfl, by simpa using hrequired⟩,
        listEnd_eq_ok_iff.mpr ⟨body, hws, rfl⟩⟩
    | @cons _ v vs lead b body hlead hv hbody =>
      obtain ⟨slots₁, htake, hfill⟩ := Option.bind_eq_some_iff.mp hfill
      have hclose : endsValue closeList = true := by decide
      have hends := hbody.ends hclose rest
      obtain ⟨u, hstep, hread⟩ :=
        (enters_list (hf slots)).complete hlead ⟨v, hv, htake⟩ hends
      obtain ⟨t, hrest, hend⟩ := ih (n := n + 1) hbody hfill (by simpa using hrequired)
      refine ⟨t, ?_, hend⟩
      rw [List.append_assoc, List.append_assoc]
      exact bind_eq_ok_iff.mpr ⟨_, hstep, bind_eq_ok_iff.mpr ⟨_, hread, hrest⟩⟩

theorem readList_eq_ok_iff (htakes : List.Forall₂ Field.Takes r.fields takes) {slots : σ}
    {s rest : Bytes} :
    r.readList s = .ok (slots, rest) ↔ ∃ vs body, Entries Scalar true vs body ∧
      s = body ++ closeList :: rest ∧ fill takes r.start vs = some slots ∧
        ∀ f ∈ r.fields.drop vs.length, f.required = false := by
  constructor
  · intro h
    obtain ⟨⟨slots', t⟩, helements, h⟩ := bind_eq_ok_iff.mp h
    obtain ⟨rest', hend, h⟩ := bind_eq_ok_iff.mp h
    cases h
    exact readElements_sound htakes helements hend
  · intro h
    obtain ⟨vs, body, hbody, hs, hfill, hrequired⟩ := h
    obtain ⟨t, helements, hend⟩ :=
      readElements_complete (n := 0) htakes hbody hfill hrequired rest
    rw [hs]
    exact bind_eq_ok_iff.mpr ⟨_, helements, bind_eq_ok_iff.mpr ⟨_, hend, rfl⟩⟩

/-! ### Objects of a record's members -/

/-- What a record makes of members with their values as they are written; `P`
says which values the members of the record take. -/
inductive Record.Stores (r : Record σ) (P : Field σ → σ → σ → Bytes → Prop) :
    σ → List (String × Bytes) → σ → Prop
  | nil {slots : σ} : Stores r P slots [] slots
  | passed {slots slots' : σ} {k : String} {raw : Bytes} {ms : List (String × Bytes)}
    (hk : r.fields.find? (·.name = k) = none) (hraw : Passed raw)
    (rest : Stores r P slots ms slots') : Stores r P slots ((k, raw) :: ms) slots'
  | stored {slots slots₁ slots' : σ} {k : String} {raw : Bytes} {ms : List (String × Bytes)}
    {f : Field σ} (hk : r.fields.find? (·.name = k) = some f) (hfree : f.taken slots = false)
    (hraw : P f slots slots₁ raw) (rest : Stores r P slots₁ ms slots') :
    Stores r P slots ((k, raw) :: ms) slots'

theorem entries_cons_member {first : Bool} {ms : List (String × Bytes)} {k : String}
    {lead rawKey raw body s t rest : Bytes} (hlead : Lead first lead) (hkey : StringText k rawKey)
    (hcolon : afterKey s = .ok t)
    (hvalue : ∃ ws u, Blanks ws ∧ t = ws ++ (raw ++ u) ∧ u = body ++ closeObject :: rest)
    (hbody : Entries (MemberText Verbatim) false ms body) :
    ∃ body', Entries (MemberText Verbatim) first ((k, raw) :: ms) body' ∧
      lead ++ quoteMark :: (rawKey ++ quoteMark :: s) = body' ++ closeObject :: rest := by
  obtain ⟨ws, hws, rfl⟩ := afterKey_eq_ok_iff.mp hcolon
  obtain ⟨ws', u, hws', rfl, rfl⟩ := hvalue
  refine ⟨_, .cons hlead ⟨rawKey, ws, ws', raw, hkey, hws, hws', rfl, rfl⟩ hbody, ?_⟩
  simp

theorem readMembers_sound {P : Field σ → σ → σ → Bytes → Prop}
    (hP : ∀ f ∈ r.fields, ∀ slots, Reads (f.read slots) (P f slots)) {fuel : Nat} {first : Bool}
    {slots slots' : σ} {s rest : Bytes}
    (h : r.readMembers fuel first slots s = .ok (slots', rest)) :
    ∃ ms body, Entries (MemberText Verbatim) first ms body ∧ s = body ++ closeObject :: rest ∧
      r.Stores P slots ms slots' := by
  induction fuel generalizing first slots s with
  | zero => cases h
  | succ fuel ih =>
    obtain ⟨step, hstep, h⟩ := bind_eq_ok_iff.mp h
    cases step with
    | done t =>
      cases h
      obtain ⟨ws, hws, hs⟩ := objectStep_done_iff.mp hstep
      exact ⟨[], ws, .nil hws, hs, .nil⟩
    | more t =>
      obtain ⟨⟨k, t₁⟩, hkey, h⟩ := bind_eq_ok_iff.mp h
      obtain ⟨lead, hlead, hs⟩ := objectStep_more_iff.mp hstep
      obtain ⟨rawKey, hrawKey, ht⟩ := string_eq_ok_iff.mp hkey
      dsimp only at h
      split at h
      · rename_i hk
        obtain ⟨t₂, hcolon, h⟩ := bind_eq_ok_iff.mp h
        obtain ⟨u, hskip, h⟩ := bind_eq_ok_iff.mp h
        obtain ⟨ms, body, hbody, hu, hstores⟩ := ih h
        obtain ⟨ws, raw, hws, hraw, ht₂⟩ := exists_passed_of_skipValue hskip
        obtain ⟨body', hbody', hs'⟩ :=
          entries_cons_member hlead hrawKey hcolon ⟨ws, u, hws, ht₂, hu⟩ hbody
        exact ⟨_, body', hbody', by rw [hs, ht, hs'], .passed hk hraw hstores⟩
      · rename_i f hk
        split at h
        · cases h
        rename_i hfree
        obtain ⟨t₂, hcolon, h⟩ := bind_eq_ok_iff.mp h
        obtain ⟨⟨slots₁, u⟩, hread, h⟩ := bind_eq_ok_iff.mp h
        obtain ⟨ms, body, hbody, hu, hstores⟩ := ih h
        have hreads := hP f (List.mem_of_find?_eq_some hk) slots
        obtain ⟨ws, raw, hws, hraw, ht₂⟩ := hreads.sound hread
        obtain ⟨body', hbody', hs'⟩ :=
          entries_cons_member hlead hrawKey hcolon ⟨ws, u, hws, ht₂, hu⟩ hbody
        refine ⟨_, body', hbody', by rw [hs, ht, hs'], .stored hk ?_ hraw hstores⟩
        exact Bool.not_eq_true _ ▸ hfree

/-- Members that the record knows are read as it stores them. -/
theorem readMembers_complete {P : Field σ → σ → σ → Bytes → Prop}
    (hP : ∀ f ∈ r.fields, ∀ slots, Reads (f.read slots) (P f slots)) {slots slots' : σ}
    {ms : List (String × Bytes)} (hstores : r.Stores P slots ms slots')
    (hknown : ∀ m ∈ ms, r.fields.find? (·.name = m.1) ≠ none) {first : Bool} {body : Bytes}
    (hbody : Entries (MemberText Verbatim) first ms body) {fuel : Nat} (hfuel : ms.length < fuel)
    (rest : Bytes) :
    r.readMembers fuel first slots (body ++ closeObject :: rest) = .ok (slots', rest) := by
  -- Each member that is stored costs one unit of fuel.
  induction hstores generalizing first body fuel with
  | nil =>
    obtain ⟨fuel, rfl⟩ := Nat.exists_eq_add_one_of_ne_zero (Nat.ne_zero_of_lt hfuel)
    cases hbody with
    | nil hws =>
      have hdone : objectStep first (body ++ closeObject :: rest) = .ok (.done rest) :=
        objectStep_done_iff.mpr ⟨body, hws, rfl⟩
      exact bind_eq_ok_iff.mpr ⟨.done rest, hdone, rfl⟩
  | passed hk => exact absurd hk (hknown _ List.mem_cons_self)
  | @stored slots slots₁ _ k raw ms f hk hfree hraw _ ih =>
    obtain ⟨fuel, rfl⟩ := Nat.exists_eq_add_one_of_ne_zero (Nat.ne_zero_of_lt hfuel)
    have hothers : ∀ m ∈ ms, r.fields.find? (·.name = m.1) ≠ none := fun m hm =>
      hknown m (List.mem_cons_of_mem _ hm)
    cases hbody with
    | @cons _ _ _ lead _ body hlead hentry hbody =>
      have hends : Ends (body ++ closeObject :: rest) := hbody.ends (by decide) rest
      obtain ⟨t, u, ws, v, ht, hkey, hcolon, hws, rfl⟩ := hentry.steps (body ++ closeObject :: rest)
      have hstep := objectStep_append hlead ht
      have hreads := hP f (List.mem_of_find?_eq_some hk) slots
      have hread := hreads.complete hws hraw hends
      have hrest := ih hothers hbody (Nat.lt_of_succ_lt_succ hfuel)
      rw [List.append_assoc, List.append_assoc]
      refine bind_eq_ok_iff.mpr ⟨_, hstep, bind_eq_ok_iff.mpr ⟨_, hkey, ?_⟩⟩
      simp only [hk, hfree, Bool.false_eq_true, if_false]
      exact bind_eq_ok_iff.mpr ⟨_, hcolon, bind_eq_ok_iff.mpr ⟨_, hread, hrest⟩⟩

/-! ### Whole texts -/

/-- A whole text that is a list of scalars. -/
def ListText (vs : List Value) (text : Bytes) : Prop :=
  Padded (fun vs => ValueText 1 (.list vs)) vs text

/-- No brace comes first. -/
def Unbraced (text : Bytes) : Prop := ∀ ws s, Blanks ws → text ≠ ws ++ openObject :: s

/-- A whole text that is an object, with its values as they are written. -/
def VerbatimText (ms : List (String × Bytes)) (text : Bytes) : Prop :=
  ∃ ws body ws', Blanks ws ∧ Entries (MemberText Verbatim) true ms body ∧ Blanks ws' ∧
    text = ws ++ openObject :: (body ++ closeObject :: ws')

theorem Record.readObject_eq_ok_iff {s t : Bytes} {slots : σ} :
    r.readObject s = .ok (slots, t) ↔
      r.readMembers (s.length + 1) true r.start s = .ok (slots, t) ∧ r.missing? slots = none := by
  constructor
  · intro h
    obtain ⟨⟨slots', u⟩, hmembers, h⟩ := bind_eq_ok_iff.mp h
    dsimp only at h
    split at h
    · cases h
    · rename_i hmissing
      cases h
      exact ⟨hmembers, hmissing⟩
  · rintro ⟨hmembers, hmissing⟩
    refine bind_eq_ok_iff.mpr ⟨_, hmembers, ?_⟩
    simp only [hmissing]
    rfl

/-- Behind a brace a record reads the members of an object, and required ones
must be among them. -/
theorem Record.parse_braced_iff {ws s : Bytes} (hws : Blanks ws) {slots : σ} :
    r.parse (ws ++ openObject :: s) = .ok slots ↔
      (∃ rest, r.readMembers (s.length + 1) true r.start s = .ok (slots, rest) ∧ Blanks rest) ∧
        r.missing? slots = none := by
  have hskip := skipBlanks_append_cons hws (b := openObject) (by decide) s
  have hread : r.read (ws ++ openObject :: s) = r.readObject s := by
    simp only [Record.read, hskip, if_true]
  simp only [Record.parse, whole_eq_ok_iff, hread, readObject_eq_ok_iff, and_right_comm,
    exists_and_right]

/-- The fuel suffices for all members of an object. -/
theorem Entries.length_lt_fuel {first : Bool} {ms : List (String × Bytes)} {body : Bytes}
    (h : Entries (MemberText Verbatim) first ms body) (s : Bytes) :
    ms.length < (body ++ s).length + 1 := by
  have hlength : ms.length ≤ body.length := by
    refine h.length_le fun m b hb => ?_
    obtain ⟨raw, ws, ws', v, -, -, -, -, rfl⟩ := hb
    exact List.cons_ne_nil _ _
  rw [List.length_append]
  omega

theorem Record.parse_object_sound {P : Field σ → σ → σ → Bytes → Prop}
    (hP : ∀ f ∈ r.fields, ∀ slots, Reads (f.read slots) (P f slots)) {text : Bytes} {slots : σ}
    (h : r.parse text = .ok slots) (hbrace : ¬Unbraced text) :
    ∃ ms, VerbatimText ms text ∧ r.Stores P r.start ms slots ∧ r.missing? slots = none := by
  simp only [Unbraced, ne_eq, not_forall, not_not] at hbrace
  obtain ⟨ws, s, hws, rfl⟩ := hbrace
  obtain ⟨⟨rest, hmembers, hblanks⟩, hmissing⟩ := (parse_braced_iff hws).mp h
  obtain ⟨ms, body, hbody, rfl, hstores⟩ := readMembers_sound hP hmembers
  exact ⟨ms, ⟨ws, body, rest, hws, hbody, hblanks, rfl⟩, hstores, hmissing⟩

theorem Record.parse_object_complete {P : Field σ → σ → σ → Bytes → Prop}
    (hP : ∀ f ∈ r.fields, ∀ slots, Reads (f.read slots) (P f slots)) {text : Bytes} {slots : σ}
    {ms : List (String × Bytes)} (htext : VerbatimText ms text)
    (hstores : r.Stores P r.start ms slots)
    (hknown : ∀ m ∈ ms, r.fields.find? (·.name = m.1) ≠ none) (hmissing : r.missing? slots = none) :
    r.parse text = .ok slots := by
  obtain ⟨ws, body, ws', hws, hbody, hws', rfl⟩ := htext
  have hfuel := hbody.length_lt_fuel (closeObject :: ws')
  have hmembers := readMembers_complete hP hstores hknown hbody hfuel ws'
  exact (parse_braced_iff hws).mpr ⟨⟨ws', hmembers, hws'⟩, hmissing⟩

theorem Scalar.ne_openObject {v : Value} {b : Bytes} (h : Scalar v b) (s : Bytes) :
    b ≠ openObject :: s := by
  intro hb
  obtain ⟨c, t, hct, -, -, hc⟩ := scalar_complete h ends_nil
  rw [List.append_nil, hb, List.cons.injEq] at hct
  exact hc hct.1.symm

/-- A value that is no object has no brace in front. -/
theorem Unbraced.of_value {depth : Nat} {v : Value} {text : Bytes}
    (h : Padded (ValueText depth) v text) (hv : ∀ ms, v ≠ .object ms) : Unbraced text := by
  intro ws s hws htext
  obtain ⟨ws', b, rest, hws', hb, -, hb'⟩ := h
  obtain ⟨c, u, rfl, hc, -⟩ := ValueText.starts hb
  have hsame : c :: (u ++ rest) = openObject :: s := by
    have hskip := skipBlanks_append_cons hws (b := openObject) (by decide) s
    rw [← htext, hb', List.cons_append, skipBlanks_append_cons hws' hc] at hskip
    exact hskip
  have hbrace : c :: u = openObject :: u := by
    rw [(List.cons.inj hsame).1]
  cases depth with
  | zero => exact Scalar.ne_openObject hb u hbrace
  | succ depth =>
    cases hb with
    | scalar hb => exact hb.ne_openObject u hbrace
    | list => exact absurd (List.cons.inj hbrace).1 (by decide)
    | object => exact hv _ rfl

/-- A text that begins with no brace is read as a record if it is a list that
fills the slots. -/
theorem Unbraced.parse_eq_ok_iff (htakes : List.Forall₂ Field.Takes r.fields takes) {text : Bytes}
    (h : Unbraced text) {slots : σ} :
    r.parse text = .ok slots ↔ ∃ vs, ListText vs text ∧ fill takes r.start vs = some slots ∧
      ∀ f ∈ r.fields.drop vs.length, f.required = false := by
  rw [Record.parse, whole_eq_ok_iff]
  constructor
  · intro hread
    obtain ⟨rest, hread, hblanks⟩ := hread
    cases hs : skipBlanks text with
    | nil => simp [Record.read, hs] at hread
    | cons b s =>
      obtain ⟨-, ws, hws, htext⟩ := skipBlanks_eq_cons_iff.mp hs
      simp only [Record.read, hs] at hread
      split at hread
      · rename_i hb
        rw [hb] at htext
        exact absurd htext (h ws s hws)
      split at hread
      · rename_i hb
        obtain ⟨vs, body, hbody, rfl, hfill, hrequired⟩ := (readList_eq_ok_iff htakes).mp hread
        refine ⟨vs, ⟨ws, _, rest, hws, .list hbody, hblanks, ?_⟩, hfill, hrequired⟩
        simp [htext, hb]
      · exact absurd hread (wrongKind_ne_ok _ _ _)
  · intro hlist
    obtain ⟨vs, ⟨ws, b, rest, hws, hb, hblanks, rfl⟩, hfill, hrequired⟩ := hlist
    cases hb with
    | scalar hb => cases hb
    | @list _ body hbody =>
      refine ⟨rest, ?_, hblanks⟩
      have hskip : skipBlanks (ws ++ (openList :: (body ++ [closeList]) ++ rest)) =
          openList :: (body ++ closeList :: rest) := by
        rw [List.cons_append, List.append_assoc, skipBlanks_append_cons hws (by decide)]
        rfl
      have hread : r.readList (body ++ closeList :: rest) = .ok (slots, rest) :=
        (readList_eq_ok_iff htakes).mpr ⟨vs, body, hbody, rfl, hfill, hrequired⟩
      simp only [Record.read, hskip]
      rw [if_neg (by decide), if_pos trivial, hread]

end

end SealedToken.Json

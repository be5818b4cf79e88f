import SealedToken.Json.Value
import SealedToken.Proofs.Json.Scan
import SealedToken.Proofs.Json.Text

/-! # Entries of lists and objects

Lists and objects are read by one loop: a step over the punctuation, then an
entry. What the loop takes is proved once, from what the step and the entry
take; lists and objects differ only in these. -/

namespace SealedToken.Json

/-! ### Entries as they are written -/

/-- What stands in front of an entry: blanks, and among them a comma unless the
entry is the first one. -/
def Lead : Bool → Bytes → Prop
  | true, b => Blanks b
  | false, b => ∃ ws ws', Blanks ws ∧ Blanks ws' ∧ b = ws ++ comma :: ws'

/-- What stands between the brackets: entries and what leads to them, then blanks. -/
inductive Entries {α : Type} (P : α → Bytes → Prop) : Bool → List α → Bytes → Prop
  | nil {first : Bool} {ws : Bytes} (blanks : Blanks ws) : Entries P first [] ws
  | cons {first : Bool} {a : α} {as : List α} {lead b body : Bytes} (lead_ok : Lead first lead)
    (entry : P a b) (rest : Entries P false as body) :
    Entries P first (a :: as) (lead ++ (b ++ body))

/-- The key of a member, a colon, and the value. -/
def MemberText {α : Type} (P : α → Bytes → Prop) (m : String × α) (b : Bytes) : Prop :=
  ∃ raw ws ws' v, StringText m.1 raw ∧ Blanks ws ∧ Blanks ws' ∧ P m.2 v ∧
    b = quoteMark :: (raw ++ quoteMark :: (ws ++ colon :: (ws' ++ v)))

/-- The value of a member as it is written. -/
def Verbatim (raw b : Bytes) : Prop := b = raw

theorem Entries.length_le {α : Type} {P : α → Bytes → Prop} (hne : ∀ a b, P a b → b ≠ [])
    {first : Bool} {as : List α} {body : Bytes} (h : Entries P first as body) :
    as.length ≤ body.length := by
  induction h with
  | nil => exact Nat.zero_le _
  | cons _ entry _ ih =>
    have hpos := List.length_pos_iff.mpr (hne _ _ entry)
    simp only [List.length_cons, List.length_append]
    omega

theorem Entries.ends {α : Type} {P : α → Bytes → Prop} {as : List α} {body : Bytes}
    (h : Entries P false as body) {close : Byte} (hclose : endsValue close = true) (r : Bytes) :
    Ends (body ++ close :: r) := by
  cases h with
  | nil blanks => exact (ends_cons hclose r).blanks_append blanks
  | cons lead_ok =>
    obtain ⟨ws, ws', hws, -, rfl⟩ := lead_ok
    rw [List.append_assoc, List.append_assoc, List.cons_append]
    exact (ends_cons (by decide) _).blanks_append hws

/-! ### The loop -/

/-- Entries up to the closing bracket; `fuel` bounds their number. -/
def entries {α : Type} (step : Bool → Bytes → Except Fault Step) (entry : Bytes → Reading α)
    (ended : Cause) : Nat → Bool → Bytes → Except Fault (List α × Bytes)
  | 0, _, s => .error (.before ended s)
  | fuel + 1, first, s => do
    match ← step first s with
    | .done s => return ([], s)
    | .more s =>
      let (a, s) ← entry s
      let (as, s) ← entries step entry ended fuel false s
      return (a :: as, s)

/-- What a step and the entry behind it take together. -/
structure Enters {α : Type} (step : Bool → Bytes → Except Fault Step) (entry : Bytes → Reading α)
    (close : Byte) (P : α → Bytes → Prop) : Prop where
  endsValue : endsValue close = true
  ne_nil : ∀ a b, P a b → b ≠ []
  done_iff : ∀ {first s r}, step first s = .ok (.done r) ↔ ∃ ws, Blanks ws ∧ s = ws ++ close :: r
  sound : ∀ {first s t a r}, step first s = .ok (.more t) → entry t = .ok (a, r) →
    ∃ lead b, Lead first lead ∧ P a b ∧ s = lead ++ (b ++ r)
  complete : ∀ {first lead a b r}, Lead first lead → P a b → Ends r →
    ∃ t, step first (lead ++ (b ++ r)) = .ok (.more t) ∧ entry t = .ok (a, r)

section

variable {α : Type} {step : Bool → Bytes → Except Fault Step} {entry : Bytes → Reading α}
  {close : Byte} {P : α → Bytes → Prop} {ended : Cause}

theorem entries_sound (he : Enters step entry close P) {fuel : Nat} {first : Bool}
    {s r : Bytes} {as : List α} (h : entries step entry ended fuel first s = .ok (as, r)) :
    ∃ body, Entries P first as body ∧ s = body ++ close :: r := by
  induction fuel generalizing first s as with
  | zero => cases h
  | succ fuel ih =>
    obtain ⟨next, hstep, h⟩ := bind_eq_ok_iff.mp h
    cases next with
    | done t =>
      cases h
      obtain ⟨ws, hws, hs⟩ := he.done_iff.mp hstep
      exact ⟨ws, .nil hws, hs⟩
    | more t =>
      obtain ⟨⟨a, t'⟩, hentry, h⟩ := bind_eq_ok_iff.mp h
      obtain ⟨⟨bs, t''⟩, hrest, h⟩ := bind_eq_ok_iff.mp h
      cases h
      obtain ⟨lead, b, hlead, hb, hs⟩ := he.sound hstep hentry
      obtain ⟨body, hbody, ht⟩ := ih hrest
      refine ⟨lead ++ (b ++ body), .cons hlead hb hbody, ?_⟩
      rw [hs, ht, List.append_assoc, List.append_assoc]

theorem entries_complete (he : Enters step entry close P) {fuel : Nat} {first : Bool}
    {body : Bytes} {as : List α} (h : Entries P first as body) (hfuel : as.length < fuel)
    (r : Bytes) : entries step entry ended fuel first (body ++ close :: r) = .ok (as, r) := by
  -- Every entry takes one unit of fuel, so the induction is on the entries.
  induction h generalizing fuel with
  | @nil first ws blanks =>
    obtain ⟨fuel, rfl⟩ := Nat.exists_eq_succ_of_ne_zero (Nat.ne_zero_of_lt hfuel)
    have hdone : step first (ws ++ close :: r) = .ok (.done r) := he.done_iff.mpr ⟨ws, blanks, rfl⟩
    rw [entries, hdone]
    rfl
  | @cons first a as lead b body hlead hb rest ih =>
    obtain ⟨fuel, rfl⟩ := Nat.exists_eq_succ_of_ne_zero (Nat.ne_zero_of_lt hfuel)
    obtain ⟨t, hstep, hentry⟩ := he.complete hlead hb (rest.ends he.endsValue r)
    rw [List.append_assoc, List.append_assoc]
    refine bind_eq_ok_iff.mpr ⟨.more t, hstep, bind_eq_ok_iff.mpr ⟨_, hentry, ?_⟩⟩
    exact bind_eq_ok_iff.mpr ⟨_, ih (Nat.lt_of_succ_lt_succ hfuel), rfl⟩

end

/-! ### Readers of entries -/

/-- The first byte is no blank and closes no list. -/
def StartsValue (b : Bytes) : Prop := ∃ c s, b = c :: s ∧ isBlank c = false ∧ c ≠ closeList

/-- A reader takes what is written as `P` says, and blanks before it. -/
structure Reads {α : Type} (read : Bytes → Reading α) (P : α → Bytes → Prop) : Prop where
  sound : ∀ {s a r}, read s = .ok (a, r) → ∃ ws b, Blanks ws ∧ P a b ∧ s = ws ++ (b ++ r)
  complete : ∀ {ws a b r}, Blanks ws → P a b → Ends r → read (ws ++ (b ++ r)) = .ok (a, r)
  starts : ∀ {a b}, P a b → StartsValue b

/-! ### Lists -/

theorem elements_eq_entries {α : Type} (item : Bytes → Reading α) (fuel : Nat) (first : Bool)
    (s : Bytes) : elements item fuel first s = entries listStep item .endOfList fuel first s := by
  induction fuel generalizing first s with
  | zero => rfl
  | succ fuel ih =>
    rw [elements]
    simp only [ih]
    rfl

theorem skipBlanks_append_cons {ws : Bytes} (hws : Blanks ws) {b : Byte} (hb : isBlank b = false)
    (s : Bytes) : skipBlanks (ws ++ b :: s) = b :: s := by
  rw [skipBlanks_append hws, skipBlanks_cons hb]

theorem afterListComma_eq_ok_iff {s t : Bytes} :
    afterListComma s = .ok t ↔ ∃ ws, Blanks ws ∧ s = ws ++ t ∧ StartsValue t := by
  constructor
  · intro h
    cases hs : skipBlanks s with
    | nil => simp only [afterListComma, hs] at h; cases h
    | cons c r =>
      obtain ⟨hc, ws, hws, rfl⟩ := skipBlanks_eq_cons_iff.mp hs
      simp only [afterListComma, hs] at h
      split at h
      · cases h
      · rename_i hclose
        cases h
        exact ⟨ws, hws, rfl, c, r, rfl, hc, hclose⟩
  · rintro ⟨ws, hws, rfl, c, r, rfl, hc, hclose⟩
    simp only [afterListComma, skipBlanks_append_cons hws hc, if_neg hclose]

theorem listStep_done_iff {first : Bool} {s r : Bytes} :
    listStep first s = .ok (.done r) ↔ ∃ ws, Blanks ws ∧ s = ws ++ closeList :: r := by
  constructor
  · intro h
    cases hs : skipBlanks s with
    | nil => simp only [listStep, hs] at h; cases h
    | cons c t =>
      obtain ⟨hc, ws, hws, rfl⟩ := skipBlanks_eq_cons_iff.mp hs
      simp only [listStep, hs] at h
      split at h
      · rename_i hclose
        cases h
        exact ⟨ws, hws, by rw [hclose]⟩
      split at h
      · cases h
      split at h
      · cases hcomma : afterListComma t with
        | error f => rw [hcomma] at h; cases h
        | ok t => rw [hcomma] at h; cases h
      · cases h
  · rintro ⟨ws, hws, rfl⟩
    simp only [listStep, skipBlanks_append_cons hws (b := closeList) (by decide), if_true]

theorem listStep_more_iff {first : Bool} {s t : Bytes} :
    listStep first s = .ok (.more t) ↔
      ∃ lead, Lead first lead ∧ s = lead ++ t ∧ StartsValue t := by
  constructor
  · intro h
    cases hs : skipBlanks s with
    | nil => simp only [listStep, hs] at h; cases h
    | cons c r =>
      obtain ⟨hc, ws, hws, rfl⟩ := skipBlanks_eq_cons_iff.mp hs
      simp only [listStep, hs] at h
      split at h
      · cases h
      rename_i hclose
      cases first with
      | true =>
        cases h
        exact ⟨ws, hws, rfl, c, r, rfl, hc, hclose⟩
      | false =>
        simp only [Bool.false_eq_true, if_false] at h
        split at h
        · rename_i hcomma
          cases hr : afterListComma r with
          | error f => rw [hr] at h; cases h
          | ok u =>
            rw [hr] at h
            cases h
            obtain ⟨ws', hws', rfl, hu⟩ := afterListComma_eq_ok_iff.mp hr
            exact ⟨ws ++ comma :: ws', ⟨ws, ws', hws, hws', rfl⟩, by
              rw [hcomma, List.append_assoc]; rfl, hu⟩
        · cases h
  · rintro ⟨lead, hlead, rfl, c, r, rfl, hc, hclose⟩
    cases first with
    | true => simp only [listStep, skipBlanks_append_cons hlead hc, if_neg hclose, if_true]
    | false =>
      obtain ⟨ws, ws', hws, hws', rfl⟩ := hlead
      have hcomma : comma ≠ closeList := by decide
      have hnext : afterListComma (ws' ++ c :: r) = .ok (c :: r) :=
        afterListComma_eq_ok_iff.mpr ⟨ws', hws', rfl, c, r, rfl, hc, hclose⟩
      rw [List.append_assoc, List.cons_append]
      simp only [listStep, skipBlanks_append_cons hws (b := comma) (by decide), if_neg hcomma,
        Bool.false_eq_true, if_false, if_true, hnext]
      rfl

theorem enters_list {α : Type} {read : Bytes → Reading α} {P : α → Bytes → Prop}
    (h : Reads read P) : Enters listStep read closeList P where
  endsValue := by decide
  ne_nil a b hb := by
    obtain ⟨c, s, rfl, -⟩ := h.starts hb
    exact List.cons_ne_nil c s
  done_iff := listStep_done_iff
  sound hstep hentry := by
    obtain ⟨lead, hlead, rfl, c, s, rfl, hc, -⟩ := listStep_more_iff.mp hstep
    obtain ⟨ws, b, hws, hb, hs⟩ := h.sound hentry
    -- The step has skipped all blanks.
    have hnil : ws = [] := by
      cases ws with
      | nil => rfl
      | cons w ws =>
        rw [List.cons_append, List.cons.injEq] at hs
        rw [hs.1, hws w List.mem_cons_self] at hc
        cases hc
    rw [hnil, List.nil_append] at hs
    exact ⟨lead, b, hlead, hb, by rw [hs]⟩
  complete := by
    intro first lead a b r hlead hb hr
    obtain ⟨c, s, rfl, hc, hclose⟩ := h.starts hb
    exact ⟨c :: s ++ r, listStep_more_iff.mpr ⟨lead, hlead, rfl, c, s ++ r, rfl, hc, hclose⟩,
      h.complete blanks_nil hb hr⟩

/-! ### Objects -/

/-- A member, from behind the quote mark of its key. -/
def member {α : Type} (item : Bytes → Reading α) (s : Bytes) :
    Except Fault ((String × α) × Bytes) := do
  let (k, s) ← string s
  let s ← afterKey s
  let (v, s) ← item s
  return ((k, v), s)

theorem members_eq_entries {α : Type} (item : Bytes → Reading α) (fuel : Nat) (first : Bool)
    (s : Bytes) :
    members item fuel first s = entries objectStep (member item) .endOfObject fuel first s := by
  induction fuel generalizing first s with
  | zero => rfl
  | succ fuel ih =>
    rw [entries]
    simp only [member, bind_assoc, pure_bind, ← ih]
    rfl

theorem afterKey_eq_ok_iff {s t : Bytes} :
    afterKey s = .ok t ↔ ∃ ws, Blanks ws ∧ s = ws ++ colon :: t := by
  constructor
  · intro h
    cases hs : skipBlanks s with
    | nil => simp only [afterKey, hs] at h; cases h
    | cons c r =>
      obtain ⟨-, ws, hws, rfl⟩ := skipBlanks_eq_cons_iff.mp hs
      simp only [afterKey, hs] at h
      split at h
      · rename_i hcolon
        cases h
        exact ⟨ws, hws, by rw [hcolon]⟩
      · cases h
  · rintro ⟨ws, hws, rfl⟩
    simp only [afterKey, skipBlanks_append_cons hws (b := colon) (by decide), if_true]

theorem afterObjectComma_eq_ok_iff {s t : Bytes} :
    afterObjectComma s = .ok t ↔ ∃ ws, Blanks ws ∧ s = ws ++ quoteMark :: t := by
  constructor
  · intro h
    cases hs : skipBlanks s with
    | nil => simp only [afterObjectComma, hs] at h; cases h
    | cons c r =>
      obtain ⟨-, ws, hws, rfl⟩ := skipBlanks_eq_cons_iff.mp hs
      simp only [afterObjectComma, hs] at h
      split at h
      · rename_i hquote
        cases h
        exact ⟨ws, hws, by rw [hquote]⟩
      split at h
      · cases h
      · cases h
  · rintro ⟨ws, hws, rfl⟩
    simp only [afterObjectComma, skipBlanks_append_cons hws (b := quoteMark) (by decide), if_true]

theorem objectStep_done_iff {first : Bool} {s r : Bytes} :
    objectStep first s = .ok (.done r) ↔ ∃ ws, Blanks ws ∧ s = ws ++ closeObject :: r := by
  constructor
  · intro h
    cases hs : skipBlanks s with
    | nil => simp only [objectStep, hs] at h; cases h
    | cons c t =>
      obtain ⟨hc, ws, hws, rfl⟩ := skipBlanks_eq_cons_iff.mp hs
      simp only [objectStep, hs] at h
      split at h
      · rename_i hclose
        cases h
        exact ⟨ws, hws, by rw [hclose]⟩
      split at h
      · split at h
        · cases h
        · cases h
      split at h
      · cases hcomma : afterObjectComma t with
        | error f => rw [hcomma] at h; cases h
        | ok t => rw [hcomma] at h; cases h
      · cases h
  · rintro ⟨ws, hws, rfl⟩
    simp only [objectStep, skipBlanks_append_cons hws (b := closeObject) (by decide), if_true]

theorem objectStep_more_iff {first : Bool} {s t : Bytes} :
    objectStep first s = .ok (.more t) ↔ ∃ lead, Lead first lead ∧ s = lead ++ quoteMark :: t := by
  constructor
  · intro h
    cases hs : skipBlanks s with
    | nil => simp only [objectStep, hs] at h; cases h
    | cons c r =>
      obtain ⟨-, ws, hws, rfl⟩ := skipBlanks_eq_cons_iff.mp hs
      simp only [objectStep, hs] at h
      split at h
      · cases h
      cases first with
      | true =>
        simp only [if_true] at h
        split at h
        · rename_i hquote
          cases h
          exact ⟨ws, hws, by rw [hquote]⟩
        · cases h
      | false =>
        simp only [Bool.false_eq_true, if_false] at h
        split at h
        · rename_i hcomma
          cases hr : afterObjectComma r with
          | error f => rw [hr] at h; cases h
          | ok u =>
            rw [hr] at h
            cases h
            obtain ⟨ws', hws', rfl⟩ := afterObjectComma_eq_ok_iff.mp hr
            refine ⟨ws ++ comma :: ws', ⟨ws, ws', hws, hws', rfl⟩, ?_⟩
            rw [hcomma, List.append_assoc, List.cons_append]
        · cases h
  · rintro ⟨lead, hlead, rfl⟩
    have hquote : quoteMark ≠ closeObject := by decide
    have hcomma : comma ≠ closeObject := by decide
    cases first with
    | true =>
      simp only [objectStep, skipBlanks_append_cons hlead (b := quoteMark) (by decide),
        if_neg hquote, if_true]
    | false =>
      obtain ⟨ws, ws', hws, hws', rfl⟩ := hlead
      have hnext : afterObjectComma (ws' ++ quoteMark :: t) = .ok t :=
        afterObjectComma_eq_ok_iff.mpr ⟨ws', hws', rfl⟩
      rw [List.append_assoc, List.cons_append]
      simp only [objectStep, skipBlanks_append_cons hws (b := comma) (by decide), if_neg hcomma,
        Bool.false_eq_true, if_false, if_true, hnext]
      rfl

theorem objectStep_append {first : Bool} {lead s t : Bytes} (hlead : Lead first lead)
    (hs : s = quoteMark :: t) : objectStep first (lead ++ s) = .ok (.more t) :=
  objectStep_more_iff.mpr ⟨lead, hlead, by rw [hs]⟩

theorem member_sound {α : Type} {read : Bytes → Reading α} {P : α → Bytes → Prop}
    (h : Reads read P) {s r : Bytes} {m : String × α} (hm : member read s = .ok (m, r)) :
    ∃ b, MemberText P m (quoteMark :: b) ∧ s = b ++ r := by
  obtain ⟨⟨k, s1⟩, hk, hm⟩ := bind_eq_ok_iff.mp hm
  obtain ⟨s2, hcolon, hm⟩ := bind_eq_ok_iff.mp hm
  obtain ⟨⟨v, s3⟩, hv, hm⟩ := bind_eq_ok_iff.mp hm
  cases hm
  obtain ⟨raw, hraw, rfl⟩ := string_eq_ok_iff.mp hk
  obtain ⟨ws, hws, rfl⟩ := afterKey_eq_ok_iff.mp hcolon
  obtain ⟨ws', b, hws', hb, rfl⟩ := h.sound hv
  refine ⟨raw ++ quoteMark :: (ws ++ colon :: (ws' ++ b)),
    ⟨raw, ws, ws', b, hraw, hws, hws', hb, rfl⟩, ?_⟩
  simp only [List.append_assoc, List.cons_append]

/-- The readers in front of a value take a written member apart. -/
theorem MemberText.steps {α : Type} {P : α → Bytes → Prop} {m : String × α} {b : Bytes}
    (h : MemberText P m b) (r : Bytes) :
    ∃ t u ws v, b ++ r = quoteMark :: t ∧ string t = .ok (m.1, u) ∧
      afterKey u = .ok (ws ++ (v ++ r)) ∧ Blanks ws ∧ P m.2 v := by
  obtain ⟨raw, ws, ws', v, hraw, hws, hws', hv, rfl⟩ := h
  refine ⟨raw ++ quoteMark :: (ws ++ colon :: (ws' ++ (v ++ r))), _, ws', v, ?_,
    string_eq_ok_iff.mpr ⟨raw, hraw, rfl⟩, afterKey_eq_ok_iff.mpr ⟨ws, hws, rfl⟩, hws', hv⟩
  simp only [List.append_assoc, List.cons_append]

theorem member_complete {α : Type} {read : Bytes → Reading α} {P : α → Bytes → Prop}
    (h : Reads read P) {b r : Bytes} {m : String × α} (hm : MemberText P m b) (hr : Ends r) :
    ∃ t, b ++ r = quoteMark :: t ∧ member read t = .ok (m, r) := by
  obtain ⟨t, u, ws, v, ht, hkey, hcolon, hws, hv⟩ := hm.steps r
  refine ⟨t, ht, bind_eq_ok_iff.mpr ⟨_, hkey, bind_eq_ok_iff.mpr ⟨_, hcolon, ?_⟩⟩⟩
  exact bind_eq_ok_iff.mpr ⟨_, h.complete hws hv hr, rfl⟩

theorem enters_object {α : Type} {read : Bytes → Reading α} {P : α → Bytes → Prop}
    (h : Reads read P) : Enters objectStep (member read) closeObject (MemberText P) where
  endsValue := by decide
  ne_nil m b hb := by
    obtain ⟨raw, ws, ws', v, -, -, -, -, rfl⟩ := hb
    exact List.cons_ne_nil _ _
  done_iff := objectStep_done_iff
  sound hstep hentry := by
    obtain ⟨lead, hlead, rfl⟩ := objectStep_more_iff.mp hstep
    obtain ⟨b, hb, rfl⟩ := member_sound h hentry
    exact ⟨lead, quoteMark :: b, hlead, hb, rfl⟩
  complete := by
    intro first lead m b r hlead hb hr
    obtain ⟨t, ht, hread⟩ := member_complete h hb hr
    exact ⟨t, objectStep_append hlead ht, hread⟩

end SealedToken.Json

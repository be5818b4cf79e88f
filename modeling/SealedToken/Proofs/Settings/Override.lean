import SealedToken.Proofs.Settings.Key
import SealedToken.Proofs.Text.Unsigned

/-! # Settings behind a history of environments

Of a row of environments that override the settings one after another, the last
password counts and the last lifetime that is a number. Password and digest are
replaced together, so both stand for one key at any time. -/

namespace SealedToken

/-! ### What an environment gives -/

namespace Environment

/-- A password that is not empty. -/
def GivesPassword (env : Environment) (p : String) : Prop :=
  env "MASTER_PASSWORD" = some p ∧ p ≠ ""

/-- A lifetime that is a number between blanks. -/
def GivesLifetime (env : Environment) (n : UInt32) : Prop :=
  ∃ text, env "REGISTRATION_TOKEN_TTL_SEC" = some text ∧ Unsigned.Spells (Blank.trim text) n

variable {env : Environment}

theorem filter_password_eq_some_iff {p : String} :
    (env Settings.passwordVariable).filter (· ≠ "") = some p ↔ env.GivesPassword p := by
  simp [Option.filter_eq_some_iff, GivesPassword, Settings.passwordVariable]

theorem bind_lifetime_eq_some_iff {n : UInt32} :
    (env Settings.lifetimeVariable).bind (Unsigned.parse? ∘ Blank.trim) = some n ↔
      env.GivesLifetime n := by
  simp only [Option.bind_eq_some_iff, Function.comp_apply, Unsigned.parse?_eq_some_iff,
    GivesLifetime, Settings.lifetimeVariable]

end Environment

/-! ### Histories -/

section

variable {α : Type}

/-- No environment gives anything. -/
def Silent (gives : Environment → α → Prop) (history : List Environment) : Prop :=
  ∀ env ∈ history, ∀ a, ¬gives env a

/-- The last value that is given: some environment gives it, and none behind it gives any. -/
def Latest (gives : Environment → α → Prop) (history : List Environment) (a : α) : Prop :=
  ∃ before env after, history = before ++ env :: after ∧ gives env a ∧ Silent gives after

theorem silent_or_latest (gives : Environment → α → Prop) (history : List Environment) :
    Silent gives history ∨ ∃ a, Latest gives history a := by
  induction history with
  | nil => exact .inl (List.forall_mem_nil _)
  | cons env history ih =>
    rcases ih with hsilent | ⟨a, before, env', after, rfl, ha, hafter⟩
    · by_cases hgives : ∃ a, gives env a
      · obtain ⟨a, ha⟩ := hgives
        exact .inr ⟨a, [], env, history, rfl, ha, hsilent⟩
      · exact .inl (List.forall_mem_cons.mpr ⟨not_exists.mp hgives, hsilent⟩)
    · exact .inr ⟨a, env :: before, env', after, rfl, ha, hafter⟩

variable {σ β : Type} {step : σ → Environment → σ} {part : σ → β}
  {gives : Environment → α → Prop}

/-- What no step without a value changes stays as it is over a silent history. -/
theorem foldl_of_silent (hkept : ∀ s env, (∀ a, ¬gives env a) → part (step s env) = part s)
    {history : List Environment} (h : Silent gives history) (s : σ) :
    part (history.foldl step s) = part s := by
  induction history generalizing s with
  | nil => rfl
  | cons env history ih =>
    obtain ⟨henv, hhistory⟩ := List.forall_mem_cons.mp h
    rw [List.foldl_cons, ih hhistory, hkept s env henv]

/-- What every step with a value sets is set by the last one. -/
theorem foldl_of_latest (value : α → β)
    (hset : ∀ s env a, gives env a → part (step s env) = value a)
    (hkept : ∀ s env, (∀ a, ¬gives env a) → part (step s env) = part s)
    {history : List Environment} {a : α} (h : Latest gives history a) (s : σ) :
    part (history.foldl step s) = value a := by
  obtain ⟨before, env, after, rfl, ha, hafter⟩ := h
  rw [List.foldl_append, List.foldl_cons, foldl_of_silent hkept hafter, hset _ env a ha]

end

/-! ### Settings over a history -/

namespace Settings

open Environment (GivesPassword GivesLifetime)

/-- What a history of environments makes of settings. -/
structure Follows (s : Settings) (history : List Environment) (t : Settings) : Prop where
  password : ∀ p, Latest GivesPassword history p →
    t.masterPassword = some p ∧ t.masterHash = some (MasterKey.ofPassword p).toHex
  noPassword : Silent GivesPassword history →
    t.masterPassword = s.masterPassword ∧ t.masterHash = s.masterHash
  lifetime : ∀ n, Latest GivesLifetime history n → t.tokenLifetime = n
  noLifetime : Silent GivesLifetime history → t.tokenLifetime = s.tokenLifetime
  schemaVersion : t.schemaVersion = s.schemaVersion
  logLevel : t.logLevel = s.logLevel
  jsonLogs : t.jsonLogs = s.jsonLogs

/-! ### One environment -/

variable {env : Environment}

theorem overridePassword_of_gives {p : String} (h : env.GivesPassword p) (s : Settings) :
    overridePassword env s = { s with
      masterPassword := some p
      masterHash := some (MasterKey.ofPassword p).toHex } := by
  simp only [overridePassword, Environment.filter_password_eq_some_iff.mpr h]

theorem overridePassword_of_silent (h : ∀ p, ¬env.GivesPassword p) (s : Settings) :
    overridePassword env s = s := by
  have hnone : (env passwordVariable).filter (· ≠ "") = none := by
    rw [Option.eq_none_iff_forall_ne_some]
    intro p hp
    exact h p (Environment.filter_password_eq_some_iff.mp hp)
  simp only [overridePassword, hnone]

theorem overrideLifetime_of_gives {n : UInt32} (h : env.GivesLifetime n) (s : Settings) :
    overrideLifetime env s = { s with tokenLifetime := n } := by
  simp only [overrideLifetime, Environment.bind_lifetime_eq_some_iff.mpr h]

theorem overrideLifetime_of_silent (h : ∀ n, ¬env.GivesLifetime n) (s : Settings) :
    overrideLifetime env s = s := by
  have hnone : (env lifetimeVariable).bind (Unsigned.parse? ∘ Blank.trim) = none := by
    rw [Option.eq_none_iff_forall_ne_some]
    intro n hn
    exact h n (Environment.bind_lifetime_eq_some_iff.mp hn)
  simp only [overrideLifetime, hnone]

/-- Password and digest, which are only replaced together. -/
def secrets (s : Settings) : Option String × Option String := (s.masterPassword, s.masterHash)

/-- The members that no environment replaces. -/
def others (s : Settings) : UInt32 × String × Bool := (s.schemaVersion, s.logLevel, s.jsonLogs)

theorem secrets_override (s : Settings) (env : Environment) :
    (s.override env).secrets = (overridePassword env s).secrets := by
  unfold override overrideLifetime
  split <;> rfl

theorem tokenLifetime_overridePassword (s : Settings) (env : Environment) :
    (overridePassword env s).tokenLifetime = s.tokenLifetime := by
  unfold overridePassword
  split <;> rfl

theorem others_override (s : Settings) (env : Environment) :
    (s.override env).others = s.others := by
  unfold override overrideLifetime overridePassword
  split <;> split <;> rfl

theorem secrets_of_gives (s : Settings) (env : Environment) (p : String)
    (h : env.GivesPassword p) :
    (s.override env).secrets = (some p, some (MasterKey.ofPassword p).toHex) := by
  rw [secrets_override, overridePassword_of_gives h]
  rfl

theorem secrets_of_silent (s : Settings) (env : Environment) (h : ∀ p, ¬env.GivesPassword p) :
    (s.override env).secrets = s.secrets := by
  rw [secrets_override, overridePassword_of_silent h]

theorem tokenLifetime_of_gives (s : Settings) (env : Environment) (n : UInt32)
    (h : env.GivesLifetime n) : (s.override env).tokenLifetime = n := by
  rw [override, overrideLifetime_of_gives h]

theorem tokenLifetime_of_silent (s : Settings) (env : Environment)
    (h : ∀ n, ¬env.GivesLifetime n) : (s.override env).tokenLifetime = s.tokenLifetime := by
  rw [override, overrideLifetime_of_silent h, tokenLifetime_overridePassword]

theorem override_override (s : Settings) (env : Environment) :
    (s.override env).override env = s.override env := by
  have hpassword : overridePassword env (overridePassword env s) = overridePassword env s := by
    by_cases hgives : ∃ p, env.GivesPassword p
    · obtain ⟨p, hp⟩ := hgives
      rw [overridePassword_of_gives hp, overridePassword_of_gives hp]
    · rw [overridePassword_of_silent (not_exists.mp hgives),
        overridePassword_of_silent (not_exists.mp hgives)]
  by_cases hgives : ∃ n, env.GivesLifetime n
  · obtain ⟨n, hn⟩ := hgives
    -- A second password step comes behind the lifetime, and is moved to the first.
    have hcommute : ∀ t, overridePassword env { t with tokenLifetime := n } =
        { overridePassword env t with tokenLifetime := n } := by
      intro t
      unfold overridePassword
      split <;> rfl
    rw [override, override, overrideLifetime_of_gives hn, overrideLifetime_of_gives hn, hcommute,
      hpassword]
  · have hsilent := overrideLifetime_of_silent (not_exists.mp hgives)
    rw [override, override, hsilent, hsilent, hpassword]

/-! ### A history of environments -/

theorem follows_foldl (s : Settings) (history : List Environment) :
    s.Follows history (history.foldl override s) := by
  -- No environment gives any of the other members, so each history is silent about them.
  have hnever : Silent (fun _ (_ : Unit) => False) history := fun _ _ _ => id
  have hothers : (history.foldl override s).others = s.others :=
    foldl_of_silent (fun s env _ => others_override s env) hnever s
  constructor
  · intro p hp
    have hsecrets := foldl_of_latest _ secrets_of_gives secrets_of_silent hp s
    exact Prod.mk.inj hsecrets
  · intro hsilent
    have hsecrets := foldl_of_silent secrets_of_silent hsilent s
    exact Prod.mk.inj hsecrets
  · intro n hn
    exact foldl_of_latest id tokenLifetime_of_gives tokenLifetime_of_silent hn s
  · intro hsilent
    exact foldl_of_silent tokenLifetime_of_silent hsilent s
  · exact congrArg Prod.fst hothers
  · exact congrArg (fun t => t.2.1) hothers
  · exact congrArg (fun t => t.2.2) hothers

/-- Over any history the last password counts, with its digest, and the last
lifetime that is a number. Once a password has been given, it and the digest
stand for one key. The last environment may be applied once more. -/
theorem override_history (s : Settings) (history : List Environment) :
    s.Follows history (history.foldl override s) ∧
      (Silent GivesPassword history ∨ ∃ p, Latest GivesPassword history p) ∧
      (Silent GivesLifetime history ∨ ∃ n, Latest GivesLifetime history n) ∧
      (∀ p, Latest GivesPassword history p →
        (history.foldl override s).key = .ok (.ofPassword p) ∧
          ∃ hash, (history.foldl override s).masterHash = some hash ∧
            MasterKey.ofHex? hash = some (.ofPassword p)) ∧
      ∀ before env, history = before ++ [env] →
        (history.foldl override s).override env = history.foldl override s := by
  have hfollows := follows_foldl s history
  refine ⟨hfollows, silent_or_latest _ _, silent_or_latest _ _, ?_, ?_⟩
  · intro p hp
    obtain ⟨hpassword, hhash⟩ := hfollows.password p hp
    exact ⟨key_of_outcome (.password hpassword), _, hhash, MasterKey.ofHex?_toHex _⟩
  · intro before env hlast
    rw [hlast, List.foldl_append, List.foldl_cons, List.foldl_nil, override_override]

end Settings

end SealedToken

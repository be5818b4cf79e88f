import SealedToken.Command.KeySource
import SealedToken.Proofs.Settings.Key

/-! # Which source settles the key

A password on the command line comes before digits on the command line, and
both come before the settings. A source that is asked settles the key, even by
a failure: what comes behind it is not looked at. -/

namespace SealedToken.KeySource

/-- How a command without a terminal comes to its key. -/
inductive Outcome (k : KeySource) (s : Settings) : Except Error MasterKey → Prop
  | password {p : String} (h : k.password = some p) : Outcome k s (.ok (.ofPassword p))
  | digits {text : String} {key : MasterKey} (hpassword : k.password = none)
    (hhex : k.hex = some text) (hkey : key.HasDigits text) : Outcome k s (.ok key)
  | noDigits {text : String} (hpassword : k.password = none) (hhex : k.hex = some text)
    (hbad : ¬MasterKey.IsHexText text) : Outcome k s (.error .hexKeyOption)
  | settings {r : Except Error MasterKey} (hpassword : k.password = none) (hhex : k.hex = none)
    (h : s.KeyOutcome r) : Outcome k s r

variable {k : KeySource} {s : Settings} {typed : Option String}

theorem key_of_hex {text : String} (hprompt : k.prompt = false) (hpassword : k.password = none)
    (hhex : k.hex = some text) :
    k.key s typed = (MasterKey.ofHex? text).elim (.error .hexKeyOption) .ok := by
  simp only [key, hprompt, hpassword, hhex, Bool.false_eq_true, if_false]
  cases MasterKey.ofHex? text <;> rfl

theorem key_of_outcome (hprompt : k.prompt = false) {r : Except Error MasterKey}
    (h : k.Outcome s r) : k.key s typed = r := by
  cases h with
  | password h => simp only [key, hprompt, h, Bool.false_eq_true, if_false]
  | digits hpassword hhex hkey =>
    rw [key_of_hex hprompt hpassword hhex, MasterKey.ofHex?_eq_some_iff.mpr hkey]
    rfl
  | noDigits hpassword hhex hbad =>
    rw [key_of_hex hprompt hpassword hhex, MasterKey.ofHex?_eq_none_iff.mpr hbad]
    rfl
  | settings hpassword hhex h =>
    simp only [key, hprompt, hpassword, hhex, Bool.false_eq_true, if_false]
    exact Settings.key_of_outcome h

theorem exists_outcome (k : KeySource) (s : Settings) : ∃ r, k.Outcome s r := by
  cases hpassword : k.password with
  | some p => exact ⟨_, .password hpassword⟩
  | none =>
    cases hhex : k.hex with
    | none =>
      obtain ⟨r, hr⟩ := Settings.exists_keyOutcome s
      exact ⟨r, .settings hpassword hhex hr⟩
    | some text =>
      by_cases htext : MasterKey.IsHexText text
      · obtain ⟨key, hkey⟩ := MasterKey.exists_ofHex?_iff.mpr htext
        exact ⟨_, .digits hpassword hhex (MasterKey.ofHex?_eq_some_iff.mp hkey)⟩
      · exact ⟨_, .noDigits hpassword hhex htext⟩

theorem key_eq_iff (hprompt : k.prompt = false) {r : Except Error MasterKey} :
    k.key s typed = r ↔ k.Outcome s r := by
  constructor
  · intro h
    obtain ⟨r', houtcome⟩ := exists_outcome k s
    rwa [← h, key_of_outcome hprompt houtcome]
  · exact key_of_outcome hprompt

theorem kind_of_key (hprompt : k.prompt = false) {e : Error} (h : k.key s typed = .error e) :
    e.kind = .config := by
  cases (key_eq_iff hprompt).mp h with
  | noDigits => rfl
  | settings _ _ h => exact Settings.kind_of_key (Settings.key_of_outcome h)

/-- The first source that there is settles the key of a command, and every
failure is one of the configuration. Settings lack a source exactly if their
failure says so, and a source of theirs fails only if it is a digest that is
not empty and no row of thirty-two digits. -/
theorem key_precedence (k : KeySource) (s : Settings) (typed : Option String)
    (hprompt : k.prompt = false) :
    (∀ r, k.key s typed = r ↔ k.Outcome s r) ∧
      (∀ e, k.key s typed = .error e → e.kind = .config) ∧
      (∀ e, s.key = .error e → e.kind = .config) ∧
      ((∃ e, s.key = .error e ∧
          e.message = "Configuration error: MASTER_PASSWORD environment variable is required") ↔
        s.hasKeySource = false) ∧
      ((∃ e, s.key = .error e) ∧ s.hasKeySource = true ↔
        s.masterPassword = none ∧
          ∃ hash, s.masterHash = some hash ∧ hash ≠ "" ∧ ¬MasterKey.IsHexText hash) :=
  ⟨fun _ => key_eq_iff hprompt, fun _ => kind_of_key hprompt, fun _ => Settings.kind_of_key,
    Settings.exists_message_key_iff, Settings.exists_error_key_iff⟩

/-- Malformed digits on the command line fail beside settings with a password. -/
theorem key_precedence_malformed :
    key { hex := some "nothex" } { Settings.default with masterPassword := some "pw" } none =
      .error .hexKeyOption := by
  obtain ⟨houtcome, -⟩ := key_precedence { hex := some "nothex" }
    { Settings.default with masterPassword := some "pw" } none rfl
  exact (houtcome _).mpr (.noDigits rfl rfl (by decide))

end SealedToken.KeySource

import SealedToken.Command.Program
import SealedToken.Proofs.Steps

/-! # What a run starts from

Two runs that start from the same files and variables, but for the secrets in
them, look at the same settings but for these secrets, and show the same
events. -/

namespace SealedToken

/-! ### Settings but for secrets -/

namespace Settings

/-- All members but the password and its digest. -/
def withoutSecrets (s : Settings) : Settings :=
  { s with masterPassword := none, masterHash := none }

theorem withoutSecrets_eq_iff {s s' : Settings} :
    s.withoutSecrets = s'.withoutSecrets ↔ s.schemaVersion = s'.schemaVersion ∧
      s.tokenLifetime = s'.tokenLifetime ∧ s.logLevel = s'.logLevel ∧ s.jsonLogs = s'.jsonLogs := by
  simp only [withoutSecrets, Settings.mk.injEq, true_and]

theorem withoutSecrets_overridePassword (env : Environment) (s : Settings) :
    (overridePassword env s).withoutSecrets = s.withoutSecrets := by
  unfold overridePassword
  split <;> rfl

theorem withoutSecrets_overrideLifetime (env : Environment) (s : Settings) :
    (overrideLifetime env s).withoutSecrets = overrideLifetime env s.withoutSecrets := by
  unfold overrideLifetime
  split <;> rfl

theorem withoutSecrets_override {s s' : Settings} {env env' : Environment}
    (h : s.withoutSecrets = s'.withoutSecrets)
    (henv : env lifetimeVariable = env' lifetimeVariable) :
    (s.override env).withoutSecrets = (s'.override env').withoutSecrets := by
  have hlifetime : ∀ t, overrideLifetime env t = overrideLifetime env' t := by
    intro t
    rw [overrideLifetime, overrideLifetime, henv]
  rw [override, override, withoutSecrets_overrideLifetime, withoutSecrets_overrideLifetime,
    withoutSecrets_overridePassword, withoutSecrets_overridePassword, h, hlifetime]

end Settings

/-- The same file, or two files that say the same but for secrets. -/
inductive SettingsFile.SameButSecrets : SettingsFile → SettingsFile → Prop
  | same (f : SettingsFile) : SameButSecrets f f
  | content {b b' : Bytes} {s s' : Settings} (h : Settings.load (.content b) = .ok s)
    (h' : Settings.load (.content b') = .ok s') (hs : s.withoutSecrets = s'.withoutSecrets) :
    SameButSecrets (.content b) (.content b')

theorem SettingsFile.SameButSecrets.load {f f' : SettingsFile} {s s' : Settings}
    (hf : f.SameButSecrets f') (h : Settings.load f = .ok s) (h' : Settings.load f' = .ok s') :
    s.withoutSecrets = s'.withoutSecrets := by
  cases hf with
  | same f =>
    rw [h] at h'
    rw [Except.ok.inj h']
  | content hb hb' hs =>
    rw [h] at hb
    rw [h'] at hb'
    rw [Except.ok.inj hb, Except.ok.inj hb', hs]

/-- The same files and variables but for secrets. What is typed, standard
input, the random bytes and the time are left open. -/
structure Surroundings.SameButSecrets (w w' : Surroundings) : Prop where
  environment : ∀ name, name ≠ Settings.passwordVariable → w.environment name = w'.environment name
  file : ∀ path, (w.file path).SameButSecrets (w'.file path)

theorem SettingsDirectory.ofEnvironment_congr {env env' : Environment}
    (h : ∀ name, name ≠ Settings.passwordVariable → env name = env' name) :
    ofEnvironment env = ofEnvironment env' := by
  have hnonempty : ∀ name, name ≠ Settings.passwordVariable →
      nonempty env name = nonempty env' name := by
    intro name hname
    rw [nonempty, nonempty, h name hname]
  rw [ofEnvironment, ofEnvironment, hnonempty "UNSEAL_CONFIG_DIR" (by decide),
    hnonempty "XDG_CONFIG_HOME" (by decide), hnonempty "HOME" (by decide)]

/-! ### Sessions -/

namespace Session

/-- Sessions in which a command that names its key does the same. -/
structure Agrees (s s' : Session) : Prop where
  directory : s.directory = s'.directory
  settings : s.settings.withoutSecrets = s'.settings.withoutSecrets
  filter : s.filter = s'.filter
  notices : s.notices = s'.notices
  jsonLogs : s.jsonLogs = s'.jsonLogs

theorem start_eq_ok_iff {i : Invocation} {w : Surroundings} {s : Session} :
    start i w = .ok s ↔ ∃ directory loaded, directory? i w = .ok directory ∧
      Settings.load (w.file directory.file) = .ok loaded ∧
      s = {
        directory := directory
        file := w.file directory.file
        settings := loaded.override w.environment
        filter := (chooseFilter w.environment
          (i.logLevel.getD (loaded.override w.environment).logLevel)).1
        notices := (chooseFilter w.environment
          (i.logLevel.getD (loaded.override w.environment).logLevel)).2
        jsonLogs := i.jsonLogs || (loaded.override w.environment).jsonLogs } := by
  simp only [start, bind_eq_ok_iff]
  constructor
  · rintro ⟨directory, hdirectory, loaded, hloaded, h⟩
    exact ⟨directory, loaded, hdirectory, hloaded, (Except.ok.inj h).symm⟩
  · rintro ⟨directory, loaded, hdirectory, hloaded, rfl⟩
    exact ⟨directory, hdirectory, loaded, hloaded, rfl⟩

theorem start_eq_error_iff {i : Invocation} {w : Surroundings} {err : Error} :
    start i w = .error err ↔ directory? i w = .error err ∨
      ∃ directory, directory? i w = .ok directory ∧
        Settings.load (w.file directory.file) = .error err := by
  cases hdirectory : directory? i w with
  | error err' => simp [start, hdirectory, bind, Except.bind]
  | ok directory =>
    cases hload : Settings.load (w.file directory.file) with
    | error err' => simp [start, hdirectory, hload, bind, Except.bind]
    | ok loaded => simp [start, hdirectory, hload, bind, Except.bind, pure, Except.pure]

theorem directory?_congr {i i' : Invocation} {w w' : Surroundings}
    (hdirectory : i.directory = i'.directory)
    (henv : ∀ name, name ≠ Settings.passwordVariable → w.environment name = w'.environment name) :
    directory? i w = directory? i' w' := by
  rw [directory?, directory?, hdirectory, SettingsDirectory.ofEnvironment_congr henv]

theorem agrees_of_start {i i' : Invocation} {w w' : Surroundings} {s s' : Session}
    (hdirectory : i.directory = i'.directory) (hlevel : i.logLevel = i'.logLevel)
    (hjson : i.jsonLogs = i'.jsonLogs)
    (henv : ∀ name, name ≠ Settings.passwordVariable → w.environment name = w'.environment name)
    (hfile : ∀ directory, directory? i w = .ok directory →
      (w.file directory.file).SameButSecrets (w'.file directory.file))
    (h : start i w = .ok s) (h' : start i' w' = .ok s') : s.Agrees s' := by
  obtain ⟨directory, loaded, hfound, hload, rfl⟩ := start_eq_ok_iff.mp h
  obtain ⟨directory', loaded', hfound', hload', rfl⟩ := start_eq_ok_iff.mp h'
  have hsame : directory = directory' := by
    rw [← directory?_congr hdirectory henv, hfound] at hfound'
    exact Except.ok.inj hfound'
  subst hsame
  have hloaded := (hfile directory hfound).load hload hload'
  have hlifetime := henv Settings.lifetimeVariable (by decide)
  have hsettings := Settings.withoutSecrets_override hloaded hlifetime
  obtain ⟨-, -, hshown, hform⟩ := Settings.withoutSecrets_eq_iff.mp hsettings
  have hrules := henv "RUST_LOG" (by decide)
  have hchosen : ∀ level, chooseFilter w.environment level = chooseFilter w'.environment level := by
    intro level
    rw [chooseFilter, chooseFilter, hrules]
  have hpair : chooseFilter w.environment
        (i.logLevel.getD (loaded.override w.environment).logLevel) =
      chooseFilter w'.environment
        (i'.logLevel.getD (loaded'.override w'.environment).logLevel) := by
    rw [hchosen, hlevel, hshown]
  exact {
    directory := rfl
    settings := hsettings
    filter := congrArg Prod.fst hpair
    notices := congrArg Prod.snd hpair
    jsonLogs := by rw [hjson, hform] }

/-! ### Outcomes -/

/-- What a run writes, from what its command reported and gave. -/
def outcome (s : Session) (t : Traced String) : Outcome :=
  match t.result with
  | .ok output =>
    ⟨0, output ++ "\n", (s.loadedEvent :: t.events).filter s.filter.shows, s.jsonLogs, s.notices,
      ""⟩
  | .error e =>
    ⟨1, "", (s.loadedEvent :: t.events).filter s.filter.shows, s.jsonLogs, s.notices,
      Outcome.failureText e⟩

theorem run_of_start {i : Invocation} {w : Surroundings} {s : Session} (h : start i w = .ok s) :
    i.run w = s.outcome (i.command.run s w) := by
  rw [Invocation.run, h]
  rfl

theorem Agrees.loadedEvent_eq {s s' : Session} (h : s.Agrees s') :
    s.loadedEvent = s'.loadedEvent := by
  rw [loadedEvent, loadedEvent, h.directory]

/-- Two sessions that agree write the same of what was reported alike. -/
theorem Agrees.outcome_eq {s s' : Session} (h : s.Agrees s') {t t' : Traced String}
    (hevents : t.events = t'.events) {e e' : Error} (hr : t.result = .error e)
    (hr' : t'.result = .error e') (hmessage : e.message = e'.message) :
    s.outcome t = s'.outcome t' := by
  simp only [outcome, hr, hr', h.loadedEvent_eq, hevents, h.filter, h.notices, h.jsonLogs,
    Outcome.failureText, hmessage]

end Session

end SealedToken

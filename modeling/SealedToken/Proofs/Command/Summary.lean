import SealedToken.Proofs.Command.Session
import SealedToken.Proofs.Settings.Document
import SealedToken.Proofs.Settings.Override

/-! # What a summary conceals

Of a secret the summary says only whether there is one, and so does the readable
form of settings. Two runs that look at the same settings and variables, in
which the same secrets are there with whatever contents, write the same. -/

namespace SealedToken

/-! ### Settings but for contents -/

/-- The same, or two texts that are not empty. -/
inductive FilledAlike : Option String → Option String → Prop
  | same (o : Option String) : FilledAlike o o
  | filled {t t' : String} (h : t ≠ "") (h' : t' ≠ "") : FilledAlike (some t) (some t')

theorem FilledAlike.isSome {o o' : Option String} (h : FilledAlike o o') : o.isSome = o'.isSome := by
  cases h <;> rfl

theorem FilledAlike.nonempty {o o' : Option String} (h : FilledAlike o o') :
    FilledAlike (o.filter (· ≠ "")) (o'.filter (· ≠ "")) := by
  have hsome : ∀ t : String, t ≠ "" → (some t).filter (· ≠ "") = some t :=
    fun t ht => if_pos (decide_eq_true ht)
  cases h with
  | same o => exact .same _
  | filled h h' =>
    rw [hsome _ h, hsome _ h']
    exact .filled h h'

namespace Settings

/-- The same but for what the password and the digest are, where there are any. -/
structure SameButContents (s s' : Settings) : Prop where
  rest : s.withoutSecrets = s'.withoutSecrets
  password : s.masterPassword.isSome = s'.masterPassword.isSome
  hash : FilledAlike s.masterHash s'.masterHash

namespace SameButContents

variable {s s' : Settings} {env env' : Environment}

theorem hasKeySource (h : s.SameButContents s') : s.hasKeySource = s'.hasKeySource := by
  rw [Settings.hasKeySource, Settings.hasKeySource, h.password, h.hash.nonempty.isSome]

theorem describe (h : s.SameButContents s') : s.describe = s'.describe := by
  obtain ⟨hversion, hlifetime, hlevel, hform⟩ := withoutSecrets_eq_iff.mp h.rest
  unfold Settings.describe
  rw [hversion, h.password, h.hash.isSome, hlifetime, hlevel, hform]

/-- A password from the environment comes with its digest, which is never empty. -/
theorem overridePassword (h : s.SameButContents s')
    (henv : FilledAlike (env passwordVariable) (env' passwordVariable)) :
    (overridePassword env s).SameButContents (overridePassword env' s') := by
  have hgiven := henv.nonempty
  unfold Settings.overridePassword
  generalize (env passwordVariable).filter (· ≠ "") = given at hgiven ⊢
  generalize (env' passwordVariable).filter (· ≠ "") = given' at hgiven ⊢
  cases hgiven with
  | same given =>
    cases given with
    | none => exact h
    | some password => exact ⟨h.rest, rfl, .same _⟩
  | filled =>
    exact ⟨h.rest, rfl, .filled (MasterKey.toHex_ne_empty _) (MasterKey.toHex_ne_empty _)⟩

theorem override (h : s.SameButContents s')
    (henv : FilledAlike (env passwordVariable) (env' passwordVariable))
    (hlifetime : env lifetimeVariable = env' lifetimeVariable) :
    (s.override env).SameButContents (s'.override env') := by
  obtain ⟨hpassword, hhash⟩ := Prod.mk.inj (secrets_override s env)
  obtain ⟨hpassword', hhash'⟩ := Prod.mk.inj (secrets_override s' env')
  have hgiven := h.overridePassword henv
  refine ⟨withoutSecrets_override h.rest hlifetime, ?_, ?_⟩
  · rw [hpassword, hpassword', hgiven.password]
  · rw [hhash, hhash']
    exact hgiven.hash

end SameButContents

end Settings

/-! ### Files and surroundings -/

/-- The same file, or two files whose settings are the same but for contents. -/
inductive SettingsFile.SameButContents : SettingsFile → SettingsFile → Prop
  | same (f : SettingsFile) : SameButContents f f
  | content {b b' : Bytes} {s s' : Settings} (h : Settings.load (.content b) = .ok s)
    (h' : Settings.load (.content b') = .ok s') (hs : s.SameButContents s') :
    SameButContents (.content b) (.content b')

namespace SettingsFile.SameButContents

variable {f f' : SettingsFile}

theorem isPresent (h : f.SameButContents f') : f.isPresent = f'.isPresent := by
  cases h <;> rfl

theorem sameButSecrets (h : f.SameButContents f') : f.SameButSecrets f' := by
  cases h with
  | same f => exact .same f
  | content h h' hs => exact .content h h' hs.rest

theorem load_error (h : f.SameButContents f') {err : Error} (hf : Settings.load f = .error err) :
    Settings.load f' = .error err := by
  cases h with
  | same f => exact hf
  | content hb hb' hs =>
    rw [hb] at hf
    cases hf

theorem load_ok (h : f.SameButContents f') {s : Settings} (hf : Settings.load f = .ok s) :
    ∃ s', Settings.load f' = .ok s' ∧ s.SameButContents s' := by
  cases h with
  | same f => exact ⟨s, hf, rfl, rfl, .same _⟩
  | content hb hb' hs =>
    rw [hb] at hf
    cases hf
    exact ⟨_, hb', hs⟩

end SettingsFile.SameButContents

/-- What a run of the invocation finds is the same but for contents. What is
typed, standard input, the random bytes and the time are left open, and so are
all files but the one with the settings. -/
structure Surroundings.SameButContents (i : Invocation) (w w' : Surroundings) : Prop where
  environment : ∀ name, name ≠ Settings.passwordVariable → w.environment name = w'.environment name
  password : FilledAlike (w.environment Settings.passwordVariable)
    (w'.environment Settings.passwordVariable)
  file : ∀ directory, Session.directory? i w = .ok directory →
    (w.file directory.file).SameButContents (w'.file directory.file)

/-! ### Runs -/

namespace Session

variable {i : Invocation} {w w' : Surroundings} {s s' : Session}

theorem summary_eq (h : s.Agrees s') (hfile : s.file.isPresent = s'.file.isPresent)
    (hsettings : s.settings.SameButContents s'.settings) : s.summary = s'.summary := by
  obtain ⟨-, hlifetime, hlevel, hform⟩ := Settings.withoutSecrets_eq_iff.mp h.settings
  rw [summary, summary, h.directory, hfile, hlevel, hform, hlifetime, hsettings.hasKeySource]

theorem start_error (hw : w.SameButContents i w') {err : Error} (h : start i w = .error err) :
    start i w' = .error err := by
  rw [start_eq_error_iff, ← directory?_congr rfl hw.environment]
  rcases start_eq_error_iff.mp h with hnone | ⟨directory, hfound, hload⟩
  · exact .inl hnone
  · exact .inr ⟨directory, hfound, (hw.file directory hfound).load_error hload⟩

theorem start_ok (hw : w.SameButContents i w') (h : start i w = .ok s) :
    ∃ s', start i w' = .ok s' ∧ s.Agrees s' ∧ s.summary = s'.summary := by
  obtain ⟨directory, loaded, hfound, hload, hs⟩ := start_eq_ok_iff.mp h
  have hfile := hw.file directory hfound
  obtain ⟨loaded', hload', hloaded⟩ := hfile.load_ok hload
  have hfound' : directory? i w' = .ok directory := by
    rw [← directory?_congr rfl hw.environment, hfound]
  have hlifetime := hw.environment Settings.lifetimeVariable (by decide)
  have h' := start_eq_ok_iff.mpr ⟨directory, loaded', hfound', hload', rfl⟩
  have hagrees := agrees_of_start rfl rfl rfl hw.environment
    (fun directory hfound => (hw.file directory hfound).sameButSecrets) h h'
  refine ⟨_, h', hagrees, summary_eq hagrees ?_ ?_⟩
  · rw [hs]
    exact hfile.isPresent
  · rw [hs]
    exact hloaded.override hw.password hlifetime

/-- Sessions that agree write the same of what was given alike. -/
theorem Agrees.outcome_silent (h : s.Agrees s') (output : String) :
    s.outcome (.silent (.ok output)) = s'.outcome (.silent (.ok output)) := by
  simp only [outcome, Traced.silent, h.loadedEvent_eq, h.filter, h.notices, h.jsonLogs]

end Session

/-- Neither a summary nor anything written with it depends on what a secret is. -/
theorem summary_conceals_contents {args : List String} {i : Invocation} {w w' : Surroundings}
    (hargs : Invocation.parse args = .ok i) (hcommand : i.command = .showSettings)
    (hw : w.SameButContents i w') :
    run args w = run args w' ∧
      ∀ directory loaded loaded', Session.directory? i w = .ok directory →
        Settings.load (w.file directory.file) = .ok loaded →
        Settings.load (w'.file directory.file) = .ok loaded' →
        loaded.describe = loaded'.describe ∧
          (loaded.override w.environment).describe = (loaded'.override w'.environment).describe := by
  constructor
  · have hrun : ∀ u, run args u = i.run u := fun u => by rw [run, hargs]
    rw [hrun, hrun]
    cases h : Session.start i w with
    | error err => rw [Invocation.run, Invocation.run, h, Session.start_error hw h]
    | ok s =>
      obtain ⟨s', h', hagrees, hsummary⟩ := Session.start_ok hw h
      rw [Session.run_of_start h, Session.run_of_start h', hcommand]
      simp only [Command.run, hsummary]
      exact hagrees.outcome_silent _
  · intro directory loaded loaded' hfound hload hload'
    obtain ⟨loaded'', hsame, hloaded⟩ := (hw.file directory hfound).load_ok hload
    rw [hload'] at hsame
    cases hsame
    have hlifetime := hw.environment Settings.lifetimeVariable (by decide)
    exact ⟨hloaded.describe, (hloaded.override hw.password hlifetime).describe⟩

/-! ### Two sets of secrets -/

def secretMembers (password digest : String) : List (String × Json.Leaf) := [
  ("master_password", .text password), ("master_password_md5_hash", .text digest)]

theorem load_secretMembers (password digest : String) :
    Settings.load (.content (Utf8.encode (Json.written (secretMembers password digest)))) =
      .ok ⟨1, some password, some digest, 10, "warn", false⟩ := by
  have htext : ∀ t : String, Json.OptionalTextForm (some t) (Json.Leaf.text t).bytes :=
    fun t => .text ⟨_, Json.stringText_escapedBytes t, Json.Leaf.bytes_text t⟩
  exact (Settings.load_object_iff (Json.objectOf_leaves _)).mpr
    ⟨.absent, .present (htext password), .present (htext digest), .absent, .absent, .absent⟩

/-- A password in the environment, and another one in the file with a digest. -/
def withSecrets (given password digest : String) : Surroundings where
  environment name := if name = Settings.passwordVariable then some given else none
  file _ := .content (Utf8.encode (Json.written (secretMembers password digest)))
  typed := none
  input := []
  random _ := 0
  now := 0

theorem sameButContents_withSecrets {given given' digest digest' : String} (h : given ≠ "")
    (h' : given' ≠ "") (hdigest : digest ≠ "") (hdigest' : digest' ≠ "") (i : Invocation)
    (password password' : String) :
    (withSecrets given password digest).SameButContents i
      (withSecrets given' password' digest') where
  environment _ hname := (if_neg hname).trans (if_neg hname).symm
  password := .filled h h'
  file _ _ := .content (load_secretMembers password digest) (load_secretMembers password' digest')
    ⟨rfl, rfl, .filled hdigest hdigest'⟩

/-- Also a digest that is none is concealed, and a password without a character. -/
theorem summary_conceals_contents_malformed :
    run ["--config-dir", "cfg", "--log-level", "trace", "config"]
        (withSecrets "secret" "" "no digest") =
      run ["--config-dir", "cfg", "--log-level", "trace", "config"]
        (withSecrets "letmein" "hunter2" "00112233445566778899aabbccddeeff") ∧
      (Settings.mk 1 (some "") (some "no digest") 10 "warn" false).describe =
        (Settings.mk 1 (some "hunter2") (some "00112233445566778899aabbccddeeff") 10 "warn"
          false).describe := by
  have hparse : Invocation.parse ["--config-dir", "cfg", "--log-level", "trace", "config"] =
      .ok ⟨some "cfg", some "trace", false, .showSettings⟩ := by decide +kernel
  have hsame : (withSecrets "secret" "" "no digest").SameButContents
      ⟨some "cfg", some "trace", false, .showSettings⟩
      (withSecrets "letmein" "hunter2" "00112233445566778899aabbccddeeff") :=
    sameButContents_withSecrets (by decide) (by decide) (by decide) (by decide) _ _ _
  obtain ⟨hrun, hdescribe⟩ := summary_conceals_contents hparse rfl hsame
  exact ⟨hrun, (hdescribe ⟨"cfg"⟩ _ _ rfl (load_secretMembers _ _) (load_secretMembers _ _)).1⟩

end SealedToken

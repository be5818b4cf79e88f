import SealedToken.Proofs.Key.Master
import SealedToken.Settings

/-! # The key of the settings

A password settles the key, even an empty one; without a password a digest
does, unless it is empty. Settings without a key are those that have no source
for one, and those whose digest is no row of thirty-two digits. -/

namespace SealedToken.Settings

/-- How the settings settle the key. -/
inductive KeyOutcome (s : Settings) : Except Error MasterKey → Prop
  | password {p : String} (h : s.masterPassword = some p) : KeyOutcome s (.ok (.ofPassword p))
  | digest {hash : String} {key : MasterKey} (hpassword : s.masterPassword = none)
    (hhash : s.masterHash = some hash) (hne : hash ≠ "") (hkey : key.HasDigits hash) :
    KeyOutcome s (.ok key)
  | noDigest {hash : String} (hpassword : s.masterPassword = none)
    (hhash : s.masterHash = some hash) (hne : hash ≠ "") (hbad : ¬MasterKey.IsHexText hash) :
    KeyOutcome s (.error .settingsHash)
  | nothing (hpassword : s.masterPassword = none)
    (hhash : ∀ hash, s.masterHash = some hash → hash = "") : KeyOutcome s (.error .noKeySource)

variable {s : Settings}

theorem key_of_hash {hash : String} (hpassword : s.masterPassword = none)
    (hhash : s.masterHash = some hash) (hne : hash ≠ "") :
    s.key = (MasterKey.ofHex? hash).elim (.error .settingsHash) .ok := by
  have hfilter : (some hash).filter (· ≠ "") = some hash := by simp [hne]
  simp only [key, hpassword, hhash, hfilter]
  cases MasterKey.ofHex? hash <;> rfl

theorem filter_hash_eq_none_iff :
    s.masterHash.filter (· ≠ "") = none ↔ ∀ hash, s.masterHash = some hash → hash = "" := by
  simp [Option.filter_eq_none_iff]

theorem key_of_outcome {r : Except Error MasterKey} (h : s.KeyOutcome r) : s.key = r := by
  cases h with
  | password h => simp only [key, h]
  | digest hpassword hhash hne hkey =>
    rw [key_of_hash hpassword hhash hne, MasterKey.ofHex?_eq_some_iff.mpr hkey]
    rfl
  | noDigest hpassword hhash hne hbad =>
    rw [key_of_hash hpassword hhash hne, MasterKey.ofHex?_eq_none_iff.mpr hbad]
    rfl
  | nothing hpassword hhash => simp only [key, hpassword, filter_hash_eq_none_iff.mpr hhash]

theorem exists_keyOutcome (s : Settings) : ∃ r, s.KeyOutcome r := by
  cases hpassword : s.masterPassword with
  | some p => exact ⟨_, .password hpassword⟩
  | none =>
    by_cases hsource : ∀ hash, s.masterHash = some hash → hash = ""
    · exact ⟨_, .nothing hpassword hsource⟩
    · simp only [not_forall] at hsource
      obtain ⟨hash, hhash, hne⟩ := hsource
      by_cases hhex : MasterKey.IsHexText hash
      · obtain ⟨key, hkey⟩ := MasterKey.exists_ofHex?_iff.mpr hhex
        exact ⟨_, .digest hpassword hhash hne (MasterKey.ofHex?_eq_some_iff.mp hkey)⟩
      · exact ⟨_, .noDigest hpassword hhash hne hhex⟩

theorem key_eq_iff {r : Except Error MasterKey} : s.key = r ↔ s.KeyOutcome r := by
  constructor
  · intro h
    obtain ⟨r', houtcome⟩ := exists_keyOutcome s
    rwa [← h, key_of_outcome houtcome]
  · exact key_of_outcome

/-! ### Failures -/

theorem kind_of_key {e : Error} (h : s.key = .error e) : e.kind = .config := by
  cases key_eq_iff.mp h with
  | noDigest => rfl
  | nothing => rfl

theorem hasKeySource_eq_false_iff :
    s.hasKeySource = false ↔
      s.masterPassword = none ∧ ∀ hash, s.masterHash = some hash → hash = "" := by
  rw [hasKeySource, Bool.or_eq_false_iff, Option.isSome_eq_false_iff, Option.isSome_eq_false_iff,
    Option.isNone_iff_eq_none, Option.isNone_iff_eq_none, filter_hash_eq_none_iff]

/-- Settings lack a source exactly if their failure says so. -/
theorem exists_message_key_iff :
    (∃ e, s.key = .error e ∧
        e.message = "Configuration error: MASTER_PASSWORD environment variable is required") ↔
      s.hasKeySource = false := by
  rw [hasKeySource_eq_false_iff]
  constructor
  · intro h
    obtain ⟨e, he, hmessage⟩ := h
    cases key_eq_iff.mp he with
    | noDigest => exact absurd hmessage (by decide)
    | nothing hpassword hhash => exact ⟨hpassword, hhash⟩
  · intro h
    exact ⟨.noKeySource, key_of_outcome (.nothing h.1 h.2), rfl⟩

/-- Settings with a source have no key exactly if the digest they rest on is malformed. -/
theorem exists_error_key_iff :
    (∃ e, s.key = .error e) ∧ s.hasKeySource = true ↔
      s.masterPassword = none ∧
        ∃ hash, s.masterHash = some hash ∧ hash ≠ "" ∧ ¬MasterKey.IsHexText hash := by
  rw [← Bool.not_eq_false, hasKeySource_eq_false_iff]
  constructor
  · intro h
    obtain ⟨⟨e, he⟩, hsource⟩ := h
    cases key_eq_iff.mp he with
    | noDigest hpassword hhash hne hbad => exact ⟨hpassword, _, hhash, hne, hbad⟩
    | nothing hpassword hhash => exact absurd ⟨hpassword, hhash⟩ hsource
  · intro h
    obtain ⟨hpassword, hash, hhash, hne, hbad⟩ := h
    refine ⟨⟨_, key_of_outcome (.noDigest hpassword hhash hne hbad)⟩, ?_⟩
    intro hnothing
    exact hne (hnothing.2 hash hhash)

end SealedToken.Settings

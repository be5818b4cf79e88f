import SealedToken.Proofs.Documents
import SealedToken.Proofs.Json.Columns

/-! # Settings as they are written

A settings file is an object with up to six members, each of its own kind and
with a default. Which other members stand in the file, and the order of all of
them, is of no account. -/

namespace SealedToken

/-! ### Members with a default -/

/-- A value, or the default where there is none. -/
inductive Once {β : Type} (form : β → Bytes → Prop) (fallback : β) : List Bytes → β → Prop
  | absent : Once form fallback [] fallback
  | present {a : β} {raw : Bytes} (h : form a raw) : Once form fallback [raw] a

section

variable {β : Type} {form : β → Bytes → Prop} {fallback a : β} {raws raws' : List Bytes}

theorem once_iff_fills :
    Once form fallback raws a ↔ ∃ slot, Json.Fills form none raws slot ∧ slot.getD fallback = a := by
  constructor
  · intro h
    cases h with
    | absent => exact ⟨none, .left, rfl⟩
    | present h => exact ⟨some a, .filled h, rfl⟩
  · rintro ⟨slot, hfill, rfl⟩
    cases hfill with
    | left => exact .absent
    | filled h => exact .present h

theorem exists_once_iff :
    (∃ a, Once form fallback raws a) ↔ raws.length ≤ 1 ∧ ∀ raw ∈ raws, ∃ a, form a raw := by
  -- No value, one value, and more than one.
  rcases raws with - | ⟨raw, - | ⟨raw', raws⟩⟩
  · exact ⟨fun _ => ⟨Nat.zero_le 1, List.forall_mem_nil _⟩, fun _ => ⟨fallback, .absent⟩⟩
  · constructor
    · rintro ⟨a, ⟨⟩ | ⟨h⟩⟩
      exact ⟨Nat.le_refl 1, List.forall_mem_singleton.mpr ⟨a, h⟩⟩
    · rintro ⟨-, h⟩
      obtain ⟨a, ha⟩ := List.forall_mem_singleton.mp h
      exact ⟨a, .present ha⟩
  · constructor
    · rintro ⟨a, ⟨⟩⟩
    · rintro ⟨h, -⟩
      simp only [List.length_cons] at h
      omega

theorem Once.perm (h : Once form fallback raws a) (hraws : raws.Perm raws') :
    Once form fallback raws' a := by
  cases h with
  | absent =>
    rw [List.nil_perm.mp hraws]
    exact .absent
  | present h =>
    rw [← List.singleton_perm.mp hraws]
    exact .present h

end

namespace Settings

open Json (ObjectOf TextForm OptionalTextForm FlagForm WordForm values)

/-! ### The file -/

def columns : List (Json.Column Slots) := [
  ⟨"schema_version", false, UInt32, Slots.schemaVersion,
    fun s v => { s with schemaVersion := some v }, Json.fieldWord, WordForm⟩,
  ⟨"master_password", false, Option String, Slots.masterPassword,
    fun s v => { s with masterPassword := some v }, Json.fieldOptionalText, OptionalTextForm⟩,
  ⟨"master_password_md5_hash", false, Option String, Slots.masterHash,
    fun s v => { s with masterHash := some v }, Json.fieldOptionalText, OptionalTextForm⟩,
  ⟨"registration_token_ttl_sec", false, UInt32, Slots.tokenLifetime,
    fun s v => { s with tokenLifetime := some v }, Json.fieldWord, WordForm⟩,
  ⟨"log_level", false, String, Slots.logLevel,
    fun s v => { s with logLevel := some v }, Json.fieldText, TextForm⟩,
  ⟨"json_logs", false, Bool, Slots.jsonLogs,
    fun s v => { s with jsonLogs := some v }, Json.fieldFlag, FlagForm⟩]

theorem forall_columns {P : Json.Column Slots → Prop} : (∀ c ∈ columns, P c) ↔
    P columns[0] ∧ P columns[1] ∧ P columns[2] ∧ P columns[3] ∧ P columns[4] ∧ P columns[5] := by
  simp [columns]

theorem laidOut : Json.LaidOut layout columns where
  fields := rfl
  settles := forall_columns.mpr ⟨Json.fieldWord_settles, Json.fieldOptionalText_settles,
    Json.fieldOptionalText_settles, Json.fieldWord_settles, Json.fieldText_settles,
    Json.fieldFlag_settles⟩
  names := by decide
  get_set := by simp [columns]
  get_set_other := by simp [columns]
  ext := by
    rintro ⟨⟩ ⟨⟩
    simp [columns]

/-- Every member stands there at most once, with a value of its kind. -/
def Acceptable (ms : List (String × Bytes)) : Prop :=
  ∀ c ∈ columns, (values ms c.name).length ≤ 1 ∧ ∀ raw ∈ values ms c.name, ∃ a, c.form a raw

/-- The settings that members stand for, with defaults for those that are absent. -/
structure Spelled (ms : List (String × Bytes)) (s : Settings) : Prop where
  schemaVersion : Once WordForm 1 (values ms "schema_version") s.schemaVersion
  masterPassword : Once OptionalTextForm none (values ms "master_password") s.masterPassword
  masterHash : Once OptionalTextForm none (values ms "master_password_md5_hash") s.masterHash
  tokenLifetime : Once WordForm 10 (values ms "registration_token_ttl_sec") s.tokenLifetime
  logLevel : Once TextForm "warn" (values ms "log_level") s.logLevel
  jsonLogs : Once FlagForm false (values ms "json_logs") s.jsonLogs

variable {ms ms' : List (String × Bytes)} {s : Settings} {t t' : String}

theorem spelled_iff_allFill :
    Spelled ms s ↔ ∃ slots, Json.AllFill columns layout.start ms slots ∧ ofSlots slots = s := by
  -- A slot that stays free is where a default comes in, one member at a time.
  constructor
  · rintro ⟨hversion, hpassword, hhash, hlifetime, hlevel, hlogs⟩
    obtain ⟨version, hversion, hversion'⟩ := once_iff_fills.mp hversion
    obtain ⟨password, hpassword, hpassword'⟩ := once_iff_fills.mp hpassword
    obtain ⟨hash, hhash, hhash'⟩ := once_iff_fills.mp hhash
    obtain ⟨lifetime, hlifetime, hlifetime'⟩ := once_iff_fills.mp hlifetime
    obtain ⟨level, hlevel, hlevel'⟩ := once_iff_fills.mp hlevel
    obtain ⟨logs, hlogs, hlogs'⟩ := once_iff_fills.mp hlogs
    refine ⟨⟨version, password, hash, lifetime, level, logs⟩, ?_, ?_⟩
    · exact forall_columns.mpr ⟨hversion, hpassword, hhash, hlifetime, hlevel, hlogs⟩
    · cases s
      exact Settings.mk.injEq .. ▸ ⟨hversion', hpassword', hhash', hlifetime', hlevel', hlogs'⟩
  · rintro ⟨slots, hfill, rfl⟩
    obtain ⟨hversion, hpassword, hhash, hlifetime, hlevel, hlogs⟩ := forall_columns.mp hfill
    exact ⟨once_iff_fills.mpr ⟨_, hversion, rfl⟩, once_iff_fills.mpr ⟨_, hpassword, rfl⟩,
      once_iff_fills.mpr ⟨_, hhash, rfl⟩, once_iff_fills.mpr ⟨_, hlifetime, rfl⟩,
      once_iff_fills.mpr ⟨_, hlevel, rfl⟩, once_iff_fills.mpr ⟨_, hlogs, rfl⟩⟩

theorem exists_spelled_iff : (∃ s, Spelled ms s) ↔ Acceptable ms := by
  rw [Acceptable, forall_columns]
  constructor
  · rintro ⟨s, hversion, hpassword, hhash, hlifetime, hlevel, hlogs⟩
    exact ⟨exists_once_iff.mp ⟨_, hversion⟩, exists_once_iff.mp ⟨_, hpassword⟩,
      exists_once_iff.mp ⟨_, hhash⟩, exists_once_iff.mp ⟨_, hlifetime⟩,
      exists_once_iff.mp ⟨_, hlevel⟩, exists_once_iff.mp ⟨_, hlogs⟩⟩
  · rintro ⟨hversion, hpassword, hhash, hlifetime, hlevel, hlogs⟩
    obtain ⟨version, hversion⟩ := exists_once_iff.mpr hversion
    obtain ⟨password, hpassword⟩ := exists_once_iff.mpr hpassword
    obtain ⟨hash, hhash⟩ := exists_once_iff.mpr hhash
    obtain ⟨lifetime, hlifetime⟩ := exists_once_iff.mpr hlifetime
    obtain ⟨level, hlevel⟩ := exists_once_iff.mpr hlevel
    obtain ⟨logs, hlogs⟩ := exists_once_iff.mpr hlogs
    exact ⟨⟨version, password, hash, lifetime, level, logs⟩, hversion, hpassword, hhash,
      hlifetime, hlevel, hlogs⟩

/-! ### Other members -/

def memberNames : List String := ["schema_version", "master_password", "master_password_md5_hash",
  "registration_token_ttl_sec", "log_level", "json_logs"]

/-- The members that settings have, in the order of the file. -/
def known (ms : List (String × Bytes)) : List (String × Bytes) := ms.filter (·.1 ∈ memberNames)

theorem values_known (ms : List (String × Bytes)) {name : String} (hname : name ∈ memberNames) :
    values (known ms) name = values ms name := by
  rw [values, known, List.filter_filter, values]
  congr 2
  funext m
  by_cases hm : m.1 = name
  · simp [hm, hname]
  · simp [hm]

theorem values_perm {name : String} (hname : name ∈ memberNames) (h : (known ms).Perm (known ms')) :
    (values ms name).Perm (values ms' name) := by
  rw [← values_known ms hname, ← values_known ms' hname]
  exact (h.filter _).map _

theorem Spelled.perm (h : Spelled ms s) (hms : (known ms).Perm (known ms')) : Spelled ms' s where
  schemaVersion := h.schemaVersion.perm (values_perm (by decide) hms)
  masterPassword := h.masterPassword.perm (values_perm (by decide) hms)
  masterHash := h.masterHash.perm (values_perm (by decide) hms)
  tokenLifetime := h.tokenLifetime.perm (values_perm (by decide) hms)
  logLevel := h.logLevel.perm (values_perm (by decide) hms)
  jsonLogs := h.jsonLogs.perm (values_perm (by decide) hms)

/-! ### Loading -/

theorem kind_of_parse {text : Bytes} {err : Error} (h : parse text = .error err) :
    err.kind = .config := by
  obtain ⟨refusal, -, rfl⟩ := mapError_eq_error_iff.mp h
  rfl

theorem missing?_layout (slots : Slots) : layout.missing? slots = none := by
  simp [Json.Record.missing?, layout, Json.Field.of]

theorem load_object_iff (h : ObjectOf ms (Utf8.encode t)) :
    load (.content (Utf8.encode t)) = .ok s ↔ Spelled ms s := by
  rw [load_eq_parse rfl, parse, mapError_eq_ok_iff, Json.map_eq_ok_iff, spelled_iff_allFill]
  simp only [laidOut.parse_iff h, missing?_layout, and_true]

theorem load_object_perm (h : ObjectOf ms (Utf8.encode t)) (h' : ObjectOf ms' (Utf8.encode t'))
    (hms : (known ms).Perm (known ms')) :
    load (.content (Utf8.encode t)) = .ok s ↔ load (.content (Utf8.encode t')) = .ok s := by
  rw [load_object_iff h, load_object_iff h']
  exact ⟨fun hs => hs.perm hms, fun hs => hs.perm hms.symm⟩

theorem load_of_not_text {b : Bytes} (h : ∀ t, b ≠ Utf8.encode t) :
    load (.content b) = .error .settingsEncoding := by
  cases hb : Utf8.decode b with
  | ok t => exact absurd (Utf8.decode_eq_ok_iff.mp hb) (h t)
  | error e => simp only [load, hb]

theorem load_empty : load (.content (Utf8.encode (Json.written []))) = .ok default :=
  (load_object_iff (Json.objectOf_leaves [])).mpr
    ⟨.absent, .absent, .absent, .absent, .absent, .absent⟩

/-- A file that is an object gives settings if every member stands there at most
once with a value of its kind; these are its values, and defaults for the rest.
Other members and the order have no part in them. All other objects are faults
of the settings, content that is no text is one of reading, and no file is as
good as an empty object. -/
theorem load_answers_members :
    (∀ t ms, ObjectOf ms (Utf8.encode t) →
      ((∃ s, load (.content (Utf8.encode t)) = .ok s) ↔ Acceptable ms) ∧
        Answers (load (.content (Utf8.encode t))) (Spelled ms) .config ∧
        ∀ t' ms', ObjectOf ms' (Utf8.encode t') → (known ms).Perm (known ms') →
          ∀ s, load (.content (Utf8.encode t)) = .ok s ↔
            load (.content (Utf8.encode t')) = .ok s) ∧
      (∀ b, (∀ t, b ≠ Utf8.encode t) → ∃ err, load (.content b) = .error err ∧ err.kind = .io) ∧
      load .absent = load (.content (Utf8.encode "\x7b\x7d")) := by
  refine ⟨fun t ms h => ⟨?_, ⟨fun s => load_object_iff h, fun err herr => ?_⟩, ?_⟩, ?_, ?_⟩
  · simp only [load_object_iff h, exists_spelled_iff]
  · rw [load_eq_parse rfl] at herr
    exact kind_of_parse herr
  · exact fun t' ms' h' hms s => load_object_perm h h' hms
  · exact fun b hb => ⟨_, load_of_not_text hb, rfl⟩
  · exact load_empty.symm

/-! ### A file with other members -/

/-- Two members of settings, and an object under another name between them. -/
def mixedMembers : List (String × Json.Leaf) := [
  ("log_level", .text "debug"),
  ("notes", .object [("json_logs", .flag true)]),
  ("registration_token_ttl_sec", .integer 30)]

theorem spelled_mixedMembers :
    Spelled (Json.leafMembers mixedMembers) ⟨1, none, none, 30, "debug", false⟩ where
  schemaVersion := .absent
  masterPassword := .absent
  masterHash := .absent
  tokenLifetime := .present ⟨Json.decimalLiteral 30, Json.bytes_integer 30, by decide, ⟨rfl, rfl⟩,
    Json.value_decimal 30⟩
  logLevel := .present ⟨_, Json.stringText_escapedBytes "debug", Json.Leaf.bytes_text "debug"⟩
  jsonLogs := .absent

theorem load_answers_members_of_mixed :
    ObjectOf (Json.leafMembers mixedMembers) (Utf8.encode (Json.written mixedMembers)) ∧
      load (.content (Utf8.encode (Json.written mixedMembers))) =
        .ok ⟨1, none, none, 30, "debug", false⟩ := by
  have hobject := Json.objectOf_leaves mixedMembers
  obtain ⟨-, hanswers, -⟩ := load_answers_members.1 _ _ hobject
  exact ⟨hobject, (hanswers.1 _).mpr spelled_mixedMembers⟩

end Settings

end SealedToken

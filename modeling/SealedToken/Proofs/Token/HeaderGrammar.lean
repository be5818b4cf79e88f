import SealedToken.Proofs.Token.Algorithm
import SealedToken.Proofs.Token.Header
import SealedToken.Proofs.Token.Opening

/-! # The grammar of headers

Which texts are headers. A text is malformed, or it asks for something that is
not supported, or it spells one header; members that no header knows have no
part in the decision. -/

namespace SealedToken.Header

/-! ### What the members say -/

/-- The members that a header is read from. -/
def knownNames : List String := ["alg", "crit", "cty", "enc", "kid", "typ", "zip"]

/-- There is no member of the name, or the last one is null. -/
def Unset (ms : Json.Members) (name : String) : Prop :=
  (∀ v, ¬ms.Holds name v) ∨ ms.Holds name .null

/-- What the last member of the name says as a remark. -/
inductive IsRemark (ms : Json.Members) (name : String) : Option String → Prop
  | text {s : String} (h : ms.Holds name (.text s)) : IsRemark ms name (some s)
  | unset (h : Unset ms name) : IsRemark ms name none

/-- The names of the members that must be understood. -/
inductive AreCritical (ms : Json.Members) : List String → Prop
  | list {names : List String} (h : ms.Holds "crit" (.list (names.map .text))) :
    AreCritical ms names
  | unset (h : Unset ms "crit") : AreCritical ms []

/-- The last members of the known names have the right types, and say this. -/
structure Spells (ms : Json.Members) (d : Draft) : Prop where
  enc : ms.Holds "enc" (.text d.enc)
  alg : ms.Holds "alg" (.text d.alg)
  kid : IsRemark ms "kid" d.kid
  typ : IsRemark ms "typ" d.typ
  cty : IsRemark ms "cty" d.cty
  zip : IsRemark ms "zip" d.zip
  crit : AreCritical ms d.crit

/-- The last member of a known name has a wrong type or is missing. -/
inductive Mistyped (ms : Json.Members) : Prop
  | required {name : String} (known : name ∈ ["enc", "alg"])
    (h : ∀ s, ¬ms.Holds name (.text s)) : Mistyped ms
  | remark {name : String} {v : Json.Value} (known : name ∈ ["kid", "typ", "cty", "zip"])
    (h : ms.Holds name v) (null : v ≠ .null) (text : ∀ s, v ≠ .text s) : Mistyped ms
  | critical {v : Json.Value} (h : ms.Holds "crit" v) (null : v ≠ .null)
    (list : ∀ names : List String, v ≠ .list (names.map .text)) : Mistyped ms

/-- The text is no JSON, or no object, or its members have wrong types. -/
inductive Malformed (text : Bytes) : Prop
  | unreadable (h : ∀ v, ¬Json.Padded (Json.ValueText Json.depthLimit) v text) : Malformed text
  | notObject {v : Json.Value} (h : Json.Padded (Json.ValueText Json.depthLimit) v text)
    (object : ∀ ms, v ≠ .object ms) : Malformed text
  | members {ms : Json.Members} (h : Json.ObjectText Json.depthLimit ms text)
    (mistyped : Mistyped ms) : Malformed text

/-- The first thing that members ask for and that is not supported. -/
inductive Draft.Asks (d : Draft) : Error → Prop
  | compression {name : String} (h : d.zip = some name) : Asks d (.compression name)
  | critical (zip : d.zip = none) (h : d.crit ≠ []) : Asks d (.criticalMembers d.crit)
  | encryption (zip : d.zip = none) (crit : d.crit = [])
    (h : ∀ e : ContentEncryption, d.enc ≠ e.name) : Asks d (.unknownContentEncryption d.enc)
  | management {e : ContentEncryption} (zip : d.zip = none) (crit : d.crit = [])
    (enc : d.enc = e.name) (h : ∀ m : KeyManagement, d.alg ≠ m.name) :
    Asks d (.unknownKeyManagement d.alg)

/-- What the members of a header say. -/
def toDraft (h : Header) : Draft := ⟨h.enc.name, h.alg.name, h.kid, h.typ, h.cty, none, []⟩

/-! ### Single members -/

theorem unset_iff {ms : Json.Members} {name : String} :
    Unset ms name ↔ ms.get? name = none ∨ ms.get? name = some .null := by
  simp only [Unset, ← Json.Members.get?_eq_some_iff, Option.eq_none_iff_forall_ne_some]

theorem textMember_eq_ok_iff {ms : Json.Members} {name : String} {r : Option String} :
    textMember ms name = .ok r ↔
      (∀ v, ¬ms.Holds name v) ∧ r = none ∨ ∃ s, ms.Holds name (.text s) ∧ r = some s := by
  simp only [← Json.Members.get?_eq_some_iff, textMember]
  cases ms.get? name with
  | none => simp [eq_comm]
  | some v => cases v <;> simp [eq_comm]

theorem optionalMember_eq_ok_iff {ms : Json.Members} {name : String} {r : Option String} :
    optionalMember ms name = .ok r ↔ IsRemark ms name r := by
  constructor
  · intro h
    unfold optionalMember at h
    split at h
    · rename_i hget
      cases h
      exact .unset (unset_iff.mpr (.inl hget))
    · rename_i hget
      cases h
      exact .unset (unset_iff.mpr (.inr hget))
    · rename_i s hget
      cases h
      exact .text (Json.Members.get?_eq_some_iff.mp hget)
    · cases h
  · rintro (h | h)
    · rw [optionalMember, Json.Members.get?_eq_some_iff.mpr h]
    · rcases unset_iff.mp h with h | h
      · rw [optionalMember, h]
      · rw [optionalMember, h]

theorem texts_eq_ok_iff {vs : List Json.Value} {names : List String} :
    texts vs = .ok names ↔ vs = names.map .text := by
  induction vs generalizing names with
  | nil => cases names <;> simp [texts]
  | cons v vs ih =>
    cases v with
    | text s =>
      rw [texts, Json.map_eq_ok_iff]
      cases names with
      | nil => simp
      | cons t names => simp [ih, and_comm]
    | _ => cases names <;> simp [texts]

theorem criticalMember_eq_ok_iff {ms : Json.Members} {names : List String} :
    criticalMember ms = .ok names ↔ AreCritical ms names := by
  constructor
  · intro h
    unfold criticalMember at h
    split at h
    · rename_i hget
      cases h
      exact .unset (unset_iff.mpr (.inl hget))
    · rename_i hget
      cases h
      exact .unset (unset_iff.mpr (.inr hget))
    · rename_i vs hget
      rw [texts_eq_ok_iff.mp h] at hget
      exact .list (Json.Members.get?_eq_some_iff.mp hget)
    · cases h
  · rintro (h | h)
    · simp only [criticalMember, Json.Members.get?_eq_some_iff.mpr h, texts_eq_ok_iff]
    · rcases unset_iff.mp h with h | h
      · rw [criticalMember, h]
      · rw [criticalMember, h]

theorem requiredMember_eq_ok_iff {name s : String} {r : Option String} :
    requiredMember name r = .ok s ↔ r = some s := by
  cases r <;> simp [requiredMember]

/-! ### All members -/

/-- The types are right exactly if the members spell what is read. -/
theorem draft_eq_ok_iff {ms : Json.Members} {d : Draft} : draft ms = .ok d ↔ Spells ms d := by
  have htext {name s : String} :
      (∃ r, textMember ms name = .ok r ∧ r = some s) ↔ ms.Holds name (.text s) := by
    simp [textMember_eq_ok_iff]
  obtain ⟨enc, alg, kid, typ, cty, zip, crit⟩ := d
  simp only [draft, bind_eq_ok_iff, criticalMember_eq_ok_iff, optionalMember_eq_ok_iff,
    requiredMember_eq_ok_iff, pure, Except.pure, Except.ok.injEq, Draft.mk.injEq]
  constructor
  · rintro ⟨_, halg, _, hcrit, _, hcty, _, henc, _, hkid, _, htyp, _, hzip, _, rfl, _, rfl,
      rfl, rfl, rfl, rfl, rfl, rfl, rfl⟩
    exact ⟨htext.mp ⟨_, henc, rfl⟩, htext.mp ⟨_, halg, rfl⟩, hkid, htyp, hcty, hzip, hcrit⟩
  · rintro ⟨henc, halg, hkid, htyp, hcty, hzip, hcrit⟩
    obtain ⟨_, henc, rfl⟩ := htext.mpr henc
    obtain ⟨_, halg, rfl⟩ := htext.mpr halg
    exact ⟨_, halg, _, hcrit, _, hcty, _, henc, _, hkid, _, htyp, _, hzip, _, rfl, _, rfl,
      rfl, rfl, rfl, rfl, rfl, rfl, rfl⟩

theorem unset_or_exists (ms : Json.Members) (name : String) :
    Unset ms name ∨ ∃ v, ms.Holds name v ∧ v ≠ .null := by
  by_cases hnull : ms.Holds name .null
  · exact .inl (.inr hnull)
  by_cases hset : ∃ v, ms.Holds name v
  · obtain ⟨v, hv⟩ := hset
    exact .inr ⟨v, hv, fun heq => hnull (heq ▸ hv)⟩
  · exact .inl (.inl (not_exists.mp hset))

theorem exists_isRemark {ms : Json.Members} (h : ¬Mistyped ms) (name : String)
    (known : name ∈ ["kid", "typ", "cty", "zip"]) : ∃ r, IsRemark ms name r := by
  rcases unset_or_exists ms name with hunset | ⟨v, hv, hnull⟩
  · exact ⟨_, .unset hunset⟩
  by_cases htext : ∃ s, v = .text s
  · obtain ⟨s, rfl⟩ := htext
    exact ⟨_, .text hv⟩
  · exact absurd (.remark known hv hnull (not_exists.mp htext)) h

theorem exists_areCritical {ms : Json.Members} (h : ¬Mistyped ms) :
    ∃ names, AreCritical ms names := by
  rcases unset_or_exists ms "crit" with hunset | ⟨v, hv, hnull⟩
  · exact ⟨_, .unset hunset⟩
  by_cases hlist : ∃ names : List String, v = .list (names.map .text)
  · obtain ⟨names, rfl⟩ := hlist
    exact ⟨_, .list hv⟩
  · exact absurd (.critical hv hnull (not_exists.mp hlist)) h

theorem exists_spells {ms : Json.Members} (h : ¬Mistyped ms) : ∃ d, Spells ms d := by
  have hrequired (name : String) (known : name ∈ ["enc", "alg"]) :
      ∃ s, ms.Holds name (.text s) := by
    by_contra hnone
    exact h (.required known (not_exists.mp hnone))
  obtain ⟨enc, henc⟩ := hrequired "enc" (by decide)
  obtain ⟨alg, halg⟩ := hrequired "alg" (by decide)
  obtain ⟨kid, hkid⟩ := exists_isRemark h "kid" (by decide)
  obtain ⟨typ, htyp⟩ := exists_isRemark h "typ" (by decide)
  obtain ⟨cty, hcty⟩ := exists_isRemark h "cty" (by decide)
  obtain ⟨zip, hzip⟩ := exists_isRemark h "zip" (by decide)
  obtain ⟨crit, hcrit⟩ := exists_areCritical h
  exact ⟨⟨enc, alg, kid, typ, cty, zip, crit⟩, henc, halg, hkid, htyp, hcty, hzip, hcrit⟩

theorem IsRemark.null_or_text {ms : Json.Members} {name : String} {r : Option String}
    {v : Json.Value} (h : IsRemark ms name r) (hv : ms.Holds name v) :
    v = .null ∨ ∃ s, v = .text s := by
  cases h with
  | text h => exact .inr ⟨_, hv.unique h⟩
  | unset h =>
    rcases h with h | h
    · exact absurd hv (h v)
    · exact .inl (hv.unique h)

theorem AreCritical.null_or_list {ms : Json.Members} {names : List String} {v : Json.Value}
    (h : AreCritical ms names) (hv : ms.Holds "crit" v) :
    v = .null ∨ ∃ names : List String, v = .list (names.map .text) := by
  cases h with
  | list h => exact .inr ⟨_, hv.unique h⟩
  | unset h =>
    rcases h with h | h
    · exact absurd hv (h v)
    · exact .inl (hv.unique h)

theorem Spells.not_mistyped {ms : Json.Members} {d : Draft} (h : Spells ms d) : ¬Mistyped ms := by
  intro hms
  cases hms with
  | required known hnone =>
    simp only [List.mem_cons, List.not_mem_nil, or_false] at known
    rcases known with rfl | rfl
    · exact hnone _ h.enc
    · exact hnone _ h.alg
  | @remark name v known hv null text =>
    have hremark : ∃ r, IsRemark ms name r := by
      simp only [List.mem_cons, List.not_mem_nil, or_false] at known
      rcases known with rfl | rfl | rfl | rfl
      · exact ⟨_, h.kid⟩
      · exact ⟨_, h.typ⟩
      · exact ⟨_, h.cty⟩
      · exact ⟨_, h.zip⟩
    obtain ⟨r, hr⟩ := hremark
    rcases hr.null_or_text hv with hv | ⟨s, hv⟩
    · exact null hv
    · exact text s hv
  | critical hv null list =>
    rcases h.crit.null_or_list hv with hv | ⟨names, hv⟩
    · exact null hv
    · exact list names hv

/-! ### What is supported -/

theorem ofDraft_eq_ok_iff {d : Draft} {h : Header} : ofDraft d = .ok h ↔ d = h.toDraft := by
  constructor
  · intro hread
    obtain ⟨enc, alg, kid, typ, cty, zip, crit⟩ := d
    cases zip with
    | some name => cases hread
    | none =>
      cases crit with
      | cons name names => cases hread
      | nil =>
        obtain ⟨e, he, hread⟩ := bind_eq_ok_iff.mp hread
        obtain ⟨m, hm, hread⟩ := bind_eq_ok_iff.mp hread
        cases hread
        obtain rfl : enc = e.name := ContentEncryption.parse_name_iff.mp he
        obtain rfl : alg = m.name := KeyManagement.parse_name_iff.mp hm
        rfl
  · rintro rfl
    exact ofDraft_names h

theorem ofDraft_eq_error_iff {d : Draft} {e : Error} : ofDraft d = .error e ↔ d.Asks e := by
  constructor
  · intro hread
    by_cases hzip : d.zip = none
    · by_cases hcrit : d.crit = []
      · simp only [ofDraft, hzip, hcrit] at hread
        rcases bind_eq_error_iff.mp hread with henc | ⟨enc, henc, hread⟩
        · obtain ⟨hname, rfl⟩ := ContentEncryption.parse_eq_error_iff.mp henc
          exact .encryption hzip hcrit hname
        rcases bind_eq_error_iff.mp hread with halg | ⟨alg, -, hread⟩
        · obtain ⟨hname, rfl⟩ := KeyManagement.parse_eq_error_iff.mp halg
          exact .management hzip hcrit (ContentEncryption.parse_name_iff.mp henc) hname
        · cases hread
      · simp only [ofDraft, hzip] at hread
        rw [if_pos hcrit] at hread
        cases hread
        exact .critical hzip hcrit
    · obtain ⟨name, hname⟩ := Option.ne_none_iff_exists'.mp hzip
      simp only [ofDraft, hname] at hread
      cases hread
      exact .compression hname
  · intro h
    cases h with
    | compression h =>
      simp only [ofDraft, h]
      rfl
    | critical zip h =>
      simp only [ofDraft, zip]
      rw [if_pos h]
      rfl
    | encryption zip crit h =>
      have henc := ContentEncryption.parse_eq_error_iff.mpr ⟨h, rfl⟩
      simp only [ofDraft, zip, crit, henc]
      rfl
    | management zip crit enc h =>
      have henc := ContentEncryption.parse_name_iff.mpr enc
      have halg := KeyManagement.parse_eq_error_iff.mpr ⟨h, rfl⟩
      simp only [ofDraft, zip, crit, henc, halg]
      rfl

theorem Draft.Asks.kind {d : Draft} {e : Error} (h : d.Asks e) : e.kind = .unsupported := by
  cases h <;> rfl

/-! ### Texts -/

section

variable {text : Bytes} {ms : Json.Members}

theorem parse_of_object (h : Json.ObjectText Json.depthLimit ms text) :
    parse text = (draft ms).mapError .headerMember >>= ofDraft := by
  have hvalue : Json.Value.parse text = .ok (.object ms) :=
    (Json.value_reads Json.depthLimit).whole_eq_ok_iff.mpr h
  rw [parse, hvalue]

theorem parse_of_spells {d : Draft} (h : Json.ObjectText Json.depthLimit ms text)
    (hd : Spells ms d) : parse text = ofDraft d := by
  rw [parse_of_object h, draft_eq_ok_iff.mpr hd]
  rfl

theorem parse_of_malformed (h : Malformed text) :
    ∃ e, parse text = .error e ∧ e.kind = .parse := by
  cases h with
  | unreadable h =>
    cases hvalue : Json.Value.parse text with
    | error r =>
      rw [parse, hvalue]
      exact ⟨_, rfl, rfl⟩
    | ok v => exact absurd ((Json.value_reads Json.depthLimit).whole_eq_ok_iff.mp hvalue) (h v)
  | @notObject v h object =>
    have hvalue : Json.Value.parse text = .ok v :=
      (Json.value_reads Json.depthLimit).whole_eq_ok_iff.mpr h
    cases v with
    | object ms => exact absurd rfl (object ms)
    | _ =>
      rw [parse, hvalue]
      exact ⟨_, rfl, rfl⟩
  | @members ms h mistyped =>
    rw [parse_of_object h]
    cases hdraft : draft ms with
    | error c => exact ⟨_, rfl, rfl⟩
    | ok d => exact absurd mistyped (draft_eq_ok_iff.mp hdraft).not_mistyped

theorem malformed_or_spells (text : Bytes) :
    Malformed text ∨ ∃ ms d, Json.ObjectText Json.depthLimit ms text ∧ Spells ms d := by
  cases hvalue : Json.Value.parse text with
  | error r =>
    refine .inl (.unreadable fun v hv => ?_)
    have hread : Json.Value.parse text = .ok v :=
      (Json.value_reads Json.depthLimit).whole_eq_ok_iff.mpr hv
    rw [hvalue] at hread
    cases hread
  | ok v =>
    have hv := (Json.value_reads Json.depthLimit).whole_eq_ok_iff.mp hvalue
    cases v with
    | object ms =>
      by_cases hms : Mistyped ms
      · exact .inl (.members hv hms)
      · obtain ⟨d, hd⟩ := exists_spells hms
        exact .inr ⟨ms, d, hv, hd⟩
    | _ => exact .inl (.notObject hv fun ms h => nomatch h)

/-- The other members have no part in what is read. -/
theorem draft_filter (ms : Json.Members) :
    draft (ms.filter (·.1 ∈ knownNames)) = draft ms := by
  have hget (name : String) (known : name ∈ knownNames) :
      Json.Members.get? (ms.filter (·.1 ∈ knownNames)) name = ms.get? name :=
    Json.Members.get?_filter (p := (· ∈ knownNames)) (decide_eq_true known)
  simp only [draft, textMember, optionalMember, criticalMember, hget "alg" (by decide),
    hget "crit" (by decide), hget "cty" (by decide), hget "enc" (by decide),
    hget "kid" (by decide), hget "typ" (by decide), hget "zip" (by decide)]

end

/-- A text is refused as malformed exactly if it is, and for what it asks
exactly if it asks for it first; any other text is read as the header that it
spells. Members of other names change nothing. -/
theorem parse_exact (text : Bytes) :
    ((∃ e, parse text = .error e ∧ e.kind = .parse) ↔ Malformed text) ∧
    (∀ e, parse text = .error e ∧ e.kind = .unsupported ↔
      ∃ ms d, Json.ObjectText Json.depthLimit ms text ∧ Spells ms d ∧ d.Asks e) ∧
    (∀ h, parse text = .ok h ↔
      ∃ ms, Json.ObjectText Json.depthLimit ms text ∧ Spells ms h.toDraft) ∧
    (∀ e, parse text = .error e → e.kind = .parse ∨ e.kind = .unsupported) ∧
    ∀ text' ms ms', Json.ObjectText Json.depthLimit ms text →
      Json.ObjectText Json.depthLimit ms' text' →
      ms.filter (·.1 ∈ knownNames) = ms'.filter (·.1 ∈ knownNames) →
      parse text = parse text' := by
  refine ⟨⟨?_, parse_of_malformed⟩, fun e => ⟨?_, ?_⟩, fun h => ⟨?_, ?_⟩,
    fun e => isRefusal_of_parse, ?_⟩
  · rintro ⟨e, he, hkind⟩
    rcases malformed_or_spells text with hbad | ⟨ms, d, hms, hd⟩
    · exact hbad
    · rw [parse_of_spells hms hd, ofDraft_eq_error_iff] at he
      rw [he.kind] at hkind
      cases hkind
  · rintro ⟨he, hkind⟩
    rcases malformed_or_spells text with hbad | ⟨ms, d, hms, hd⟩
    · obtain ⟨e', he', hkind'⟩ := parse_of_malformed hbad
      rw [he] at he'
      cases he'
      rw [hkind] at hkind'
      cases hkind'
    · rw [parse_of_spells hms hd, ofDraft_eq_error_iff] at he
      exact ⟨ms, d, hms, hd, he⟩
  · rintro ⟨ms, d, hms, hd, hasks⟩
    exact ⟨(parse_of_spells hms hd).trans (ofDraft_eq_error_iff.mpr hasks), hasks.kind⟩
  · intro hread
    rcases malformed_or_spells text with hbad | ⟨ms, d, hms, hd⟩
    · obtain ⟨e, he, -⟩ := parse_of_malformed hbad
      rw [hread] at he
      cases he
    · rw [parse_of_spells hms hd, ofDraft_eq_ok_iff] at hread
      exact ⟨ms, hms, hread ▸ hd⟩
  · rintro ⟨ms, hms, hd⟩
    exact (parse_of_spells hms hd).trans (ofDraft_eq_ok_iff.mpr rfl)
  · intro text' ms ms' hms hms' hsame
    rw [parse_of_object hms, parse_of_object hms', ← draft_filter ms, hsame, draft_filter]

/-- The members of a header without remarks. -/
def bareTexts : List (String × String) := [("enc", "A128GCM"), ("alg", "dir")]

/-- The same among members of other names. -/
def surroundedTexts : List (String × String) :=
  [("note", "a"), ("enc", "A128GCM"), ("Alg", "none"), ("alg", "dir"), ("note", "b")]

theorem parse_surroundedTexts :
    parse (Utf8.encode (Json.written (Json.textLeaves bareTexts))) =
        parse (Utf8.encode (Json.written (Json.textLeaves surroundedTexts))) ∧
      parse (Utf8.encode (Json.written (Json.textLeaves surroundedTexts))) =
        .ok (plain .direct (.gcm .bits128)) := by
  have hbare := Json.objectText_written (Json.depthLimit - 1) bareTexts
  have hsurrounded := Json.objectText_written (Json.depthLimit - 1) surroundedTexts
  obtain ⟨-, -, hok, -, hsame⟩ :=
    parse_exact (Utf8.encode (Json.written (Json.textLeaves bareTexts)))
  have heq := hsame _ _ _ hbare hsurrounded rfl
  have hspells : Spells (Json.textMembers bareTexts) (plain .direct (.gcm .bits128)).toDraft :=
    draft_eq_ok_iff.mp rfl
  exact ⟨heq, heq ▸ (hok _).mpr ⟨_, hbare, hspells⟩⟩

end SealedToken.Header

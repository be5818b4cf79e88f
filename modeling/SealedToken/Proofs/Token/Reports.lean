import SealedToken.Log.Filter
import SealedToken.Proofs.Token.Opening
import SealedToken.Settings

/-! # What opening reports

An envelope that asks for no wrapped key is warned about if it brings one, but
only once the key has been decoded. So two failures under different keys have
one message, and the same warnings unless such an envelope meets a key that
denotes bytes and another that does not. -/

namespace SealedToken

/-! ### Warnings -/

/-- A warning or an error, which is shown unless less is asked for. -/
def Event.IsAlarm (e : Event) : Prop := e.level.verbosity ≤ Level.warn.verbosity

instance (e : Event) : Decidable e.IsAlarm := inferInstanceAs (Decidable (_ ≤ _))

def alarms (es : List Event) : List Event := es.filter fun e => e.IsAlarm

/-- A text without commas is one rule, if it is well formed. -/
theorem LogFilter.lenient_of_word {s : String} {r : LogRule} (hword : s.splitOn "," = [s])
    (hne : s ≠ "") (h : (LogRule.read s).toOption = some r) : lenient s = [r] := by
  have htexts : texts s = [s] := by
    rw [texts, hword]
    exact List.filter_cons_of_pos (by simpa using hne)
  simp only [lenient, htexts, List.filterMap_cons, h, List.filterMap_nil]

/-- The filter of the default settings lets through warnings and errors. -/
theorem filter_shows_default (es : List Event) :
    es.filter (LogFilter.lenient Settings.default.logLevel).shows = alarms es := by
  have hword : "warn".splitOn "," = ["warn"] := by
    rw [String.splitOn, if_neg (by decide)]
    iterate 5 rw [String.splitOnAux]
    decide
  have hread : (LogRule.read "warn").toOption = some ⟨"", Level.warn.verbosity⟩ := by
    decide +kernel
  have hrules : LogFilter.lenient Settings.default.logLevel = [⟨"", Level.warn.verbosity⟩] :=
    LogFilter.lenient_of_word hword (by decide) hread
  refine List.filter_congr fun e _ => ?_
  rw [hrules]
  rfl

theorem Traced.events_bind_ok {α β : Type} {x : Traced α} {a : α} (h : x.result = .ok a)
    (f : α → Traced β) : (x >>= f).events = x.events ++ (f a).events :=
  events_andThen_ok x f a h

theorem Traced.events_bind_silent {α β : Type} (x : Traced α) (f : α → Except Error β) :
    (x >>= fun a => silent (f a)).events = x.events := by
  cases h : x.result with
  | ok a =>
    rw [events_bind_ok h]
    exact List.append_nil _
  | error e => exact congrArg Traced.events (andThen_error x _ e h)

/-! ### Warnings of opening -/

namespace Envelope

/-- An encrypted key came along where none is used. -/
def BringsUnusedKey (e : Envelope) : Prop := e.header.alg = .direct ∧ e.encryptedKey ≠ []

instance (e : Envelope) : Decidable e.BringsUnusedKey := inferInstanceAs (Decidable (_ ∧ _))

theorem events_candidateKey (e : Envelope) (shared : Bytes) :
    (candidateKey e shared).events =
      if e.BringsUnusedKey then [unusedKeyEvent e.encryptedKey] else [] := by
  unfold candidateKey
  split
  · rename_i hm
    by_cases hempty : e.encryptedKey = []
    · rw [if_pos hempty, if_neg fun h => h.2 hempty]
      rfl
    · rw [if_neg hempty, if_pos ⟨hm, hempty⟩]
  · rename_i size hm
    have hnot : ¬e.BringsUnusedKey := by
      rintro ⟨hdirect, -⟩
      rw [hm] at hdirect
      cases hdirect
    rw [if_neg hnot]
    rfl

theorem events_contentKey (e : Envelope) (key : OctetKey) :
    (contentKey e key).events =
      if e.BringsUnusedKey ∧ key.bytes?.isSome then [unusedKeyEvent e.encryptedKey] else [] := by
  unfold contentKey
  cases hb : key.bytes? with
  | none => simp [Traced.fail]
  | some shared =>
    simp only [Option.isSome_some, and_true]
    rw [Traced.events_bind_silent, events_candidateKey]

theorem events_decrypt {e : Envelope} (hn : e.nonce.length = 12) (key : OctetKey) :
    (decrypt e key).events = e.openingEvent :: (contentKey e key).events := by
  show ((Traced.report e.openingEvent).andThen _).events = _
  have hlength : e.nonce.length = Gcm.nonceLength := hn
  rw [Traced.events_andThen_ok _ _ () rfl, if_neg (not_not_intro hlength)]
  rfl

/-- What is reported of an envelope under a key that denotes bytes. -/
def reports (e : Envelope) : List Event :=
  e.openingEvent :: if e.BringsUnusedKey then [unusedKeyEvent e.encryptedKey] else []

theorem events_decryptToken {token : String} {e : Envelope} {key : OctetKey} {shared : Bytes}
    (hs : Spelled token e) (hk : key.Denotes shared) :
    (decryptToken token key).events = e.reports := by
  have hparsed : (Traced.silent (parse token)).result = .ok e := hs.parsed
  have hbytes : key.bytes?.isSome = true := OctetKey.isSome_bytes?_iff.mpr ⟨shared, hk⟩
  rw [decryptToken, Traced.events_bind_ok hparsed, events_decrypt hs.nonce, events_contentKey]
  simp only [hbytes, and_true]
  rfl

/-- The one warning, if the envelope gives cause and the key denotes bytes. -/
theorem alarms_decrypt {e : Envelope} (hn : e.nonce.length = 12) (key : OctetKey) :
    alarms (decrypt e key).events =
      if e.BringsUnusedKey ∧ key.bytes?.isSome then [unusedKeyEvent e.encryptedKey] else [] := by
  have hopening : ¬e.openingEvent.IsAlarm :=
    of_decide_eq_false (p := Level.debug.verbosity ≤ Level.warn.verbosity) rfl
  have hunused : (unusedKeyEvent e.encryptedKey).IsAlarm := Nat.le_refl _
  rw [events_decrypt hn, events_contentKey, alarms,
    List.filter_cons_of_neg (by simpa using hopening)]
  split
  · exact List.filter_cons_of_pos (by simpa using hunused)
  · rfl

/-! ### Two failures -/

theorem error_of_result_decrypt {e : Envelope} {key : OctetKey} {err : Error}
    (hn : e.nonce.length = 12) (h : (decrypt e key).result = .error err) :
    err = .wrongKey ∨ err = .wrongTag := by
  rw [result_decrypt_of_nonce hn] at h
  rcases resolves_or_keyFails e key with ⟨content, hr⟩ | hfails
  · rw [result_decryptWith_of_resolves hr] at h
    exact .inr (runCipher_eq_error_iff.mp h).2
  · rw [result_decryptWith_of_keyFails hfails] at h
    exact .inl (Except.error.inj h).symm

theorem alarms_decrypt_eq_iff {e : Envelope} (hn : e.nonce.length = 12) (key₁ key₂ : OctetKey) :
    alarms (decrypt e key₁).events = alarms (decrypt e key₂).events ↔
      (e.BringsUnusedKey → ((∃ b, key₁.Denotes b) ↔ ∃ b, key₂.Denotes b)) := by
  rw [alarms_decrypt hn, alarms_decrypt hn, ← OctetKey.isSome_bytes?_iff,
    ← OctetKey.isSome_bytes?_iff]
  by_cases hunused : e.BringsUnusedKey
  · cases key₁.bytes?.isSome <;> cases key₂.bytes?.isSome <;> simp [hunused]
  · simp only [hunused, false_and, if_false, false_imp_iff]

/-- Two failures under different keys have one message. Their warnings differ
exactly if the envelope brings an encrypted key where none is used, and one of
the keys denotes bytes and the other does not. -/
theorem decrypt_failures_alike_iff {e : Envelope} {key₁ key₂ : OctetKey} {err₁ err₂ : Error}
    (hn : e.nonce.length = 12) (h₁ : (decrypt e key₁).result = .error err₁)
    (h₂ : (decrypt e key₂).result = .error err₂) :
    err₁.message = err₂.message ∧
      (alarms (decrypt e key₁).events = alarms (decrypt e key₂).events ↔
        (e.header.alg = .direct → e.encryptedKey ≠ [] →
          ((∃ b, key₁.Denotes b) ↔ ∃ b, key₂.Denotes b))) := by
  have hmessage : ∀ err, err = .wrongKey ∨ err = .wrongTag →
      Error.message err = "Decryption failed" := by
    rintro err (rfl | rfl)
    · rfl
    · rfl
  constructor
  · have hfirst := hmessage err₁ (error_of_result_decrypt hn h₁)
    have hsecond := hmessage err₂ (error_of_result_decrypt hn h₂)
    rw [hfirst, hsecond]
  · rw [alarms_decrypt_eq_iff hn, BringsUnusedKey, and_imp]

/-- A direct envelope that brings an encrypted key of four bytes. -/
def withUnusedKey : Envelope :=
  assemble (Header.plain .direct (.gcm .bits128)) [0xDE, 0xAD, 0xBE, 0xEF] (List.replicate 12 0)
    [1, 2, 3] (List.replicate 16 0)

theorem result_decrypt_withUnusedKey :
    (decrypt withUnusedKey (.ofText "AAAAAAAAAAAAAAAAAAAAAA")).result = .error .wrongTag := by
  have hresolves :
      withUnusedKey.Resolves (.ofText "AAAAAAAAAAAAAAAAAAAAAA") (List.replicate 16 0) :=
    .direct rfl ⟨rfl, rfl⟩ rfl
  rw [result_decrypt_of_nonce rfl, result_decryptWith_of_resolves hresolves,
    runCipher_eq_error_iff]
  exact ⟨by decide +kernel, rfl⟩

/-- A key of three bytes and one of sixteen: both leave the warning. -/
theorem decrypt_failures_alike_decoded :
    (decrypt withUnusedKey (.ofText "AAAA")).result = .error .wrongKey ∧
      (decrypt withUnusedKey (.ofText "AAAAAAAAAAAAAAAAAAAAAA")).result = .error .wrongTag ∧
      alarms (decrypt withUnusedKey (.ofText "AAAA")).events =
        alarms (decrypt withUnusedKey (.ofText "AAAAAAAAAAAAAAAAAAAAAA")).events := by
  have h₁ : (decrypt withUnusedKey (.ofText "AAAA")).result = .error .wrongKey := rfl
  have halike := decrypt_failures_alike_iff rfl h₁ result_decrypt_withUnusedKey
  refine ⟨h₁, result_decrypt_withUnusedKey, halike.2.mpr fun _ _ => ?_⟩
  exact iff_of_true ⟨[0, 0, 0], rfl, rfl⟩ ⟨List.replicate 16 0, rfl, rfl⟩

/-- A key of another type leaves no warning and a key of sixteen zero bytes
leaves one, so the two failures are told apart. -/
theorem alarms_tell_undecodable_key :
    ¬∀ (token : String) (e : Envelope) (key₁ key₂ : OctetKey) (err : Error),
        parse token = .ok e → e.nonce.length = 12 →
          (decrypt e key₁).result = .error .wrongKey → (decrypt e key₂).result = .error err →
            err = .wrongKey ∨ err = .wrongTag →
              alarms (decrypt e key₁).events = alarms (decrypt e key₂).events := by
  intro h
  have hparse : parse ("eyJlbmMiOiJBMTI4R0NNIiwiYWxnIjoiZGlyIn0.3q2-7w." ++
      "AAAAAAAAAAAAAAAA.AQID.AAAAAAAAAAAAAAAAAAAAAA") = .ok withUnusedKey :=
    toOption_eq_some_iff.mp (by decide +kernel)
  have h₁ : (decrypt withUnusedKey ⟨"RSA", "AAAAAAAAAAAAAAAAAAAAAA"⟩).result =
      .error .wrongKey := rfl
  have halarms := h _ _ _ _ _ hparse rfl h₁ result_decrypt_withUnusedKey (.inr rfl)
  rw [alarms_decrypt_eq_iff rfl] at halarms
  obtain ⟨b, hb⟩ := (halarms ⟨rfl, List.cons_ne_nil _ _⟩).mpr ⟨List.replicate 16 0, rfl, rfl⟩
  exact absurd hb.type (by decide)

end Envelope

end SealedToken

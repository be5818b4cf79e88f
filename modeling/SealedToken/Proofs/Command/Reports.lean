import SealedToken.Proofs.Command.Open
import SealedToken.Proofs.Command.Seal
import SealedToken.Proofs.Command.Session
import SealedToken.Proofs.Registration.Verification
import SealedToken.Proofs.Token.Reports

/-! # What an opening reports

A rejected token was reported on before its key was found to fail, and nothing
was reported afterwards. So whichever key fails, and wherever it fails, the
run looks the same. -/

namespace SealedToken

/-! ### Two steps -/

namespace Traced

variable {α β : Type} {x : Traced α} {f : α → Traced β}

theorem bind_error {err : Error} (h : (x >>= f).result = .error err) :
    (x.result = .error err ∧ (x >>= f).events = x.events) ∨
      ∃ a, x.result = .ok a ∧ (f a).result = .error err ∧
        (x >>= f).events = x.events ++ (f a).events := by
  rw [result_bind] at h
  rcases bind_eq_error_iff.mp h with hx | ⟨a, ha, hf⟩
  · exact .inl ⟨hx, congrArg events (andThen_error x f err hx)⟩
  · exact .inr ⟨a, ha, hf, events_bind_ok ha f⟩

end Traced

/-! ### Rejections -/

/-- A failure that blames the key or what was sealed with it. -/
def Error.IsRejection (e : Error) : Prop := e.kind = .key ∨ e.kind = .integrity

theorem Error.not_isRejection {e : Error} {k : Kind} (h : e.kind = k)
    (hk : k.isDecryptionFailure = false) : ¬e.IsRejection := by
  rintro (hkey | hintegrity)
  · rw [← h, hkey] at hk
    cases hk
  · rw [← h, hintegrity] at hk
    cases hk

theorem Error.IsRejection.message_eq {e : Error} (h : e.IsRejection) :
    e.message = "Decryption failed" := by
  rcases h with hkind | hkind
  · rw [message, hkind]
    rfl
  · rw [message, hkind]
    rfl

/-- Where the second step never rejects, the first one did. -/
theorem Traced.rejected_of_bind {α β : Type} {x : Traced α} {f : α → Traced β} {err : Error}
    (hf : ∀ a e, (f a).result = .error e → ¬e.IsRejection) (hr : err.IsRejection)
    (h : (x >>= f).result = .error err) :
    x.result = .error err ∧ (x >>= f).events = x.events := by
  rcases bind_error h with hx | ⟨a, -, hfails, -⟩
  · exact hx
  · exact absurd hr (hf a err hfails)

namespace Envelope

theorem exists_spelled_of_rejected {token : String} {key : OctetKey} {err : Error}
    (hr : err.IsRejection) (h : (decryptToken token key).result = .error err) :
    ∃ e, Spelled token e := by
  rcases refused_or_spelled token with ⟨err', hrefused⟩ | hspelled
  · have hsame : err' = err := by
      rw [result_decryptToken_of_refused hrefused] at h
      exact Except.error.inj h
    subst hsame
    rcases hrefused.isRefusal with hkind | hkind
    · exact absurd hr (Error.not_isRejection hkind rfl)
    · exact absurd hr (Error.not_isRejection hkind rfl)
  · exact hspelled

end Envelope

/-! ### Openers -/

namespace Opener

theorem rejected_bytes {o : Opener} {token : String} {err : Error} (hr : err.IsRejection)
    (h : (o.bytes token).result = .error err) :
    (decryptToken token o.key).result = .error err ∧
      (o.bytes token).events = (decryptToken token o.key).events := by
  refine Traced.rejected_of_bind (fun b e hfails => ?_) hr h
  cases hfails

theorem rejected_text {o : Opener} {token : String} {err : Error} (hr : err.IsRejection)
    (h : (o.text token).result = .error err) :
    (o.bytes token).result = .error err ∧ (o.text token).events = (o.bytes token).events := by
  refine Traced.rejected_of_bind (fun b e hfails => ?_) hr h
  obtain ⟨fault, -, rfl⟩ := mapError_eq_error_iff.mp hfails
  exact Error.not_isRejection rfl rfl

theorem rejected_payload {o : Opener} {token : String} {err : Error} (hr : err.IsRejection)
    (h : (o.payload token).result = .error err) :
    (o.bytes token).result = .error err ∧ (o.payload token).events = (o.bytes token).events := by
  refine Traced.rejected_of_bind (fun b e hfails => ?_) hr h
  obtain ⟨refusal, -, rfl⟩ := mapError_eq_error_iff.mp hfails
  exact Error.not_isRejection rfl rfl

theorem rejected_verified {o : Opener} {token : String} {ttl : UInt32} {now : Int} {err : Error}
    (hr : err.IsRejection) (h : (o.verified token ttl now).result = .error err) :
    (o.payload token).result = .error err ∧
      (o.verified token ttl now).events = (o.payload token).events := by
  refine Traced.rejected_of_bind (fun p e hfails => ?_) hr h
  have hkind : e.kind = .verification := by
    obtain ⟨jws⟩ := p
    rw [Payload.result_verify] at hfails
    rcases bind_eq_error_iff.mp hfails with hparse | ⟨t, -, hverify⟩
    · exact SignedToken.kind_of_parse hparse
    · exact SignedToken.kind_of_verify hverify
  exact Error.not_isRejection hkind rfl

end Opener

theorem KeySource.not_isRejection {k : KeySource} {settings : Settings} {typed : Option String}
    {err : Error} (h : k.key settings typed = .error err) : ¬err.IsRejection := by
  have hkind : err.kind = .config ∨ err.kind = .io := by
    unfold key Settings.key at h
    split at h
    · split at h <;> cases h
      exact .inr rfl
    split at h
    · cases h
    split at h
    · split at h <;> cases h
      exact .inl rfl
    split at h
    · cases h
    split at h
    · split at h <;> cases h
      exact .inl rfl
    · cases h
      exact .inl rfl
  rcases hkind with hconfig | hio
  · exact Error.not_isRejection hconfig rfl
  · exact Error.not_isRejection hio rfl

/-! ### Commands -/

namespace OpenCommand

variable {c : OpenCommand} {settings : Settings} {typed : Option String} {input : Bytes}
  {token : String} {now : Int} {err : Error}

theorem not_isRejection_of_readToken (h : c.readToken input = .error err) : ¬err.IsRejection := by
  unfold readToken at h
  cases hcarrier : c.carrier with
  | argument token =>
    rw [hcarrier] at h
    cases h
  | authorization value =>
    have hform : err = .authorizationForm := by
      simp only [hcarrier, Authorization.token] at h
      split at h
      · split at h
        · cases h
        · exact (Except.error.inj h).symm
      · exact (Except.error.inj h).symm
    rw [hform]
    exact Error.not_isRejection rfl rfl
  | input =>
    have hencoding : err = .tokenEncoding := by
      simp only [hcarrier, readInput] at h
      split at h
      · cases h
      · exact (Except.error.inj h).symm
    rw [hencoding]
    exact Error.not_isRejection rfl rfl

theorem rejected_view {m : OpenMode} {o : Opener} (hr : err.IsRejection)
    (h : (view m o settings token now).result = .error err) :
    (o.bytes token).result = .error err ∧
      (view m o settings token now).events = (o.bytes token).events := by
  cases m with
  | text => exact Opener.rejected_text hr h
  | claims =>
    obtain ⟨hpayload, hevents⟩ := Traced.rejected_of_bind (fun p e hfails => by cases hfails) hr h
    obtain ⟨hbytes, hsame⟩ := Opener.rejected_payload hr hpayload
    exact ⟨hbytes, hevents.trans hsame⟩
  | verify ttl =>
    obtain ⟨hverified, hevents⟩ := Traced.rejected_of_bind (fun p e hfails => by cases hfails) hr h
    obtain ⟨hpayload, hsame⟩ := Opener.rejected_verified hr hverified
    obtain ⟨hbytes, hagain⟩ := Opener.rejected_payload hr hpayload
    exact ⟨hbytes, hevents.trans (hsame.trans hagain)⟩

/-- What a command reports of a token that it rejects says nothing of the key. -/
theorem rejected_run (hr : err.IsRejection)
    (h : (c.run settings typed input now).result = .error err) :
    ∃ token e, c.readToken input = .ok token ∧ Envelope.Spelled token e ∧
      (c.run settings typed input now).events = e.reports := by
  rcases Traced.bind_error h with ⟨hkey, -⟩ | ⟨key, -, hfails, hfirst⟩
  · exact absurd hr (KeySource.not_isRejection hkey)
  rcases Traced.bind_error hfails with ⟨hread, -⟩ | ⟨token, hread, hfails, hsecond⟩
  · exact absurd hr (not_isRejection_of_readToken hread)
  obtain ⟨hview, hthird⟩ := Traced.rejected_of_bind (fun p e hdone => by cases hdone) hr hfails
  obtain ⟨hbytes, hfourth⟩ := rejected_view hr hview
  obtain ⟨hdecrypt, hfifth⟩ := Opener.rejected_bytes hr hbytes
  obtain ⟨e, hspelled⟩ := Envelope.exists_spelled_of_rejected hr hdecrypt
  have hreports := Envelope.events_decryptToken hspelled key.denotes
  refine ⟨token, e, hread, hspelled, ?_⟩
  calc (c.run settings typed input now).events
      = (view c.mode (.ofMaster key) settings token now).events := by
        rw [run, hfirst, hsecond, hthird]
        rfl
    _ = (decryptToken token key.toOctetKey).events := by rw [hfourth, hfifth, Opener.ofMaster]
    _ = e.reports := hreports

end OpenCommand

/-! ### Runs -/

/-- A run that gets as far as opening: its arguments ask for it, and its
settings load. -/
structure OpenRun (args : List String) (w : Surroundings) where
  invocation : Invocation
  command : OpenCommand
  session : Session
  parsed : Invocation.parse args = .ok invocation
  opens : invocation.command = .openToken command
  started : Session.start invocation w = .ok session

namespace OpenRun

variable {args args' : List String} {w w' : Surroundings}

def traced (r : OpenRun args w) : Traced String :=
  r.command.run r.session.settings w.typed w.input w.now

theorem run_eq (r : OpenRun args w) : run args w = r.session.outcome r.traced := by
  rw [run, r.parsed]
  show r.invocation.run w = _
  rw [Session.run_of_start r.started, r.opens]
  rfl

/-- Two runs with the same options, and the same files and variables, but for
what concerns the key and the token. -/
structure SameOptions (r : OpenRun args w) (r' : OpenRun args' w') : Prop where
  directory : r.invocation.directory = r'.invocation.directory
  logLevel : r.invocation.logLevel = r'.invocation.logLevel
  jsonLogs : r.invocation.jsonLogs = r'.invocation.jsonLogs
  mode : r.command.mode = r'.command.mode
  surroundings : w.SameButSecrets w'

theorem SameOptions.agrees {r : OpenRun args w} {r' : OpenRun args' w'} (h : r.SameOptions r') :
    r.session.Agrees r'.session :=
  Session.agrees_of_start h.directory h.logLevel h.jsonLogs h.surroundings.environment
    (fun directory _ => h.surroundings.file directory.file) r.started r'.started

/-- Two runs that are given the same token in the same way. -/
structure SameToken (r : OpenRun args w) (r' : OpenRun args' w') : Prop where
  token : r.command.token = r'.command.token
  authorization : r.command.authorization = r'.command.authorization
  input : w.input = w'.input

theorem SameToken.readToken {r : OpenRun args w} {r' : OpenRun args' w'} (h : r.SameToken r') :
    r.command.readToken w.input = r'.command.readToken w'.input := by
  have hcarrier : r.command.carrier = r'.command.carrier := by
    rw [OpenCommand.carrier, OpenCommand.carrier, h.token, h.authorization]
  rw [OpenCommand.readToken, OpenCommand.readToken, hcarrier, h.input]

/-- Two runs that differ in their keys alone and reject the token write the
same: which key was wrong, and where it failed, is not to be seen. -/
theorem rejected_alike (r : OpenRun args w) (r' : OpenRun args' w') (hoptions : r.SameOptions r')
    (htoken : r.SameToken r') {err err' : Error} (h : r.traced.result = .error err)
    (h' : r'.traced.result = .error err') (hr : err.kind = .key ∨ err.kind = .integrity)
    (hr' : err'.kind = .key ∨ err'.kind = .integrity) : run args w = run args' w' := by
  have hrejection : err.IsRejection := hr
  have hrejection' : err'.IsRejection := hr'
  obtain ⟨token, e, hread, hspelled, hevents⟩ := OpenCommand.rejected_run hrejection h
  obtain ⟨token', e', hread', hspelled', hevents'⟩ := OpenCommand.rejected_run hrejection' h'
  have hsame : token = token' := by
    rw [htoken.readToken, hread'] at hread
    exact (Except.ok.inj hread).symm
  subst hsame
  have henvelope : e = e' := by
    have hparsed := hspelled.parsed
    rw [hspelled'.parsed] at hparsed
    exact (Except.ok.inj hparsed).symm
  subst henvelope
  rw [r.run_eq, r'.run_eq]
  apply hoptions.agrees.outcome_eq (hevents.trans hevents'.symm) h h'
  rw [hrejection.message_eq, hrejection'.message_eq]

/-! ### Two wrong keys -/

/-- Neither variables nor files, only standard input. -/
def surroundings (input : Bytes) : Surroundings :=
  ⟨fun _ => none, fun _ => .absent, none, input, fun _ => 0, 0⟩

theorem sameButSecrets_surroundings (input input' : Bytes) :
    (surroundings input).SameButSecrets (surroundings input') where
  environment _ _ := rfl
  file _ := .same _

/-- The run of a command that takes the token from standard input. -/
def ofInput {args : List String} {level : Option String} {c : OpenCommand} (input : Bytes)
    (h : Invocation.parse args = .ok ⟨some "cfg", level, false, .openToken c⟩) :
    OpenRun args (surroundings input) where
  invocation := ⟨some "cfg", level, false, .openToken c⟩
  command := c
  session := _
  parsed := h
  opens := rfl
  started := Session.start_eq_ok_iff.mpr ⟨⟨"cfg"⟩, .default, rfl, rfl, rfl⟩

theorem traced_ofInput {args : List String} {level : Option String} {c : OpenCommand}
    (input : Bytes) (h : Invocation.parse args = .ok ⟨some "cfg", level, false, .openToken c⟩) :
    (ofInput input h).traced = c.run .default none input 0 := rfl

theorem sameOptions_ofInput {args args' : List String} {level : Option String}
    {c c' : OpenCommand} (input input' : Bytes)
    (h : Invocation.parse args = .ok ⟨some "cfg", level, false, .openToken c⟩)
    (h' : Invocation.parse args' = .ok ⟨some "cfg", level, false, .openToken c'⟩)
    (hmode : c.mode = c'.mode) : (ofInput input h).SameOptions (ofInput input' h') where
  directory := rfl
  logLevel := rfl
  jsonLogs := rfl
  mode := hmode
  surroundings := sameButSecrets_surroundings input input'

/-- A direct envelope for longer keys than there are. -/
def longKeyToken : String :=
  "eyJlbmMiOiJBMjU2R0NNIiwiYWxnIjoiZGlyIn0..AAAAAAAAAAAAAAAA.AQID.AAAAAAAAAAAAAAAAAAAAAA"

theorem rejected_alike_digits :
    run ["--config-dir", "cfg", "open", "--key-hex", "00000000000000000000000000000000"]
        (surroundings (Utf8.encode longKeyToken)) =
      run ["--config-dir", "cfg", "open", "--key-hex", "ffffffffffffffffffffffffffffffff"]
        (surroundings (Utf8.encode longKeyToken)) := by
  have hzeros : Invocation.parse
      ["--config-dir", "cfg", "open", "--key-hex", "00000000000000000000000000000000"] =
        .ok ⟨some "cfg", none, false, .openToken
          { key := { hex := some "00000000000000000000000000000000" } }⟩ := by decide +kernel
  have hones : Invocation.parse
      ["--config-dir", "cfg", "open", "--key-hex", "ffffffffffffffffffffffffffffffff"] =
        .ok ⟨some "cfg", none, false, .openToken
          { key := { hex := some "ffffffffffffffffffffffffffffffff" } }⟩ := by decide +kernel
  have hfails : (ofInput (Utf8.encode longKeyToken) hzeros).traced.result = .error .wrongKey := by
    rw [traced_ofInput]
    decide +kernel
  have hfails' : (ofInput (Utf8.encode longKeyToken) hones).traced.result = .error .wrongKey := by
    rw [traced_ofInput]
    decide +kernel
  exact rejected_alike _ _ (sameOptions_ofInput _ _ hzeros hones rfl) ⟨rfl, rfl, rfl⟩ hfails hfails'
    (.inl rfl) (.inl rfl)

end OpenRun

end SealedToken

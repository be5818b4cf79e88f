import SealedToken.Command.Seal
import SealedToken.Proofs.Command.Open
import SealedToken.Proofs.Key.Master
import SealedToken.Proofs.Token.Algorithm
import SealedToken.Proofs.Token.RoundTrip

/-! # Sealing by command

A key of sixteen bytes seals under two of the algorithms only. What the one
command seals the other opens again: no character of a token is a blank, so
trimming leaves the token as it was written. -/

namespace SealedToken

/-! ### Keys of sixteen bytes -/

theorem KeyManagement.sharedLength_eq_sixteen_iff {m : KeyManagement} {enc : ContentEncryption} :
    m.sharedLength enc = 16 ↔
      m.name = "dir" ∧ enc.name = "A128GCM" ∨ m.name = "A128KW" := by
  revert m enc
  have hall : ∀ m ∈ KeyManagement.all, ∀ enc ∈ ContentEncryption.all,
      (m.sharedLength enc = 16 ↔ m.name = "dir" ∧ enc.name = "A128GCM" ∨ m.name = "A128KW") := by
    decide
  intro m enc
  exact hall m m.mem_all enc enc.mem_all

theorem sharedLength_of_sealBytes {text shared : Bytes} {key : OctetKey} {m : KeyManagement}
    {enc : ContentEncryption} {random : RandomStream} {s : Sealed} (hk : key.Denotes shared)
    (h : sealBytes text key m enc random = .ok s) : shared.length = m.sharedLength enc := by
  obtain ⟨shared', content, e, hk', hcontent, hl, -, -⟩ := sealBytes_eq_ok_iff.mp h
  have hsame : shared' = shared := Base64.urlText_injective (hk'.spelled.symm.trans hk.spelled)
  subst hsame
  cases m with
  | direct =>
    cases Sealed.contentKey_direct_eq_ok_iff.mp hcontent
    exact hl
  | wrap size => exact (Sealed.contentKey_wrap_eq_ok_iff.mp hcontent).1

theorem length_le_of_sealBytes {text : Bytes} {key : OctetKey} {m : KeyManagement}
    {enc : ContentEncryption} {random : RandomStream} {s : Sealed}
    (h : sealBytes text key m enc random = .ok s) : text.length ≤ Gcm.textLimit := by
  obtain ⟨shared, content, e, -, -, -, he, -⟩ := sealBytes_eq_ok_iff.mp h
  obtain ⟨-, -, -, hseal⟩ := Sealed.envelope_eq_ok_iff.mp he
  exact (Gcm.sealText_eq_some_iff.mp hseal).1

/-- What a master key seals: texts that are not too long, under the algorithms
for sixteen bytes. -/
theorem MasterKey.exists_sealBytes_iff {key : MasterKey} {text : Bytes} {m : KeyManagement}
    {enc : ContentEncryption} {random : RandomStream} :
    (∃ s, sealBytes text key.toOctetKey m enc random = .ok s) ↔
      (m.name = "dir" ∧ enc.name = "A128GCM" ∨ m.name = "A128KW") ∧
        text.length ≤ Gcm.textLimit := by
  rw [← KeyManagement.sharedLength_eq_sixteen_iff]
  constructor
  · rintro ⟨s, hs⟩
    have hlength := sharedLength_of_sealBytes key.denotes hs
    rw [key.length_eq] at hlength
    exact ⟨hlength.symm, length_le_of_sealBytes hs⟩
  · rintro ⟨hlength, hlimit⟩
    exact exists_sealBytes key.denotes (key.length_eq.trans hlength.symm) hlimit random

/-! ### Written tokens -/

theorem Base64.not_blank_url_symbol (v : Base64.Sextet) :
    Blank.isBlank (Char.ofNat (Base64.url.symbol v).toNat) = false := by
  revert v
  decide

theorem Envelope.not_blank_of_mem_segments {e : Envelope} (h : e.HeaderAgrees) :
    ∀ x ∈ Split.join dot e.segments, Blank.isBlank (Char.ofNat x.toNat) = false := by
  apply Split.forall_mem_join
  · decide
  · intro p hp x hx
    obtain ⟨b, rfl⟩ := eq_encode_of_mem_segments h hp
    obtain ⟨v, rfl⟩ := Base64.mem_encode_url hx
    exact Base64.not_blank_url_symbol v

theorem not_blank_of_sealBytes {text : Bytes} {key : OctetKey} {m : KeyManagement}
    {enc : ContentEncryption} {random : RandomStream} {s : Sealed}
    (h : sealBytes text key m enc random = .ok s) :
    ∀ c ∈ s.token.toList, Blank.isBlank c = false := by
  obtain ⟨shared, content, e, -, -, -, he, rfl⟩ := sealBytes_eq_ok_iff.mp h
  obtain ⟨hplain, -⟩ := Sealed.envelope_eq_ok_iff.mp he
  intro c hc
  rw [Envelope.serialize, Utf8.ascii, String.toList_ofList] at hc
  obtain ⟨x, hx, rfl⟩ := List.mem_map.mp hc
  exact Envelope.not_blank_of_mem_segments hplain.headerAgrees x hx

theorem space_notMem_of_sealBytes {text : Bytes} {key : OctetKey} {m : KeyManagement}
    {enc : ContentEncryption} {random : RandomStream} {s : Sealed}
    (h : sealBytes text key m enc random = .ok s) : ' ' ∉ s.token.toList := by
  intro hmem
  have hblank : Blank.isBlank ' ' = true := by decide
  rw [not_blank_of_sealBytes h ' ' hmem] at hblank
  cases hblank

theorem trim_of_sealBytes {text : Bytes} {key : OctetKey} {m : KeyManagement}
    {enc : ContentEncryption} {random : RandomStream} {s : Sealed}
    (h : sealBytes text key m enc random = .ok s) : Blank.trim s.token = s.token :=
  Blank.trim_of_tight (Blank.tight_of_forall (not_blank_of_sealBytes h))

theorem outcome_of_sealBytes {text : Bytes} {key : OctetKey} {m : KeyManagement}
    {enc : ContentEncryption} {random : RandomStream} {s : Sealed}
    (h : sealBytes text key m enc random = .ok s) : Envelope.Outcome s.token key (.ok text) := by
  obtain ⟨shared, content, e, hk, hcontent, hl, he, rfl⟩ := sealBytes_eq_ok_iff.mp h
  exact Sealed.outcome_of_envelope hk hcontent hl he

theorem Opener.result_bytes (o : Opener) (token : String) :
    (o.bytes token).result = (decryptToken token o.key).result :=
  Traced.result_bind_report _ _

/-! ### The command -/

namespace SealCommand

variable {c : SealCommand} {settings : Settings} {typed : Option String} {input : Bytes}
  {random : RandomStream}

theorem run_eq_ok_iff {s : Sealed} :
    c.run settings typed input random = .ok s ↔
      ∃ m enc key, c.alg = KeyManagement.name m ∧ c.enc = ContentEncryption.name enc ∧
        c.key.key settings typed = .ok key ∧
        sealBytes (c.content input) key.toOctetKey m enc random = .ok s := by
  simp only [run, bind_eq_ok_iff, KeyManagement.parse_name_iff, ContentEncryption.parse_name_iff]
  constructor
  · rintro ⟨m, hm, enc, henc, key, hkey, hseal⟩
    exact ⟨m, enc, key, hm, henc, hkey, hseal⟩
  · rintro ⟨m, enc, key, hm, henc, hkey, hseal⟩
    exact ⟨m, hm, enc, henc, key, hkey, hseal⟩

theorem exists_run_iff (hlimit : (c.content input).length ≤ Gcm.textLimit) :
    (∃ s, c.run settings typed input random = .ok s) ↔
      (∃ key, c.key.key settings typed = .ok key) ∧
        (c.alg = "dir" ∧ c.enc = "A128GCM" ∨
          c.alg = "A128KW" ∧ ∃ enc : ContentEncryption, c.enc = enc.name) := by
  constructor
  · rintro ⟨s, hs⟩
    obtain ⟨m, enc, key, hm, henc, hkey, hseal⟩ := run_eq_ok_iff.mp hs
    obtain ⟨hnames, -⟩ := MasterKey.exists_sealBytes_iff.mp ⟨s, hseal⟩
    rw [hm, henc]
    refine ⟨⟨key, hkey⟩, ?_⟩
    rcases hnames with hdirect | hwrap
    · exact .inl hdirect
    · exact .inr ⟨hwrap, enc, rfl⟩
  · rintro ⟨⟨key, hkey⟩, hnames⟩
    have hseals : ∀ (m : KeyManagement) (enc : ContentEncryption), c.alg = m.name →
        c.enc = enc.name → (m.name = "dir" ∧ enc.name = "A128GCM" ∨ m.name = "A128KW") →
          ∃ s, c.run settings typed input random = .ok s := by
      intro m enc hm henc hsixteen
      obtain ⟨s, hs⟩ := MasterKey.exists_sealBytes_iff.mpr ⟨hsixteen, hlimit⟩
      exact ⟨s, run_eq_ok_iff.mpr ⟨m, enc, key, hm, henc, hkey, hs⟩⟩
    rcases hnames with ⟨halg, henc⟩ | ⟨halg, enc, henc⟩
    · exact hseals .direct (.gcm .bits128) halg henc (.inl ⟨rfl, rfl⟩)
    · exact hseals (.wrap .bits128) enc halg henc (.inr rfl)

/-- The key of the sealing command opens its token to what was sealed. -/
theorem bytes_of_run {s : Sealed} (h : c.run settings typed input random = .ok s) :
    ∃ key, c.key.key settings typed = .ok key ∧
      ((Opener.ofMaster key).bytes s.token).result = .ok (c.content input) := by
  obtain ⟨m, enc, key, -, -, hkey, hseal⟩ := run_eq_ok_iff.mp h
  refine ⟨key, hkey, ?_⟩
  rw [Opener.result_bytes]
  exact (outcome_of_sealBytes hseal).result_eq

theorem readToken_of_run {s : Sealed} (h : c.run settings typed input random = .ok s)
    {o : OpenCommand} (hauthorization : o.authorization = none)
    (htoken : o.token = none ∨ o.token = some "-") :
    o.readToken (Utf8.encode (s.token ++ "\n")) = .ok s.token := by
  obtain ⟨m, enc, key, -, -, -, hseal⟩ := run_eq_ok_iff.mp h
  have hread := OpenCommand.readToken_input "" s.token "\n" (by decide) (by decide)
    hauthorization htoken
  rwa [String.empty_append, trim_of_sealBytes hseal] at hread

/-- What the command sealed, as the other command finds it. -/
theorem result_run_of_run {s : Sealed} (h : c.run settings typed input random = .ok s)
    {o : OpenCommand} (hkey : o.key = c.key) (hmode : o.mode = .text)
    (hauthorization : o.authorization = none) (htoken : o.token = none ∨ o.token = some "-")
    (now : Int) :
    (o.run settings typed (Utf8.encode (s.token ++ "\n")) now).result =
      sealedText (c.content input) := by
  obtain ⟨key, hresolved, hbytes⟩ := bytes_of_run h
  have hread := readToken_of_run h hauthorization htoken
  rw [OpenCommand.result_run, hkey, hresolved, hread, hmode]
  show ((Opener.ofMaster key).text s.token).result = _
  rw [Opener.result_text, hbytes]
  rfl

/-- A text is sealed exactly if there is a key and the names are those of
algorithms for sixteen bytes. The token and a newline on standard input give
the text back, and bytes that are no text give a failure. -/
theorem run_opens (c : SealCommand) (settings : Settings) (typed : Option String) (input : Bytes)
    (random : RandomStream) (hlimit : (c.content input).length ≤ Gcm.textLimit) :
    ((∃ s, c.run settings typed input random = .ok s) ↔
        (∃ key, c.key.key settings typed = .ok key) ∧
          (c.alg = "dir" ∧ c.enc = "A128GCM" ∨
            c.alg = "A128KW" ∧ ∃ enc : ContentEncryption, c.enc = enc.name)) ∧
      ∀ s, c.run settings typed input random = .ok s →
        ∀ (o : OpenCommand) (now : Int), o.key = c.key → o.mode = .text →
          o.authorization = none → (o.token = none ∨ o.token = some "-") →
            (∀ t, c.content input = Utf8.encode t →
              (o.run settings typed (Utf8.encode (s.token ++ "\n")) now).result = .ok t) ∧
            ((∀ t, c.content input ≠ Utf8.encode t) →
              ∃ err, (o.run settings typed (Utf8.encode (s.token ++ "\n")) now).result =
                .error err ∧ err.kind = .claims) := by
  refine ⟨exists_run_iff hlimit, ?_⟩
  intro s hs o now hkey hmode hauthorization htoken
  rw [result_run_of_run hs hkey hmode hauthorization htoken now]
  constructor
  · intro t ht
    exact Opener.sealedText_eq_ok_iff.mpr ht
  · intro hnone
    cases hresult : sealedText (c.content input) with
    | ok t => exact absurd (Opener.sealedText_eq_ok_iff.mp hresult) (hnone t)
    | error err =>
      obtain ⟨fault, -, rfl⟩ := mapError_eq_error_iff.mp hresult
      exact ⟨_, rfl, rfl⟩

/-- Seals a word, under a key of zero bytes. -/
def sealWord : SealCommand where
  text := some "payload"
  key := { hex := some "00000000000000000000000000000000" }

theorem run_opens_word :
    ∃ s, sealWord.run .default none [] (fun _ => 0) = .ok s ∧
      (OpenCommand.run { key := sealWord.key } .default none (Utf8.encode (s.token ++ "\n"))
        0).result = .ok "payload" := by
  obtain ⟨hseals, hopens⟩ := run_opens sealWord .default none [] (fun _ => 0) (by decide)
  obtain ⟨s, hs⟩ := hseals.mpr ⟨⟨⟨List.replicate 16 0, rfl⟩, rfl⟩, .inl ⟨rfl, rfl⟩⟩
  obtain ⟨htext, -⟩ := hopens s hs { key := sealWord.key } 0 rfl rfl rfl (.inl rfl)
  exact ⟨s, hs, htext "payload" rfl⟩

end SealCommand

end SealedToken

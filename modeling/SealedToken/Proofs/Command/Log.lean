import SealedToken.Log.Line
import SealedToken.Proofs.Command.Reports
import SealedToken.Proofs.Json.Writer
import SealedToken.Proofs.Registration.NeutralKey
import SealedToken.Proofs.Token.Layout

/-! # What the log shows of a token that opens

Tokens of one layout are reported on alike, whatever they hold, up to one
event: verified claims are reported with the name that they hold. -/

namespace SealedToken

/-! ### Reports of success -/

/-- The claims that a mode verifies of a token. -/
def OpenMode.claims? (m : OpenMode) (o : Opener) (lifetime : UInt32) (now : Int)
    (token : String) : Option Claims :=
  match m with
  | .verify ttl => (o.verified token (ttl.getD lifetime) now).result.toOption
  | _ => none

namespace OpenCommand

variable {c : OpenCommand} {settings : Settings} {typed : Option String} {input : Bytes}
  {token : String} {now : Int} {out : String}

/-- The claims that a command verifies. -/
def claims? (c : OpenCommand) (settings : Settings) (typed : Option String) (input : Bytes)
    (now : Int) : Option Claims :=
  match c.key.key settings typed, c.readToken input with
  | .ok key, .ok token => c.mode.claims? (.ofMaster key) settings.tokenLifetime now token
  | _, _ => none

end OpenCommand

/-! ### Lines -/

/-- An event as the log shows it, without its time. -/
def Event.line (json : Bool) (e : Event) : String := if json then e.jsonLine else e.plainLine

namespace Claims

end Claims

/-! ### Two openings -/

namespace OpenRun

variable {args args' : List String} {w w' : Surroundings}

def claims? (r : OpenRun args w) : Option Claims :=
  r.command.claims? r.session.settings w.typed w.input w.now

/-- Seals a text under the key of these digits. -/
def sealing (digits text : String) : SealCommand where
  text := some text
  key := { hex := some digits }

theorem content_sealing (digits text : String) (input : Bytes) :
    (sealing digits text).content input = Utf8.encode text := rfl

theorem exists_sealing {digits : String} (text : String) {key : MasterKey}
    (hkey : MasterKey.ofHex? digits = some key)
    (hlimit : (Utf8.encode text).length ≤ Gcm.textLimit) :
    ∃ s, (sealing digits text).run .default none [] (fun _ => 0) = .ok s := by
  have hresolved : (sealing digits text).key.key .default none = .ok key := by
    simp only [sealing, KeySource.key, hkey]
    rfl
  have hcontent : ((sealing digits text).content []).length ≤ Gcm.textLimit := hlimit
  exact (SealCommand.exists_run_iff hcontent).mpr ⟨⟨key, hresolved⟩, .inl ⟨rfl, rfl⟩⟩

def zeros : String := "00000000000000000000000000000000"

theorem ofHex?_zeros : MasterKey.ofHex? zeros = some ⟨List.replicate 16 0, rfl⟩ := rfl

/-- Opens a token under the key of these digits, with all details in the log. -/
def opening (digits : String) : List String :=
  ["--config-dir", "cfg", "--log-level", "debug", "open", "--key-hex", digits]

/-! ### Sealed claims -/

/-- Claims of the key of the neutral point, for a name. -/
def registering (username : String) : Claims := { neutralClaims with username := username }

/-- A payload with these claims, signed by nobody. -/
def payloadFor (username : String) : Payload :=
  ⟨signedText plainHeader (Utf8.encode (registering username).toJson) Ed25519.neutralSignature⟩

theorem result_verify_payloadFor {username : String}
    (h : (Json.Members.parse (Utf8.encode (registering username).toJson)).map Claims.ofMembers =
      .ok (registering username)) :
    ((payloadFor username).verify 10 0).result = .ok (registering username) := by
  have hfresh : 0 ≤ neutralClaims.deadline 10 := by decide
  exact result_verify_unsignedText h rfl hfresh

theorem escape_of_mem_urlText {b : Bytes} {c : Char} (hc : c ∈ (Base64.urlText b).toList) :
    Json.escape c = [c] := by
  have hsymbol : ∀ v, Json.escape (Char.ofNat (Base64.url.symbol v).toNat) =
      [Char.ofNat (Base64.url.symbol v).toNat] := by decide
  rw [Base64.urlText, Utf8.ascii, String.toList_ofList] at hc
  obtain ⟨x, hx, rfl⟩ := List.mem_map.mp hc
  obtain ⟨v, rfl⟩ := Base64.mem_encode_url hx
  exact hsymbol v

theorem escape_of_mem_signedText {header claims signature : Bytes} {c : Char}
    (hc : c ∈ (signedText header claims signature).toList) : Json.escape c = [c] := by
  have hdot : ∀ c ∈ ".".toList, Json.escape c = [c] := by simp [Json.escape]
  simp only [signedText, String.toList_append, List.mem_append] at hc
  rcases hc with (((hc | hc) | hc) | hc) | hc
  · exact escape_of_mem_urlText hc
  · exact hdot c hc
  · exact escape_of_mem_urlText hc
  · exact hdot c hc
  · exact escape_of_mem_urlText hc

/-- A signed token has no characters to escape, so its payload is as long as it looks. -/
theorem length_payload (header claims signature : Bytes) :
    (Utf8.encode (Payload.toJson ⟨signedText header claims signature⟩)).length =
      (4 * header.length + 2) / 3 + (4 * claims.length + 2) / 3 +
        (4 * signature.length + 2) / 3 + 12 := by
  have hjws : Json.escapedBytes (signedText header claims signature) = _ :=
    Json.escapedBytes_of_plain fun c hc => escape_of_mem_signedText hc
  have hname : (Json.escapedBytes "jws").length = 3 := by decide
  have hurl : ∀ b, (Base64.encode Base64.url b).length = (4 * b.length + 2) / 3 := by
    intro b
    rw [← Base64.urlText_length, Base64.urlText, Utf8.ascii, String.length_ofList, List.length_map]
  rw [Payload.encode_toJson, hjws, encode_signedText]
  simp only [List.length_cons, List.length_append, hname, List.map_cons, List.map_nil, Split.join,
    hurl, List.length_nil]
  omega

theorem length_payloadFor {username : String} {n : Nat}
    (h : (Utf8.encode (registering username).toJson).length = n) :
    (Utf8.encode (payloadFor username).toJson).length = (4 * n + 2) / 3 + 134 := by
  have hheader : plainHeader.length = 27 := by decide +kernel
  have hsignature : Ed25519.neutralSignature.length = 64 := by decide
  rw [payloadFor, length_payload, h, hheader, hsignature]
  omega

/-- Verifies what a token of the key of zeros holds. -/
def verifying : OpenCommand where
  mode := .verify none
  key := { hex := some zeros }

theorem exists_verifying {p : Payload} {c : Claims} (hverify : (p.verify 10 0).result = .ok c)
    (hlimit : (Utf8.encode p.toJson).length ≤ Gcm.textLimit) :
    ∃ s, (sealing zeros p.toJson).run .default none [] (fun _ => 0) = .ok s ∧
      verifying.Verifies .default none (Utf8.encode (s.token ++ "\n")) p.jws ∧
      (verifying.run .default none (Utf8.encode (s.token ++ "\n")) 0).result = .ok c.toJson ∧
      verifying.claims? .default none (Utf8.encode (s.token ++ "\n")) 0 = some c := by
  obtain ⟨s, hs⟩ := exists_sealing p.toJson ofHex?_zeros hlimit
  obtain ⟨key, hsealed, hbytes⟩ := SealCommand.bytes_of_run hs
  have hkey : verifying.key.key .default none = .ok key := hsealed
  have hread := SealCommand.readToken_of_run hs (o := verifying) rfl (.inl rfl)
  have hpayload : ((Opener.ofMaster key).payload s.token).result = .ok p := by
    rw [Opener.result_payload, hbytes, content_sealing]
    exact bind_eq_ok_iff.mpr ⟨_, rfl, p.parse_toJson⟩
  have hverified : ((Opener.ofMaster key).verified s.token 10 0).result = .ok c := by
    rw [Opener.verified, Traced.result_bind, hpayload]
    exact bind_eq_ok_iff.mpr ⟨p, rfl, hverify⟩
  refine ⟨s, hs, ⟨⟨none, rfl⟩, key, s.token, hkey, hread, hpayload⟩, ?_, ?_⟩
  · rw [OpenCommand.result_run, hkey, hread]
    show ((Opener.ofMaster key).verified s.token 10 0).result.map Claims.toJson = _
    rw [hverified]
    rfl
  · rw [OpenCommand.claims?, hkey, hread]
    exact toOption_eq_some_iff.mpr hverified

/-- The claims for a name that is not long are sealed, opened and verified. -/
theorem exists_verifying_payloadFor {username : String}
    (hread : (Json.Members.parse (Utf8.encode (registering username).toJson)).map
      Claims.ofMembers = .ok (registering username))
    (hshort : (Utf8.encode (registering username).toJson).length ≤ 1000) :
    ∃ s, (sealing zeros (payloadFor username).toJson).run .default none [] (fun _ => 0) = .ok s ∧
      verifying.Verifies .default none (Utf8.encode (s.token ++ "\n")) (payloadFor username).jws ∧
      (verifying.run .default none (Utf8.encode (s.token ++ "\n")) 0).result =
        .ok (registering username).toJson ∧
      verifying.claims? .default none (Utf8.encode (s.token ++ "\n")) 0 =
        some (registering username) := by
  have hlimit : 2000 ≤ Gcm.textLimit := by decide
  refine exists_verifying (result_verify_payloadFor hread) (Nat.le_trans ?_ hlimit)
  rw [length_payloadFor rfl]
  omega

end OpenRun

end SealedToken

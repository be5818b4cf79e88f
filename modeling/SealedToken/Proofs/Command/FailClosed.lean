import SealedToken.Proofs.Command.Log

/-! # Runs that fail closed

A run prints the whole output of its command or nothing at all. What it takes
for an output, and which step is the first to fail, is said here without the
program; a run ends in one of these ways. Standard error holds more than the
failure: log records, and complaints about malformed rules of the log filter. -/

namespace SealedToken

/-! ### Commands that open -/

namespace OpenCommand

section

variable (c : OpenCommand) (settings : Settings) (w : Surroundings)

/-- The token that is given to the command decrypts to these bytes. -/
def Decrypts (b : Bytes) : Prop :=
  ∃ key token, c.key.key settings w.typed = .ok key ∧ c.readToken w.input = .ok token ∧
    (decryptToken token key.toOctetKey).result = .ok b

/-- The output of the command, by its mode. -/
inductive Prints : String → Prop
  | text {b : Bytes} {t : String} (decrypts : c.Decrypts settings w b) (mode : c.mode = .text)
    (h : sealedText b = .ok t) : Prints t
  | claims {b : Bytes} {p : Payload} (decrypts : c.Decrypts settings w b)
    (mode : c.mode = .claims) (h : Payload.parse b = .ok p) : Prints p.jws
  | verified {b : Bytes} {p : Payload} {ttl : Option UInt32} {claims : Claims}
    (decrypts : c.Decrypts settings w b) (mode : c.mode = .verify ttl)
    (payload : Payload.parse b = .ok p)
    (h : (p.verify (ttl.getD settings.tokenLifetime) w.now).result = .ok claims) :
    Prints claims.toJson

/-- The first step of the command that fails. -/
inductive Fails : Error → Prop
  | key {e : Error} (h : c.key.key settings w.typed = .error e) : Fails e
  | token {key : MasterKey} {e : Error} (hkey : c.key.key settings w.typed = .ok key)
    (h : c.readToken w.input = .error e) : Fails e
  | decryption {key : MasterKey} {token : String} {e : Error}
    (hkey : c.key.key settings w.typed = .ok key) (htoken : c.readToken w.input = .ok token)
    (h : (decryptToken token key.toOctetKey).result = .error e) : Fails e
  | text {b : Bytes} {e : Error} (decrypts : c.Decrypts settings w b) (mode : c.mode = .text)
    (h : sealedText b = .error e) : Fails e
  | payload {b : Bytes} {e : Error} (decrypts : c.Decrypts settings w b) (mode : c.mode ≠ .text)
    (h : Payload.parse b = .error e) : Fails e
  | verification {b : Bytes} {p : Payload} {ttl : Option UInt32} {e : Error}
    (decrypts : c.Decrypts settings w b) (mode : c.mode = .verify ttl)
    (payload : Payload.parse b = .ok p)
    (h : (p.verify (ttl.getD settings.tokenLifetime) w.now).result = .error e) : Fails e

end

section

variable {c : OpenCommand} {settings : Settings} {w : Surroundings}

end

end OpenCommand

/-! ### All commands -/

namespace Command

/-- The output of a command, and what it takes for it. -/
inductive Prints (s : Session) (w : Surroundings) : Command → String → Prop
  | openToken {c : OpenCommand} {out : String} (h : c.Prints s.settings w out) :
    Prints s w (.openToken c) out
  | deriveKey {c : DeriveCommand} {key : MasterKey}
    (h : c.key.key s.settings w.typed = .ok key) : Prints s w (.deriveKey c) (c.format.render key)
  | sealText {c : SealCommand} {m : KeyManagement} {enc : ContentEncryption} {key : MasterKey}
    {sealed : Sealed} (halg : c.alg = m.name) (henc : c.enc = enc.name)
    (hkey : c.key.key s.settings w.typed = .ok key)
    (h : sealBytes (c.content w.input) key.toOctetKey m enc w.random = .ok sealed) :
    Prints s w (.sealText c) sealed.token
  | showSettings : Prints s w .showSettings s.summary

/-- The first step of a command that fails. -/
inductive Fails (s : Session) (w : Surroundings) : Command → Error → Prop
  | openToken {c : OpenCommand} {e : Error} (h : c.Fails s.settings w e) :
    Fails s w (.openToken c) e
  | deriveKey {c : DeriveCommand} {e : Error} (h : c.key.key s.settings w.typed = .error e) :
    Fails s w (.deriveKey c) e
  | keyManagement {c : SealCommand} (h : ∀ m : KeyManagement, c.alg ≠ m.name) :
    Fails s w (.sealText c) (.unknownKeyManagement c.alg)
  | contentEncryption {c : SealCommand} {m : KeyManagement} (halg : c.alg = m.name)
    (h : ∀ enc : ContentEncryption, c.enc ≠ enc.name) :
    Fails s w (.sealText c) (.unknownContentEncryption c.enc)
  | sealKey {c : SealCommand} {m : KeyManagement} {enc : ContentEncryption} {e : Error}
    (halg : c.alg = m.name) (henc : c.enc = enc.name)
    (h : c.key.key s.settings w.typed = .error e) : Fails s w (.sealText c) e
  | sealing {c : SealCommand} {m : KeyManagement} {enc : ContentEncryption} {key : MasterKey}
    {e : Error} (halg : c.alg = m.name) (henc : c.enc = enc.name)
    (hkey : c.key.key s.settings w.typed = .ok key)
    (h : sealBytes (c.content w.input) key.toOctetKey m enc w.random = .error e) :
    Fails s w (.sealText c) e

variable {s : Session} {w : Surroundings}

end Command

/-! ### Complaints -/

/-- Lines, each with its end. -/
def lineText (lines : List String) : String := String.join (lines.map (· ++ "\n"))

/-- What a run writes to standard error besides log records. -/
def Outcome.unlogged (o : Outcome) : String := lineText o.notices ++ o.stderr

namespace Invocation

/-- The first step before the command that fails. -/
inductive FailsEarly (i : Invocation) (w : Surroundings) : Error → Prop
  | directory {e : Error} (h : Session.directory? i w = .error e) : FailsEarly i w e
  | settings {d : SettingsDirectory} {e : Error} (hd : Session.directory? i w = .ok d)
    (h : Settings.load (w.file d.file) = .error e) : FailsEarly i w e

/-- How a run ends: with the output of its command, or with one failure and no
output, before the command or in it. -/
inductive Ends (i : Invocation) (w : Surroundings) (o : Outcome) : Prop
  | printed {s : Session} {out : String} (start : Session.start i w = .ok s)
    (h : i.command.Prints s w out) (code : o.code = 0) (stdout : o.stdout = out ++ "\n")
    (unlogged : o.unlogged = lineText s.notices) : Ends i w o
  | early {e : Error} (h : i.FailsEarly w e) (code : o.code = 1) (stdout : o.stdout = "")
    (unlogged : o.unlogged = "Error: " ++ e.message ++ "\n") : Ends i w o
  | failed {s : Session} {e : Error} (start : Session.start i w = .ok s)
    (h : i.command.Fails s w e) (code : o.code = 1) (stdout : o.stdout = "")
    (unlogged : o.unlogged = lineText s.notices ++ ("Error: " ++ e.message ++ "\n")) : Ends i w o

end Invocation

end SealedToken

import SealedToken.Json.Fault
import SealedToken.Text.Base64
import SealedToken.Text.Utf8

/-! # Failures

Why an operation gave no result. Every failure has a kind; the kind decides
how its message starts. A wrong key and a tampered token are different kinds
with one message, so that the message does not tell them apart. -/

namespace SealedToken

/-! ### Kinds -/

inductive Kind where
  | config
  | io
  | json
  | parse
  | unsupported
  | encryption
  | key
  | integrity
  | claims
  | verification
  deriving DecidableEq, Repr

namespace Kind

/-- A wrong key or a wrong tag: the token was looked at and rejected. -/
def isDecryptionFailure : Kind → Bool
  | key => true
  | integrity => true
  | _ => false

/-- The message of a failure of this kind. -/
def message (k : Kind) (detail : String) : String :=
  match k with
  | config => "Configuration error: " ++ detail
  | io => "I/O error: " ++ detail
  | json => "JSON error: " ++ detail
  | parse => "Malformed envelope: " ++ detail
  | unsupported => "Unsupported algorithm: " ++ detail
  | encryption => "Encryption error: " ++ detail
  | key => "Decryption failed"
  | integrity => "Decryption failed"
  | claims => "Invalid claims: " ++ detail
  | verification => "Registration token rejected: " ++ detail

end Kind

/-! ### Parts named in failures -/

/-- The five segments of a sealed token. -/
inductive Segment where
  | header
  | encryptedKey
  | nonce
  | ciphertext
  | tag
  deriving DecidableEq, Repr

def Segment.name : Segment → String
  | header => "protected header"
  | encryptedKey => "encrypted key"
  | nonce => "initialization vector"
  | ciphertext => "ciphertext"
  | tag => "authentication tag"

/-- The two segments of a signed token that hold JSON. -/
inductive SignedPart where
  | header
  | claims
  deriving DecidableEq, Repr

def SignedPart.name : SignedPart → String
  | header => "header"
  | claims => "claims"

/-! ### Causes -/

inductive Error where
  -- Settings and key sources.
  | settingsSyntax (r : Json.Refusal)
  | settingsIsDirectory
  | settingsForbidden
  | settingsEncoding
  | noHomeDirectory
  | noKeySource
  | settingsHash
  | hexKeyOption
  | noTerminal
  -- Input.
  | tokenEncoding
  | keySyntax (r : Json.Refusal)
  -- The form of an envelope.
  | segmentCount (n : Nat)
  | emptyHeader
  | segmentEncoding (s : Segment) (f : Base64.Fault)
  | headerSyntax (r : Json.Refusal)
  | headerNotObject
  | headerMember (c : Json.Cause)
  | nonceLength (n : Nat)
  -- What an envelope asks for.
  | compression (name : String)
  | criticalMembers (names : List String)
  | unknownKeyManagement (name : String)
  | unknownContentEncryption (name : String)
  -- Sealing.
  | keyLength (wanted : Nat) (algorithm : String)
  | textTooLong
  -- Opening.
  | wrongKey
  | wrongTag
  -- What was sealed.
  | textEncoding (f : Utf8.Fault)
  | payloadSyntax (r : Json.Refusal)
  | authorizationForm
  -- Signed tokens.
  | signedPartCount (n : Nat)
  | signedPartEncoding (p : SignedPart) (f : Base64.Fault)
  | signedPartSyntax (p : SignedPart) (r : Json.Refusal)
  | expired
  | publicKeyEncoding (f : Base64.Fault)
  | publicKeyLength (n : Nat)
  | publicKeyPoint
  | signingMethod (name : String)
  | wrongSignature
  deriving DecidableEq, Repr

namespace Error

def kind : Error → Kind
  | settingsSyntax _ | noHomeDirectory | noKeySource | settingsHash | hexKeyOption => .config
  | settingsIsDirectory | settingsForbidden | settingsEncoding | noTerminal
  | tokenEncoding => .io
  | keySyntax _ => .json
  | segmentCount _ | emptyHeader | segmentEncoding _ _ | headerSyntax _ | headerNotObject
  | headerMember _ | nonceLength _ => .parse
  | compression _ | criticalMembers _ | unknownKeyManagement _
  | unknownContentEncryption _ => .unsupported
  | keyLength _ _ | textTooLong => .encryption
  | wrongKey => .key
  | wrongTag => .integrity
  | textEncoding _ | payloadSyntax _ | authorizationForm => .claims
  | signedPartCount _ | signedPartEncoding _ _ | signedPartSyntax _ _ | expired
  | publicKeyEncoding _ | publicKeyLength _ | publicKeyPoint | signingMethod _
  | wrongSignature => .verification

/-- What is said behind the heading of the kind. -/
def detail : Error → String
  | settingsSyntax r => "Failed to parse settings file: " ++ r.message
  | settingsIsDirectory => "Failed to read settings file: Is a directory (os error 21)"
  | settingsForbidden => "Failed to read settings file: Permission denied (os error 13)"
  | settingsEncoding => "Failed to read settings file: stream did not contain valid UTF-8"
  | noHomeDirectory => "Could not determine HOME directory"
  | noKeySource => "MASTER_PASSWORD environment variable is required"
  | settingsHash => "master_password_md5_hash must be 32 hex digits"
  | hexKeyOption => "--key-hex must be 32 hex digits"
  | noTerminal => "Failed to read password: No such device or address (os error 6)"
  | tokenEncoding => "Failed to read token from stdin: stream did not contain valid UTF-8"
  | keySyntax r => r.message
  | segmentCount n => "expected 5 segments, found " ++ toString n
  | emptyHeader => "protected header is empty"
  | segmentEncoding s f => "invalid base64url in " ++ s.name ++ ": " ++ f.message
  | headerSyntax r => "Header is not valid JSON: " ++ r.message
  | headerNotObject => "Header is not a JSON object"
  | headerMember c => "Invalid header: " ++ c.describe
  | nonceLength n => "invalid initialization vector size: expected 12, got " ++ toString n
  | compression name => "zip=" ++ name
  | criticalMembers names => "crit=" ++ ",".intercalate names
  | unknownKeyManagement name => "alg=" ++ name
  | unknownContentEncryption name => "enc=" ++ name
  | keyLength wanted algorithm =>
    "key must be " ++ toString wanted ++ " bytes for " ++ algorithm
  | textTooLong => "Encryption failed: aead::Error"
  | wrongKey => ""
  | wrongTag => ""
  | textEncoding f => "Invalid UTF-8 in decrypted data: " ++ f.message
  | payloadSyntax r => "Failed to parse payload: " ++ r.message
  | authorizationForm => "invalid Authorization header format"
  | signedPartCount n => "failed to parse JWT: expected 3 segments, got " ++ toString n
  | signedPartEncoding p f => "failed to parse JWT " ++ p.name ++ ": " ++ f.message
  | signedPartSyntax p r => "failed to parse JWT " ++ p.name ++ ": " ++ r.message
  | expired => "JWT has expired"
  | publicKeyEncoding f => "failed to decode public key: " ++ f.message
  | publicKeyLength n => "invalid public key size: expected 32, got " ++ toString n
  | publicKeyPoint => "invalid public key: signature error: Cannot decompress Edwards point"
  | signingMethod name => "unexpected signing method: " ++ name
  | wrongSignature => "JWT signature verification failed"

/-- The whole message. -/
def message (e : Error) : String := e.kind.message e.detail

theorem message_wrongKey : message wrongKey = message wrongTag := rfl

end Error

end SealedToken

import SealedToken.Bytes
import SealedToken.Cipher.Aes
import SealedToken.Cipher.Block
import SealedToken.Cipher.Gcm
import SealedToken.Cipher.KeyWrap
import SealedToken.Command.Arguments
import SealedToken.Command.Derive
import SealedToken.Command.Invocation
import SealedToken.Command.KeySource
import SealedToken.Command.Open
import SealedToken.Command.Program
import SealedToken.Command.Seal
import SealedToken.Digest.Md5
import SealedToken.Digest.Sha512
import SealedToken.Ed25519.Field
import SealedToken.Ed25519.Point
import SealedToken.Ed25519.Signature
import SealedToken.Error
import SealedToken.Json.Fault
import SealedToken.Json.Number
import SealedToken.Json.Record
import SealedToken.Json.Scan
import SealedToken.Json.Skip
import SealedToken.Json.Text
import SealedToken.Json.Value
import SealedToken.Json.Writer
import SealedToken.Key.Master
import SealedToken.Key.Octet
import SealedToken.Key.Secret
import SealedToken.Log.Clock
import SealedToken.Log.Event
import SealedToken.Log.Filter
import SealedToken.Log.Line
import SealedToken.Log.Rule
import SealedToken.Main
import SealedToken.Number.Binary64
import SealedToken.Number.Shortest
import SealedToken.Opener
import SealedToken.Proofs.Cipher.Aes
import SealedToken.Proofs.Cipher.Gcm
import SealedToken.Proofs.Cipher.KeyWrap
import SealedToken.Proofs.Ed25519.Neutral
import SealedToken.Proofs.Json.Number
import SealedToken.Proofs.Json.Scan
import SealedToken.Proofs.Key.Octet
import SealedToken.Proofs.Steps
import SealedToken.Proofs.Text.Base64
import SealedToken.Proofs.Text.Split
import SealedToken.Proofs.Text.Utf8
import SealedToken.Proofs.Text.Utf8Reading
import SealedToken.Proofs.Token.Envelope
import SealedToken.Proofs.Token.Opening
import SealedToken.Proofs.Token.Reports
import SealedToken.Proofs.Token.RoundTrip
import SealedToken.Proofs.Token.Sealing
import SealedToken.Proofs.Token.SealingFailure
import SealedToken.Proofs.Token.Wrapping
import SealedToken.Registration.Authorization
import SealedToken.Registration.Claims
import SealedToken.Registration.Payload
import SealedToken.Settings
import SealedToken.Settings.Directory
import SealedToken.Text.Alphanumeric
import SealedToken.Text.Base64
import SealedToken.Text.Blank
import SealedToken.Text.CharRange
import SealedToken.Text.Hex
import SealedToken.Text.Quoted
import SealedToken.Text.Split
import SealedToken.Text.Unprintable
import SealedToken.Text.Unsigned
import SealedToken.Text.Utf8
import SealedToken.Token.Algorithm
import SealedToken.Token.Envelope
import SealedToken.Token.Header
import SealedToken.Token.Opening
import SealedToken.Token.Sealing
import SealedToken.Token.Wrapping
import SealedToken.Proofs.Json.Text
import SealedToken.Proofs.Json.Entries
import SealedToken.Proofs.Json.Value
import SealedToken.Proofs.Registration.Claims
import SealedToken.Proofs.Registration.NeutralKey
import SealedToken.Proofs.Registration.Failure
import SealedToken.Proofs.Registration.Verification
import SealedToken.Proofs.Json.Writer
import SealedToken.Proofs.Token.Header
import SealedToken.Proofs.Json.Record
import SealedToken.Proofs.Token.Tampering
import SealedToken.Proofs.Documents
import SealedToken.Proofs.Text.Utf8Cuts
import SealedToken.Proofs.Json.Skip
import SealedToken.Proofs.Json.Characters
import SealedToken.Proofs.Registration.Payload
import SealedToken.Proofs.Opener
import SealedToken.Proofs.Text.Blank
import SealedToken.Proofs.Command.Open
import SealedToken.Proofs.Command.Seal
import SealedToken.Proofs.Command.Reports
import SealedToken.Proofs.Command.Log
import SealedToken.Proofs.Text.Hex
import SealedToken.Proofs.Text.Unsigned
import SealedToken.Proofs.Key.Master
import SealedToken.Proofs.Settings.Key
import SealedToken.Proofs.Command.KeySource
import SealedToken.Proofs.Settings.Override
import SealedToken.Proofs.Key.Document
import SealedToken.Proofs.Command.Derive
import SealedToken.Proofs.Registration.SealedPayload
import SealedToken.Proofs.Token.Algorithm
import SealedToken.Proofs.Token.HeaderGrammar
import SealedToken.Proofs.Number.Binary64
import SealedToken.Proofs.Json.Integer
import SealedToken.Proofs.Registration.IssueTime
import SealedToken.Proofs.Registration.ShownTime
import SealedToken.Proofs.Command.FailClosed
import SealedToken.Proofs.Registration.Expiry
import SealedToken.Proofs.Token.UnusedKey
import SealedToken.Proofs.Token.Randomness
import SealedToken.Proofs.Json.Grammar
import SealedToken.Proofs.Json.Columns
import SealedToken.Proofs.Settings.Document
import SealedToken.Proofs.Token.Guards
import SealedToken.Proofs.Command.Summary

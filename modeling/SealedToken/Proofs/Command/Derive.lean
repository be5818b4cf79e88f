import SealedToken.Command.Derive
import SealedToken.Proofs.Command.KeySource
import SealedToken.Proofs.Command.Open
import SealedToken.Proofs.Key.Document

/-! # Printed keys

A key is printed as digits, as the text of its bytes, or as an object. Each
form is read as the key again wherever that form is asked for, so a token is
opened alike with all of them. -/

namespace SealedToken

namespace MasterKey

/-- Texts that stand for a key: its digits on the command line, in settings
without a password and as a stored digest, its text in an object, and the
object itself. -/
structure Forms (key : MasterKey) (digits text document : String) : Prop where
  option : ∀ settings typed, KeySource.key { hex := some digits } settings typed = .ok key
  settings : ∀ settings : Settings, settings.masterPassword = none →
    settings.masterHash = some digits → settings.key = .ok key
  stored : Opener.ofHash digits = .ok (.ofMaster key)
  text : (OctetKey.ofText text).bytes? = some key.bytes
  document : ∃ octet, OctetKey.parse (Utf8.encode document) = .ok octet ∧ octet.kty = "oct" ∧
    octet.bytes? = some key.bytes

/-- The openers that are made of a password of the key, of its digits, or of its object. -/
inductive MadeOf (key : MasterKey) (digits document : String) : Opener → Prop
  | password {password : String} (h : key = .ofPassword password) :
    MadeOf key digits document (.ofPassword password)
  | digits {o : Opener} (h : Opener.ofHash digits = .ok o) : MadeOf key digits document o
  | document {octet : OctetKey} (h : OctetKey.parse (Utf8.encode document) = .ok octet) :
    MadeOf key digits document ⟨octet⟩

theorem bytes?_toOctetKey (key : MasterKey) : key.toOctetKey.bytes? = some key.bytes :=
  OctetKey.bytes?_eq_some_iff.mpr key.denotes

theorem key_hex_toHex (key : MasterKey) (settings : Settings) (typed : Option String) :
    KeySource.key { hex := some key.toHex } settings typed = .ok key := by
  rw [KeySource.key_of_hex rfl rfl rfl, ofHex?_toHex]
  rfl

theorem forms (key : MasterKey) : key.Forms key.toHex key.toBase64 key.toOctetKey.toJson where
  option := key_hex_toHex key
  settings := by
    intro settings hpassword hhash
    rw [Settings.key_of_hash hpassword hhash key.toHex_ne_empty, ofHex?_toHex]
    rfl
  stored := Opener.ofHash_toHex key
  text := key.bytes?_toOctetKey
  document := ⟨key.toOctetKey, OctetKey.parse_toJson key.toOctetKey, rfl, key.bytes?_toOctetKey⟩

/-- Password, digits and object make the same opener. -/
theorem eq_ofMaster_of_madeOf {key : MasterKey} {o : Opener}
    (h : key.MadeOf key.toHex key.toOctetKey.toJson o) : o = .ofMaster key := by
  cases h with
  | password h => exact congrArg Opener.ofMaster h.symm
  | digits h =>
    rw [Opener.ofHash_toHex] at h
    exact (Except.ok.inj h).symm
  | document h =>
    rw [OctetKey.parse_toJson] at h
    exact congrArg Opener.mk (Except.ok.inj h).symm

end MasterKey

/-- What a command finds does not depend on where its key comes from. -/
theorem OpenCommand.run_congr_key {c : OpenCommand} {k k' : KeySource} {settings : Settings}
    {typed typed' : Option String} (h : k.key settings typed = k'.key settings typed')
    (input : Bytes) (now : Int) :
    OpenCommand.run { c with key := k } settings typed input now =
      OpenCommand.run { c with key := k' } settings typed' input now := by
  simp only [run, h]
  rfl

namespace DeriveCommand

/-- What the command prints for a key stands for that key, in every format.
Openers that are made of the printed digits, of the printed object or of a
password of the key are one, and the other command reports and finds the same
with the printed digits as with the source that the key came from. -/
theorem run_exports {source : KeySource} {settings : Settings} {typed : Option String}
    {key : MasterKey} (h : source.key settings typed = .ok key) :
    ∃ digits text document,
      run ⟨.hex, source⟩ settings typed = .ok digits ∧
        run ⟨.base64url, source⟩ settings typed = .ok text ∧
        run ⟨.jwk, source⟩ settings typed = .ok document ∧
        key.Forms digits text document ∧
        (∀ o, key.MadeOf digits document o → o = .ofMaster key) ∧
        ∀ (c : OpenCommand) (typed' : Option String) (input : Bytes) (now : Int),
          OpenCommand.run { c with key := { hex := some digits } } settings typed' input now =
            OpenCommand.run { c with key := source } settings typed input now := by
  have hrun : ∀ f : KeyFormat, run ⟨f, source⟩ settings typed = .ok (f.render key) := by
    intro f
    simp only [run, h, Except.map]
  refine ⟨_, _, _, hrun .hex, hrun .base64url, hrun .jwk, key.forms, ?_, ?_⟩
  · intro o ho
    exact MasterKey.eq_ofMaster_of_madeOf ho
  · intro c typed' input now
    apply OpenCommand.run_congr_key
    rw [h]
    exact key.key_hex_toHex settings typed'

/-- Digits in uppercase, between blanks. -/
def looseDigits : KeySource where
  hex := some " 000102030405060708090A0B0C0D0E0F\n"

/-- The key that the digits were read as is printed in lowercase, and read again. -/
theorem run_exports_digits :
    ∃ key, looseDigits.key .default none = .ok key ∧
      run ⟨.hex, looseDigits⟩ .default none = .ok "000102030405060708090a0b0c0d0e0f" ∧
      KeySource.key { hex := some "000102030405060708090a0b0c0d0e0f" } .default none =
        .ok key := by
  have hkey : looseDigits.key .default none = .ok ⟨(List.range 16).map UInt8.ofNat, rfl⟩ := rfl
  obtain ⟨digits, text, document, hdigits, -, -, hforms, -, -⟩ := run_exports hkey
  have hlower : run ⟨.hex, looseDigits⟩ .default none =
      .ok "000102030405060708090a0b0c0d0e0f" := rfl
  cases hdigits.symm.trans hlower
  exact ⟨_, hkey, hlower, hforms.option .default none⟩

end DeriveCommand

end SealedToken

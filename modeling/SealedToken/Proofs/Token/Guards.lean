import SealedToken.Proofs.Token.Layout

/-! # Guards that always hold

Opening and sealing hand bytes to parts that take one length only: ciphers want
a key and a nonce of their size, arrays and buffers are filled to the last
byte. The checks that make these lengths right stand elsewhere. Here both
operations are written with a guard in front of every such part, and with the
branches for wrapping where nothing is wrapped. A guard that fails leaves a run
without an answer. None does: with guards the operations give what they give
without, for every token, key, text and stream. -/

namespace SealedToken

/-- What keeps a run from giving an answer. -/
inductive Breach where
  /-- A cipher is set up with a key of another size. -/
  | cipherKey (n : Nat)
  /-- A cipher is run with a nonce of another size. -/
  | cipherNonce (n : Nat)
  /-- Bytes do not fill the array or the buffer that is made for them. -/
  | arrayLength (n : Nat)
  /-- A buffer is to be `n - m` bytes long, and `n` is less than `m`. -/
  | negativeLength (n m : Nat)
  /-- A key is to be wrapped, or unwrapped, where none is. -/
  | nothingWrapped
  deriving DecidableEq, Repr

/-- A value, unless a guard fails on the way to it. -/
abbrev Guarded (α : Type) := Except Breach α

namespace Guarded

/-! ### Guards -/

def difference (n m : Nat) : Guarded Nat :=
  if n < m then .error (.negativeLength n m) else .ok (n - m)

def array (n : Nat) (b : Bytes) : Guarded Bytes :=
  if b.length = n then .ok b else .error (.arrayLength b.length)

/-- What a cipher asks of its key and then of its nonce. -/
def cipher (enc : ContentEncryption) (key nonce : Bytes) : Guarded Unit :=
  if key.length ≠ enc.keyLength then .error (.cipherKey key.length)
  else if nonce.length ≠ Gcm.nonceLength then .error (.cipherNonce nonce.length)
  else .ok ()

theorem difference_of_le {n m : Nat} (h : m ≤ n) : difference n m = .ok (n - m) :=
  if_neg (Nat.not_lt.mpr h)

theorem array_of_length {n : Nat} {b : Bytes} (h : b.length = n) : array n b = .ok b := if_pos h

theorem cipher_of_lengths {enc : ContentEncryption} {key nonce : Bytes}
    (hkey : key.length = enc.keyLength) (hnonce : nonce.length = Gcm.nonceLength) :
    cipher enc key nonce = .ok () := by
  rw [cipher, if_neg (not_not_intro hkey), if_neg (not_not_intro hnonce)]

/-! ### Wrapping -/

def unwrapKey (m : KeyManagement) (shared wrapped : Bytes) : Guarded (Except Error Bytes) :=
  if m.wrappingLength? ≠ some shared.length then .ok (.error .wrongKey)
  else if wrapped.length < 2 * KeyWrap.overhead ∨ wrapped.length % KeyWrap.overhead ≠ 0 then
    .ok (.error .wrongKey)
  else do
    let n ← difference wrapped.length KeyWrap.overhead
    match m with
    | .direct => throw .nothingWrapped
    | .wrap size =>
      let kek ← array size.bytes shared
      match KeyWrap.unwrap? kek wrapped with
      | some key => return .ok (← array n key)
      | none => return .error .wrongKey

def wrapKey (m : KeyManagement) (shared key : Bytes) : Guarded (Except Error Bytes) :=
  match m.wrappingLength? with
  | none => throw .nothingWrapped
  | some n =>
    if shared.length ≠ n then .ok (.error (.keyLength n m.name))
    else
      match m with
      | .direct => throw .nothingWrapped
      | .wrap size => do
        let kek ← array size.bytes shared
        return .ok (← array (key.length + KeyWrap.overhead) (KeyWrap.wrap kek key))

/-- Without a wrapped key the length of the shared one is never right. -/
theorem unwrapKey_direct (shared wrapped : Bytes) :
    unwrapKey .direct shared wrapped = .ok (.error .wrongKey) := rfl

theorem unwrapKey_wrap (size : KeySize) (shared wrapped : Bytes) :
    unwrapKey (.wrap size) shared wrapped = .ok (size.unwrapKey shared wrapped) := by
  unfold unwrapKey
  split
  · rename_i hsize
    have hs : shared.length ≠ size.bytes := fun hs => hsize (congrArg some hs.symm)
    rw [KeySize.unwrapKey_of_length (.inr (.inr hs))]
  rename_i hsize
  have hs : shared.length = size.bytes := (Option.some.inj (Decidable.not_not.mp hsize)).symm
  split
  · rename_i hlength
    rw [KeySize.unwrapKey, if_pos hs, KeyWrap.unwrap?_eq_none_of_length hlength]
  rename_i hlength
  have hle : KeyWrap.overhead ≤ wrapped.length := by
    rw [KeyWrap.overhead] at hlength ⊢
    omega
  rw [difference_of_le hle, KeySize.unwrapKey, if_pos hs]
  simp only [array_of_length hs, bind, Except.bind]
  cases hunwrap : KeyWrap.unwrap? shared wrapped with
  | none => rfl
  | some key =>
    -- The buffer is filled, since wrapping adds the semiblock that it lacks.
    have hfilled : key.length = wrapped.length - KeyWrap.overhead := by
      rw [KeyWrap.length_of_unwrap? hunwrap, Nat.add_sub_cancel]
    simp only [array_of_length hfilled]
    rfl

theorem wrapKey_wrap (size : KeySize) (shared : Bytes) {key : Bytes} (h : key.length % 8 = 0) :
    wrapKey (.wrap size) shared key = .ok (size.wrapKey shared key) := by
  have hfilled := KeyWrap.wrap_length shared key h
  unfold wrapKey
  simp only [KeyManagement.wrappingLength?]
  split
  · rename_i hs
    rw [KeySize.wrapKey, if_neg hs]
  · rename_i hs
    have hs : shared.length = size.bytes := Decidable.not_not.mp hs
    simp only [array_of_length hs, array_of_length hfilled, bind, Except.bind]
    rw [KeySize.wrapKey_eq_ok_iff.mpr ⟨hs, rfl⟩]
    rfl

/-- Wrapping alone has a guard that fails; sealing never gets there. -/
example (shared key : Bytes) : wrapKey .direct shared key = .error .nothingWrapped := rfl

/-! ### Opening -/

def candidateKey (e : Envelope) (shared : Bytes) : Guarded (Traced Bytes) :=
  match e.header.alg with
  | .direct =>
    if e.encryptedKey = [] then .ok (.silent (.ok shared))
    else .ok ⟨[Envelope.unusedKeyEvent e.encryptedKey], .ok shared⟩
  | m => do return .silent (← unwrapKey m shared e.encryptedKey)

def openingKey (e : Envelope) (key : OctetKey) : Guarded (Traced Bytes) :=
  match key.bytes? with
  | none => .ok (.fail .wrongKey)
  | some shared => do
    let candidate ← candidateKey e shared
    return candidate >>= fun content => .silent (Envelope.checkLength e.header.enc content)

/-- The cipher is run whether or not there is a content key. -/
def decryptWith (e : Envelope) (key : OctetKey) : Guarded (Traced Bytes) := do
  let content ← openingKey e key
  let effective := e.effectiveKey content.result
  cipher e.header.enc effective e.nonce
  return ⟨content.events, Envelope.settle content.result (e.runCipher effective)⟩

def decrypt (e : Envelope) (key : OctetKey) : Guarded (Traced Bytes) := do
  let opened ←
    if e.nonce.length ≠ Gcm.nonceLength then .ok (.fail (.nonceLength e.nonce.length))
    else decryptWith e key
  return Traced.report e.openingEvent >>= fun _ => opened

def decryptToken (token : String) (key : OctetKey) : Guarded (Traced Bytes) :=
  match Envelope.parse token with
  | .error err => .ok (.fail err)
  | .ok e => decrypt e key

theorem candidateKey_eq (e : Envelope) (shared : Bytes) :
    candidateKey e shared = .ok (e.candidateKey shared) := by
  unfold candidateKey Envelope.candidateKey
  cases e.header.alg with
  | direct =>
    dsimp only
    split <;> rfl
  | wrap size =>
    dsimp only
    rw [unwrapKey_wrap]
    rfl

theorem openingKey_eq (e : Envelope) (key : OctetKey) :
    openingKey e key = .ok (e.contentKey key) := by
  unfold openingKey Envelope.contentKey
  cases key.bytes? with
  | none => rfl
  | some shared =>
    dsimp only
    rw [candidateKey_eq]
    rfl

/-- The content key has the length that its cipher wants, and so has the key of
zero bytes in its place. -/
theorem length_effectiveKey (e : Envelope) (key : OctetKey) :
    (e.effectiveKey (e.contentKey key).result).length = e.header.enc.keyLength := by
  cases h : (e.contentKey key).result with
  | ok content => exact (Envelope.result_contentKey_eq_ok_iff.mp h).content_length
  | error err => exact List.length_replicate

theorem decryptWith_eq {e : Envelope} (hn : e.nonce.length = Gcm.nonceLength) (key : OctetKey) :
    decryptWith e key = .ok (e.decryptWith key) := by
  unfold decryptWith
  rw [openingKey_eq]
  show (cipher e.header.enc (e.effectiveKey (e.contentKey key).result) e.nonce >>= _) = _
  rw [cipher_of_lengths (length_effectiveKey e key) hn]
  rfl

theorem decrypt_eq (e : Envelope) (key : OctetKey) : decrypt e key = .ok (e.decrypt key) := by
  unfold decrypt Envelope.decrypt
  split
  · rfl
  · rename_i hn
    rw [decryptWith_eq (Decidable.not_not.mp hn)]
    rfl

theorem decryptToken_eq (token : String) (key : OctetKey) :
    decryptToken token key = .ok (SealedToken.decryptToken token key) := by
  unfold decryptToken SealedToken.decryptToken
  cases Envelope.parse token with
  | error err => rfl
  | ok e => exact decrypt_eq e key

/-! ### Sealing -/

def sealingKey (m : KeyManagement) (enc : ContentEncryption) (shared : Bytes)
    (random : RandomStream) : Guarded (Except Error Sealed.ContentKey) :=
  match m with
  | .direct => .ok (.ok ⟨shared, [], 0⟩)
  | m => do
    let key := random.draw 0 enc.keyLength
    let wrapped ← wrapKey m shared key
    return wrapped.map fun encrypted => ⟨key, encrypted, enc.keyLength⟩

/-- The cipher gives sealed text and tag in one row, which is cut where the tag begins. -/
def envelope (m : KeyManagement) (enc : ContentEncryption) (content : Sealed.ContentKey)
    (nonce text : Bytes) : Guarded (Except Error Envelope) := do
  let header := Header.plain m enc
  let associated := (Envelope.assemble header [] [] [] []).associated
  cipher enc content.key nonce
  match Gcm.sealText content.key nonce associated text with
  | none => return .error .textTooLong
  | some (sealedText, mac) =>
    let joined := sealedText ++ mac
    let border ← difference joined.length Gcm.tagLength
    return .ok (Envelope.assemble header content.encrypted nonce (joined.take border)
      (joined.drop border))

def sealBytes (text : Bytes) (key : OctetKey) (m : KeyManagement) (enc : ContentEncryption)
    (random : RandomStream) : Guarded (Except Error Sealed) :=
  match key.bytes? with
  | none => .ok (.error .wrongKey)
  | some shared => do
    match ← sealingKey m enc shared random with
    | .error err => return .error err
    | .ok content =>
      if content.key.length ≠ enc.keyLength then
        return .error (.keyLength enc.keyLength enc.name)
      let e ← envelope m enc content (random.draw content.drawn Gcm.nonceLength) text
      return e.map fun e => ⟨e.serialize, content.drawn + Gcm.nonceLength⟩

theorem sealingKey_eq (m : KeyManagement) (enc : ContentEncryption) (shared : Bytes)
    (random : RandomStream) :
    sealingKey m enc shared random = .ok (Sealed.contentKey m enc shared random) := by
  cases m with
  | direct => rfl
  | wrap size =>
    have hwhole : (random.draw 0 enc.keyLength).length % 8 = 0 := by
      rw [random.draw_length]
      exact enc.keyLength_mod
    simp only [sealingKey, Sealed.contentKey, wrapKey_wrap size shared hwhole]
    rfl

theorem envelope_eq (m : KeyManagement) {enc : ContentEncryption} {content : Sealed.ContentKey}
    {nonce : Bytes} (hkey : content.key.length = enc.keyLength)
    (hnonce : nonce.length = Gcm.nonceLength) (text : Bytes) :
    envelope m enc content nonce text = .ok (Sealed.envelope m enc content nonce text) := by
  unfold envelope Sealed.envelope
  rw [cipher_of_lengths hkey hnonce]
  dsimp only [bind, Except.bind]
  split
  · rename_i hnone
    rw [hnone]
    rfl
  · rename_i sealedText mac hseal
    have hmac := (Gcm.lengths_of_sealText hseal).2
    have hborder : (sealedText ++ mac).length - Gcm.tagLength = sealedText.length := by
      rw [List.length_append, hmac, Nat.add_sub_cancel]
    have hle : Gcm.tagLength ≤ (sealedText ++ mac).length := by
      rw [List.length_append, hmac]
      exact Nat.le_add_left _ _
    rw [difference_of_le hle, hborder, hseal]
    simp only [List.take_left, List.drop_left]
    rfl

theorem sealBytes_eq (text : Bytes) (key : OctetKey) (m : KeyManagement) (enc : ContentEncryption)
    (random : RandomStream) :
    sealBytes text key m enc random = .ok (SealedToken.sealBytes text key m enc random) := by
  unfold sealBytes SealedToken.sealBytes
  cases key.bytes? with
  | none => rfl
  | some shared =>
    dsimp only
    rw [sealingKey_eq]
    cases Sealed.contentKey m enc shared random with
    | error err => rfl
    | ok content =>
      by_cases hl : content.key.length = enc.keyLength
      · have hnonce := random.draw_length content.drawn Gcm.nonceLength
        have he := envelope_eq m hl hnonce text
        simp only [bind, Except.bind, hl, ne_eq, not_true_eq_false, if_false, he, pure, Except.pure]
        cases Sealed.envelope m enc content (random.draw content.drawn Gcm.nonceLength) text with
        | error err => rfl
        | ok e => rfl
      · simp only [bind, Except.bind, hl, ne_eq, not_false_eq_true, if_true]
        rfl

/-- No guard ever fails, neither in unwrapping alone nor in opening and sealing. -/
theorem no_breach :
    (∀ (m : KeyManagement) (shared wrapped : Bytes), ∃ r, unwrapKey m shared wrapped = .ok r) ∧
      (∀ (e : Envelope) (key : OctetKey), decrypt e key = .ok (e.decrypt key)) ∧
      (∀ (token : String) (key : OctetKey),
        decryptToken token key = .ok (SealedToken.decryptToken token key)) ∧
      ∀ (text : Bytes) (key : OctetKey) (m : KeyManagement) (enc : ContentEncryption)
        (random : RandomStream), sealBytes text key m enc random =
          .ok (SealedToken.sealBytes text key m enc random) := by
  refine ⟨fun m shared wrapped => ?_, decrypt_eq, decryptToken_eq, sealBytes_eq⟩
  cases m with
  | direct => exact ⟨_, unwrapKey_direct shared wrapped⟩
  | wrap size => exact ⟨_, unwrapKey_wrap size shared wrapped⟩

end Guarded

end SealedToken

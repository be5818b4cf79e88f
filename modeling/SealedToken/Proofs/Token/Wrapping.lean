import SealedToken.Proofs.Cipher.KeyWrap
import SealedToken.Token.Wrapping

/-! # Wrapping under keys of the right size

When a content key is wrapped and when it is unwrapped. Sealing blames the
caller for a wrong size; opening has one failure for everything. Between the
content keys of whole semiblocks and their wrapped forms the two are inverse
to each other. -/

namespace SealedToken.KeySize

theorem wrapKey_eq_ok_iff {size : KeySize} {shared key wrapped : Bytes} :
    size.wrapKey shared key = .ok wrapped ↔
      shared.length = size.bytes ∧ KeyWrap.wrap shared key = wrapped := by
  unfold wrapKey
  split
  · rename_i hs
    simp only [Except.ok.injEq, hs, true_and]
  · rename_i hs
    simp only [reduceCtorEq, hs, false_and]

theorem unwrapKey_eq_ok_iff {size : KeySize} {shared wrapped key : Bytes} :
    size.unwrapKey shared wrapped = .ok key ↔
      shared.length = size.bytes ∧ KeyWrap.unwrap? shared wrapped = some key := by
  unfold unwrapKey
  split
  · rename_i hs
    cases hu : KeyWrap.unwrap? shared wrapped with
    | none => simp only [reduceCtorEq, and_false]
    | some key' => simp only [Except.ok.injEq, Option.some.injEq, hs, true_and]
  · rename_i hs
    simp only [reduceCtorEq, hs, false_and]

theorem unwrapKey_error {size : KeySize} {shared wrapped : Bytes} {err : Error}
    (h : size.unwrapKey shared wrapped = .error err) : err = .wrongKey := by
  unfold unwrapKey at h
  split at h
  · split at h
    · cases h
    · cases h; rfl
  · cases h; rfl

/-- Unwrapping fails on lengths that no wrapped form has, and under shared keys
of another size. -/
theorem unwrapKey_of_length {size : KeySize} {shared wrapped : Bytes}
    (h : wrapped.length < 16 ∨ wrapped.length % 8 ≠ 0 ∨ shared.length ≠ size.bytes) :
    size.unwrapKey shared wrapped = .error .wrongKey := by
  unfold unwrapKey
  split
  · rename_i hs
    have hlength : wrapped.length < 16 ∨ wrapped.length % 8 ≠ 0 :=
      h.imp_right (Or.resolve_right · (not_not_intro hs))
    rw [KeyWrap.unwrap?_eq_none_of_length hlength]
  · rfl

/-- What is wrapped is unwrapped to the same key, and what can be unwrapped at
all is the wrapped form of what it gives. -/
theorem wrapping_inverse (size : KeySize) (shared : Bytes) :
    (shared.length = size.bytes → ∀ key : Bytes, 0 < key.length → key.length % 8 = 0 →
      ∃ wrapped, size.wrapKey shared key = .ok wrapped ∧ wrapped.length = key.length + 8 ∧
        size.unwrapKey shared wrapped = .ok key) ∧
      (∀ wrapped key, size.unwrapKey shared wrapped = .ok key →
        size.wrapKey shared key = .ok wrapped) ∧
      ∀ wrapped : Bytes,
        wrapped.length < 16 ∨ wrapped.length % 8 ≠ 0 ∨ shared.length ≠ size.bytes →
          size.unwrapKey shared wrapped = .error .wrongKey := by
  refine ⟨fun hs key hpos hwhole => ?_, fun wrapped key h => ?_, fun wrapped => unwrapKey_of_length⟩
  · have hlength := KeyWrap.wrap_length shared key hwhole
    have hundo := KeyWrap.unwrap?_wrap shared key hwhole hpos
    exact ⟨_, wrapKey_eq_ok_iff.mpr ⟨hs, rfl⟩, hlength, unwrapKey_eq_ok_iff.mpr ⟨hs, hundo⟩⟩
  · obtain ⟨hs, hunwrap⟩ := unwrapKey_eq_ok_iff.mp h
    exact wrapKey_eq_ok_iff.mpr ⟨hs, KeyWrap.wrap_of_unwrap? hunwrap⟩

/-- A key of three semiblocks under a shared key of two: the wrapped form has
four, and without its first byte it is none. -/
theorem wrapping_inverse_semiblocks :
    ∃ wrapped, bits128.wrapKey (List.replicate 16 0) (List.replicate 24 1) = .ok wrapped ∧
      wrapped.length = 32 ∧
      bits128.unwrapKey (List.replicate 16 0) wrapped = .ok (List.replicate 24 1) ∧
      bits128.unwrapKey (List.replicate 16 0) wrapped.tail = .error .wrongKey := by
  obtain ⟨hinverse, hconverse, hlengths⟩ := wrapping_inverse .bits128 (List.replicate 16 0)
  obtain ⟨wrapped, -, hlength, hunwrap⟩ := hinverse rfl (List.replicate 24 1) (by decide) rfl
  have htail : wrapped.tail.length = 31 := by rw [List.length_tail, hlength, List.length_replicate]
  have hodd : wrapped.tail.length % 8 ≠ 0 := by
    rw [htail]
    decide
  exact ⟨wrapped, hconverse _ _ hunwrap, hlength, hunwrap, hlengths _ (.inr (.inl hodd))⟩

end SealedToken.KeySize

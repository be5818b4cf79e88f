import SealedToken.Token.Algorithm

/-! # Names of algorithms

An algorithm is read from its own name and from no other text. -/

namespace SealedToken

theorem find?_name_iff {α : Type} {name : α → String} {all : List α}
    (hall : ∀ a, all.find? (name · = name a) = some a) {s : String} {a : α} :
    all.find? (name · = s) = some a ↔ s = name a := by
  constructor
  · intro h
    have hname := List.find?_some h
    exact (of_decide_eq_true hname).symm
  · intro h
    rw [h, hall]

/-- What is read from names only, and fails in one way, fails on every other text. -/
theorem eq_error_iff_of_name {α : Type} {x : Except Error α} {name : α → String} {s : String}
    {unknown : Error} (hok : ∀ a, x = .ok a ↔ s = name a)
    (herror : ∀ e, x = .error e → e = unknown) {e : Error} :
    x = .error e ↔ (∀ a, s ≠ name a) ∧ e = unknown := by
  constructor
  · intro h
    refine ⟨fun a ha => ?_, herror e h⟩
    rw [(hok a).mpr ha] at h
    cases h
  · rintro ⟨hname, rfl⟩
    cases h : x with
    | ok a => exact absurd ((hok a).mp h) (hname a)
    | error e' => rw [herror e' h]

namespace KeyManagement

theorem parse_name_iff {s : String} {m : KeyManagement} : parse s = .ok m ↔ s = m.name := by
  have hfind := find?_name_iff ofName?_name (s := s) (a := m)
  rw [← hfind, parse, ofName?]
  cases all.find? (·.name = s) <;> simp

theorem parse_eq_error_iff {s : String} {e : Error} :
    parse s = .error e ↔ (∀ m : KeyManagement, s ≠ m.name) ∧ e = .unknownKeyManagement s := by
  refine eq_error_iff_of_name (fun m => parse_name_iff) fun e h => ?_
  unfold parse at h
  split at h
  · cases h
  · cases h
    rfl

end KeyManagement

namespace ContentEncryption

theorem parse_name_iff {s : String} {enc : ContentEncryption} :
    parse s = .ok enc ↔ s = enc.name := by
  have hfind := find?_name_iff ofName?_name (s := s) (a := enc)
  rw [← hfind, parse, ofName?]
  cases all.find? (·.name = s) <;> simp

theorem parse_eq_error_iff {s : String} {e : Error} :
    parse s = .error e ↔
      (∀ enc : ContentEncryption, s ≠ enc.name) ∧ e = .unknownContentEncryption s := by
  refine eq_error_iff_of_name (fun enc => parse_name_iff) fun e h => ?_
  unfold parse at h
  split at h
  · cases h
  · cases h
    rfl

end ContentEncryption

end SealedToken

import Mathlib.Data.ZMod.Defs
import Mathlib.Tactic.Ring
import SealedToken.Ed25519.Signature

/-! # Keys of the neutral point

The neutral point is written with any invertible number as its `y` and `z`
coordinates, and sums of such points are such points. So every multiple of it
is neutral, the equation of a signature says nothing about the message, and one
signature holds for all messages. -/

namespace SealedToken.Ed25519

open scoped Fin.CommRing

/-! ### Inverses -/

namespace Element

/-- Squaring and multiplying go through a product factor by factor. -/
theorem foldl_power_mul (x y : Element) (bs : List Bool) (a b : Element) :
    bs.foldl (fun c bit => if bit then c * c * (x * y) else c * c) (a * b) =
      bs.foldl (fun c bit => if bit then c * c * x else c * c) a *
        bs.foldl (fun c bit => if bit then c * c * y else c * c) b := by
  induction bs generalizing a b with
  | nil => rfl
  | cons bit bs ih =>
    simp only [List.foldl_cons]
    cases bit with
    | true =>
      have hstep : a * b * (a * b) * (x * y) = a * a * x * (b * b * y) := by ring
      simp only [if_true, hstep, ih]
    | false =>
      have hstep : a * b * (a * b) = a * a * (b * b) := by ring
      simp only [Bool.false_eq_true, if_false, hstep, ih]

theorem power_mul (x y : Element) (e : Nat) : power (x * y) e = power x e * power y e := by
  have h := foldl_power_mul x y (bits 255 e) 1 1
  rwa [mul_one] at h

/-- The inverse is one. Zero has none; of the other elements only those are
needed that are products of twos. -/
def Inverts (x : Element) : Prop := x * inverse x = 1

theorem Inverts.mul {x y : Element} (hx : x.Inverts) (hy : y.Inverts) : (x * y).Inverts := by
  have hxy : x * y * (inverse x * inverse y) = x * inverse x * (y * inverse y) := by ring
  rw [Inverts, inverse, power_mul]
  exact hxy.trans (by rw [hx, hy, mul_one])

theorem inverts_one : (1 : Element).Inverts := by
  unfold Inverts
  decide +kernel

theorem inverts_two : (1 + 1 : Element).Inverts := by
  unfold Inverts
  decide +kernel

theorem Inverts.double {x : Element} (h : x.Inverts) : (x + x).Inverts := by
  have hx : x + x = (1 + 1) * x := by ring
  rw [hx]
  exact inverts_two.mul h

end Element

/-! ### Neutral points -/

namespace Point

/-- The point `(0, 1)`, in whatever coordinates. -/
def IsNeutral (p : Point) : Prop := ∃ z : Element, z.Inverts ∧ p = ⟨0, z, z, 0⟩

theorem isNeutral_identity : identity.IsNeutral := ⟨1, Element.inverts_one, rfl⟩

theorem IsNeutral.add {p q : Point} (hp : p.IsNeutral) (hq : q.IsNeutral) :
    (p.add q).IsNeutral := by
  obtain ⟨z, hz, rfl⟩ := hp
  obtain ⟨w, hw, rfl⟩ := hq
  have hzw := (hz.mul hw).double
  refine ⟨_, hzw.mul hzw, ?_⟩
  simp only [Point.add, Point.mk.injEq]
  refine ⟨?_, ?_, ?_, ?_⟩ <;> ring

theorem IsNeutral.neg {p : Point} (h : p.IsNeutral) : p.neg.IsNeutral := by
  obtain ⟨z, hz, rfl⟩ := h
  exact ⟨z, hz, by simp only [Point.neg, neg_zero]⟩

/-- Doubling and adding keeps to neutral points, if only neutral ones are added. -/
theorem IsNeutral.foldl {p q : Point} (hq : q.IsNeutral) {bs : List Bool}
    (hp : true ∈ bs → p.IsNeutral) :
    (bs.foldl (fun q bit => if bit then (q.add q).add p else q.add q) q).IsNeutral := by
  induction bs generalizing q with
  | nil => exact hq
  | cons bit bs ih =>
    have hbs : true ∈ bs → p.IsNeutral := fun h => hp (List.mem_cons_of_mem bit h)
    rw [List.foldl_cons]
    cases bit with
    | true => exact ih ((hq.add hq).add (hp List.mem_cons_self)) hbs
    | false => exact ih (hq.add hq) hbs

theorem IsNeutral.times {p : Point} (h : p.IsNeutral) (n : Nat) : (p.times n).IsNeutral :=
  isNeutral_identity.foldl fun _ => h

theorem isNeutral_times_zero (p : Point) : (p.times 0).IsNeutral := by
  refine isNeutral_identity.foldl fun hmem => absurd hmem ?_
  decide

theorem IsNeutral.hasSmallOrder {p : Point} (h : p.IsNeutral) : p.HasSmallOrder := by
  obtain ⟨z, -, hz⟩ := h.times 8
  exact ⟨congrArg Point.x hz, congrArg Point.y hz |>.trans (congrArg Point.z hz).symm⟩

/-- However a neutral point is written in coordinates, its bytes are the same. -/
theorem IsNeutral.encode {p : Point} (h : p.IsNeutral) : p.encode = identity.encode := by
  obtain ⟨z, hz, rfl⟩ := h
  have hidentity := Element.inverts_one
  unfold Element.Inverts at hz hidentity
  simp only [Point.encode, identity, hz, hidentity, zero_mul]

end Point

/-! ### The one signature -/

/-- The bytes of the neutral point and a scalar of zero. -/
def neutralSignature : Bytes := Point.identity.encode ++ List.replicate 32 0

/-- Under a key of the neutral point the one signature holds for every message. -/
theorem PublicKey.accepts_neutralSignature {key : PublicKey} (h : key.point.IsNeutral)
    (message : Bytes) : key.accepts message neutralSignature = true := by
  have hlength : neutralSignature.length = 64 := by
    rw [neutralSignature, List.length_append, Point.encode_length, List.length_replicate]
  have hr : neutralSignature.take 32 = Point.identity.encode :=
    List.take_left' (Point.encode_length _)
  have hs : Bytes.ofLittleEndian (neutralSignature.drop 32) = 0 := by
    rw [neutralSignature, List.drop_left' (Point.encode_length _)]
    decide
  have hpoint := (Point.isNeutral_times_zero Point.base).add
    (h.neg.times (key.challenge Point.identity.encode message))
  simp only [accepts, hlength, hr, hs, hpoint.encode]
  decide

end SealedToken.Ed25519

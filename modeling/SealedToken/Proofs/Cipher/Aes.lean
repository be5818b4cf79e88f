import SealedToken.Cipher.Aes
import SealedToken.Proofs.Text.Utf8

/-! # Deciphering undoes enciphering

Under every schedule of round keys the two directions of the block cipher are
inverse to each other. The substitution is checked on its 256 bytes; the two
column maps are linear, so they are checked on columns with a single byte. -/

namespace SealedToken.Aes

/-! ### Substitution -/

def allBytes : List Byte := (List.range 256).map UInt8.ofNat

/-- A map that reads a whole table as the bytes in order takes every byte back
that is looked up in the table. -/
theorem apply_getD_of_map_eq {t : Array Byte} {f : Byte → Byte} (h : t.toList.map f = allBytes)
    (b : Byte) : f (t.getD b.toNat 0) = b := by
  have hsize : t.size = 256 := by
    have hlength := congrArg List.length h
    simpa [allBytes] using hlength
  have hb : b.toNat < t.size := by
    rw [hsize]
    exact b.toNat_lt
  have hget : (t.toList.map f)[b.toNat]? = some (f t[b.toNat]) := by simp [hb]
  have hbyte : allBytes[b.toNat]? = some b := by
    simp [allBytes, List.getElem?_range (show b.toNat < 256 from b.toNat_lt)]
  rw [h, hbyte] at hget
  rw [Array.getD, dif_pos hb]
  exact (Option.some.inj hget).symm

theorem map_restore_substitutions : substitutions.toList.map restore = allBytes := by
  decide +kernel

theorem map_substitute_preimages : preimages.toList.map substitute = allBytes := by
  decide +kernel

theorem restore_substitute (b : Byte) : restore (substitute b) = b := by
  rw [substitute]
  exact apply_getD_of_map_eq map_restore_substitutions b

theorem substitute_restore (b : Byte) : substitute (restore b) = b := by
  rw [restore]
  exact apply_getD_of_map_eq map_substitute_preimages b

theorem restoreColumn_substituteColumn (x : Column) :
    restoreColumn (substituteColumn x) = x := by
  simp only [restoreColumn, substituteColumn, restore_substitute]

theorem substituteColumn_restoreColumn (x : Column) :
    substituteColumn (restoreColumn x) = x := by
  simp only [restoreColumn, substituteColumn, substitute_restore]

/-! ### Linear maps of bytes -/

def Linear (f : Byte → Byte) : Prop := ∀ a b, f (a ^^^ b) = f a ^^^ f b

theorem Linear.comp {f g : Byte → Byte} (hf : Linear f) (hg : Linear g) :
    Linear fun b => f (g b) := by
  intro a b
  show f (g (a ^^^ b)) = f (g a) ^^^ f (g b)
  rw [hg, hf]

theorem Linear.xor {f g : Byte → Byte} (hf : Linear f) (hg : Linear g) :
    Linear fun b => f b ^^^ g b := by
  intro a b
  show f (a ^^^ b) ^^^ g (a ^^^ b) = (f a ^^^ g a) ^^^ (f b ^^^ g b)
  rw [hf, hg]
  ac_rfl

theorem linear_id : Linear fun b => b := fun _ _ => rfl

theorem le_iff_msb (b : Byte) : 0x80 ≤ b ↔ b.toBitVec.msb = true := by
  rw [BitVec.msb_eq_decide, decide_eq_true_iff]
  exact UInt8.le_iff_toNat_le

/-- What is added when the top bit of a byte is shifted out. -/
def reduction (top : Bool) : Byte := if top then 0x1b else 0

theorem reduction_xor (s t : Bool) : reduction (s ^^ t) = reduction s ^^^ reduction t := by
  revert s t
  decide

theorem double_eq (b : Byte) : double b = (b <<< 1) ^^^ reduction b.toBitVec.msb := by
  unfold double reduction
  simp only [le_iff_msb]

theorem shiftLeft_one_xor (a b : Byte) : (a ^^^ b) <<< 1 = (a <<< 1) ^^^ (b <<< 1) := by
  apply UInt8.toBitVec_inj.mp
  exact BitVec.shiftLeft_xor_distrib a.toBitVec b.toBitVec 1

theorem linear_double : Linear double := by
  intro a b
  rw [double_eq, double_eq, double_eq, shiftLeft_one_xor, UInt8.toBitVec_xor, BitVec.msb_xor,
    reduction_xor]
  ac_rfl

theorem linear_triple : Linear triple := linear_double.xor linear_id

theorem linear_times9 : Linear times9 :=
  (linear_double.comp (linear_double.comp linear_double)).xor linear_id

theorem linear_times11 : Linear times11 :=
  ((linear_double.comp (linear_double.comp linear_double)).xor linear_double).xor linear_id

theorem linear_times13 : Linear times13 :=
  ((linear_double.comp (linear_double.comp linear_double)).xor
    (linear_double.comp linear_double)).xor linear_id

theorem linear_times14 : Linear times14 :=
  ((linear_double.comp (linear_double.comp linear_double)).xor
    (linear_double.comp linear_double)).xor linear_double

/-! ### Linear maps of columns -/

def LinearColumns (f : Column → Column) : Prop := ∀ x y, f (x.xor y) = (f x).xor (f y)

theorem LinearColumns.comp {f g : Column → Column} (hf : LinearColumns f)
    (hg : LinearColumns g) : LinearColumns fun x => f (g x) := by
  intro x y
  show f (g (x.xor y)) = (f (g x)).xor (f (g y))
  rw [hg, hf]

theorem linearColumns_mixColumn : LinearColumns mixColumn := by
  intro x y
  simp only [mixColumn, Column.xor, linear_double _ _, linear_triple _ _, Column.mk.injEq]
  refine ⟨?_, ?_, ?_, ?_⟩ <;> ac_rfl

theorem linearColumns_unmixColumn : LinearColumns unmixColumn := by
  intro x y
  simp only [unmixColumn, Column.xor, linear_times9 _ _, linear_times11 _ _,
    linear_times13 _ _, linear_times14 _ _, Column.mk.injEq]
  refine ⟨?_, ?_, ?_, ?_⟩ <;> ac_rfl

/-- Every column is a sum of four columns with a single byte. -/
theorem eq_sum_of_bytes (x : Column) :
    x = (((⟨x.a, 0, 0, 0⟩ : Column).xor ⟨0, x.b, 0, 0⟩).xor ⟨0, 0, x.c, 0⟩).xor ⟨0, 0, 0, x.d⟩ := by
  simp [Column.xor]

/-- A map of columns fixes the four columns that hold one byte. -/
def FixesByte (f : Column → Column) (b : Byte) : Prop :=
  f ⟨b, 0, 0, 0⟩ = ⟨b, 0, 0, 0⟩ ∧ f ⟨0, b, 0, 0⟩ = ⟨0, b, 0, 0⟩ ∧
    f ⟨0, 0, b, 0⟩ = ⟨0, 0, b, 0⟩ ∧ f ⟨0, 0, 0, b⟩ = ⟨0, 0, 0, b⟩

theorem LinearColumns.eq_self {f : Column → Column} (hf : LinearColumns f)
    (hb : ∀ b, FixesByte f b) (x : Column) : f x = x := by
  obtain ⟨ha, -, -, -⟩ := hb x.a
  obtain ⟨-, hb', -, -⟩ := hb x.b
  obtain ⟨-, -, hc, -⟩ := hb x.c
  obtain ⟨-, -, -, hd⟩ := hb x.d
  have hsum := eq_sum_of_bytes x
  calc f x
      = (((f ⟨x.a, 0, 0, 0⟩).xor (f ⟨0, x.b, 0, 0⟩)).xor (f ⟨0, 0, x.c, 0⟩)).xor
          (f ⟨0, 0, 0, x.d⟩) := by rw [← hf, ← hf, ← hf, ← hsum]
    _ = x := by rw [ha, hb', hc, hd, ← hsum]

/-! ### Mixing -/

theorem double_zero : double 0 = 0 := rfl

theorem xor_left_comm (a b c : Byte) : a ^^^ (b ^^^ c) = b ^^^ (a ^^^ c) := by
  rw [← UInt8.xor_assoc, UInt8.xor_comm a b, UInt8.xor_assoc]

theorem xor_xor_self_left (a b : Byte) : a ^^^ (a ^^^ b) = b := by
  rw [← UInt8.xor_assoc, UInt8.xor_self, UInt8.zero_xor]

/- With every multiple written as a sum of doublings, each byte of the product
of the two polynomials cancels term by term: reduction plays no part. -/

theorem fixesByte_unmixColumn_mixColumn (b : Byte) :
    FixesByte (fun x => unmixColumn (mixColumn x)) b := by
  simp only [FixesByte, unmixColumn, mixColumn, times9, times11, times13, times14, triple,
    linear_double _ _, double_zero, UInt8.xor_zero, UInt8.zero_xor]
  simp only [UInt8.xor_assoc, UInt8.xor_comm, xor_left_comm, UInt8.xor_self, xor_xor_self_left,
    UInt8.xor_zero, and_self]

theorem fixesByte_mixColumn_unmixColumn (b : Byte) :
    FixesByte (fun x => mixColumn (unmixColumn x)) b := by
  simp only [FixesByte, unmixColumn, mixColumn, times9, times11, times13, times14, triple,
    linear_double _ _, double_zero, UInt8.xor_zero, UInt8.zero_xor]
  simp only [UInt8.xor_assoc, UInt8.xor_comm, xor_left_comm, UInt8.xor_self, xor_xor_self_left,
    UInt8.xor_zero, and_self]

theorem unmixColumn_mixColumn (x : Column) : unmixColumn (mixColumn x) = x :=
  (linearColumns_unmixColumn.comp linearColumns_mixColumn).eq_self
    fixesByte_unmixColumn_mixColumn x

theorem mixColumn_unmixColumn (x : Column) : mixColumn (unmixColumn x) = x :=
  (linearColumns_mixColumn.comp linearColumns_unmixColumn).eq_self
    fixesByte_mixColumn_unmixColumn x

/-! ### Rounds -/

theorem map_map_of_inverse {f g : Column → Column} (h : ∀ x, g (f x) = x) (x : Block) :
    (x.map f).map g = x := by
  simp only [Block.map, h]

theorem unround_round (x k : Block) : unround k (round x k) = x := by
  rw [unround, round, Block.xor_cancel, map_map_of_inverse unmixColumn_mixColumn,
    unshiftRows_shiftRows, map_map_of_inverse restoreColumn_substituteColumn]

theorem round_unround (k x : Block) : round (unround k x) k = x := by
  rw [unround, round, map_map_of_inverse substituteColumn_restoreColumn,
    shiftRows_unshiftRows, map_map_of_inverse mixColumn_unmixColumn, Block.xor_cancel]

theorem unfinalRound_finalRound (x k : Block) : unfinalRound (finalRound x k) k = x := by
  rw [unfinalRound, finalRound, Block.xor_cancel, unshiftRows_shiftRows,
    map_map_of_inverse restoreColumn_substituteColumn]

theorem finalRound_unfinalRound (x k : Block) : finalRound (unfinalRound x k) k = x := by
  rw [unfinalRound, finalRound, map_map_of_inverse substituteColumn_restoreColumn,
    shiftRows_unshiftRows, Block.xor_cancel]

theorem foldr_unround_foldl_round (ks : List Block) (x : Block) :
    ks.foldr unround (ks.foldl round x) = x := by
  induction ks generalizing x with
  | nil => rfl
  | cons k ks ih => rw [List.foldl_cons, List.foldr_cons, ih, unround_round]

theorem foldl_round_foldr_unround (ks : List Block) (x : Block) :
    ks.foldl round (ks.foldr unround x) = x := by
  induction ks with
  | nil => rfl
  | cons k ks ih => rw [List.foldr_cons, List.foldl_cons, round_unround, ih]

/-! ### The cipher -/

theorem decipher_encipher (k : Schedule) (x : Block) : decipher k (encipher k x) = x := by
  rw [decipher, encipher, unfinalRound_finalRound, foldr_unround_foldl_round, Block.xor_cancel]

theorem encipher_decipher (k : Schedule) (x : Block) : encipher k (decipher k x) = x := by
  rw [decipher, encipher, Block.xor_cancel, foldl_round_foldr_unround, finalRound_unfinalRound]

end SealedToken.Aes

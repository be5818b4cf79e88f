import SealedToken.Cipher.KeyWrap
import SealedToken.Proofs.Cipher.Aes

/-! # Unwrapping undoes wrapping

Each pass over the semiblocks can be undone, from the last step to the first,
because the block cipher can. So a key of whole semiblocks is given back by
its wrapped form, and a byte string that unwraps to a key is the wrapped form
of that key and of nothing else. -/

namespace SealedToken

/-! ### Byte strings of whole groups -/

theorem Column.flatMap_bytes_ofBytes (b : Bytes) (h : b.length % 4 = 0) :
    (Column.ofBytes b).flatMap Column.bytes = b := by
  fun_induction Column.ofBytes b with
  | case1 w x y z r ih =>
    have hr : r.length % 4 = 0 := by
      simp only [List.length_cons] at h
      omega
    rw [List.flatMap_cons, ih hr]
    rfl
  | case2 b hshort =>
    rcases b with _ | ⟨w, _ | ⟨x, _ | ⟨y, _ | ⟨z, r⟩⟩⟩⟩
    · rfl
    · simp at h
    · simp at h
    · simp at h
    · exact absurd rfl (hshort w x y z r)

theorem Column.ofBytes_length (b : Bytes) : (Column.ofBytes b).length = b.length / 4 := by
  fun_induction Column.ofBytes b with
  | case1 w x y z r ih =>
    simp only [List.length_cons, ih]
    omega
  | case2 b hshort =>
    rcases b with _ | ⟨w, _ | ⟨x, _ | ⟨y, _ | ⟨z, r⟩⟩⟩⟩
    · rfl
    · simp
    · simp
    · simp
    · exact absurd rfl (hshort w x y z r)

theorem Semiblock.flatMap_bytes_ofColumns (cs : List Column) (h : cs.length % 2 = 0) :
    (Semiblock.ofColumns cs).flatMap Semiblock.bytes = cs.flatMap Column.bytes := by
  fun_induction Semiblock.ofColumns cs with
  | case1 x y r ih =>
    have hr : r.length % 2 = 0 := by
      simp only [List.length_cons] at h
      omega
    rw [List.flatMap_cons, ih hr, List.flatMap_cons, List.flatMap_cons, Semiblock.bytes,
      List.append_assoc]
  | case2 cs hshort =>
    rcases cs with _ | ⟨x, _ | ⟨y, r⟩⟩
    · rfl
    · simp at h
    · exact absurd rfl (hshort x y r)

theorem Semiblock.flatMap_bytes_ofBytes (b : Bytes) (h : b.length % 8 = 0) :
    (Semiblock.ofBytes b).flatMap Semiblock.bytes = b := by
  have hcolumns : (Column.ofBytes b).length % 2 = 0 := by
    rw [Column.ofBytes_length]
    omega
  rw [Semiblock.ofBytes, Semiblock.flatMap_bytes_ofColumns _ hcolumns,
    Column.flatMap_bytes_ofBytes b (by omega)]

namespace KeyWrap

/-! ### Passes -/

theorem unpass_pass (k : Aes.Schedule) (t : Nat) (a : Semiblock) (rs : List Semiblock) :
    unpass k t (pass k t a rs).1 (pass k t a rs).2 = (a, rs) := by
  induction rs generalizing t a with
  | nil => rfl
  | cons r rs ih =>
    simp only [pass, unpass, ih, Semiblock.xor_cancel, Block.ofSemiblocks_left_right,
      Aes.decipher_encipher]
    rfl

theorem pass_unpass (k : Aes.Schedule) (t : Nat) (a : Semiblock) (rs : List Semiblock) :
    pass k t (unpass k t a rs).1 (unpass k t a rs).2 = (a, rs) := by
  induction rs generalizing t with
  | nil => rfl
  | cons r rs ih =>
    have hleft : ∀ x y : Semiblock, (Block.ofSemiblocks x y).left = x := fun _ _ => rfl
    have hright : ∀ x y : Semiblock, (Block.ofSemiblocks x y).right = y := fun _ _ => rfl
    simp only [pass, unpass, Block.ofSemiblocks_left_right, Aes.encipher_decipher, hleft, hright,
      Semiblock.xor_cancel, ih]

theorem unpasses_passes (k : Aes.Schedule) (n j : Nat) (s : Semiblock × List Semiblock) :
    unpasses k j n (passes k j n s) = s := by
  induction n generalizing j s with
  | zero => rfl
  | succ n ih => rw [passes, unpasses, ih, pass_length, unpass_pass]

theorem passes_unpasses (k : Aes.Schedule) (n j : Nat) (s : Semiblock × List Semiblock) :
    passes k j n (unpasses k j n s) = s := by
  induction n generalizing j with
  | zero => rfl
  | succ n ih => rw [unpasses, passes, unpass_length, pass_unpass, ih]

theorem passes_length (k : Aes.Schedule) (n j : Nat) (s : Semiblock × List Semiblock) :
    (passes k j n s).2.length = s.2.length := by
  induction n generalizing j s with
  | zero => rfl
  | succ n ih => rw [passes, ih, pass_length]

/-! ### Keys -/

theorem wrap_length (kek key : Bytes) (h : key.length % 8 = 0) :
    (wrap kek key).length = key.length + overhead := by
  have hkey := congrArg List.length (Semiblock.flatMap_bytes_ofBytes key h)
  rw [Semiblock.flatMap_bytes_length] at hkey
  simp only [wrap, Semiblock.flatMap_bytes_length, List.length_cons, passes_length, overhead]
  omega

/-- A key of whole semiblocks is given back by its wrapped form. -/
theorem unwrap?_wrap (kek key : Bytes) (h : key.length % 8 = 0) (hpos : 0 < key.length) :
    unwrap? kek (wrap kek key) = some key := by
  have hlength := wrap_length kek key h
  have hwhole : ¬((wrap kek key).length < 2 * overhead ∨ (wrap kek key).length % overhead ≠ 0) := by
    rw [hlength, overhead]
    omega
  have hundo : ∀ s : Semiblock × List Semiblock, unpasses (Aes.schedule kek) 0 6
      ((passes (Aes.schedule kek) 0 6 s).1, (passes (Aes.schedule kek) 0 6 s).2) = s :=
    unpasses_passes (Aes.schedule kek) 6 0
  rw [unwrap?, if_neg hwhole]
  simp only [wrap, Semiblock.ofBytes_flatMap_bytes, hundo, if_true,
    Semiblock.flatMap_bytes_ofBytes key h]

theorem unwrap?_eq_none_of_length {kek wrapped : Bytes}
    (h : wrapped.length < 16 ∨ wrapped.length % 8 ≠ 0) : unwrap? kek wrapped = none := if_pos h

/-- A byte string that unwraps is the wrapped form of the key it gives. -/
theorem wrap_of_unwrap? {kek wrapped key : Bytes} (h : unwrap? kek wrapped = some key) :
    wrap kek key = wrapped := by
  unfold unwrap? at h
  split at h
  · cases h
  rename_i hwhole
  have hmod : wrapped.length % 8 = 0 := by
    rw [overhead] at hwhole
    omega
  have hbytes := Semiblock.flatMap_bytes_ofBytes wrapped hmod
  split at h
  · cases h
  rename_i a rs hsplit
  -- The register that unwrapping ends with is the one that wrapping starts from.
  have hredo := passes_unpasses (Aes.schedule kek) 6 0 (a, rs)
  simp only at h
  split at h
  · rename_i hregister
    cases h
    rw [wrap, Semiblock.ofBytes_flatMap_bytes, ← hregister]
    show ((passes (Aes.schedule kek) 0 6 (unpasses (Aes.schedule kek) 0 6 (a, rs))).1 ::
      (passes (Aes.schedule kek) 0 6 (unpasses (Aes.schedule kek) 0 6 (a, rs))).2).flatMap
        Semiblock.bytes = wrapped
    rw [hredo, ← hsplit, hbytes]
  · cases h

theorem length_mod_of_unwrap? {kek wrapped key : Bytes} (h : unwrap? kek wrapped = some key) :
    key.length % 8 = 0 := by
  unfold unwrap? at h
  split at h
  · cases h
  split at h
  · cases h
  simp only at h
  split at h
  · cases h
    rw [Semiblock.flatMap_bytes_length]
    exact Nat.mul_mod_right _ _
  · cases h

theorem length_of_unwrap? {kek wrapped key : Bytes} (h : unwrap? kek wrapped = some key) :
    wrapped.length = key.length + overhead := by
  rw [← wrap_of_unwrap? h]
  exact wrap_length kek key (length_mod_of_unwrap? h)

/-! ### Wrapping by numbered steps -/

/-- One step of RFC 3394 on a register and the row of semiblocks. The steps are
numbered through, from zero; each takes the next semiblock, and after the last
one the first again. -/
def step (k : Aes.Schedule) (s : Semiblock × List Semiblock) (t : Nat) :
    Semiblock × List Semiblock :=
  let i := t % s.2.length
  let x := Aes.encipher k (Block.ofSemiblocks s.1 (s.2[i]?.getD redundancy))
  (x.left.xor (Semiblock.ofNat (t + 1)), s.2.set i x.right)

/-- A wrapped key as RFC 3394 has it: six steps for each semiblock of the key. -/
def stepwise (kek key : Bytes) : Bytes :=
  let rs := Semiblock.ofBytes key
  let s := (List.range (6 * rs.length)).foldl (step (Aes.schedule kek)) (redundancy, rs)
  (s.1 :: s.2).flatMap Semiblock.bytes

/-- The rest of a pass that starts with step `base`, once the steps for the
semiblocks in `done` were made. -/
theorem foldl_step_pass (k : Aes.Schedule) {base : Nat} (a : Semiblock) (done rs : List Semiblock)
    (hbase : (done ++ rs).length ∣ base) :
    (List.range' (base + done.length) rs.length).foldl (step k) (a, done ++ rs) =
      ((pass k (base + done.length + 1) a rs).1, done ++ (pass k (base + done.length + 1) a rs).2) := by
  induction rs generalizing a done with
  | nil => rfl
  | cons r rs ih =>
    let x := Aes.encipher k (Block.ofSemiblocks a r)
    let a' := x.left.xor (Semiblock.ofNat (base + done.length + 1))
    have hindex : (base + done.length) % (done ++ r :: rs).length = done.length := by
      obtain ⟨j, rfl⟩ := hbase
      rw [Nat.mul_add_mod]
      exact Nat.mod_eq_of_lt (by simp)
    have hstep : step k (a, done ++ r :: rs) (base + done.length) = (a', done ++ [x.right] ++ rs) := by
      simp only [step, hindex]
      simp [a', x]
    have hrest := ih a' (done ++ [x.right]) (by simpa using hbase)
    rw [List.length_append, List.length_singleton, ← Nat.add_assoc] at hrest
    rw [List.length_cons, List.range'_succ, List.foldl_cons, hstep, hrest, pass, List.append_assoc]
    rfl

theorem foldl_step_passes (k : Aes.Schedule) (j n : Nat) (s : Semiblock × List Semiblock) :
    (List.range' (s.2.length * j) (s.2.length * n)).foldl (step k) s = passes k j n s := by
  induction n generalizing j s with
  | zero => rfl
  | succ n ih =>
    have hpass := foldl_step_pass k s.1 [] s.2 (Nat.dvd_mul_right s.2.length j)
    simp only [List.nil_append, List.length_nil, Nat.add_zero] at hpass
    have hrest := ih (j + 1) (pass k (s.2.length * j + 1) s.1 s.2)
    rw [pass_length] at hrest
    rw [Nat.mul_succ, Nat.add_comm (s.2.length * n), ← List.range'_append_1, List.foldl_append,
      passes, hpass, ← hrest, Nat.mul_succ]

/-- The passes make the steps of the standard. -/
theorem wrap_eq_stepwise (kek key : Bytes) : wrap kek key = stepwise kek key := by
  have hsteps := foldl_step_passes (Aes.schedule kek) 0 6 (redundancy, Semiblock.ofBytes key)
  rw [Nat.mul_zero, Nat.mul_comm, ← List.range_eq_range'] at hsteps
  rw [wrap, stepwise, hsteps]

end KeyWrap

end SealedToken

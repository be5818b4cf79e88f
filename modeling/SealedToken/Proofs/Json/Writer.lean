import SealedToken.Json.Writer
import SealedToken.Proofs.Json.Record

/-! # Written texts

What is written is in the grammar, as the value that was meant: the escapes of
a character are pieces that stand for it, so a quoted string spells the string,
and the members of an object follow each other as the grammar wants them. -/

namespace SealedToken.Json

/-! ### Escaped characters -/

theorem Pieces.append {a b raw out : Bytes} (h : Pieces a b) (hrest : Pieces raw out) :
    Pieces (a ++ raw) (b ++ out) := by
  induction h with
  | nil => exact hrest
  | cons piece rest ih =>
    simp only [List.append_assoc]
    exact .cons piece ih

theorem Piece.pieces {a b : Bytes} (h : Piece a b) : Pieces a b := by
  have hone := Pieces.cons h .nil
  simpa using hone

theorem pieces_self {b : Bytes} (h : ∀ x ∈ b, x ≠ quoteMark ∧ x ≠ backslash ∧ ¬x < 0x20) :
    Pieces b b := by
  induction b with
  | nil => exact .nil
  | cons x b ih =>
    obtain ⟨hquote, hslash, hcontrol⟩ := h x List.mem_cons_self
    have hrest := ih fun y hy => h y (List.mem_cons_of_mem x hy)
    exact .cons (a := [x]) (.plain hquote hslash hcontrol) hrest

/-- The code of a control character is that of its two digits behind two zeros. -/
theorem hexWord?_control (n : Fin 32) :
    hexWord? 0x30 0x30 (UInt8.ofNat (Hex.digit (n.val / 16)).toNat)
        (UInt8.ofNat (Hex.digit (n.val % 16)).toNat) = some n.val ∧
      (Hex.digit (n.val / 16)).toNat < 0x80 ∧ (Hex.digit (n.val % 16)).toNat < 0x80 := by
  revert n
  decide

theorem pieces_control {c : Char} (h : c.toNat < 32) :
    Pieces (['\\', 'u', '0', '0', Hex.digit (c.toNat / 16), Hex.digit (c.toNat % 16)].flatMap
      String.utf8EncodeChar) (String.utf8EncodeChar c) := by
  obtain ⟨hword, hhigh, hlow⟩ := hexWord?_control ⟨c.toNat, h⟩
  have hleading : isLeadingSurrogate c.toNat = false := by
    simp [isLeadingSurrogate]
    omega
  have htrailing : isTrailingSurrogate c.toNat = false := by
    simp [isTrailingSurrogate]
    omega
  have hcode := (Piece.code hword htrailing hleading).pieces
  rw [Char.ofNat_toNat] at hcode
  simp only [List.flatMap_cons, List.flatMap_nil, List.append_nil, Utf8.encodeChar_of_lt hhigh,
    Utf8.encodeChar_of_lt hlow]
  exact hcode

/-- A byte below 128 stands in no character but its own. -/
theorem toNat_of_mem_encodeChar {c : Char} {x : Byte} (hx : x < 0x80)
    (h : x ∈ String.utf8EncodeChar c) : c.toNat = x.toNat := by
  have hlt : x.toNat < 0x80 := UInt8.lt_iff_toNat_lt.mp hx
  have hvalue : (Char.ofNat x.toNat).toNat = x.toNat := Utf8.toNat_ofNat (.inl (by omega))
  have hc : c = Char.ofNat x.toNat := by
    apply (Utf8.mem_encodeChar_iff (by omega)).mp
    rwa [hvalue, UInt8.ofNat_toNat]
  rw [hc, hvalue]

theorem eq_of_toNat {c : Char} {n : Nat} (h : c.toNat = n) : c = Char.ofNat n := by
  rw [← h, Char.ofNat_toNat]

theorem pieces_plain {c : Char} (hquote : c ≠ '\"') (hslash : c ≠ '\\') (hcontrol : ¬c.toNat < 32) :
    Pieces (String.utf8EncodeChar c) (String.utf8EncodeChar c) := by
  apply pieces_self
  intro x hx
  have hvalue : ∀ {y : Byte}, y < 0x80 → x = y → c.toNat = y.toNat := by
    intro y hy h
    exact toNat_of_mem_encodeChar hy (h ▸ hx)
  refine ⟨fun h => ?_, fun h => ?_, fun h => ?_⟩
  · exact hquote (eq_of_toNat (hvalue (by decide) h))
  · exact hslash (eq_of_toNat (hvalue (by decide) h))
  · have hlt := UInt8.lt_iff_toNat_lt.mp h
    have hself := hvalue (UInt8.lt_iff_toNat_lt.mpr (Nat.lt_trans hlt (by decide))) rfl
    have hsmall : x.toNat < 32 := hlt
    omega

theorem pieces_escape (c : Char) :
    Pieces ((escape c).flatMap String.utf8EncodeChar) (String.utf8EncodeChar c) := by
  -- The two-letter escapes are closed facts, one for each of seven characters.
  have hescaped : ∀ {e x : Byte}, escaped? e = some x → Pieces [backslash, e] [x] :=
    fun he => (Piece.escape he).pieces
  unfold escape
  split
  · rename_i h
    subst h
    exact hescaped (e := 0x22) rfl
  split
  · rename_i h
    subst h
    exact hescaped (e := 0x5C) rfl
  split
  · rename_i h
    rw [eq_of_toNat h]
    exact hescaped (e := 0x62) rfl
  split
  · rename_i h
    rw [eq_of_toNat h]
    exact hescaped (e := 0x74) rfl
  split
  · rename_i h
    rw [eq_of_toNat h]
    exact hescaped (e := 0x6E) rfl
  split
  · rename_i h
    rw [eq_of_toNat h]
    exact hescaped (e := 0x66) rfl
  split
  · rename_i h
    rw [eq_of_toNat h]
    exact hescaped (e := 0x72) rfl
  split
  · rename_i h
    exact pieces_control h
  · rename_i hquote hslash _ _ _ _ _ hcontrol
    rw [List.flatMap_singleton]
    exact pieces_plain hquote hslash hcontrol

/-! ### Quoted strings -/

theorem pieces_flatMap_escape (cs : List Char) :
    Pieces ((cs.flatMap escape).flatMap String.utf8EncodeChar)
      (cs.flatMap String.utf8EncodeChar) := by
  induction cs with
  | nil => exact .nil
  | cons c cs ih =>
    simp only [List.flatMap_cons, List.flatMap_append]
    exact (pieces_escape c).append ih

/-- The bytes of a string between its quote marks. -/
def escapedBytes (s : String) : Bytes := (s.toList.flatMap escape).flatMap String.utf8EncodeChar

theorem stringText_escapedBytes (s : String) : StringText s (escapedBytes s) :=
  pieces_flatMap_escape s.toList

theorem flatMap_quoted (s : String) :
    (quoted s).flatMap String.utf8EncodeChar = quoteMark :: (escapedBytes s ++ [quoteMark]) := by
  simp only [quoted, List.flatMap_append, List.flatMap_cons, List.flatMap_nil, List.append_nil,
    escapedBytes]
  rfl

/-- A text without characters to escape is written as it is. -/
theorem escapedBytes_of_plain {s : String} (h : ∀ c ∈ s.toList, escape c = [c]) :
    escapedBytes s = Utf8.encode s := by
  have hsame : s.toList.flatMap escape = s.toList := by
    rw [List.flatMap_def, List.map_congr_left h, ← List.flatMap_def, List.flatMap_singleton']
  rw [escapedBytes, hsame, Utf8.encode]

/-- The bytes of a leaf. -/
def Leaf.bytes (v : Leaf) : Bytes := v.chars.flatMap String.utf8EncodeChar

theorem Leaf.bytes_text (s : String) :
    (Leaf.text s).bytes = quoteMark :: (escapedBytes s ++ [quoteMark]) :=
  flatMap_quoted s

section

variable {α : Type} {P : α → Bytes → Prop}

theorem memberText_leaf (name : String) {v : Leaf} {a : α} (h : P a v.bytes) :
    MemberText P (name, a) ((quoted name ++ ':' :: v.chars).flatMap String.utf8EncodeChar) := by
  refine ⟨escapedBytes name, [], [], _, stringText_escapedBytes name, blanks_nil, blanks_nil, h, ?_⟩
  simp only [Leaf.bytes, List.flatMap_append, List.flatMap_cons, flatMap_quoted, List.cons_append,
    List.append_assoc, List.nil_append]
  rfl

/-- Written members follow each other as entries, however their values are read. -/
theorem entries_memberChars (first : Bool) (ms : List (String × Leaf × α))
    (h : ∀ m ∈ ms, P m.2.2 m.2.1.bytes) :
    Entries (MemberText P) first (ms.map fun m => (m.1, m.2.2))
      ((Leaf.memberChars first (ms.map fun m => (m.1, m.2.1))).flatMap String.utf8EncodeChar) := by
  induction ms generalizing first with
  | nil =>
    simp only [List.map_nil, Leaf.memberChars, List.flatMap_nil]
    exact .nil blanks_nil
  | cons m ms ih =>
    obtain ⟨hm, hms⟩ := List.forall_mem_cons.mp h
    have hlead : Lead first ((if first then [] else [',']).flatMap String.utf8EncodeChar) := by
      cases first with
      | true => exact blanks_nil
      | false => exact ⟨[], [], blanks_nil, blanks_nil, rfl⟩
    have hcons := Entries.cons hlead (memberText_leaf m.1 hm) (ih false hms)
    simp only [List.map_cons, Leaf.memberChars, List.flatMap_append, List.flatMap_cons,
      List.append_assoc] at hcons ⊢
    exact hcons

end

theorem Leaf.bytes_object (ms : List (String × Leaf)) :
    (Leaf.object ms).bytes =
      openObject :: ((memberChars true ms).flatMap String.utf8EncodeChar ++ [closeObject]) := by
  simp only [Leaf.bytes, Leaf.chars, List.flatMap_append, List.flatMap_cons, List.flatMap_nil,
    List.append_nil, List.cons_append]
  rfl

theorem encode_written (ms : List (String × Leaf)) :
    Utf8.encode (written ms) = (Leaf.object ms).bytes := by
  rw [written, Utf8.encode, String.toList_ofList, Leaf.bytes]

/-- The members of a written object, their values as they are written. -/
def leafMembers (ms : List (String × Leaf)) : List (String × Bytes) :=
  ms.map fun m => (m.1, m.2.bytes)

theorem entries_leaves (ms : List (String × Leaf)) :
    Entries (MemberText Verbatim) true (leafMembers ms)
      ((Leaf.memberChars true ms).flatMap String.utf8EncodeChar) := by
  have hvalue : ∀ m ∈ ms.map fun m => (m.1, m.2, m.2.bytes), Verbatim m.2.2 m.2.1.bytes :=
    List.forall_mem_map.mpr fun _ _ => Eq.refl _
  have hms : (ms.map fun m => (m.1, m.2, m.2.bytes)).map (fun m => (m.1, m.2.1)) = ms := by
    rw [List.map_map]
    exact List.map_id ms
  have hbody := entries_memberChars true _ hvalue
  rw [hms, List.map_map] at hbody
  exact hbody

theorem verbatimText_leaves (ms : List (String × Leaf)) :
    VerbatimText (leafMembers ms) (Utf8.encode (written ms)) := by
  refine ⟨[], _, [], blanks_nil, entries_leaves ms, blanks_nil, ?_⟩
  rw [encode_written, Leaf.bytes_object, List.nil_append]

/-! ### Objects of strings -/

/-- Members that hold strings, as they are written. -/
def textLeaves (ms : List (String × String)) : List (String × Leaf) :=
  ms.map fun m => (m.1, .text m.2)

/-- The values of such members, as they are read. -/
def textMembers (ms : List (String × String)) : Members := ms.map fun m => (m.1, .text m.2)

/-- The bytes of these values. -/
def quotedMembers (ms : List (String × String)) : List (String × Bytes) :=
  ms.map fun m => (m.1, quoteMark :: (escapedBytes m.2 ++ [quoteMark]))

theorem valueText_text (depth : Nat) (s : String) :
    ValueText depth (.text s) (Leaf.text s).bytes := by
  rw [Leaf.bytes_text]
  cases depth with
  | zero => exact Scalar.text (stringText_escapedBytes s)
  | succ depth => exact Bracketed.scalar (.text (stringText_escapedBytes s))

/-- An object of strings is read as its members, in their order. -/
theorem objectText_written (depth : Nat) (ms : List (String × String)) :
    ObjectText (depth + 1) (textMembers ms) (Utf8.encode (written (textLeaves ms))) := by
  have hvalues : ∀ m ∈ ms.map fun m => (m.1, Leaf.text m.2, Value.text m.2),
      ValueText depth m.2.2 m.2.1.bytes :=
    List.forall_mem_map.mpr fun m _ => valueText_text depth m.2
  have hbody := entries_memberChars true _ hvalues
  rw [List.map_map, List.map_map] at hbody
  refine ⟨[], _, [], blanks_nil, Bracketed.object hbody, blanks_nil, ?_⟩
  rw [encode_written, Leaf.bytes_object, List.append_nil, List.nil_append]
  rfl

theorem verbatimText_written (ms : List (String × String)) :
    VerbatimText (quotedMembers ms) (Utf8.encode (written (textLeaves ms))) := by
  have h := verbatimText_leaves (textLeaves ms)
  simp only [leafMembers, textLeaves, List.map_map, Function.comp_def, Leaf.bytes_text] at h
  exact h

/-- A record is read from an object of strings, if it knows them all and stores them. -/
theorem Record.parse_written {σ : Type} {r : Record σ} {P : Field σ → σ → σ → Bytes → Prop}
    (hP : ∀ f ∈ r.fields, ∀ slots, Reads (f.read slots) (P f slots)) {slots : σ}
    {ms : List (String × String)} (hstores : r.Stores P r.start (quotedMembers ms) slots)
    (hknown : ∀ m ∈ ms, r.fields.find? (·.name = m.1) ≠ none) (hmissing : r.missing? slots = none) :
    r.parse (Utf8.encode (written (textLeaves ms))) = .ok slots := by
  apply Record.parse_object_complete hP (verbatimText_written ms) hstores _ hmissing
  intro m hm
  obtain ⟨m', hm', rfl⟩ := List.mem_map.mp hm
  exact hknown m' hm'

end SealedToken.Json

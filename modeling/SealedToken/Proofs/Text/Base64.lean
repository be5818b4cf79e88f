import SealedToken.Proofs.Text.Utf8
import SealedToken.Text.Base64

/-! # Base64 as a code

Reading is the exact inverse of writing, in both directions and for both
alphabets: every byte string is read back from its written form, and a text
that is read at all is the written form of what is read. So a byte string has
one text, and nothing else is accepted. -/

namespace SealedToken.Base64

/-! ### Symbols -/

/-- Symbols and values are inverse to each other, and padding is no symbol. -/
structure Alphabet.Lawful (α : Alphabet) : Prop where
  value?_symbol : ∀ v, α.value? (α.symbol v) = some v
  symbol_of_value? : ∀ b v, α.value? b = some v → α.symbol v = b
  value?_pad : α.value? pad = none

/-- Every byte either has no value or is the symbol of its value. -/
def Alphabet.Faithful (α : Alphabet) (b : Byte) : Prop :=
  α.value? b = none ∨ (α.value? b).map α.symbol = some b

instance (α : Alphabet) (b : Byte) : Decidable (α.Faithful b) :=
  inferInstanceAs (Decidable (_ ∨ _))

theorem Alphabet.Faithful.symbol_of_value? {α : Alphabet} {b : Byte} {v : Sextet}
    (h : α.Faithful b) (hv : α.value? b = some v) : α.symbol v = b := by
  rcases h with h | h
  · rw [hv] at h
    cases h
  · rw [hv] at h
    exact Option.some.inj h

theorem url_lawful : url.Lawful where
  value?_symbol := url_value?_symbol
  symbol_of_value? b _ :=
    (Byte.forall_of_fin (P := url.Faithful) (by decide +kernel) b).symbol_of_value?
  value?_pad := by decide

theorem standard_lawful : standard.Lawful where
  value?_symbol := standard_value?_symbol
  symbol_of_value? b _ :=
    (Byte.forall_of_fin (P := standard.Faithful) (by decide +kernel) b).symbol_of_value?
  value?_pad := by decide

theorem Alphabet.Lawful.symbol_ne_pad {α : Alphabet} (hα : α.Lawful) (v : Sextet) :
    α.symbol v ≠ pad := by
  intro h
  have hv := hα.value?_symbol v
  rw [h, hα.value?_pad] at hv
  cases hv

theorem values_map_symbol {α : Alphabet} (hα : α.Lawful) (offset : Nat) (vs : List Sextet) :
    α.values offset (vs.map α.symbol) = .ok vs := by
  induction vs generalizing offset with
  | nil => rfl
  | cons v vs ih =>
    rw [List.map_cons, Alphabet.values, hα.value?_symbol, ih]
    rfl

theorem map_symbol_of_values {α : Alphabet} (hα : α.Lawful) {offset : Nat} {s : Bytes}
    {vs : List Sextet} (h : α.values offset s = .ok vs) : vs.map α.symbol = s := by
  induction s generalizing offset vs with
  | nil =>
    cases h
    rfl
  | cons b s ih =>
    simp only [Alphabet.values] at h
    cases hb : α.value? b with
    | none => simp [hb] at h
    | some v =>
      cases hs : α.values (offset + 1) s with
      | error f => simp [hb, hs, Except.map] at h
      | ok ws =>
        simp only [hb, hs, Except.map, Except.ok.injEq] at h
        subst h
        rw [List.map_cons, hα.symbol_of_value? b v hb, ih hs]

/-! ### Groups of six and of eight bits -/

theorem ofNat_eq_of_mod {n : Nat} {x : Byte} (h : n % 256 = x.toNat) : UInt8.ofNat n = x := by
  apply UInt8.toNat_inj.mp
  rw [UInt8.toNat_ofNat']
  exact h

theorem octets_sextets (b : Bytes) : octets (sextets b) = b := by
  fun_induction sextets b with
  | case1 => rfl
  | case2 a =>
    have ha : a.toNat < 256 := a.toNat_lt
    simp only [octets, Fin.val_ofNat]
    rw [ofNat_eq_of_mod (x := a) (by omega)]
  | case3 a b =>
    have ha : a.toNat < 256 := a.toNat_lt
    have hb : b.toNat < 256 := b.toNat_lt
    simp only [octets, Fin.val_ofNat]
    rw [ofNat_eq_of_mod (x := a) (by omega), ofNat_eq_of_mod (x := b) (by omega)]
  | case4 a b c r ih =>
    have ha : a.toNat < 256 := a.toNat_lt
    have hb : b.toNat < 256 := b.toNat_lt
    have hc : c.toNat < 256 := c.toNat_lt
    simp only [octets, Fin.val_ofNat, ih]
    rw [ofNat_eq_of_mod (x := a) (by omega), ofNat_eq_of_mod (x := b) (by omega),
      ofNat_eq_of_mod (x := c) (by omega)]

theorem sextets_length_mod (b : Bytes) : (sextets b).length % 4 ≠ 1 := by
  fun_induction sextets b with
  | case1 => decide
  | case2 a => simp
  | case3 a b => simp
  | case4 a b c r ih =>
    simp only [List.length_cons]
    omega

/-- The bits of the last group that belong to no byte are zero. -/
def NoLeftover (vs : List Sextet) : Prop := ∀ v, vs.getLast? = some v → leftover vs.length v = 0

theorem noLeftover_cons_four {v w x y : Sextet} {r : List Sextet} :
    NoLeftover (v :: w :: x :: y :: r) ↔ NoLeftover r := by
  cases r with
  | nil => simp [NoLeftover, leftover]
  | cons z r =>
    have hm : (r.length + 1 + 4) % 4 = (r.length + 1) % 4 := by omega
    simp only [NoLeftover, List.getLast?_cons_cons, leftover, List.length_cons, hm]

theorem noLeftover_sextets (b : Bytes) : NoLeftover (sextets b) := by
  fun_induction sextets b with
  | case1 => simp [NoLeftover]
  | case2 a =>
    intro v hv
    have hv : Fin.ofNat 64 (a.toNat % 4 * 16) = v := Option.some.inj hv
    subst hv
    show (Fin.ofNat 64 (a.toNat % 4 * 16)).val % 16 = 0
    rw [Fin.val_ofNat]
    omega
  | case3 a b =>
    intro v hv
    have hv : Fin.ofNat 64 (b.toNat % 16 * 4) = v := Option.some.inj hv
    subst hv
    show (Fin.ofNat 64 (b.toNat % 16 * 4)).val % 4 = 0
    rw [Fin.val_ofNat]
    omega
  | case4 a b c r ih => exact noLeftover_cons_four.mpr ih

theorem sextet_eq_of_mod {n : Nat} {v : Sextet} (h : n % 64 = v.val) : Fin.ofNat 64 n = v := by
  apply Fin.ext
  rw [Fin.val_ofNat]
  exact h

theorem sextets_octets (vs : List Sextet) (hlen : vs.length % 4 ≠ 1) (hlast : NoLeftover vs) :
    sextets (octets vs) = vs := by
  fun_induction octets vs with
  | case1 v w x y r ih =>
    have hr : r.length % 4 ≠ 1 := by
      simp only [List.length_cons] at hlen
      omega
    have hv := v.isLt
    have hw := w.isLt
    have hx := x.isLt
    have hy := y.isLt
    simp only [sextets, UInt8.toNat_ofNat', ih hr (noLeftover_cons_four.mp hlast)]
    rw [sextet_eq_of_mod (v := v) (by omega), sextet_eq_of_mod (v := w) (by omega),
      sextet_eq_of_mod (v := x) (by omega), sextet_eq_of_mod (v := y) (by omega)]
  | case2 v w x =>
    have hv := v.isLt
    have hw := w.isLt
    have hx := x.isLt
    have h0 : x.val % 4 = 0 := hlast x rfl
    simp only [sextets, UInt8.toNat_ofNat']
    rw [sextet_eq_of_mod (v := v) (by omega), sextet_eq_of_mod (v := w) (by omega),
      sextet_eq_of_mod (v := x) (by omega)]
  | case3 v w =>
    have hv := v.isLt
    have hw := w.isLt
    have h0 : w.val % 16 = 0 := hlast w rfl
    simp only [sextets, UInt8.toNat_ofNat']
    rw [sextet_eq_of_mod (v := v) (by omega), sextet_eq_of_mod (v := w) (by omega)]
  | case4 v => exact absurd rfl hlen
  | case5 => rfl

/-! ### Reading -/

/-- The symbols of the last group. -/
def lastSymbols (s : Bytes) : Bytes := (s.drop (lastGroup s.length)).takeWhile (· != pad)

/-- What stands behind the symbols of the last group. -/
def lastTail (s : Bytes) : Bytes := (s.drop (lastGroup s.length)).dropWhile (· != pad)

/-- The checks that a text passes when it is read: `head` and `final` are the
values of its symbols before the last group and in it. -/
structure Accepted (α : Alphabet) (s : Bytes) (head final : List Sextet) : Prop where
  noStray : α.stray? s = none
  headValues : α.values 0 (s.take (lastGroup s.length)) = .ok head
  finalValues : α.values (lastGroup s.length) (lastSymbols s) = .ok final
  noPaddingFault :
    α.paddingFault? (lastGroup s.length) (lastSymbols s).length (lastTail s) = none
  noLastFault : lastFault? (s.take (lastGroup s.length) ++ lastSymbols s) (head ++ final) = none

theorem decode_eq_ok_iff {α : Alphabet} {s b : Bytes} :
    decode α s = .ok b ↔ ∃ head final, Accepted α s head final ∧ b = octets (head ++ final) := by
  constructor
  · intro h
    simp only [decode, bind, Except.bind, throw, throwThe, MonadExceptOf.throw, pure,
      Except.pure] at h
    split at h
    · cases h
    rename_i hstray
    split at h
    · cases h
    rename_i head hhead
    split at h
    · cases h
    rename_i final hfinal
    split at h
    · cases h
    rename_i hpadding
    split at h
    · cases h
    rename_i hlast
    cases h
    refine ⟨head, final, ⟨?_, hhead, hfinal, ?_, ?_⟩, rfl⟩
    · exact Option.eq_none_iff_forall_ne_some.mpr hstray
    · exact Option.eq_none_iff_forall_ne_some.mpr hpadding
    · exact Option.eq_none_iff_forall_ne_some.mpr hlast
  · rintro ⟨head, final, ⟨h1, h2, h3, h4, h5⟩, rfl⟩
    simp only [lastSymbols, lastTail] at *
    simp [decode, h1, h2, h3, h4, h5, bind, Except.bind, pure, Except.pure]

/-! ### The padding of the last group -/

theorem lastGroup_mod (n : Nat) : lastGroup n % 4 = 0 := by
  unfold lastGroup
  omega

theorem lastGroup_le (n : Nat) : lastGroup n ≤ n := by
  unfold lastGroup
  omega

theorem le_lastGroup_add (n : Nat) : n ≤ lastGroup n + 4 := by
  unfold lastGroup
  omega

/-- How many padding symbols stand behind `count` symbols. -/
def Alphabet.padCount (α : Alphabet) (count : Nat) : Nat :=
  if α.padded then (4 - count % 4) % 4 else 0

theorem padding_eq_replicate (α : Alphabet) (count : Nat) :
    α.padding count = List.replicate (α.padCount count) pad := by
  unfold Alphabet.padding Alphabet.padCount
  split
  · rfl
  · rfl

/-- No fault in the padding: only padding stands there, as much as the
alphabet asks for, and not behind a single symbol. -/
theorem tail_of_noPaddingFault {α : Alphabet} {start symbols : Nat} {tail : Bytes}
    (hstart : start % 4 = 0) (hle : symbols + tail.length ≤ 4)
    (h : α.paddingFault? start symbols tail = none) :
    (start + symbols) % 4 ≠ 1 ∧ tail = α.padding (start + symbols) := by
  unfold Alphabet.paddingFault? at h
  split at h
  · cases h
  rename_i hfew
  split at h
  · cases h
  rename_i hforeign
  split at h
  · cases h
  rename_i hone
  have hall : tail = List.replicate tail.length pad := by
    apply List.eq_replicate_of_mem
    intro x hx
    simp only [List.any_eq_true, not_exists, not_and] at hforeign
    simpa using hforeign x hx
  have hnil : tail = [] ∨ 2 ≤ symbols := by
    rw [← Nat.not_lt]
    exact Decidable.or_iff_not_imp_left.mpr fun hne hlt => hfew ⟨hne, hlt⟩
  have hcount : tail.length = α.padCount (start + symbols) := by
    have hzero : tail = [] → tail.length = 0 := List.length_eq_zero_iff.mpr
    unfold Alphabet.padCount
    split at h
    · rename_i hpadded
      rw [if_pos hpadded]
      split at h
      · cases h
      · rcases hnil with hnil | htwo
        · have := hzero hnil
          omega
        · omega
    · rename_i hpadded
      rw [if_neg hpadded]
      split at h
      · cases h
      · rename_i hempty
        exact hzero (Decidable.not_not.mp hempty)
  refine ⟨by omega, ?_⟩
  rw [padding_eq_replicate, ← hcount]
  exact hall

theorem noPaddingFault_padding {α : Alphabet} {start symbols : Nat} (hstart : start % 4 = 0)
    (hle : symbols ≤ 4) (hone : symbols ≠ 1) :
    α.paddingFault? start symbols (α.padding (start + symbols)) = none := by
  have hfew : ¬(α.padding (start + symbols) ≠ [] ∧ symbols < 2) := by
    rintro ⟨hne, hlt⟩
    apply hne
    have hzero : symbols = 0 := by omega
    have hcount : α.padCount (start + symbols) = 0 := by
      unfold Alphabet.padCount
      split
      · omega
      · rfl
    rw [padding_eq_replicate, hcount]
    rfl
  have hforeign : ¬(α.padding (start + symbols)).any (· != pad) = true := by
    rw [padding_eq_replicate]
    simp
  unfold Alphabet.paddingFault?
  rw [if_neg hfew, if_neg hforeign, if_neg hone]
  rw [padding_eq_replicate, List.length_replicate]
  unfold Alphabet.padCount
  split
  · rw [if_neg]
    omega
  · rw [if_neg]
    exact fun hne => hne rfl

theorem not_pad_of_mem_map_symbol {α : Alphabet} (hα : α.Lawful) (vs : List Sextet) :
    ∀ x ∈ vs.map α.symbol, (x != pad) = true := by
  intro x hx
  obtain ⟨v, -, rfl⟩ := List.mem_map.mp hx
  simpa using hα.symbol_ne_pad v

theorem takeWhile_symbols {α : Alphabet} (hα : α.Lawful) (vs : List Sextet) (k : Nat) :
    (vs.map α.symbol ++ List.replicate k pad).takeWhile (· != pad) = vs.map α.symbol := by
  rw [List.takeWhile_append_of_pos (not_pad_of_mem_map_symbol hα vs), List.takeWhile_replicate]
  simp

theorem dropWhile_symbols {α : Alphabet} (hα : α.Lawful) (vs : List Sextet) (k : Nat) :
    (vs.map α.symbol ++ List.replicate k pad).dropWhile (· != pad) = List.replicate k pad := by
  rw [List.dropWhile_append_of_pos (not_pad_of_mem_map_symbol hα vs), List.dropWhile_replicate]
  simp

/-! ### Trailing bits -/

/-- The last symbol is only looked at for the bits that belong to no byte. -/
theorem noLastFault_iff {α : Alphabet} (vs : List Sextet) :
    lastFault? (vs.map α.symbol) vs = none ↔ NoLeftover vs := by
  unfold lastFault? NoLeftover
  rw [List.getLast?_map]
  cases vs.getLast? with
  | none => simp
  | some v => simp

/-! ### Both directions -/

theorem encode_length (α : Alphabet) (b : Bytes) :
    (encode α b).length = (sextets b).length + α.padCount (sextets b).length := by
  rw [encode, padding_eq_replicate, List.length_append, List.length_map, List.length_replicate]

/-- The last group of a written text has two to four symbols, if it has any. -/
theorem lastGroup_encode (α : Alphabet) (b : Bytes) :
    lastGroup (encode α b).length ≤ (sextets b).length ∧
      (sextets b).length ≤ lastGroup (encode α b).length + 4 ∧
      (sextets b).length ≠ lastGroup (encode α b).length + 1 ∧
      (encode α b).length % 4 ≠ 1 := by
  have hmod := sextets_length_mod b
  rw [encode_length]
  unfold lastGroup Alphabet.padCount
  split
  · omega
  · omega

theorem accepted_encode {α : Alphabet} (hα : α.Lawful) (b : Bytes) :
    ∃ start, Accepted α (encode α b) ((sextets b).take start) ((sextets b).drop start) := by
  -- The last group of the text starts where that of the sextets does: padding
  -- never fills a group of its own.
  obtain ⟨hle, hfour, hone, hmod⟩ := lastGroup_encode α b
  refine ⟨lastGroup (encode α b).length, ?_⟩
  generalize hstart : lastGroup (encode α b).length = start at *
  have hstart4 : start % 4 = 0 := by
    rw [← hstart]
    exact lastGroup_mod _
  have htake : (encode α b).take start = ((sextets b).take start).map α.symbol := by
    rw [encode, List.take_append_of_le_length (by simpa using hle), List.map_take]
  have hdrop : (encode α b).drop start =
      ((sextets b).drop start).map α.symbol ++ α.padding (sextets b).length := by
    rw [encode, List.drop_append_of_le_length (by simpa using hle), List.map_drop]
  have hlast : lastSymbols (encode α b) = ((sextets b).drop start).map α.symbol := by
    rw [lastSymbols, hstart, hdrop, padding_eq_replicate, takeWhile_symbols hα]
  have htail : lastTail (encode α b) = α.padding (sextets b).length := by
    rw [lastTail, hstart, hdrop, padding_eq_replicate, dropWhile_symbols hα]
  have hlength : (sextets b).length = start + ((sextets b).length - start) := by omega
  constructor
  · unfold Alphabet.stray?
    split
    · rfl
    · rw [if_neg]
      exact fun h => hmod h.1
  · rw [hstart, htake, values_map_symbol hα]
  · rw [hstart, hlast, values_map_symbol hα]
  · rw [hstart, hlast, htail, List.length_map, List.length_drop, hlength]
    rw [Nat.add_sub_cancel_left]
    exact noPaddingFault_padding hstart4 (by omega) (by omega)
  · rw [hstart, htake, hlast, ← List.map_append, List.take_append_drop]
    exact (noLastFault_iff _).mpr (noLeftover_sextets b)

theorem decode_encode {α : Alphabet} (hα : α.Lawful) (b : Bytes) :
    decode α (encode α b) = .ok b := by
  obtain ⟨start, h⟩ := accepted_encode hα b
  refine decode_eq_ok_iff.mpr ⟨_, _, h, ?_⟩
  rw [List.take_append_drop, octets_sextets]

theorem encode_of_accepted {α : Alphabet} (hα : α.Lawful) {s : Bytes} {head final : List Sextet}
    (h : Accepted α s head final) : encode α (octets (head ++ final)) = s := by
  have hhead := map_symbol_of_values hα h.headValues
  have hfinal := map_symbol_of_values hα h.finalValues
  have hsplit : lastSymbols s ++ lastTail s = s.drop (lastGroup s.length) :=
    List.takeWhile_append_dropWhile
  have hheadLength : head.length = lastGroup s.length := by
    have hl := congrArg List.length hhead
    rw [List.length_map, List.length_take_of_le (lastGroup_le s.length)] at hl
    exact hl
  have hfinalLength : final.length = (lastSymbols s).length := by
    rw [← hfinal, List.length_map]
  have hfour : (lastSymbols s).length + (lastTail s).length ≤ 4 := by
    have hl := congrArg List.length hsplit
    have hle := le_lastGroup_add s.length
    rw [List.length_append, List.length_drop] at hl
    omega
  obtain ⟨hmod, htail⟩ := tail_of_noPaddingFault (lastGroup_mod _) hfour h.noPaddingFault
  have hlength : (head ++ final).length = lastGroup s.length + (lastSymbols s).length := by
    rw [List.length_append, hheadLength, hfinalLength]
  have hleft : NoLeftover (head ++ final) := by
    rw [← noLastFault_iff (α := α), List.map_append, hhead, hfinal]
    exact h.noLastFault
  rw [encode, sextets_octets _ (hlength ▸ hmod) hleft, List.map_append, hhead, hfinal, hlength,
    ← htail, List.append_assoc, hsplit, List.take_append_drop]

theorem encode_of_decode {α : Alphabet} (hα : α.Lawful) {s b : Bytes}
    (h : decode α s = .ok b) : encode α b = s := by
  obtain ⟨head, final, haccepted, rfl⟩ := decode_eq_ok_iff.mp h
  exact encode_of_accepted hα haccepted

/-- A text is read exactly if it is the written form of what is read. -/
theorem decode_eq_ok_iff_encode {α : Alphabet} (hα : α.Lawful) {s b : Bytes} :
    decode α s = .ok b ↔ s = encode α b := by
  constructor
  · intro h
    exact (encode_of_decode hα h).symm
  · intro h
    rw [h, decode_encode hα]

theorem encode_injective {α : Alphabet} (hα : α.Lawful) {a b : Bytes}
    (h : encode α a = encode α b) : a = b := by
  have ha := decode_encode hα a
  rw [h, decode_encode hα] at ha
  exact (Except.ok.inj ha).symm

/-! ### The symbols of a written text -/

theorem mem_encode_url {b : Bytes} {x : Byte} (h : x ∈ encode url b) :
    ∃ v, url.symbol v = x := by
  have hnone : url.padding (sextets b).length = [] := rfl
  rw [encode, hnone, List.append_nil] at h
  obtain ⟨v, -, hv⟩ := List.mem_map.mp h
  exact ⟨v, hv⟩

theorem url_symbol_lt (v : Sextet) : url.symbol v < 0x80 := by
  revert v
  decide

theorem isAscii_encode_url (b : Bytes) : Utf8.IsAscii (encode url b) := by
  intro x hx
  obtain ⟨v, rfl⟩ := mem_encode_url hx
  exact url_symbol_lt v

theorem url_symbol_ne_dot (v : Sextet) : url.symbol v ≠ 0x2E := by
  revert v
  decide

theorem dot_notMem_encode_url (b : Bytes) : 0x2E ∉ encode url b := by
  intro h
  obtain ⟨v, hv⟩ := mem_encode_url h
  exact url_symbol_ne_dot v hv

/-- The text of a byte string in unpadded base64url. -/
def urlText (b : Bytes) : String := Utf8.ascii (encode url b)

theorem encode_urlText (b : Bytes) : Utf8.encode (urlText b) = encode url b :=
  Utf8.encode_ascii _ (isAscii_encode_url b)

theorem eq_urlText_iff {s : String} {b : Bytes} :
    s = urlText b ↔ Utf8.encode s = encode url b := Utf8.eq_ascii_iff (isAscii_encode_url b)

theorem decode_url_eq_ok_iff {s : String} {b : Bytes} :
    decode url (Utf8.encode s) = .ok b ↔ s = urlText b := by
  rw [decode_eq_ok_iff_encode url_lawful, eq_urlText_iff]

theorem sextets_length (b : Bytes) : (sextets b).length = (4 * b.length + 2) / 3 := by
  fun_induction sextets b with
  | case1 => rfl
  | case2 a => simp
  | case3 a b => simp
  | case4 a b c r ih =>
    simp only [List.length_cons, ih]
    omega

theorem urlText_length (b : Bytes) : (urlText b).length = (4 * b.length + 2) / 3 := by
  have hpad : url.padCount (sextets b).length = 0 := rfl
  rw [urlText, Utf8.ascii, String.length_ofList, List.length_map, encode_length, hpad,
    sextets_length, Nat.add_zero]

theorem urlText_injective {a b : Bytes} (h : urlText a = urlText b) : a = b := by
  have hencode := congrArg Utf8.encode h
  rw [encode_urlText, encode_urlText] at hencode
  exact encode_injective url_lawful hencode

end SealedToken.Base64

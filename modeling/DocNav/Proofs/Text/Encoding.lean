/-
  DocNav.Proofs.Text.Encoding
  ───────────────────────────
  Writing and reading UTF-8 are inverse to each other.

  A sequence of bytes spells a character exactly when it is what is
  written for that character (`scalar?_eq_some_iff`), and a text begins
  with a readable character exactly when it begins with the bytes of one
  (`decode?_eq_some_iff`).  So cutting a well-formed text at the end of a
  well-formed part leaves well-formed parts
  (`encodeAll_append_eq_encodeAll`).  Well-formed text is what the string
  library takes for UTF-8 (`wellFormed_iff_isValidUTF8`).
-/
import DocNav.Text.Utf8
import DocNav.Buffer.LineIndex
import DocNav.Proofs.Text.Lines

namespace DocNav.Utf8

/-! ## §1. The four shapes of a written character. -/

theorem toNat_toUInt8 {n : Nat} (h : n < 256) : n.toUInt8.toNat = n := by
  rw [Nat.toUInt8_eq, UInt8.toNat_ofNat']
  exact Nat.mod_eq_of_lt h

theorem toNat_isScalar (c : Char) :
    c.toNat < 0xD800 ∨ (0xDFFF < c.toNat ∧ c.toNat < 0x110000) :=
  c.valid

/-- The bytes of a character, by the number of its code point. -/
theorem encode_cases (c : Char) :
    (c.toNat < 0x80 ∧ ∃ a, encode c = [a] ∧ a.toNat = c.toNat)
    ∨ (0x80 ≤ c.toNat ∧ c.toNat < 0x800 ∧ ∃ a b, encode c = [a, b]
        ∧ a.toNat = 0xC0 + c.toNat / 64 ∧ b.toNat = 0x80 + c.toNat % 64)
    ∨ (0x800 ≤ c.toNat ∧ c.toNat < 0x10000 ∧ ∃ a b d, encode c = [a, b, d]
        ∧ a.toNat = 0xE0 + c.toNat / 4096 ∧ b.toNat = 0x80 + c.toNat / 64 % 64
        ∧ d.toNat = 0x80 + c.toNat % 64)
    ∨ (0x10000 ≤ c.toNat ∧ ∃ a b d e, encode c = [a, b, d, e]
        ∧ a.toNat = 0xF0 + c.toNat / 262144 ∧ b.toNat = 0x80 + c.toNat / 4096 % 64
        ∧ d.toNat = 0x80 + c.toNat / 64 % 64 ∧ e.toNat = 0x80 + c.toNat % 64) := by
  -- Every byte below fits because a code point is below 0x110000.
  have hc := toNat_isScalar c
  by_cases h1 : c.toNat < 0x80
  · refine .inl ⟨h1, _, by simp only [encode, if_pos h1], toNat_toUInt8 (by omega)⟩
  · by_cases h2 : c.toNat < 0x800
    · refine .inr (.inl ⟨by omega, h2, _, _, by simp only [encode, if_neg h1, if_pos h2],
        toNat_toUInt8 (by omega), toNat_toUInt8 (by omega)⟩)
    · by_cases h3 : c.toNat < 0x10000
      · refine .inr (.inr (.inl ⟨by omega, h3, _, _, _,
          by simp only [encode, if_neg h1, if_neg h2, if_pos h3],
          toNat_toUInt8 (by omega), toNat_toUInt8 (by omega), toNat_toUInt8 (by omega)⟩))
      · refine .inr (.inr (.inr ⟨by omega, _, _, _, _,
          by simp only [encode, if_neg h1, if_neg h2, if_neg h3],
          toNat_toUInt8 (by omega), toNat_toUInt8 (by omega), toNat_toUInt8 (by omega),
          toNat_toUInt8 (by omega)⟩))

/-- The first byte of a character says how many bytes it has. -/
theorem encode_eq_cons (c : Char) :
    ∃ lead tail, encode c = lead :: tail ∧ width lead = (encode c).length := by
  have hc := toNat_isScalar c
  obtain ⟨h, a, he, ha⟩ | ⟨h, h', a, b, he, ha, -⟩ | ⟨h, h', a, b, d, he, ha, -⟩ |
      ⟨h, a, b, d, e, he, ha, -⟩ := encode_cases c <;>
    refine ⟨a, _, he, ?_⟩ <;>
    simp only [he, width, UInt8.lt_iff_toNat_lt, ha, UInt8.toNat_ofNat, List.length_cons,
      List.length_nil] <;>
    split_ifs <;> omega

theorem encode_ne_nil (c : Char) : encode c ≠ [] := by
  obtain ⟨lead, tail, h, -⟩ := encode_eq_cons c
  simp [h]

theorem eq_nil_of_length_encodeAll {cs : List Char} (h : (encodeAll cs).length = 0) : cs = [] := by
  cases cs with
  | nil => rfl
  | cons c cs =>
    rw [List.length_eq_zero_iff, encodeAll_cons, List.append_eq_nil_iff] at h
    exact absurd h.1 (encode_ne_nil c)

/-! ## §2. One sequence. -/

theorem isContinuation_iff (b : UInt8) :
    isContinuation b = true ↔ 0x80 ≤ b.toNat ∧ b.toNat < 0xC0 := by
  have := b.toNat_lt
  simp only [isContinuation, Bool.and_eq_true, decide_eq_true_eq, UInt8.le_iff_toNat_le,
    UInt8.toNat_ofNat]
  omega

/-- What is written for a character spells that character. -/
theorem scalar?_encode (c : Char) : scalar? (encode c) = some c := by
  have hc := toNat_isScalar c
  have hv : c.toNat.isValidChar := hc
  -- The number is read back, and no shorter sequence would hold it.
  have hval : value? (encode c) = some c.toNat ∧ least (encode c).length ≤ c.toNat := by
    obtain ⟨h, a, he, ha⟩ | ⟨h, h', a, b, he, ha, hb⟩ | ⟨h, h', a, b, d, he, ha, hb, hd⟩ |
        ⟨h, a, b, d, e, he, ha, hb, hd, hf⟩ := encode_cases c
    all_goals
      simp only [he, value?, least, List.length_cons, List.length_nil, Bool.and_eq_true,
        decide_eq_true_eq, isContinuation_iff, UInt8.lt_iff_toNat_lt, UInt8.le_iff_toNat_le,
        UInt8.toNat_ofNat, payload, Option.ite_none_right_eq_some, Option.some.injEq]
      omega
  simp only [scalar?, hval.1]
  rw [if_pos ⟨hval.2, hv⟩, Char.ofNat_toNat]

theorem toNat_ofNat_of_isValidChar {n : Nat} (h : n.isValidChar) : (Char.ofNat n).toNat = n := by
  unfold Char.ofNat
  rw [dif_pos h]
  rfl

/-- A sequence that spells a character is what is written for it. -/
theorem eq_encode_of_scalar? {seq : List UInt8} {c : Char} (h : scalar? seq = some c) :
    seq = encode c := by
  unfold scalar? at h
  split at h
  next n hval =>
    rw [Option.ite_none_right_eq_some] at h
    obtain ⟨⟨hleast, hvalid⟩, hc⟩ := h
    injection hc with hc
    have hn : c.toNat = n := by rw [← hc, toNat_ofNat_of_isValidChar hvalid]
    have hcases := encode_cases c
    unfold value? at hval
    -- One case per length; the bounds leave one shape of `encode c` for each.
    split at hval
    all_goals
      simp only [Option.ite_none_right_eq_some, Bool.and_eq_true, decide_eq_true_eq,
        isContinuation_iff, UInt8.lt_iff_toNat_lt, UInt8.le_iff_toNat_le, UInt8.toNat_ofNat,
        payload, Option.some.injEq, reduceCtorEq] at hval
    all_goals
      simp only [least, List.length_cons, List.length_nil] at hleast
      obtain ⟨_, a', he, _⟩ | ⟨_, _, a', b', he, _, _⟩ | ⟨_, _, a', b', d', he, _, _, _⟩ |
          ⟨_, a', b', d', e', he, _, _, _, _⟩ := hcases
      all_goals first
        | omega
        | (rw [he]
           simp only [List.cons.injEq, and_true, ← UInt8.toNat_inj]
           omega)
  next => exact absurd h (by simp)

theorem scalar?_eq_some_iff {seq : List UInt8} {c : Char} :
    scalar? seq = some c ↔ seq = encode c :=
  ⟨eq_encode_of_scalar?, fun h => h ▸ scalar?_encode c⟩

/-! ## §3. The front of a text. -/

theorem decode?_encode_append (c : Char) (rest : List UInt8) :
    decode? (encode c ++ rest) = some (c, rest) := by
  obtain ⟨lead, tail, he, hw⟩ := encode_eq_cons c
  have htake : (encode c ++ rest).take (width lead) = encode c := by
    rw [hw, List.take_left]
  have hdrop : (encode c ++ rest).drop (width lead) = rest := by
    rw [hw, List.drop_left]
  have hcons : encode c ++ rest = lead :: (tail ++ rest) := by rw [he]; rfl
  have hread : decode? (encode c ++ rest)
      = (scalar? ((encode c ++ rest).take (width lead))).map
          (·, (encode c ++ rest).drop (width lead)) := by
    rw [hcons]
    rfl
  rw [hread, htake, hdrop, scalar?_encode]
  rfl

/-- A character can be read at the front of a text exactly when its bytes
stand there. -/
theorem decode?_eq_some_iff {bs rest : List UInt8} {c : Char} :
    decode? bs = some (c, rest) ↔ bs = encode c ++ rest := by
  constructor
  · intro h
    cases bs with
    | nil => simp [decode?] at h
    | cons lead tail =>
      simp only [decode?, Option.map_eq_some_iff, Prod.mk.injEq] at h
      obtain ⟨d, hd, rfl, hrest⟩ := h
      rw [← scalar?_eq_some_iff.1 hd, ← hrest, List.take_append_drop]
  · rintro rfl
    exact decode?_encode_append c rest

/-- The bytes that a character takes up at the front of a text are as many
as its first byte says. -/
theorem width_of_cons_eq_encode_append {lead : UInt8} {tail rest : List UInt8} {c : Char}
    (h : lead :: tail = encode c ++ rest) : width lead = (encode c).length := by
  obtain ⟨lead', tail', he, hw⟩ := encode_eq_cons c
  rw [he] at h
  injection h with hlead
  rw [hlead, hw]

/-! ## §4. Whole texts. -/

theorem encode_append_inj {c d : Char} {xs ys : List UInt8}
    (h : encode c ++ xs = encode d ++ ys) : c = d ∧ xs = ys := by
  have hc := decode?_encode_append c xs
  rw [h, decode?_encode_append] at hc
  simp only [Option.some.injEq, Prod.mk.injEq] at hc
  exact ⟨hc.1.symm, hc.2.symm⟩

/-- Characters at the front of a well-formed text are characters of it. -/
theorem encodeAll_append_eq_encodeAll {cs ds : List Char} {bs : List UInt8}
    (h : encodeAll cs ++ bs = encodeAll ds) : ∃ es, ds = cs ++ es ∧ bs = encodeAll es := by
  induction cs generalizing ds with
  | nil => exact ⟨ds, rfl, by simpa using h⟩
  | cons c cs ih =>
    cases ds with
    | nil => simp [encode_ne_nil] at h
    | cons d ds =>
      rw [encodeAll_cons, encodeAll_cons, List.append_assoc] at h
      obtain ⟨rfl, htail⟩ := encode_append_inj h
      obtain ⟨es, rfl, hbs⟩ := ih htail
      exact ⟨es, rfl, hbs⟩

/-! ## §5. Newlines. -/

/-- The newline byte stands in no character but the newline. -/
theorem newline_mem_encode_iff (c : Char) : LineIndex.newline ∈ encode c ↔ c = '\n' := by
  have hchar : c = '\n' ↔ c.toNat = 10 := by
    constructor
    · rintro rfl
      rfl
    · intro h
      rw [← Char.ofNat_toNat c, h]
  rw [hchar]
  obtain ⟨_, a, he, _⟩ | ⟨_, _, a, b, he, _, _⟩ | ⟨_, _, a, b, d, he, _, _, _⟩ |
      ⟨_, a, b, d, e, he, _, _, _, _⟩ := encode_cases c
  all_goals
    simp only [he, LineIndex.newline, List.mem_cons, List.not_mem_nil, or_false,
      ← UInt8.toNat_inj, UInt8.toNat_ofNat]
    omega

theorem encode_newline : encode '\n' = [LineIndex.newline] := rfl

theorem newline_mem_encodeAll_iff (cs : List Char) :
    LineIndex.newline ∈ encodeAll cs ↔ '\n' ∈ cs := by
  simp only [encodeAll, List.mem_flatMap, newline_mem_encode_iff]
  simp

/-- A text has as many newline bytes as newlines. -/
theorem count_encodeAll (cs : List Char) :
    (encodeAll cs).count LineIndex.newline = cs.count '\n' := by
  induction cs with
  | nil => rfl
  | cons c cs ih =>
    rw [encodeAll_cons, List.count_append, ih]
    by_cases hc : c = '\n'
    · subst hc
      rw [encode_newline, List.count_singleton_self, List.count_cons_self, Nat.add_comm]
    · have hc' : LineIndex.newline ∉ encode c := fun h => hc ((newline_mem_encode_iff c).1 h)
      rw [List.count_eq_zero_of_not_mem hc', List.count_cons_of_ne hc, Nat.zero_add]

theorem whole_encodeAll {cs : List Char} (h : Text.Whole '\n' cs) :
    Text.Whole LineIndex.newline (encodeAll cs) := by
  obtain rfl | ⟨front, rfl⟩ := h
  · exact Text.whole_nil _
  · rw [encodeAll_append]
    exact Text.whole_concat _ (encodeAll front)

/-- The last line of the bytes is the bytes of the last line. -/
theorem lastPart_encodeAll (cs : List Char) :
    Text.lastPart LineIndex.newline (encodeAll cs) = encodeAll (Text.lastPart '\n' cs) := by
  conv_lhs => rw [← Text.wholePart_append_lastPart '\n' cs, encodeAll_append]
  refine Text.lastPart_append (whole_encodeAll (Text.whole_wholePart _ cs)) ?_
  rw [newline_mem_encodeAll_iff]
  exact Text.not_mem_lastPart _ cs

theorem WellFormed.lastPart {bs : List UInt8} (h : WellFormed bs) :
    WellFormed (Text.lastPart LineIndex.newline bs) := by
  obtain ⟨cs, rfl⟩ := h
  exact ⟨Text.lastPart '\n' cs, lastPart_encodeAll cs⟩

/-- A text has fewer lines before any of its lines than it has bytes. -/
theorem le_length_of_getElem?_lines {cs line : List Char} {i : Nat}
    (h : (Text.lines cs)[i]? = some line) : i ≤ (encodeAll cs).length := by
  obtain ⟨front, back, rfl, -, rfl, -⟩ := Text.getElem?_lines h
  calc front.count '\n' ≤ (front ++ line ++ back).count '\n' := by
        rw [List.append_assoc, List.count_append]
        omega
    _ = (encodeAll (front ++ line ++ back)).count LineIndex.newline := (count_encodeAll _).symm
    _ ≤ (encodeAll (front ++ line ++ back)).length := List.count_le_length

/-! ## §6. The encoding of the library. -/

/-- The bytes of a character are those that the string library writes. -/
theorem encode_eq_utf8EncodeChar (c : Char) : encode c = String.utf8EncodeChar c := by
  have hc := toNat_isScalar c
  have hval : c.val.toNat = c.toNat := rfl
  rw [String.utf8EncodeChar.eq_1, hval]
  obtain ⟨h, a, he, ha⟩ | ⟨h, h', a, b, he, ha, hb⟩ | ⟨h, h', a, b, d, he, ha, hb, hd⟩ |
      ⟨h, a, b, d, e, he, ha, hb, hd, hf⟩ := encode_cases c
  all_goals
    rw [he]
    split_ifs
    all_goals
      simp only [List.cons.injEq, List.nil_eq, reduceCtorEq, and_true, and_false, ← UInt8.toNat_inj,
        UInt8.toNat_ofNat']
      omega

theorem toByteArray_encodeAll (cs : List Char) : (encodeAll cs).toByteArray = cs.utf8Encode := by
  have hencode : encode = String.utf8EncodeChar := funext encode_eq_utf8EncodeChar
  unfold encodeAll List.utf8Encode
  rw [hencode]

/-- A text is well-formed exactly when the string library takes it for UTF-8. -/
theorem wellFormed_iff_isValidUTF8 {bs : List UInt8} :
    WellFormed bs ↔ bs.toByteArray.IsValidUTF8 := by
  constructor
  · rintro ⟨cs, rfl⟩
    exact ⟨cs, toByteArray_encodeAll cs⟩
  · rintro ⟨cs, h⟩
    refine ⟨cs, ?_⟩
    rw [← toByteArray_encodeAll] at h
    have := congrArg (fun b => b.data.toList) h
    simpa using this

theorem toByteArray_ofString (s : String) : (ofString s).toByteArray = s.toByteArray := by
  unfold ofString
  rw [toByteArray_encodeAll]
  simp

end DocNav.Utf8

/-
  DocNav.Proofs.Buffer.Position
  ─────────────────────────────
  Between offsets and positions.

  Looking for a column passes over whole characters, so it ends only after
  well-formed text (`seek_eq_ok`), and it reaches every place after
  well-formed text of its line (`seek_encodeAll`).  Counting the units
  before an offset gives a column whatever the bytes are.  The two meet
  exactly where the line is well-formed up to the offset.  A position that
  is found is the position of the place where it is found, the line after
  the last one apart.
-/
import DocNav.Buffer.Basic
import DocNav.Proofs.Text.Units
import DocNav.Proofs.Buffer.LineIndex

namespace DocNav.Buffer

open Utf8 Utf16 Text LineIndex

/-! ## §1. Looking for a column. -/

/-- Where the column is reached, the search ends. -/
theorem seek_of_le {p : Position} {units : UInt32} (h : p.character ≤ units) (offset : Nat)
    (rest : List UInt8) : seek p offset units rest = .ok offset := by
  rw [seek.eq_def, if_neg (UInt32.not_lt.2 h)]

/-- One character on the way to the column: it passes the column, or it is
stepped over. -/
theorem seek_encode {p : Position} {c : Char} {units : UInt32} (hc : c ≠ '\n')
    (hlt : units < p.character) (offset : Nat) (rest : List UInt8) :
    seek p offset units (encode c ++ rest)
      = if p.character < units + charUnits c then .error (.misalignedSurrogate p)
        else seek p (offset + (encode c).length) (units + charUnits c) rest := by
  obtain ⟨lead, tail, he, hw⟩ := encode_eq_cons c
  have hcons : encode c ++ rest = lead :: (tail ++ rest) := by rw [he]; rfl
  have hlead : lead ≠ newline := by
    rintro rfl
    exact hc ((newline_mem_encode_iff c).1 (by rw [he]; exact List.mem_cons_self))
  have hdecode : decode? (lead :: (tail ++ rest)) = some (c, rest) := by
    rw [← hcons, decode?_encode_append]
  rw [hcons, seek, if_pos hlt]
  simp only [if_neg hlead]
  split
  next h => simp [hdecode] at h
  next d rest' h =>
    rw [hdecode] at h
    simp only [Option.some.injEq, Prod.mk.injEq] at h
    obtain ⟨rfl, rfl⟩ := h
    rw [hw]

/-- One character that does not pass the column is stepped over. -/
theorem seek_encode_append {p : Position} {c : Char} {units : Nat} (hc : c ≠ '\n')
    (hunits : units + (charUnits c).toNat ≤ p.character.toNat) (offset : Nat)
    (rest : List UInt8) :
    seek p offset units.toUInt32 (encode c ++ rest)
      = seek p (offset + (encode c).length) (units + (charUnits c).toNat).toUInt32 rest := by
  have hbound := p.character.toNat_lt
  have hpos := charUnits_pos c
  have hlt : units.toUInt32 < p.character := by
    rw [UInt32.lt_iff_toNat_lt, toNat_toUInt32 (by omega)]
    omega
  have hnext : ¬ p.character < (units + (charUnits c).toNat).toUInt32 := by
    rw [UInt32.lt_iff_toNat_lt, toNat_toUInt32 (by omega)]
    omega
  rw [seek_encode hc hlt, toUInt32_add_charUnits, if_neg hnext]

/-- Characters that do not pass the column are stepped over. -/
theorem seek_encodeAll_append {p : Position} {cs : List Char} {units : Nat} (hcs : '\n' ∉ cs)
    (hunits : units + codeUnits cs ≤ p.character.toNat) (offset : Nat) (rest : List UInt8) :
    seek p offset units.toUInt32 (encodeAll cs ++ rest)
      = seek p (offset + (encodeAll cs).length) (units + codeUnits cs).toUInt32 rest := by
  induction cs generalizing units offset with
  | nil => simp
  | cons c cs ih =>
    rw [List.mem_cons, not_or] at hcs
    rw [codeUnits_cons] at hunits
    rw [encodeAll_cons, List.append_assoc,
      seek_encode_append (Ne.symm hcs.1) (by omega), ih hcs.2 (by omega),
      List.length_append, codeUnits_cons, Nat.add_assoc, Nat.add_assoc]

/-- The column after the characters of a line is reached at their end. -/
theorem seek_encodeAll {p : Position} {cs : List Char} (hcs : '\n' ∉ cs)
    (hcolumn : p.character.toNat = codeUnits cs) (offset : Nat) (rest : List UInt8) :
    seek p offset 0 (encodeAll cs ++ rest) = .ok (offset + (encodeAll cs).length) := by
  have hreached : p.character ≤ (0 + codeUnits cs).toUInt32 := by
    rw [UInt32.le_iff_toNat_le, Nat.zero_add, toNat_toUInt32]
    · exact Nat.le_of_eq hcolumn
    · rw [← hcolumn]
      exact p.character.toNat_lt
  show seek p offset (Nat.toUInt32 0) (encodeAll cs ++ rest) = _
  rw [seek_encodeAll_append hcs (by omega), seek_of_le hreached]

/-- A search that ends has passed over well-formed text of one line, and
where the counter cannot wrap it has come to the column exactly. -/
theorem seek_eq_ok {p : Position} {offset found : Nat} {units : UInt32} {rest : List UInt8}
    (h : seek p offset units rest = .ok found) :
    ∃ cs back, rest = encodeAll cs ++ back ∧ '\n' ∉ cs
      ∧ found = offset + (encodeAll cs).length
      ∧ (units ≤ p.character → units.toNat + rest.length < 2 ^ 32 →
          units.toNat + codeUnits cs = p.character.toNat) := by
  fun_induction seek p offset units rest with
  | case1 => exact absurd h (by simp)
  | case2 => exact absurd h (by simp)
  | case3 => exact absurd h (by simp)
  | case4 => exact absurd h (by simp)
  | case5 offset units hlt lead tail hlead c rest hdecode units' hnext ih =>
    -- The step goes over the bytes of `c`, whose first byte is no newline.
    have hcons := decode?_eq_some_iff.1 hdecode
    obtain ⟨cs, back, rfl, hcs, rfl, hcolumn⟩ := ih h
    refine ⟨c :: cs, back, by rw [hcons, encodeAll_cons, List.append_assoc], ?_, ?_, ?_⟩
    · rw [List.mem_cons, not_or]
      refine ⟨?_, hcs⟩
      rintro rfl
      rw [encode_newline] at hcons
      injection hcons with hnewline
      exact hlead hnewline
    · rw [width_of_cons_eq_encode_append hcons, encodeAll_cons, List.length_append,
        Nat.add_assoc]
    · intro _ hsize
      -- A character has no more units than bytes, so the counter takes the step as it is.
      have hunits := charUnits_le_length_encode c
      rw [hcons, List.length_append] at hsize
      have hadd : units'.toNat = units.toNat + (charUnits c).toNat := by
        show (units + charUnits c).toNat = _
        rw [UInt32.toNat_add]
        exact Nat.mod_eq_of_lt (by omega)
      have hrest := hcolumn (UInt32.not_lt.1 hnext) (by omega)
      rw [codeUnits_cons]
      omega
  | case6 offset units rest hge =>
    injection h with h
    refine ⟨[], rest, rfl, by simp, h.symm, ?_⟩
    intro hle _
    rw [UInt32.not_lt] at hge
    exact congrArg UInt32.toNat (UInt32.le_antisymm hle hge)

/-- In well-formed text no byte on the way to a column is out of place. -/
theorem seek_encodeAll_ne_invalidEncoding (p : Position) (offset : Nat) (units : UInt32)
    (cs : List Char) (bad : Nat) :
    seek p offset units (encodeAll cs) ≠ .error (.invalidEncoding bad) := by
  intro h
  generalize hrest : encodeAll cs = rest at h
  fun_induction seek p offset units rest generalizing cs with
  | case1 => exact absurd h (by simp)
  | case2 => exact absurd h (by simp)
  | case3 offset units hlt lead tail hlead hdecode =>
    cases cs with
    | nil => exact absurd hrest (by simp)
    | cons c cs =>
      rw [← hrest, encodeAll_cons, decode?_encode_append] at hdecode
      exact absurd hdecode (by simp)
  | case4 => exact absurd h (by simp)
  | case5 offset units hlt lead tail hlead c rest hdecode units' hnext ih =>
    cases cs with
    | nil => exact absurd hrest (by simp)
    | cons d cs =>
      rw [← hrest, encodeAll_cons, decode?_encode_append] at hdecode
      injection hdecode with hdecode
      injection hdecode with _ hdecode
      exact ih cs hdecode h
  | case6 => exact absurd h (by simp)

/-! ## §2. Offsets and positions by the parts of a text. -/

/-- A position on the line after `front` is looked for from there. -/
theorem offsetOf_append {front : List UInt8} {p : Position} (hfront : Whole newline front)
    (hline : p.line.toNat = front.count newline) (back : List UInt8) :
    (ofBytes (front ++ back)).offsetOf p = seek p front.length 0 back := by
  have hcount : p.line.toNat ≠ (ofBytes (front ++ back)).lineCount := by
    show _ ≠ (LineIndex.ofBytes (front ++ back)).count
    rw [count_ofBytes, List.count_append]
    omega
  have hstart : (ofBytes (front ++ back)).index.start? p.line.toNat = some front.length := by
    rw [hline]
    exact start?_count hfront back
  unfold offsetOf
  rw [if_neg (fun h => hcount h.1), hstart]
  show seek p front.length 0 ((front ++ back).drop front.length) = _
  rw [List.drop_left]

/-- The position after `mid` on the line after `front`. -/
theorem positionOf_append {front mid : List UInt8} (hfront : Whole newline front)
    (hmid : newline ∉ mid) (back : List UInt8) :
    (ofBytes (front ++ mid ++ back)).positionOf (front.length + mid.length)
      = .ok ⟨(front.count newline).toUInt32, Utf16.length mid⟩ := by
  have hle : ¬ (front ++ mid ++ back).length < front.length + mid.length := by
    simp only [List.length_append]
    omega
  have hfind : (ofBytes (front ++ mid ++ back)).index.find? (front.length + mid.length)
      = some (front.count newline, front.length) :=
    find?_ofBytes hfront hmid back
  have hslice : ((front ++ mid ++ back).take (front.length + mid.length)).drop front.length
      = mid := by
    rw [← List.length_append, List.take_left, List.drop_left]
  unfold positionOf
  rw [bytes_ofBytes, if_neg hle, hfind]
  simp only [hslice]

/-- The position is column 0 of the line after the last one, which stands
for the end of the text. -/
def AfterLast (b : Buffer) (p : Position) : Prop :=
  p.line.toNat = b.lineCount ∧ p.character = 0

instance (b : Buffer) (p : Position) : Decidable (b.AfterLast p) :=
  inferInstanceAs (Decidable (_ ∧ _))

theorem offsetOf_of_afterLast {b : Buffer} {p : Position} (h : b.AfterLast p) :
    b.offsetOf p = .ok b.bytes.length := by
  unfold AfterLast at h
  unfold offsetOf
  rw [if_pos h]

/-- Any other position that is found lies after some characters of its line. -/
theorem offsetOf_eq_ok_parts {bs : List UInt8} {p : Position} {o : Nat}
    (h : (ofBytes bs).offsetOf p = .ok o) (hp : ¬ (ofBytes bs).AfterLast p) :
    ∃ front cs back, bs = front ++ encodeAll cs ++ back ∧ Whole newline front ∧ '\n' ∉ cs
      ∧ p.line.toNat = front.count newline ∧ o = front.length + (encodeAll cs).length
      ∧ (bs.length < 2 ^ 32 → p.character.toNat = codeUnits cs) := by
  unfold AfterLast at hp
  unfold offsetOf at h
  rw [if_neg hp] at h
  split at h
  next => exact absurd h (by simp)
  next start hstart =>
    obtain ⟨front, rest, rfl, hfront, hline, rfl⟩ := start?_eq_some_iff.1 hstart
    rw [bytes_ofBytes, List.drop_left] at h
    obtain ⟨cs, back, rfl, hcs, rfl, hcolumn⟩ := seek_eq_ok h
    refine ⟨front, cs, back, by rw [List.append_assoc], hfront, hcs, hline.symm, rfl, ?_⟩
    intro hsize
    have hzero : (0 : UInt32).toNat = 0 := rfl
    have hreached := hcolumn (UInt32.zero_le) (by
      rw [List.length_append] at hsize
      omega)
    omega

/-! ## §3. From an offset to its position and back. -/

/-- The round trip at an offset given by the parts of the text before it. -/
theorem offsetOf_position_iff {front mid : List UInt8} (hfront : Whole newline front)
    (hmid : newline ∉ mid) (back : List UInt8) (hsize : (front ++ mid ++ back).length < 2 ^ 32) :
    (ofBytes (front ++ mid ++ back)).offsetOf
        ⟨(front.count newline).toUInt32, Utf16.length mid⟩ = .ok (front.length + mid.length)
      ↔ WellFormed mid := by
  simp only [List.length_append] at hsize
  have hcount : front.count newline ≤ front.length := List.count_le_length
  have hline : (front.count newline).toUInt32.toNat = front.count newline :=
    toNat_toUInt32 (by omega)
  rw [List.append_assoc, offsetOf_append hfront hline]
  constructor
  · intro h
    -- The search has passed over characters that take up as many bytes as `mid`.
    obtain ⟨cs, back', hsplit, -, hoffset, -⟩ := seek_eq_ok h
    have hlength : mid.length = (encodeAll cs).length := by omega
    exact ⟨cs, (List.append_inj hsplit hlength).1⟩
  · rintro ⟨cs, rfl⟩
    rw [newline_mem_encodeAll_iff] at hmid
    have hunits := codeUnits_le_length_encodeAll cs
    refine seek_encodeAll hmid ?_ front.length back
    rw [length_encodeAll]
    exact toNat_toUInt32 (by omega)

/-- Every offset of a text has a position, and that position leads back to
the offset exactly when the line is well-formed up to it; so it does at
every place between two characters of a well-formed text. -/
theorem offsetOf_positionOf_iff (bs : List UInt8) (hsize : bs.length < 2 ^ 32) :
    (∀ o ≤ bs.length, ∃ p, (ofBytes bs).positionOf o = .ok p
      ∧ ((ofBytes bs).offsetOf p = .ok o ↔ WellFormed (lastPart newline (bs.take o))))
    ∧ ∀ cs ds : List Char, bs = encodeAll (cs ++ ds) →
        ∃ p, (ofBytes bs).positionOf (encodeAll cs).length = .ok p
          ∧ (ofBytes bs).offsetOf p = .ok (encodeAll cs).length := by
  have hround : ∀ o ≤ bs.length, ∃ p, (ofBytes bs).positionOf o = .ok p
      ∧ ((ofBytes bs).offsetOf p = .ok o ↔ WellFormed (lastPart newline (bs.take o))) := by
    intro o ho
    have hfront := whole_wholePart newline (bs.take o)
    have hmid := not_mem_lastPart newline (bs.take o)
    have htake := wholePart_append_lastPart newline (bs.take o)
    have hlength : (wholePart newline (bs.take o)).length + (lastPart newline (bs.take o)).length
        = o := by
      rw [← List.length_append, htake, List.length_take, Nat.min_eq_left ho]
    have hsplit : wholePart newline (bs.take o) ++ lastPart newline (bs.take o) ++ bs.drop o
        = bs := by
      rw [htake, List.take_append_drop]
    have hposition := positionOf_append hfront hmid (bs.drop o)
    have hiff := offsetOf_position_iff hfront hmid (bs.drop o) (by rw [hsplit]; exact hsize)
    rw [hsplit, hlength] at hposition hiff
    exact ⟨_, hposition, hiff⟩
  refine ⟨hround, ?_⟩
  rintro cs ds rfl
  obtain ⟨p, hp, hiff⟩ := hround (encodeAll cs).length (by simp)
  refine ⟨p, hp, hiff.2 ⟨lastPart '\n' cs, ?_⟩⟩
  rw [encodeAll_append, List.take_left, lastPart_encodeAll]

/-- After an ill-formed byte there is no way back; on the next line, after a
character of four bytes, there is. -/
theorem offsetOf_positionOf_sample :
    (∃ p, (ofBytes [0x61, 0xFF, 0x0A, 0xF0, 0x9F, 0x98, 0x80]).positionOf 2 = .ok p
      ∧ (ofBytes [0x61, 0xFF, 0x0A, 0xF0, 0x9F, 0x98, 0x80]).offsetOf p ≠ .ok 2)
    ∧ ∃ p, (ofBytes [0x61, 0xFF, 0x0A, 0xF0, 0x9F, 0x98, 0x80]).positionOf 7 = .ok p
      ∧ (ofBytes [0x61, 0xFF, 0x0A, 0xF0, 0x9F, 0x98, 0x80]).offsetOf p = .ok 7 := by
  have hround := (offsetOf_positionOf_iff [0x61, 0xFF, 0x0A, 0xF0, 0x9F, 0x98, 0x80]
    (by decide)).1
  constructor
  · obtain ⟨p, hp, hiff⟩ := hround 2 (by decide)
    refine ⟨p, hp, ?_⟩
    rw [ne_eq, hiff]
    decide +kernel
  · obtain ⟨p, hp, hiff⟩ := hround 7 (by decide)
    exact ⟨p, hp, hiff.2 (by decide +kernel)⟩

/-! ## §4. From a position to its offset and back. -/

/-- The position of a place after some characters of a line. -/
theorem positionOf_encodeAll {front : List UInt8} {cs : List Char} (hfront : Whole newline front)
    (hcs : '\n' ∉ cs) (back : List UInt8) :
    (ofBytes (front ++ encodeAll cs ++ back)).positionOf (front.length + (encodeAll cs).length)
      = .ok ⟨(front.count newline).toUInt32, (codeUnits cs).toUInt32⟩ := by
  rw [← newline_mem_encodeAll_iff] at hcs
  rw [positionOf_append hfront hcs back, length_encodeAll]

/-- A position that is found is the position of the offset it is found at. -/
theorem positionOf_of_offsetOf {bs : List UInt8} (hsize : bs.length < 2 ^ 32) {p : Position}
    {o : Nat} (h : (ofBytes bs).offsetOf p = .ok o) (hp : ¬ (ofBytes bs).AfterLast p) :
    o ≤ bs.length ∧ (ofBytes bs).positionOf o = .ok p := by
  obtain ⟨front, cs, back, rfl, hfront, hcs, hline, rfl, hcolumn⟩ := offsetOf_eq_ok_parts h hp
  have hcharacter := hcolumn hsize
  refine ⟨by simp only [List.length_append]; omega, ?_⟩
  rw [positionOf_encodeAll hfront hcs, ← hline, ← hcharacter]
  simp

/-- The position of an offset: the number of newlines before it, and the
units since the last of them. -/
theorem positionOf_of_le {bs : List UInt8} {o : Nat} (ho : o ≤ bs.length) :
    (ofBytes bs).positionOf o
      = .ok ⟨((bs.take o).count newline).toUInt32,
          Utf16.length (lastPart newline (bs.take o))⟩ := by
  have hparts := wholePart_append_lastPart newline (bs.take o)
  have hposition := positionOf_append (whole_wholePart newline (bs.take o))
    (not_mem_lastPart newline (bs.take o)) (bs.drop o)
  rw [← List.length_append, hparts, List.take_append_drop, List.length_take_of_le ho,
    count_wholePart] at hposition
  exact hposition

/-- The end of a text is the end of its last line. -/
theorem positionOf_length (bs : List UInt8) :
    (ofBytes bs).positionOf bs.length
      = .ok ⟨(bs.count newline).toUInt32, Utf16.length (lastPart newline bs)⟩ := by
  rw [positionOf_of_le (Nat.le_refl _), List.take_length]

/-- A position that is found is the position of the offset it is found at;
the line after the last one alone is found at the end of the text, whose
position is the end of the last line.  So no two other positions are found
at one offset. -/
theorem positionOf_offsetOf (bs : List UInt8) (hsize : bs.length < 2 ^ 32) :
    (∀ p o, (ofBytes bs).offsetOf p = .ok o → ¬ (ofBytes bs).AfterLast p →
      o ≤ bs.length ∧ (ofBytes bs).positionOf o = .ok p)
    ∧ (∀ p, (ofBytes bs).AfterLast p → (ofBytes bs).offsetOf p = .ok bs.length
      ∧ ∃ q, (ofBytes bs).positionOf bs.length = .ok q
        ∧ q.line.toNat + 1 = (ofBytes bs).lineCount
        ∧ q.character = Utf16.length (lastPart newline bs))
    ∧ ∀ p q o, (ofBytes bs).offsetOf p = .ok o → (ofBytes bs).offsetOf q = .ok o →
        ¬ (ofBytes bs).AfterLast p → ¬ (ofBytes bs).AfterLast q → p = q := by
  refine ⟨?_, ?_, ?_⟩
  · intro p o h hp
    exact positionOf_of_offsetOf hsize h hp
  · intro p hp
    refine ⟨offsetOf_of_afterLast hp, _, positionOf_length bs, ?_, rfl⟩
    have hcount : bs.count newline ≤ bs.length := List.count_le_length
    show (bs.count newline).toUInt32.toNat + 1 = (LineIndex.ofBytes bs).count
    rw [toNat_toUInt32 (by omega), count_ofBytes]
  · intro p q o hp hq hp' hq'
    have hposition := (positionOf_of_offsetOf hsize hp hp').2
    rw [(positionOf_of_offsetOf hsize hq hq').2] at hposition
    injection hposition with hposition
    exact hposition.symm

/-- After a character of four bytes on the line after an ill-formed one,
and on the line after the last one. -/
theorem positionOf_offsetOf_sample :
    (ofBytes [0x61, 0xFF, 0x0A, 0xF0, 0x9F, 0x98, 0x80]).offsetOf ⟨1, 2⟩ = .ok 7
    ∧ (ofBytes [0x61, 0xFF, 0x0A, 0xF0, 0x9F, 0x98, 0x80]).positionOf 7 = .ok ⟨1, 2⟩
    ∧ (ofBytes [0x61, 0xFF, 0x0A, 0xF0, 0x9F, 0x98, 0x80]).offsetOf ⟨2, 0⟩ = .ok 7 := by
  have hround := positionOf_offsetOf [0x61, 0xFF, 0x0A, 0xF0, 0x9F, 0x98, 0x80] (by decide)
  have hfound : (ofBytes [0x61, 0xFF, 0x0A, 0xF0, 0x9F, 0x98, 0x80]).offsetOf ⟨1, 2⟩ = .ok 7 := by
    decide +kernel
  exact ⟨hfound, (hround.1 _ _ hfound (by decide)).2, (hround.2.1 _ (by decide)).1⟩

end DocNav.Buffer

/-
  DocNav.Proofs.Buffer.Lookup
  ───────────────────────────
  What is found at every position of every text.

  The characters that can be read from the start of a line, up to the
  first sequence that is none, are its longest well-formed start.  A
  column is found after some of them, or it lies inside one of them, or it
  lies past all of them; in the last case the line ends there or goes on
  with a byte that is out of place.  What follows the line does not
  matter: no character reaches over a newline (`decode?_append_newline`).
-/
import DocNav.Proofs.Buffer.Position

namespace DocNav

open Utf8 Utf16 Text LineIndex

/-! ## §1. The readable start of a line. -/

namespace Utf8

/-- The characters whose bytes are the longest well-formed start of a text. -/
structure LongestStart (bs : List UInt8) (cs : List Char) : Prop where
  /-- Their bytes stand at the start. -/
  start : encodeAll cs <+: bs
  /-- No other characters at the start take up more bytes. -/
  longest : ∀ ds, encodeAll ds <+: bs → (encodeAll ds).length ≤ (encodeAll cs).length

/-- After the longest well-formed start no character can be read. -/
theorem LongestStart.exists_rest {bs : List UInt8} {cs : List Char} (h : LongestStart bs cs) :
    ∃ rest, bs = encodeAll cs ++ rest ∧ decode? rest = none := by
  obtain ⟨rest, hrest⟩ := h.start
  refine ⟨rest, hrest.symm, ?_⟩
  cases hdecode : decode? rest with
  | none => rfl
  | some found =>
    obtain ⟨c, after⟩ := found
    have hlonger : encodeAll (cs ++ [c]) <+: bs := by
      refine ⟨after, ?_⟩
      rw [← hrest, decode?_eq_some_iff.1 hdecode, encodeAll_append, encodeAll_cons, encodeAll_nil,
        List.append_nil, List.append_assoc]
    have hle := h.longest _ hlonger
    have hpos := List.length_pos_iff.2 (encode_ne_nil c)
    rw [encodeAll_append, encodeAll_cons, List.length_append, List.length_append] at hle
    omega

/-- Characters after which no other can be read are the longest
well-formed start. -/
theorem longestStart_of_rest {rest : List UInt8} (h : decode? rest = none) (cs : List Char) :
    LongestStart (encodeAll cs ++ rest) cs := by
  refine ⟨List.prefix_append _ _, ?_⟩
  rintro ds ⟨after, hds⟩
  induction cs generalizing ds with
  | nil =>
    cases ds with
    | nil => exact Nat.le_refl _
    | cons d ds =>
      rw [encodeAll_nil, List.nil_append, encodeAll_cons, List.append_assoc] at hds
      rw [← hds, decode?_encode_append] at h
      cases h
  | cons c cs ih =>
    cases ds with
    | nil => exact Nat.zero_le _
    | cons d ds =>
      rw [encodeAll_cons, encodeAll_cons, List.append_assoc, List.append_assoc] at hds
      obtain ⟨rfl, hrest⟩ := encode_append_inj hds
      have hle := ih ds hrest
      rw [encodeAll_cons, encodeAll_cons, List.length_append, List.length_append]
      omega

theorem exists_longestStart (bs : List UInt8) : ∃ cs, LongestStart bs cs := by
  have hsplit : ∃ cs rest, bs = encodeAll cs ++ rest ∧ decode? rest = none := by
    induction h : bs.length using Nat.strong_induction_on generalizing bs with
    | _ n ih =>
      cases hdecode : decode? bs with
      | none => exact ⟨[], bs, rfl, hdecode⟩
      | some found =>
        obtain ⟨c, after⟩ := found
        have hlt := length_lt_of_decode? hdecode
        obtain ⟨cs, rest, rfl, hrest⟩ := ih after.length (by omega) after rfl
        refine ⟨c :: cs, rest, ?_, hrest⟩
        rw [decode?_eq_some_iff.1 hdecode, encodeAll_cons, List.append_assoc]
  obtain ⟨cs, rest, rfl, hrest⟩ := hsplit
  exact ⟨cs, longestStart_of_rest hrest cs⟩

/-- No character reaches over a newline. -/
theorem decode?_append_newline {bs : List UInt8} (hbs : bs ≠ []) (h : decode? bs = none)
    (back : List UInt8) : decode? (bs ++ newline :: back) = none := by
  cases hdecode : decode? (bs ++ newline :: back) with
  | none => rfl
  | some found =>
    obtain ⟨c, after⟩ := found
    have hsplit := decode?_eq_some_iff.1 hdecode
    obtain ⟨beyond, hc, hback⟩ | ⟨rest, hrest, -⟩ := List.append_eq_append_iff.1 hsplit
    · cases beyond with
      | nil =>
        rw [List.append_nil] at hc
        rw [← hc, ← List.append_nil (encode c), decode?_encode_append] at h
        cases h
      | cons b beyond =>
        -- The character would hold a newline, and so be one, but other bytes come first.
        injection hback with hb
        have hmem : newline ∈ encode c := by
          rw [hc, hb]
          simp
        rw [newline_mem_encode_iff] at hmem
        have hlength := congrArg List.length hc
        rw [hmem, encode_newline, List.length_append, List.length_singleton, List.length_cons]
          at hlength
        exact absurd (List.length_eq_zero_iff.1 (by omega)) hbs
    · rw [hrest, decode?_encode_append] at h
      cases h

end Utf8

namespace Buffer

/-! ## §2. Where the search ends. -/

theorem seek_nil {p : Position} {units : UInt32} (h : units < p.character) (offset : Nat) :
    seek p offset units [] = .error (.outOfRange p) := by
  rw [seek, if_pos h]

theorem seek_newline {p : Position} {units : UInt32} (h : units < p.character) (offset : Nat)
    (rest : List UInt8) : seek p offset units (newline :: rest) = .error (.outOfRange p) := by
  rw [seek, if_pos h]
  simp only [if_pos]

/-- A byte that is out of place ends the search. -/
theorem seek_of_decode?_eq_none {p : Position} {units : UInt32} (h : units < p.character)
    {lead : UInt8} (hlead : lead ≠ newline) {tail : List UInt8}
    (hdecode : decode? (lead :: tail) = none) (offset : Nat) :
    seek p offset units (lead :: tail) = .error (.invalidEncoding offset) := by
  rw [seek, if_pos h]
  simp only [if_neg hlead]
  split
  next => rfl
  next hsome =>
    rw [hdecode] at hsome
    cases hsome

/-! ## §3. Every position. -/

/-- The line with number `n` of a text stands after `front`, and a newline
or the end of the text comes after it. -/
structure IsLine (bs : List UInt8) (n : Nat) (front line back : List UInt8) : Prop where
  split : bs = front ++ line ++ back
  /-- What comes before it ends with a newline, or is nothing. -/
  whole : Whole newline front
  /-- Its number is the number of newlines before it. -/
  number : front.count newline = n
  /-- It holds no newline. -/
  single : newline ∉ line
  /-- It goes on to the next newline or to the end. -/
  ended : back = [] ∨ ∃ rest, back = newline :: rest

theorem exists_isLine {bs : List UInt8} {n : Nat} (h : n < (ofBytes bs).lineCount) :
    ∃ front line back, IsLine bs n front line back := by
  have hcount : (ofBytes bs).lineCount = bs.count newline + 1 := count_ofBytes bs
  have hle : n ≤ bs.count newline := by omega
  obtain ⟨front, rest, rfl, hfront, hnumber⟩ := exists_whole_of_le_count newline hle
  refine ⟨front, rest.takeWhile (· != newline), rest.dropWhile (· != newline), ?_, hfront, hnumber,
    ?_, ?_⟩
  · rw [List.append_assoc, List.takeWhile_append_dropWhile]
  · intro hmem
    have := List.mem_takeWhile_imp hmem
    simp at this
  · have hhead := List.head?_dropWhile_not (· != newline) rest
    cases hback : rest.dropWhile (· != newline) with
    | nil => exact .inl rfl
    | cons b rest' =>
      rw [hback] at hhead
      have hb : b = newline := by simpa using hhead
      exact .inr ⟨rest', by rw [hb]⟩

/-- What is found in a line that starts at `start` and can be read as far
as `cs` goes. -/
structure ReadsColumn (b : Buffer) (p : Position) (start : Nat) (line : List UInt8)
    (cs : List Char) : Prop where
  /-- A column after some of the characters is found where their bytes end. -/
  found : ∀ k ≤ cs.length, p.character.toNat = codeUnits (cs.take k) →
    b.offsetOf p = .ok (start + (encodeAll (cs.take k)).length)
  /-- A column inside one of them is misaligned. -/
  inside : ∀ k < cs.length, codeUnits (cs.take k) < p.character.toNat →
    p.character.toNat < codeUnits (cs.take (k + 1)) →
    b.offsetOf p = .error (.misalignedSurrogate p)
  /-- A column past them is out of range if they are the whole line, and
  otherwise the byte after them is out of place. -/
  past : codeUnits cs < p.character.toNat →
    b.offsetOf p
      = .error (if encodeAll cs = line then .outOfRange p
          else .invalidEncoding (start + (encodeAll cs).length))

/-- Characters that do not reach the column are passed over. -/
theorem seek_zero_encodeAll_append {p : Position} {cs : List Char} (hcs : '\n' ∉ cs)
    (h : codeUnits cs ≤ p.character.toNat) (offset : Nat) (rest : List UInt8) :
    seek p offset 0 (encodeAll cs ++ rest)
      = seek p (offset + (encodeAll cs).length) (codeUnits cs).toUInt32 rest := by
  show seek p offset (Nat.toUInt32 0) (encodeAll cs ++ rest) = _
  rw [seek_encodeAll_append hcs (by omega), Nat.zero_add]

/-- A character that is wider than what is left to the column. -/
theorem seek_inside {p : Position} {cs : List Char} {c : Char} (hcs : '\n' ∉ cs) (hc : c ≠ '\n')
    (hlow : codeUnits cs < p.character.toNat)
    (hhigh : p.character.toNat < codeUnits cs + (charUnits c).toNat)
    (hsize : codeUnits cs + (charUnits c).toNat < 2 ^ 32) (offset : Nat) (rest : List UInt8) :
    seek p offset 0 (encodeAll cs ++ (encode c ++ rest)) = .error (.misalignedSurrogate p) := by
  have hlt : (codeUnits cs).toUInt32 < p.character := by
    rw [UInt32.lt_iff_toNat_lt, toNat_toUInt32 (by omega)]
    exact hlow
  have hpast : p.character < (codeUnits cs + (charUnits c).toNat).toUInt32 := by
    rw [UInt32.lt_iff_toNat_lt, toNat_toUInt32 hsize]
    exact hhigh
  rw [seek_zero_encodeAll_append hcs (by omega), seek_encode hc hlt, toUInt32_add_charUnits,
    if_pos hpast]

/-- A column past what can be read of a line. -/
theorem seek_past {p : Position} {cs : List Char} {rest back : List UInt8} (hcs : '\n' ∉ cs)
    (hpast : codeUnits cs < p.character.toNat) (hdecode : decode? rest = none)
    (hrest : newline ∉ rest) (hback : back = [] ∨ ∃ after, back = newline :: after)
    (offset : Nat) :
    seek p offset 0 (encodeAll cs ++ (rest ++ back))
      = .error (if rest = [] then .outOfRange p
          else .invalidEncoding (offset + (encodeAll cs).length)) := by
  have hbound := p.character.toNat_lt
  have hlt : (codeUnits cs).toUInt32 < p.character := by
    rw [UInt32.lt_iff_toNat_lt, toNat_toUInt32 (by omega)]
    exact hpast
  rw [seek_zero_encodeAll_append hcs (by omega)]
  cases rest with
  | nil =>
    rw [if_pos rfl, List.nil_append]
    obtain rfl | ⟨after, rfl⟩ := hback
    · exact seek_nil hlt _
    · exact seek_newline hlt _ after
  | cons lead tail =>
    rw [if_neg (by simp)]
    have hlead : lead ≠ newline := by
      rintro rfl
      exact hrest List.mem_cons_self
    have hnone : decode? (lead :: tail ++ back) = none := by
      obtain rfl | ⟨after, rfl⟩ := hback
      · rw [List.append_nil]
        exact hdecode
      · exact decode?_append_newline (by simp) hdecode after
    exact seek_of_decode?_eq_none hlt hlead hnone _

theorem readsColumn_of_isLine {bs front line back : List UInt8} {p : Position} {cs : List Char}
    (hsize : bs.length < 2 ^ 32) (hline : IsLine bs p.line.toNat front line back)
    (hcs : LongestStart line cs) : ReadsColumn (ofBytes bs) p front.length line cs := by
  obtain ⟨rest, rfl, hrest⟩ := hcs.exists_rest
  obtain ⟨rfl, hwhole, hnumber, hsingle, hended⟩ := hline
  rw [List.mem_append, not_or, newline_mem_encodeAll_iff] at hsingle
  obtain ⟨hchars, hnewline⟩ := hsingle
  have hoffset : (ofBytes (front ++ (encodeAll cs ++ rest) ++ back)).offsetOf p
      = seek p front.length 0 (encodeAll cs ++ (rest ++ back)) := by
    rw [List.append_assoc, offsetOf_append hwhole hnumber.symm, List.append_assoc]
  refine ⟨?_, ?_, ?_⟩
  · intro k hk hcolumn
    have hsplit : encodeAll cs = encodeAll (cs.take k) ++ encodeAll (cs.drop k) := by
      rw [← encodeAll_append, List.take_append_drop]
    rw [hoffset, hsplit, List.append_assoc]
    exact seek_encodeAll (fun h => hchars (List.mem_of_mem_take h)) hcolumn _ _
  · intro k hk hlow hhigh
    have hsplit : encodeAll cs
        = encodeAll (cs.take k) ++ (encode cs[k] ++ encodeAll (cs.drop (k + 1))) := by
      rw [← encodeAll_cons, ← List.drop_eq_getElem_cons hk, ← encodeAll_append,
        List.take_append_drop]
    -- The units before the column are no more than the bytes of the text, so none is lost.
    have hle := codeUnits_take_le cs (k + 1)
    have hbytes := codeUnits_le_length_encodeAll cs
    simp only [List.length_append] at hsize
    rw [codeUnits_take_succ hk] at hhigh hle
    rw [hoffset, hsplit, List.append_assoc, List.append_assoc]
    refine seek_inside (fun h => hchars (List.mem_of_mem_take h)) ?_ hlow hhigh (by omega) _ _
    intro hnewline
    exact hchars (hnewline ▸ List.getElem_mem hk)
  · intro hpast
    rw [hoffset, seek_past hchars hpast hrest hnewline hended]
    simp

/-- **Every position**: on a line of the text it is found, misaligned, out
of range or past a byte that is out of place, by what can be read of that
line; after the last line only column 0 of the next one is found, at the
end of the text. -/
theorem offsetOf_cases (bs : List UInt8) (hsize : bs.length < 2 ^ 32) (p : Position) :
    (p.line.toNat < (ofBytes bs).lineCount →
      ∃ front line back cs, IsLine bs p.line.toNat front line back ∧ LongestStart line cs)
    ∧ (∀ front line back cs, IsLine bs p.line.toNat front line back → LongestStart line cs →
      ReadsColumn (ofBytes bs) p front.length line cs)
    ∧ ((ofBytes bs).lineCount ≤ p.line.toNat →
      (ofBytes bs).offsetOf p
        = if p.line.toNat = (ofBytes bs).lineCount ∧ p.character = 0 then .ok bs.length
          else .error (.outOfRange p)) := by
  refine ⟨?_, ?_, ?_⟩
  · intro hlt
    obtain ⟨front, line, back, hline⟩ := exists_isLine hlt
    obtain ⟨cs, hcs⟩ := exists_longestStart line
    exact ⟨front, line, back, cs, hline, hcs⟩
  · intro front line back cs hline hcs
    exact readsColumn_of_isLine hsize hline hcs
  · intro hle
    have hnone : (ofBytes bs).index.start? p.line.toNat = none := Array.getElem?_eq_none hle
    unfold offsetOf
    rw [hnone]
    rfl

/-- A letter, a character of four bytes and a byte that is out of place on
the first line, and a character that breaks off at the end. -/
def brokenBytes : List UInt8 :=
  [0x61, 0xF0, 0x9F, 0x98, 0x80, 0xFF, 0x62, 0x0A, 0xC3]

/-- Inside the character of four bytes, past it, and after the last line. -/
theorem offsetOf_cases_sample :
    (ofBytes brokenBytes).offsetOf ⟨0, 2⟩ = .error (.misalignedSurrogate ⟨0, 2⟩)
    ∧ (ofBytes brokenBytes).offsetOf ⟨0, 5⟩ = .error (.invalidEncoding 5)
    ∧ (ofBytes brokenBytes).offsetOf ⟨2, 0⟩ = .ok 9 := by
  have hsize : brokenBytes.length < 2 ^ 32 := by decide
  have hline : IsLine brokenBytes 0 [] [0x61, 0xF0, 0x9F, 0x98, 0x80, 0xFF, 0x62] [0x0A, 0xC3] :=
    ⟨rfl, whole_nil _, rfl, by decide, .inr ⟨[0xC3], rfl⟩⟩
  have hrest : decode? [0xFF, 0x62] = none := by decide
  have hcs : LongestStart [0x61, 0xF0, 0x9F, 0x98, 0x80, 0xFF, 0x62] ['a', '😀'] :=
    longestStart_of_rest hrest ['a', '😀']
  refine ⟨?_, ?_, ?_⟩
  · exact ((offsetOf_cases brokenBytes hsize ⟨0, 2⟩).2.1 _ _ _ _ hline hcs).inside 1 (by decide)
      (by decide) (by decide)
  · exact ((offsetOf_cases brokenBytes hsize ⟨0, 5⟩).2.1 _ _ _ _ hline hcs).past (by decide)
  · exact (offsetOf_cases brokenBytes hsize ⟨2, 0⟩).2.2 (by decide)

end Buffer

end DocNav

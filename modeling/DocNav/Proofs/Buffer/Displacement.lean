/-
  DocNav.Proofs.Buffer.Displacement
  ─────────────────────────────────
  Where the places of a text are after an edit.

  A position says how far the bytes before it reach: over how many
  newlines, and over how many units since the last of them (`Reach`).
  Reaches add up along well-formed text (`Reach.ofBytes_append`).  An edit
  takes the reach of the old text out of the sum and puts that of the new
  text in, so what comes before it stays where it is and what comes after
  it is displaced by the difference (`positionOf_apply`).
-/
import DocNav.Proofs.Text.Size
import DocNav.Proofs.Buffer.Edit

namespace DocNav

open Utf8 Utf16 Text LineIndex

/-! ## §1. How far bytes reach. -/

/-- How far some bytes reach from the place where they begin. -/
structure Reach where
  /-- Over how many newlines. -/
  lines : Nat
  /-- Over how many units since the last of them. -/
  units : Nat
  deriving Repr, DecidableEq

namespace Reach

/-- How far `bs` reach. -/
def ofBytes (bs : List UInt8) : Reach :=
  ⟨bs.count newline, size (lastPart newline bs)⟩

/-- One reach and then another: after a newline the units start again. -/
def followedBy (r r' : Reach) : Reach :=
  ⟨r.lines + r'.lines, if r'.lines = 0 then r.units + r'.units else r'.units⟩

/-- A reach from the start of a text comes to the position `p`. -/
structure At (r : Reach) (p : Position) : Prop where
  line : p.line.toNat = r.lines
  character : p.character.toNat = r.units

@[simp] theorem followedBy_nil (r : Reach) : r.followedBy (ofBytes []) = r := by
  simp [ofBytes, followedBy, lastPart]

/-- Reaches add up after bytes whose last line is well-formed. -/
theorem ofBytes_append {bs : List UInt8} (hbs : WellFormed (lastPart newline bs))
    (bs' : List UInt8) : ofBytes (bs ++ bs') = (ofBytes bs).followedBy (ofBytes bs') := by
  unfold ofBytes followedBy
  rw [List.count_append]
  by_cases hmem : newline ∈ bs'
  · have hlines : bs'.count newline ≠ 0 := (List.count_pos_iff.2 hmem).ne'
    rw [lastPart_append_of_mem hmem, if_neg hlines]
  · have hlines : bs'.count newline = 0 := List.count_eq_zero.2 hmem
    have hlast : lastPart newline bs' = bs' := lastPart_append (whole_nil newline) hmem
    obtain ⟨cs, hcs⟩ := hbs
    rw [lastPart_append_of_not_mem hmem, if_pos hlines, hcs, hlast, size_encodeAll_append,
      size_encodeAll]

end Reach

namespace Buffer

/-- The position of an offset is as far as the bytes before it reach. -/
theorem positionOf_at {bs : List UInt8} {o : Nat} (ho : o ≤ bs.length)
    (hsize : bs.length < 2 ^ 32) :
    ∃ p, (ofBytes bs).positionOf o = .ok p ∧ (Reach.ofBytes (bs.take o)).At p := by
  have hlength := List.length_take_le' o bs
  have hcount : (bs.take o).count newline ≤ (bs.take o).length := List.count_le_length
  have hlast := length_lastPart_le newline (bs.take o)
  exact ⟨_, positionOf_of_le ho, toNat_toUInt32 (by omega), toNat_length (by omega)⟩

/-- A place some way into the text after `front` lies further by as much
as the bytes in between reach, if the last line of `front` is well-formed. -/
theorem positionOf_reach {front back : List UInt8} (hfront : WellFormed (lastPart newline front))
    {k : Nat} (hk : k ≤ back.length) (hsize : (front ++ back).length < 2 ^ 32) :
    ∃ p, (ofBytes (front ++ back)).positionOf (front.length + k) = .ok p
      ∧ ((Reach.ofBytes front).followedBy (.ofBytes (back.take k))).At p := by
  have hle : front.length + k ≤ (front ++ back).length := by
    rw [List.length_append]
    omega
  have htake : (front ++ back).take (front.length + k) = front ++ back.take k := by
    rw [List.take_append, List.take_of_length_le (by omega)]
    simp
  obtain ⟨p, hp, hat⟩ := positionOf_at hle hsize
  rw [htake, Reach.ofBytes_append hfront] at hat
  exact ⟨p, hp, hat⟩

/-! ## §2. Edits. -/

/-- The place at `p` is at `q` once the text from `start` to `stop`, which
ends at or before it, is replaced by `new`.  On a later line it keeps its
column; on the line of `stop` it goes on from where the new text ends. -/
structure Displaced (start stop : Position) (new : List UInt8) (p q : Position) : Prop where
  line : (q.line.toNat : Int)
    = p.line.toNat - stop.line.toNat + start.line.toNat + new.count newline
  character : (q.character.toNat : Int)
    = if stop.line < p.line then (p.character.toNat : Int)
      else p.character.toNat - stop.character.toNat
        + (Utf16.length (lastPart newline new)).toNat
        + (if newline ∈ new then 0 else start.character.toNat)

/-- A place that lies as far after the new text as it did after the old is
displaced. -/
theorem displaced_of_at {start stop rest : Reach} {new : List UInt8} {ps pe p q : Position}
    (hs : start.At ps) (he : stop.At pe) (hp : (stop.followedBy rest).At p)
    (hq : ((start.followedBy (.ofBytes new)).followedBy rest).At q)
    (hnew : new.length < 2 ^ 32) : Displaced ps pe new p q := by
  have hlast := length_lastPart_le newline new
  have hunits : (Utf16.length (lastPart newline new)).toNat = (Reach.ofBytes new).units :=
    toNat_length (by omega)
  have hmem : newline ∈ new ↔ (Reach.ofBytes new).lines ≠ 0 :=
    List.count_pos_iff.symm.trans Nat.pos_iff_ne_zero
  have hpline : p.line.toNat = stop.lines + rest.lines := hp.line
  have hqline : q.line.toNat = start.lines + new.count newline + rest.lines := hq.line
  refine ⟨?_, ?_⟩
  · rw [hpline, hqline, hs.line, he.line]
    push_cast
    omega
  · have hlt : pe.line < p.line ↔ rest.lines ≠ 0 := by
      rw [UInt32.lt_iff_toNat_lt, hpline, he.line]
      omega
    simp only [hlt, hmem, hunits, hp.character, hq.character, hs.character, he.character,
      Reach.followedBy]
    by_cases hrest : rest.lines = 0
    · -- The place is on the line of the end of the range.
      by_cases htext : (Reach.ofBytes new).lines = 0
      · simp only [hrest, htext, ne_eq, not_true_eq_false, if_true, if_false]
        push_cast
        omega
      · simp only [hrest, htext, ne_eq, not_true_eq_false, not_false_eq_true, if_true, if_false]
        push_cast
        omega
    · simp only [hrest, ne_eq, not_false_eq_true, if_true, if_false]

/-- Before a place nothing but the bytes before it counts. -/
theorem positionOf_append_congr {front : List UInt8} {o : Nat} (ho : o ≤ front.length)
    (back back' : List UInt8) :
    ∃ p, (ofBytes (front ++ back)).positionOf o = .ok p
      ∧ (ofBytes (front ++ back')).positionOf o = .ok p := by
  refine ⟨_, positionOf_of_le (by rw [List.length_append]; omega), ?_⟩
  rw [positionOf_of_le (by rw [List.length_append]; omega), List.take_append_of_le_length ho,
    List.take_append_of_le_length ho]

/-- Where `old` gives way to `new`, every place after it is displaced. -/
theorem positionOf_replace {before old new after : List UInt8} (hbefore : WellFormed before)
    (hold : WellFormed (before ++ old)) (hnew : WellFormed (before ++ new))
    (hsize : (before ++ old ++ after).length < 2 ^ 32)
    (hsize' : (before ++ new ++ after).length < 2 ^ 32) :
    ∃ start stop, (ofBytes (before ++ old ++ after)).positionOf before.length = .ok start
      ∧ (ofBytes (before ++ old ++ after)).positionOf (before ++ old).length = .ok stop
      ∧ ∀ k ≤ after.length, ∃ p q,
          (ofBytes (before ++ old ++ after)).positionOf ((before ++ old).length + k) = .ok p
          ∧ (ofBytes (before ++ new ++ after)).positionOf ((before ++ new).length + k) = .ok q
          ∧ Displaced start stop new p q := by
  obtain ⟨start, hstart, hstartAt⟩ := positionOf_reach hbefore.lastPart
    (Nat.zero_le (old ++ after).length) (by rwa [← List.append_assoc])
  obtain ⟨stop, hstop, hstopAt⟩ := positionOf_reach hold.lastPart (Nat.zero_le after.length)
    hsize
  rw [← List.append_assoc, Nat.add_zero] at hstart
  rw [Nat.add_zero] at hstop
  rw [List.take_zero, Reach.followedBy_nil] at hstartAt hstopAt
  refine ⟨start, stop, hstart, hstop, ?_⟩
  intro k hk
  obtain ⟨p, hp, hpAt⟩ := positionOf_reach hold.lastPart hk hsize
  obtain ⟨q, hq, hqAt⟩ := positionOf_reach hnew.lastPart hk hsize'
  rw [Reach.ofBytes_append hbefore.lastPart] at hqAt
  have hlength : new.length < 2 ^ 32 := by
    simp only [List.length_append] at hsize'
    omega
  exact ⟨p, q, hp, hq, displaced_of_at hstartAt hstopAt hpAt hqAt hlength⟩

/-- An edit of a well-formed text keeps the position of every offset up to
its start and displaces every offset from its end on. -/
theorem positionOf_apply {bs : List UInt8} {r : Range} {text : String} {b : Buffer} {s e : Nat}
    (hbs : WellFormed bs) (hsize : bs.length < 2 ^ 32)
    (hedit : (ofBytes bs).apply ⟨some r, text⟩ = .ok b) (hsize' : b.bytes.length < 2 ^ 32)
    (hs : (ofBytes bs).offsetOf r.start = .ok s) (he : (ofBytes bs).offsetOf r.stop = .ok e) :
    (∀ o ≤ s, ∃ p, (ofBytes bs).positionOf o = .ok p ∧ b.positionOf o = .ok p)
    ∧ s ≤ e
    ∧ ∃ start stop, (ofBytes bs).positionOf s = .ok start ∧ (ofBytes bs).positionOf e = .ok stop
      ∧ ∀ o, e ≤ o → o ≤ bs.length →
        ∃ p q, (ofBytes bs).positionOf o = .ok p
          ∧ b.positionOf (o - (e - s) + (Utf8.ofString text).length) = .ok q
          ∧ Displaced start stop (Utf8.ofString text) p q := by
  obtain ⟨cs, rfl⟩ := hbs
  obtain ⟨front, mid, back, rfl, rfl, rfl, rfl⟩ := apply_eq_ok_places hedit hs he
  have htext : encodeAll text.toList = Utf8.ofString text := rfl
  have hfront : WellFormed (encodeAll front) := ⟨front, rfl⟩
  have hold : WellFormed (encodeAll front ++ encodeAll mid) := ⟨front ++ mid, by simp⟩
  have hnew : WellFormed (encodeAll front ++ Utf8.ofString text) :=
    ⟨front ++ text.toList, by rw [encodeAll_append, htext]⟩
  simp only [encodeAll_append, htext, bytes_ofBytes] at hsize hsize' ⊢
  refine ⟨?_, ?_, ?_⟩
  · intro o ho
    rw [List.append_assoc, List.append_assoc]
    exact positionOf_append_congr ho _ _
  · rw [List.length_append]
    omega
  · obtain ⟨start, stop, hstart, hstop, hafter⟩ :=
      positionOf_replace hfront hold hnew hsize hsize'
    refine ⟨start, stop, hstart, hstop, ?_⟩
    intro o heo ho
    -- The offset lies `k` bytes after the old text, and then `k` bytes after the new.
    obtain ⟨k, rfl⟩ := Nat.exists_eq_add_of_le heo
    have hk : k ≤ (encodeAll back).length := by
      simp only [List.length_append] at ho
      omega
    obtain ⟨p, q, hp, hq, hdisplaced⟩ := hafter k hk
    have hmoved : (encodeAll front ++ encodeAll mid).length + k
          - ((encodeAll front ++ encodeAll mid).length - (encodeAll front).length)
          + (Utf8.ofString text).length
        = (encodeAll front ++ Utf8.ofString text).length + k := by
      simp only [List.length_append]
      omega
    rw [hmoved]
    exact ⟨p, q, hp, hq, hdisplaced⟩

/-- In `"a😀b\ncd\ne"` the text from `b` to `c` is replaced by `"x\ny😀"`.  What
was at column 2 of line 1, behind `d`, is then at column 4, since a pair of
surrogates comes before it now. -/
theorem positionOf_apply_sample :
    (ofBytes (Utf8.ofString "a😀b\ncd\ne")).apply ⟨some ⟨⟨0, 3⟩, ⟨1, 1⟩⟩, "x\ny😀"⟩
      = .ok (ofBytes (Utf8.ofString "a😀x\ny😀d\ne"))
    ∧ (ofBytes (Utf8.ofString "a😀b\ncd\ne")).positionOf 9 = .ok ⟨1, 2⟩
    ∧ ∃ q, (ofBytes (Utf8.ofString "a😀x\ny😀d\ne")).positionOf 13 = .ok q
      ∧ (q.line.toNat : Int) = 1 - 1 + 0 + 1 ∧ (q.character.toNat : Int) = 2 - 1 + 3 + 0 := by
  have hedit : (ofBytes (Utf8.ofString "a😀b\ncd\ne")).apply ⟨some ⟨⟨0, 3⟩, ⟨1, 1⟩⟩, "x\ny😀"⟩
      = .ok (ofBytes (Utf8.ofString "a😀x\ny😀d\ne")) := by decide +kernel
  have hplace : (ofBytes (Utf8.ofString "a😀b\ncd\ne")).positionOf 9 = .ok ⟨1, 2⟩ := by
    decide +kernel
  have hfirst : (ofBytes (Utf8.ofString "a😀b\ncd\ne")).positionOf 5 = .ok ⟨0, 3⟩ := by
    decide +kernel
  have hsecond : (ofBytes (Utf8.ofString "a😀b\ncd\ne")).positionOf 8 = .ok ⟨1, 1⟩ := by
    decide +kernel
  obtain ⟨-, -, start, stop, hstart, hstop, hafter⟩ :=
    positionOf_apply ⟨_, rfl⟩ (by decide +kernel) hedit (by decide +kernel)
      (by decide +kernel : _ = Except.ok 5) (by decide +kernel : _ = Except.ok 8)
  obtain ⟨p, q, hp, hq, hdisplaced⟩ := hafter 9 (by decide) (by decide +kernel)
  obtain rfl : start = ⟨0, 3⟩ := Except.ok.inj (hstart.symm.trans hfirst)
  obtain rfl : stop = ⟨1, 1⟩ := Except.ok.inj (hstop.symm.trans hsecond)
  obtain rfl : p = ⟨1, 2⟩ := Except.ok.inj (hp.symm.trans hplace)
  exact ⟨hedit, hplace, q, hq, hdisplaced.line,
    hdisplaced.character.trans (by decide +kernel)⟩

end Buffer

end DocNav

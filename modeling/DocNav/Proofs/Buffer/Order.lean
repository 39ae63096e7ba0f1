/-
  DocNav.Proofs.Buffer.Order
  ──────────────────────────
  The order of positions is the order of offsets.

  Bytes that are there reach further, over a newline or over some units
  (`Reach.precedes_of_at`).  So after a well-formed start of a line every
  later offset has a later position (`precedes_of_lt`), and two positions
  that are found stand in the order of the offsets where they are found
  (`lt_iff_precedes`).  The line after the last one is the exception: it is
  found where the last line ends, and comes after that position.  With it
  said, the ends of a range are found in the wrong order exactly when the
  range is inverted (`lt_iff_inverted`).
-/
import DocNav.Proofs.Buffer.Displacement

namespace DocNav

open Utf8 Utf16 Text LineIndex

/-! ## §1. Reading order. -/

namespace Position

theorem precedes_iff {p q : Position} :
    p.precedes q = true
      ↔ p.line.toNat < q.line.toNat
        ∨ (p.line.toNat = q.line.toNat ∧ p.character.toNat < q.character.toNat) := by
  simp only [precedes, Bool.or_eq_true, Bool.and_eq_true, decide_eq_true_eq, beq_iff_eq,
    UInt32.lt_iff_toNat_lt, UInt32.toNat_inj]

theorem precedes_irrefl (p : Position) : ¬ p.precedes p = true := by
  intro h
  rw [precedes_iff] at h
  omega

theorem precedes_asymm {p q : Position} (h : p.precedes q = true) : ¬ q.precedes p = true := by
  intro h'
  rw [precedes_iff] at h h'
  omega

end Position

/-- What lies further by some bytes comes later. -/
theorem Reach.precedes_of_at {r : Reach} {mid : List UInt8} {p q : Position} (hmid : mid ≠ [])
    (hp : r.At p) (hq : (r.followedBy (.ofBytes mid)).At q) : p.precedes q = true := by
  have hline : q.line.toNat = r.lines + mid.count newline := hq.line
  rw [Position.precedes_iff, hp.line, hp.character, hline]
  by_cases hmem : newline ∈ mid
  · have hpos : 0 < mid.count newline := List.count_pos_iff.mpr hmem
    left
    omega
  · -- On one line it is the units of the bytes in between that are passed.
    have hzero : mid.count newline = 0 := List.count_eq_zero.mpr hmem
    have hlast : lastPart newline mid = mid := lastPart_append (whole_nil newline) hmem
    have hcharacter : q.character.toNat = r.units + size mid := by
      rw [hq.character]
      show (if mid.count newline = 0 then r.units + size (lastPart newline mid) else _) = _
      rw [if_pos hzero, hlast]
    have hpos := size_pos hmid
    right
    omega

namespace Buffer

/-! ## §2. Positions of offsets. -/

/-- After a well-formed start of a line every later offset has a later
position, whatever bytes come in between. -/
theorem precedes_of_lt {bs : List UInt8} (hsize : bs.length < 2 ^ 32) {o o' : Nat} (hlt : o < o')
    (hle : o' ≤ bs.length) (hline : WellFormed (lastPart newline (bs.take o))) {p q : Position}
    (hp : (ofBytes bs).positionOf o = .ok p) (hq : (ofBytes bs).positionOf o' = .ok q) :
    p.precedes q = true := by
  obtain ⟨p', hp', hpAt⟩ := positionOf_at (show o ≤ bs.length by omega) hsize
  obtain ⟨q', hq', hqAt⟩ := positionOf_at hle hsize
  obtain rfl : p' = p := Except.ok.inj (hp'.symm.trans hp)
  obtain rfl : q' = q := Except.ok.inj (hq'.symm.trans hq)
  have hsplit : bs.take o' = bs.take o ++ (bs.drop o).take (o' - o) := by
    rw [← List.take_add]
    congr 1
    omega
  have hmid : (bs.drop o).take (o' - o) ≠ [] := by
    intro hnil
    have hlength := congrArg List.length hnil
    rw [List.length_take, List.length_drop, List.length_nil] at hlength
    omega
  rw [hsplit, Reach.ofBytes_append hline] at hqAt
  exact Reach.precedes_of_at hmid hpAt hqAt

/-- Up to a position that is found its line is well-formed. -/
theorem wellFormed_of_offsetOf {bs : List UInt8} {p : Position} {o : Nat}
    (h : (ofBytes bs).offsetOf p = .ok o) (hp : ¬ (ofBytes bs).AfterLast p) :
    WellFormed (lastPart newline (bs.take o)) := by
  obtain ⟨front, cs, back, rfl, hfront, hcs, -, rfl, -⟩ := offsetOf_eq_ok_parts h hp
  rw [← newline_mem_encodeAll_iff] at hcs
  refine ⟨cs, ?_⟩
  rw [← List.length_append, List.take_left, lastPart_append hfront hcs]

/-- A position that is found is on a line of the text. -/
theorem line_lt_lineCount {bs : List UInt8} {p : Position} {o : Nat}
    (h : (ofBytes bs).offsetOf p = .ok o) (hp : ¬ (ofBytes bs).AfterLast p) :
    p.line.toNat < (ofBytes bs).lineCount := by
  obtain ⟨front, cs, back, rfl, -, -, hline, -, -⟩ := offsetOf_eq_ok_parts h hp
  show _ < (LineIndex.ofBytes (front ++ encodeAll cs ++ back)).count
  rw [count_ofBytes, hline, List.append_assoc, List.count_append]
  omega

/-! ## §3. Offsets of positions. -/

/-- Two positions stand in the order of the offsets where they are found. -/
theorem lt_iff_precedes {bs : List UInt8} (hsize : bs.length < 2 ^ 32) {p q : Position}
    {o o' : Nat} (hp : (ofBytes bs).offsetOf p = .ok o) (hp' : ¬ (ofBytes bs).AfterLast p)
    (hq : (ofBytes bs).offsetOf q = .ok o') (hq' : ¬ (ofBytes bs).AfterLast q) :
    o < o' ↔ p.precedes q = true := by
  obtain ⟨hle, hpo⟩ := positionOf_of_offsetOf hsize hp hp'
  obtain ⟨hle', hqo⟩ := positionOf_of_offsetOf hsize hq hq'
  constructor
  · intro hlt
    exact precedes_of_lt hsize hlt hle' (wellFormed_of_offsetOf hp hp') hpo hqo
  · intro hprecedes
    rcases Nat.lt_trichotomy o o' with hlt | heq | hgt
    · exact hlt
    · -- One offset has one position.
      subst heq
      obtain rfl : p = q := Except.ok.inj (hpo.symm.trans hqo)
      exact absurd hprecedes (Position.precedes_irrefl p)
    · have hback := precedes_of_lt hsize hgt hle (wellFormed_of_offsetOf hq hq') hqo hpo
      exact absurd hprecedes (Position.precedes_asymm hback)

/-- The end of the range lies before its start.  The line after the last
one stands for the end of the text, so the end of the last line does not
lie before it. -/
def Inverted (b : Buffer) (r : Range) : Prop :=
  r.stop.precedes r.start = true
    ∧ ¬ (b.AfterLast r.start ∧ b.positionOf b.bytes.length = .ok r.stop)

instance (b : Buffer) (r : Range) : Decidable (b.Inverted r) :=
  inferInstanceAs (Decidable (_ ∧ ¬ (_ ∧ _)))

theorem AfterLast.unique {b : Buffer} {p q : Position} (hp : b.AfterLast p) (hq : b.AfterLast q) :
    p = q := by
  obtain ⟨pline, pcharacter⟩ := p
  obtain ⟨qline, qcharacter⟩ := q
  have hline : pline = qline := UInt32.toNat_inj.mp (hp.1.trans hq.1.symm)
  have hcharacter : pcharacter = qcharacter := hp.2.trans hq.2.symm
  rw [hline, hcharacter]

/-- The end of a range that starts on the line after the last one is found
before the end of the text exactly when it is not the end of the last
line. -/
theorem lt_length_iff {bs : List UInt8} (hsize : bs.length < 2 ^ 32) {p : Position} {o : Nat}
    (h : (ofBytes bs).offsetOf p = .ok o) (hp : ¬ (ofBytes bs).AfterLast p) :
    o < bs.length ↔ (ofBytes bs).positionOf bs.length ≠ .ok p := by
  obtain ⟨hle, hposition⟩ := positionOf_of_offsetOf hsize h hp
  constructor
  · intro hlt heq
    have hprecedes := precedes_of_lt hsize hlt (Nat.le_refl _) (wellFormed_of_offsetOf h hp)
      hposition heq
    exact Position.precedes_irrefl p hprecedes
  · intro hne
    refine Nat.lt_of_le_of_ne hle ?_
    rintro rfl
    exact hne hposition

/-- The ends of a range are found in the wrong order exactly when the range
is inverted. -/
theorem lt_iff_inverted {bs : List UInt8} (hsize : bs.length < 2 ^ 32) {r : Range} {s t : Nat}
    (hs : (ofBytes bs).offsetOf r.start = .ok s) (ht : (ofBytes bs).offsetOf r.stop = .ok t) :
    t < s ↔ (ofBytes bs).Inverted r := by
  unfold Inverted
  by_cases hstart : (ofBytes bs).AfterLast r.start
  · obtain rfl : bs.length = s := Except.ok.inj ((offsetOf_of_afterLast hstart).symm.trans hs)
    by_cases hstop : (ofBytes bs).AfterLast r.stop
    · -- Both ends are the line after the last one.
      obtain rfl : bs.length = t := Except.ok.inj ((offsetOf_of_afterLast hstop).symm.trans ht)
      rw [hstop.unique hstart]
      have hirrefl := Position.precedes_irrefl r.start
      constructor
      · intro hlt
        omega
      · intro h
        exact absurd h.1 hirrefl
    · -- Every position of the text comes before that line, but the end of the last one is no less.
      have hprecedes : r.stop.precedes r.start = true := by
        rw [Position.precedes_iff, hstart.1]
        exact .inl (line_lt_lineCount ht hstop)
      rw [lt_length_iff hsize ht hstop, bytes_ofBytes]
      simp only [hprecedes, hstart, true_and, ne_eq]
  · by_cases hstop : (ofBytes bs).AfterLast r.stop
    · obtain rfl : bs.length = t := Except.ok.inj ((offsetOf_of_afterLast hstop).symm.trans ht)
      have hle := (positionOf_of_offsetOf hsize hs hstart).1
      have hline := line_lt_lineCount hs hstart
      have hnot : ¬ r.stop.precedes r.start = true := by
        rw [Position.precedes_iff, hstop.1]
        omega
      constructor
      · intro hlt
        omega
      · intro h
        exact absurd h.1 hnot
    · rw [lt_iff_precedes hsize ht hstop hs hstart]
      simp only [hstart, false_and, not_false_eq_true, and_true]

end Buffer

end DocNav

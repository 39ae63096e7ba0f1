/-
  DocNav.Proofs.Outline.Navigation
  ────────────────────────────────
  What a definition and what references name.

  The entry that a pointer leads to has as its key what stands after the
  last slash of the pointer (`Linked.key_of_resolve?`).  The references to an
  entry are the values that are its pointer, one for each line that has
  it, in the order of the lines (`increasing_references`,
  `count_references`).
-/
import DocNav.Outline.Navigation
import DocNav.Proofs.Outline.Pointer

namespace DocNav

/-- The line that a range starts on. -/
def Range.line (r : Range) : Nat :=
  r.start.line.toNat

namespace Outline

open Text

/-! ## §1. Where a pointer leads. -/

/-- The value of a line. -/
def value? (o : Outline) (line : Nat) : Option String :=
  (o.item? line).map Item.value

/-- The last key that a pointer spells is what stands after its last slash. -/
theorem getLast?_spelledKeys {pointer : String} (h : spelledKeys pointer ≠ []) :
    (spelledKeys pointer).getLast? = some (String.ofList (lastPart '/' pointer.toList)) := by
  unfold spelledKeys at h ⊢
  rw [ne_eq, List.map_eq_nil_iff, List.drop_eq_nil_iff, Nat.not_le] at h
  rw [List.getLast?_map, List.getLast?_drop, if_neg (by omega), getLast?_splitOn]
  rfl

/-- The entry that a pointer leads to has the key after its last slash. -/
theorem Linked.key_of_resolve? {o : Outline} (h : o.Linked) {pointer : String} {i : Nat}
    {e : Entry} (he : o.entry? i = some e) (hfound : o.resolve? pointer = some i) :
    e.key.toList = lastPart '/' pointer.toList := by
  have hkeys := (h.resolve?_eq_some_iff.mp hfound).1
  rw [h.keys_of_place? (place?_eq_some_iff.mpr ⟨e, he, rfl, rfl⟩)] at hkeys
  have hspelled : spelledKeys pointer ≠ [] := by
    rw [← hkeys]
    simp
  have hlast := getLast?_spelledKeys hspelled
  rw [← hkeys, List.getLast?_concat] at hlast
  injection hlast with hlast
  rw [hlast, String.toList_ofList]

/-- A definition is the key range of an entry whose key is what stands
after the last slash of the value. -/
theorem definition?_eq_some {o : Outline} (h : o.Linked) {line : Nat} {r : Range}
    (hfound : o.definition? line = some r) :
    ∃ value i e, o.value? line = some value ∧ o.entry? i = some e ∧ r = e.keyRange
      ∧ e.key.toList = lastPart '/' value.toList := by
  obtain ⟨source, hsource, hfound⟩ := Option.bind_eq_some_iff.mp hfound
  obtain ⟨i, hresolve, hfound⟩ := Option.bind_eq_some_iff.mp hfound
  obtain ⟨e, he, hfound⟩ := Option.bind_eq_some_iff.mp hfound
  injection hfound with hrange
  refine ⟨source.value, i, e, ?_, he, hrange.symm, h.key_of_resolve? he hresolve⟩
  unfold value? item?
  rw [hsource, Option.map_some, Option.map_some]

/-! ## §2. The values that are a pointer. -/

/-- The values of an outline stand on the lines of their entries. -/
def Numbered (o : Outline) : Prop :=
  ∀ i e, o.entry? i = some e → e.valueRange.line = i

theorem getElem?_entries (o : Outline) (i : Nat) : o.entries.toList[i]? = o.entry? i :=
  Array.getElem?_toList

theorem mem_entries_iff {o : Outline} {e : Entry} :
    e ∈ o.entries.toList ↔ ∃ i, o.entry? i = some e := by
  simp only [List.mem_iff_getElem?, getElem?_entries]

/-- The values of all entries stand on later and later lines. -/
theorem Numbered.increasing_entries {o : Outline} (h : o.Numbered) :
    o.entries.toList.Pairwise (fun e f => e.valueRange.line < f.valueRange.line) := by
  rw [List.pairwise_iff_getElem]
  intro i j hi hj hij
  have hfirst := h i o.entries.toList[i] (by
    rw [← getElem?_entries, List.getElem?_eq_getElem hi])
  have hsecond := h j o.entries.toList[j] (by
    rw [← getElem?_entries, List.getElem?_eq_getElem hj])
  rw [hfirst, hsecond]
  exact hij

theorem references_eq {o : Outline} {line : Nat} {pointer : String}
    (h : o.pointerOf? line = some pointer) :
    o.references line
      = (o.entries.toList.filter (·.value == pointer)).map (·.valueRange) := by
  unfold references
  rw [h]

theorem mem_references_iff {o : Outline} {line : Nat} {pointer : String}
    (h : o.pointerOf? line = some pointer) {r : Range} :
    r ∈ o.references line
      ↔ ∃ i e, o.entry? i = some e ∧ e.value = pointer ∧ r = e.valueRange := by
  rw [references_eq h, List.mem_map]
  constructor
  · rintro ⟨e, he, rfl⟩
    rw [List.mem_filter, mem_entries_iff, beq_iff_eq] at he
    obtain ⟨⟨i, hi⟩, hvalue⟩ := he
    exact ⟨i, e, hi, hvalue, rfl⟩
  · rintro ⟨i, e, hi, hvalue, rfl⟩
    refine ⟨e, ?_, rfl⟩
    rw [List.mem_filter, mem_entries_iff, beq_iff_eq]
    exact ⟨⟨i, hi⟩, hvalue⟩

/-- References are answered in the order of their lines. -/
theorem Numbered.increasing_references {o : Outline} (h : o.Numbered) (line : Nat) :
    ((o.references line).map Range.line).Pairwise (· < ·) := by
  cases hpointer : o.pointerOf? line with
  | none =>
    unfold references
    rw [hpointer]
    exact List.Pairwise.nil
  | some pointer =>
    rw [references_eq hpointer, List.map_map, List.pairwise_map]
    exact h.increasing_entries.filter _

/-- Every line whose value is the pointer is answered once, and no other. -/
theorem Numbered.count_references {o : Outline} (h : o.Numbered) {line : Nat} {pointer : String}
    (hpointer : o.pointerOf? line = some pointer) (i : Nat) :
    ((o.references line).map Range.line).count i
      = if o.value? i = some pointer then 1 else 0 := by
  have hnodup : ((o.references line).map Range.line).Nodup :=
    (h.increasing_references line).imp (fun hlt => Nat.ne_of_lt hlt)
  have hmem : i ∈ (o.references line).map Range.line ↔ o.value? i = some pointer := by
    simp only [List.mem_map, mem_references_iff hpointer, value?, item?, Option.map_map,
      Option.map_eq_some_iff]
    constructor
    · rintro ⟨r, ⟨j, e, he, hvalue, rfl⟩, hline⟩
      rw [h j e he] at hline
      exact ⟨e, by rw [← hline]; exact he, hvalue⟩
    · rintro ⟨e, he, hvalue⟩
      exact ⟨e.valueRange, ⟨i, e, he, hvalue, rfl⟩, h i e he⟩
  rw [hnodup.count]
  simp only [hmem]

end Outline

end DocNav

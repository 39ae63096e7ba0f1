/-
  DocNav.Proofs.Outline.Duality
  ─────────────────────────────
  Definitions and references are two readings of one relation.

  A definition follows the value of a line down from a root; references
  compare whole values with the pointer of a line, which is found by going
  up.  The lines that references answer for are the `referrers` of a line
  (`references_eq_referrers`).  A line that points to another is among its
  referrers exactly when its value starts as pointers are written, and a
  referrer of a line points to it exactly when nothing on the path of that
  line is hidden (`Linked.dual_referrers`).  Where ranges name their lines
  (`line_of_range`) the same holds of the ranges that are answered.
-/
import DocNav.Proofs.Text.Units
import DocNav.Proofs.Outline.Navigation

namespace DocNav.Outline

open Text Utf16

variable {o : Outline}

/-! ## §1. The lines that answers stand for. -/

/-- Where the key of a line stands. -/
def keyRange? (o : Outline) (line : Nat) : Option Range :=
  (o.item? line).map Item.keyRange

/-- Where the value of a line stands. -/
def valueRange? (o : Outline) (line : Nat) : Option Range :=
  (o.item? line).map Item.valueRange

/-- The lines whose value is the pointer of `line`, in order. -/
def referrers (o : Outline) (line : Nat) : List Nat :=
  (List.range o.size).filter fun l => o.value? l == o.pointerOf? line

/-- A line is a referrer exactly when its value is the pointer. -/
theorem mem_referrers_iff {line target : Nat} (htarget : target < o.size) :
    line ∈ o.referrers target ↔ o.value? line = some (written (o.keys target)) := by
  unfold referrers
  rw [List.mem_filter, List.mem_range, beq_iff_eq, pointerOf?_of_lt htarget]
  refine and_iff_right_of_imp ?_
  intro hvalue
  by_contra hge
  unfold value? item? at hvalue
  rw [entry?_eq_none_iff.mpr (Nat.le_of_not_lt hge)] at hvalue
  exact absurd hvalue (by simp)

/-- A definition is the key of the line that the value leads to. -/
theorem definition?_eq {line : Nat} {value : String} (h : o.value? line = some value) :
    o.definition? line = (o.resolve? value).bind o.keyRange? := by
  unfold value? item? at h
  rw [Option.map_map, Option.map_eq_some_iff] at h
  obtain ⟨e, he, rfl⟩ := h
  unfold definition?
  rw [he]
  show (o.resolve? e.value).bind (fun target => (o.entry? target).bind fun f => some f.keyRange) = _
  congr 1
  funext target
  unfold keyRange? item?
  cases o.entry? target <;> rfl

/-- The entries of an outline are those of its lines. -/
theorem entries_eq_filterMap (o : Outline) :
    o.entries.toList = (List.range o.size).filterMap o.entry? := by
  have hentries : (List.range o.size).map o.entry? = o.entries.toList.map some := by
    refine List.ext_getElem (by simp [size]) ?_
    intro i hi _
    rw [List.length_map, List.length_range] at hi
    rw [List.getElem_map, List.getElem_range, List.getElem_map]
    exact Array.getElem?_eq_getElem hi
  calc o.entries.toList = (o.entries.toList.map some).filterMap id := by simp
    _ = ((List.range o.size).map o.entry?).filterMap id := by rw [hentries]
    _ = (List.range o.size).filterMap o.entry? := by rw [List.filterMap_map, Function.id_comp]

/-- References are the values of the referrers, in order. -/
theorem references_eq_referrers (o : Outline) (line : Nat) :
    o.references line = (o.referrers line).filterMap o.valueRange? := by
  unfold referrers
  rw [List.filterMap_filter]
  cases hpointer : o.pointerOf? line with
  | none =>
    unfold references
    rw [hpointer]
    refine (List.filterMap_eq_nil_iff.mpr ?_).symm
    intro l _
    cases hl : o.item? l <;> simp [value?, valueRange?, hl]
  | some pointer =>
    rw [references_eq hpointer, entries_eq_filterMap, List.filter_filterMap, List.map_filterMap]
    refine List.filterMap_congr ?_
    intro l _
    cases hl : o.entry? l with
    | none => simp [value?, item?, hl]
    | some e => by_cases hvalue : e.value = pointer <;>
        simp [value?, valueRange?, item?, hl, hvalue]

/-! ## §2. Ranges in place of lines. -/

/-- Where line numbers fit their words, the range of a key or a value names
the line that it stands on. -/
theorem line_of_range {lines : List (List Char)} (hsize : lines.length ≤ 2 ^ 32) {i : Nat}
    {r : Range}
    (h : (ofLines lines).keyRange? i = some r ∨ (ofLines lines).valueRange? i = some r) :
    r.line = i := by
  unfold keyRange? valueRange? at h
  rw [item?_ofLines] at h
  simp only [Option.map_map, Option.map_eq_some_iff, Function.comp_apply] at h
  have hword : ∀ text, lines[i]? = some text → i.toUInt32.toNat = i := by
    intro text htext
    have hi := (List.getElem?_eq_some_iff.mp htext).1
    exact toNat_toUInt32 (by omega)
  unfold Range.line
  obtain ⟨text, htext, rfl⟩ | ⟨text, htext, rfl⟩ := h
  · rw [Item.line_of_stands (Item.stands_key _ text), hword text htext]
  · rw [Item.line_of_stands (Item.stands_value _ text), hword text htext]

/-- Where line numbers fit their words, the value of a line is among the
references exactly when the line is a referrer. -/
theorem mem_references_iff_mem_referrers {lines : List (List Char)}
    (hsize : lines.length ≤ 2 ^ 32) {line target : Nat} {r : Range}
    (hr : (ofLines lines).valueRange? line = some r) :
    r ∈ (ofLines lines).references target ↔ line ∈ (ofLines lines).referrers target := by
  rw [references_eq_referrers, List.mem_filterMap]
  constructor
  · rintro ⟨l, hl, hrange⟩
    rw [← line_of_range hsize (.inr hr), line_of_range hsize (.inr hrange)]
    exact hl
  · intro hline
    exact ⟨line, hline, hr⟩

/-- Where line numbers fit their words, a definition is the key of a line
exactly when the value leads to that line. -/
theorem definition?_eq_some_iff {lines : List (List Char)} (hsize : lines.length ≤ 2 ^ 32)
    {line target : Nat} {value : String} {r : Range}
    (hvalue : (ofLines lines).value? line = some value)
    (hr : (ofLines lines).keyRange? target = some r) :
    (ofLines lines).definition? line = some r ↔ (ofLines lines).resolve? value = some target := by
  rw [definition?_eq hvalue, Option.bind_eq_some_iff]
  constructor
  · rintro ⟨t, ht, hrange⟩
    rw [← line_of_range hsize (.inl hr), line_of_range hsize (.inl hrange)]
    exact ht
  · intro htarget
    exact ⟨target, htarget, hr⟩

/-! ## §3. Duality. -/

/-- How references and definitions go together, between a line with the
given value and the line `target`: `Listed` says that the value is among
the references to `target`, and `Targeted` that its definition is `target`. -/
structure Dual (o : Outline) (value : String) (target : Nat) (Listed Targeted : Prop) :
    Prop where
  /-- A value that leads to `target` is listed if it starts as pointers are
  written, and only then. -/
  listed : o.resolve? value = some target → (Listed ↔ ['#', '/'] <+: value.toList)
  /-- A value that is listed leads to `target` if no key on the path of
  `target` has a slash and each entry on it is the one that its key finds,
  and only then. -/
  targeted : Listed → (Targeted ↔ ∀ m, o.OnPath target m → o.SlashFree m ∧ o.Found m)

theorem Dual.congr {value : String} {target : Nat} {Listed Listed' Targeted Targeted' : Prop}
    (h : o.Dual value target Listed Targeted) (hlisted : Listed' ↔ Listed)
    (htargeted : Targeted' ↔ Targeted) : o.Dual value target Listed' Targeted' where
  listed := fun hfound => hlisted.trans (h.listed hfound)
  targeted := fun hlist => htargeted.trans (h.targeted (hlisted.mp hlist))

/-- The duality by lines holds in every outline that hangs together. -/
theorem Linked.dual_referrers (h : o.Linked) {line target : Nat} {value : String}
    (hvalue : o.value? line = some value) (htarget : target < o.size) :
    o.Dual value target (line ∈ o.referrers target) (o.resolve? value = some target) where
  listed := by
    intro hfound
    obtain ⟨-, hslash, hpointer⟩ := h.pointerOf?_eq hfound
    rw [pointerOf?_of_lt htarget] at hpointer
    rw [mem_referrers_iff htarget, hpointer, hvalue, Option.some.injEq, eq_comm,
      written_spelledKeys_eq_iff hslash]
  targeted := by
    intro hlist
    -- The value is the pointer of `target`, so its keys may have to be read back.
    rw [mem_referrers_iff htarget, hvalue, Option.some.injEq] at hlist
    rw [hlist]
    exact h.resolve?_written_iff htarget

/-- Definitions and references are dual.  References to a line are answered
for its referrers, and a definition for the line that the value leads to,
and between these the duality holds in every outline.  Where line numbers
fit their words it holds of the ranges that are answered: the value of
`line` is among the references to `target`, and the definition at `line` is
the key of `target`. -/
theorem definition?_dual_references (source : List Char) (line target : Nat) (value : String)
    (hline : (parse source).value? line = some value) (htarget : target < (parse source).size) :
    (parse source).references target
      = ((parse source).referrers target).filterMap (parse source).valueRange?
    ∧ (parse source).definition? line
      = ((parse source).resolve? value).bind (parse source).keyRange?
    ∧ (parse source).Dual value target (line ∈ (parse source).referrers target)
        ((parse source).resolve? value = some target)
    ∧ ((parse source).size ≤ 2 ^ 32 → ∀ r k,
        (parse source).valueRange? line = some r → (parse source).keyRange? target = some k →
        (parse source).Dual value target (r ∈ (parse source).references target)
          ((parse source).definition? line = some k)) := by
  have hdual := (linked_parse source).dual_referrers hline htarget
  refine ⟨references_eq_referrers _ target, definition?_eq hline, hdual, ?_⟩
  intro hsize r k hr hk
  have hlines : (lines source).length ≤ 2 ^ 32 := by
    rw [← size_ofLines]
    exact hsize
  exact hdual.congr (mem_references_iff_mem_referrers hlines hr)
    (definition?_eq_some_iff hlines hline hk)

/-- A text with two roots of one key, a pointer to them and a pointer into
another document. -/
def sampleRoots : List Char :=
  "t: 1\nr: '#/t'\nq: x/t\nt: 2".toList

/-- The last of the roots is pointed to by both values but has one of them
as a reference; the first has that reference too, and is hidden. -/
theorem definition?_dual_references_sample :
    .within 1 4 7 ∈ (parse sampleRoots).references 3
    ∧ .within 2 3 6 ∉ (parse sampleRoots).references 3
    ∧ ¬ ∀ m, (parse sampleRoots).OnPath 0 m →
      (parse sampleRoots).SlashFree m ∧ (parse sampleRoots).Found m := by
  have hsize : (parse sampleRoots).size ≤ 2 ^ 32 := by decide +kernel
  have hpointer := (definition?_dual_references sampleRoots 1 3 "#/t" (by decide +kernel)
    (by decide +kernel)).2.2.2 hsize (.within 1 4 7) (.within 3 0 1) (by decide +kernel)
    (by decide +kernel)
  have hforeign := (definition?_dual_references sampleRoots 2 3 "x/t" (by decide +kernel)
    (by decide +kernel)).2.2.2 hsize (.within 2 3 6) (.within 3 0 1) (by decide +kernel)
    (by decide +kernel)
  have hhidden := (definition?_dual_references sampleRoots 1 0 "#/t" (by decide +kernel)
    (by decide +kernel)).2.2.2 hsize (.within 1 4 7) (.within 0 0 1) (by decide +kernel)
    (by decide +kernel)
  refine ⟨(hpointer.listed (by decide +kernel)).mpr (by decide +kernel), ?_, ?_⟩
  · rw [hforeign.listed (by decide +kernel)]
    decide +kernel
  · rw [← hhidden.targeted (by decide +kernel)]
    decide +kernel

end DocNav.Outline

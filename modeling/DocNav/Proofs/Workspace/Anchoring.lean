/-
  DocNav.Proofs.Workspace.Anchoring
  ─────────────────────────────────
  Answers name the text as it stands.

  The outline counts the columns of a line in one way and the buffer finds
  a position in another.  Both come to the same places
  (`delimits_of_stands`), so every range of an outline has the text that
  its entry says between its ends (`anchored_parse`).  After every
  history a definition therefore shows the key that the value on the line
  points to, and references show the pointer of the line, once for every
  line that has it as its value.
-/
import DocNav.Proofs.Outline.Navigation
import DocNav.Proofs.Outline.Placement
import DocNav.Proofs.Workspace.Coherence

namespace DocNav

open Text Utf8 Utf16

/-! ## §1. Ranges of an outline in its buffer. -/

/-- What stands between two columns of a line stands between the places
where the buffer finds them. -/
theorem Buffer.delimits_of_stands {cs text chars : List Char} {i : Nat} {r : Range}
    (hsize : (encodeAll cs).length < 2 ^ 32) (hline : (lines cs)[i]? = some text)
    (h : Item.Stands i.toUInt32 text r chars) :
    (ofBytes (encodeAll cs)).Delimits r (encodeAll chars) := by
  obtain ⟨front, back, rfl, hfront, rfl, htext⟩ := getElem?_lines hline
  obtain ⟨before, after, rfl, rfl⟩ := h
  rw [List.mem_append, not_or] at htext
  have hsplit : encodeAll (front ++ (before ++ chars ++ after) ++ back)
      = encodeAll front ++ encodeAll (before ++ chars) ++ encodeAll (after ++ back) := by
    simp only [encodeAll_append, List.append_assoc]
  rw [hsplit] at hsize ⊢
  rw [← count_encodeAll]
  exact delimits_within (whole_encodeAll hfront) htext.1 hsize

namespace Outline

/-- The ranges of an entry have its key and its value between their ends,
and its value stands on the line of the entry. -/
structure Anchored (b : Buffer) (line : Nat) (item : Item) : Prop where
  key : b.Delimits item.keyRange (ofString item.key)
  value : b.Delimits item.valueRange (ofString item.value)
  line : item.valueRange.line = line

theorem anchored_parse {cs : List Char} (hsize : (encodeAll cs).length < 2 ^ 32) {i : Nat}
    {e : Entry} (h : Outline.entry? (parse cs) i = some e) :
    Anchored (.ofBytes (encodeAll cs)) i e.toItem := by
  obtain ⟨text, htext, hread⟩ := exists_read h
  rw [← hread]
  refine ⟨Buffer.delimits_of_stands hsize htext (Item.stands_key _ text),
    Buffer.delimits_of_stands hsize htext (Item.stands_value _ text), ?_⟩
  -- There are fewer lines than bytes, so the line number fits its word.
  unfold Range.line
  rw [Item.line_of_stands (Item.stands_value _ text)]
  exact toNat_toUInt32 (Nat.lt_of_le_of_lt (le_length_of_getElem?_lines htext) hsize)

theorem numbered_parse {cs : List Char} (hsize : (encodeAll cs).length < 2 ^ 32) :
    (parse cs).Numbered :=
  fun _ _ h => (anchored_parse hsize h).line

end Outline

/-! ## §2. Answers of a coherent document. -/

namespace Document

/-- A definition has the text after the last slash of the value between its ends. -/
theorem Coherent.delimits_definition {d : Document} (h : d.Coherent)
    (hsize : d.buffer.bytes.length < 2 ^ 32) {line : Nat} {r : Range}
    (hfound : d.read.definition? line = some r) :
    ∃ value, d.read.value? line = some value
      ∧ d.buffer.Delimits r (encodeAll (lastPart '/' value.toList)) := by
  obtain ⟨cs, hbuffer, hread⟩ := h.exists_source
  rw [hbuffer, Buffer.bytes_ofBytes] at hsize
  rw [hread] at hfound ⊢
  obtain ⟨value, i, e, hvalue, he, rfl, hkey⟩ :=
    Outline.definition?_eq_some (Outline.linked_ofLines _) hfound
  refine ⟨value, hvalue, ?_⟩
  rw [hbuffer, ← hkey]
  exact (Outline.anchored_parse hsize he).key

/-- Every reference has the pointer of the line between its ends. -/
theorem Coherent.delimits_references {d : Document} (h : d.Coherent)
    (hsize : d.buffer.bytes.length < 2 ^ 32) {line : Nat} {pointer : String}
    (hpointer : d.read.pointerOf? line = some pointer) {r : Range}
    (hfound : r ∈ d.read.references line) : d.buffer.Delimits r (ofString pointer) := by
  obtain ⟨cs, hbuffer, hread⟩ := h.exists_source
  rw [hbuffer, Buffer.bytes_ofBytes] at hsize
  rw [hread] at hfound hpointer
  obtain ⟨i, e, he, rfl, rfl⟩ := (Outline.mem_references_iff hpointer).mp hfound
  rw [hbuffer]
  exact (Outline.anchored_parse hsize he).value

theorem Coherent.numbered {d : Document} (h : d.Coherent)
    (hsize : d.buffer.bytes.length < 2 ^ 32) : d.read.Numbered := by
  obtain ⟨cs, hbuffer, hread⟩ := h.exists_source
  rw [hbuffer, Buffer.bytes_ofBytes] at hsize
  rw [hread]
  exact Outline.numbered_parse hsize

end Document

/-! ## §3. Answers after a history. -/

namespace Workspace

/-- What a definition may answer: the text after the last slash of the
value on the line, as it stands in the buffer. -/
def ShowsDefinition (uri : Uri) (d : Document) (line : Nat) (found : Option Location) : Prop :=
  ∀ l, found = some l → l.uri = uri
    ∧ ∃ value, d.read.value? line = some value
      ∧ d.buffer.Delimits l.range (encodeAll (lastPart '/' value.toList))

/-- What references answer: the pointer of the line as it stands in the
buffer, on later and later lines, once on each line that has it as its
value and on no other. -/
structure ShowsReferences (uri : Uri) (d : Document) (line : Nat) (found : List Location) :
    Prop where
  uri : ∀ l ∈ found, l.uri = uri
  pointer : ∀ l ∈ found, ∃ pointer, d.read.pointerOf? line = some pointer
    ∧ d.buffer.Delimits l.range (ofString pointer)
  increasing : (found.map (·.range.line)).Pairwise (· < ·)
  once : ∀ pointer, d.read.pointerOf? line = some pointer → ∀ i,
    (found.map (·.range.line)).count i = if d.read.value? i = some pointer then 1 else 0

theorem showsDefinition {uri : Uri} {d : Document} (h : d.Coherent)
    (hsize : d.buffer.bytes.length < 2 ^ 32) (line : Nat) :
    ShowsDefinition uri d line ((d.read.definition? line).map (⟨uri, ·⟩)) := by
  intro l hl
  rw [Option.map_eq_some_iff] at hl
  obtain ⟨r, hr, rfl⟩ := hl
  exact ⟨rfl, h.delimits_definition hsize hr⟩

theorem showsReferences {uri : Uri} {d : Document} (h : d.Coherent)
    (hsize : d.buffer.bytes.length < 2 ^ 32) (line : Nat) :
    ShowsReferences uri d line ((d.read.references line).map (⟨uri, ·⟩)) := by
  have hlines : ((d.read.references line).map (Location.mk uri)).map (·.range.line)
      = (d.read.references line).map Range.line := by
    rw [List.map_map]
    rfl
  refine ⟨?_, ?_, ?_, ?_⟩
  · intro l hl
    obtain ⟨r, -, rfl⟩ := List.mem_map.mp hl
    rfl
  · intro l hl
    obtain ⟨r, hr, rfl⟩ := List.mem_map.mp hl
    cases hpointer : d.read.pointerOf? line with
    | none =>
      rw [Outline.references, hpointer] at hr
      exact absurd hr List.not_mem_nil
    | some pointer => exact ⟨pointer, rfl, h.delimits_references hsize hpointer hr⟩
  · rw [hlines]
    exact (h.numbered hsize).increasing_references line
  · intro pointer hpointer i
    rw [hlines]
    exact (h.numbered hsize).count_references hpointer i

/-- After every history, a question about an open document is answered,
and the answer shows the text of the document as it stands. -/
theorem answers_anchored (steps : List Step) (uri : Uri) (d : Document)
    (hopen : (empty.run steps).2.find? uri = some d) (hsize : d.buffer.bytes.length < 2 ^ 32)
    (p : Position) :
    (∃ found, ((empty.run steps).2.perform ⟨uri, .definition p⟩).1.outcome = .definition found
      ∧ ShowsDefinition uri d p.line.toNat found)
    ∧ ∃ found, ((empty.run steps).2.perform ⟨uri, .references p⟩).1.outcome = .references found
      ∧ ShowsReferences uri d p.line.toNat found := by
  have hcoherent : d.Coherent := coherent_run coherent_empty steps uri d hopen
  constructor
  · refine ⟨_, ?_, showsDefinition hcoherent hsize p.line.toNat⟩
    rw [perform_fst]
    show ((Operation.definition p).act uri ((empty.run steps).2.find? uri)).1.outcome = _
    rw [hopen]
    simp only [Operation.act, Operation.answer, Document.consult_value, hcoherent.outline_eq]
  · refine ⟨_, ?_, showsReferences hcoherent hsize p.line.toNat⟩
    rw [perform_fst]
    show ((Operation.references p).act uri ((empty.run steps).2.find? uri)).1.outcome = _
    rw [hopen]
    simp only [Operation.act, Operation.answer, Document.consult_value, hcoherent.outline_eq]

/-- The address of a document. -/
def sampleUri : Uri :=
  ⟨"file", none, .rooted ["api.yaml"], none, none⟩

/-- A document is opened and read, and then a line is put on top of it. -/
def sampleSteps : List Step :=
  [⟨sampleUri, .openDocument "a:\n 😀:\n  x: '#/a/😀'" 1⟩, ⟨sampleUri, .outline⟩,
    ⟨sampleUri, .change 2 [⟨some ⟨⟨0, 0⟩, ⟨0, 0⟩⟩, "r: #/a/😀\r\n"⟩]⟩]

theorem answers_anchored_sample :
    ∃ d, (empty.run sampleSteps).2.find? sampleUri = some d
      ∧ d.buffer.bytes.length < 2 ^ 32
      ∧ ShowsDefinition sampleUri d 0 (some ⟨sampleUri, .within 2 1 3⟩)
      ∧ ShowsReferences sampleUri d 2
          [⟨sampleUri, .within 0 3 9⟩, ⟨sampleUri, .within 3 6 12⟩] := by
  have hopen : (empty.run sampleSteps).2.find? sampleUri
      = some (.ofBuffer (.ofString "r: #/a/😀\r\na:\n 😀:\n  x: '#/a/😀'") 2) := by
    decide +kernel
  have hsize : (Buffer.ofString "r: #/a/😀\r\na:\n 😀:\n  x: '#/a/😀'").bytes.length < 2 ^ 32 := by
    decide +kernel
  have hdefinition : ((empty.run sampleSteps).2.perform ⟨sampleUri, .definition ⟨0, 0⟩⟩).1.outcome
      = .definition (some ⟨sampleUri, .within 2 1 3⟩) := by
    decide +kernel
  have hreferences : ((empty.run sampleSteps).2.perform ⟨sampleUri, .references ⟨2, 0⟩⟩).1.outcome
      = .references [⟨sampleUri, .within 0 3 9⟩, ⟨sampleUri, .within 3 6 12⟩] := by
    decide +kernel
  refine ⟨_, hopen, hsize, ?_, ?_⟩
  · obtain ⟨found, houtcome, hshows⟩ := (answers_anchored _ _ _ hopen hsize ⟨0, 0⟩).1
    rw [hdefinition] at houtcome
    injection houtcome with hfound
    rw [hfound]
    exact hshows
  · obtain ⟨found, houtcome, hshows⟩ := (answers_anchored _ _ _ hopen hsize ⟨2, 0⟩).2
    rw [hreferences] at houtcome
    injection houtcome with hfound
    rw [hfound]
    exact hshows

end Workspace

end DocNav

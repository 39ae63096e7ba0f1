/-
  DocNav.Proofs.Outline.Access
  ────────────────────────────
  What the keys of an outline find, and that no question asks for a line
  that is not there.

  A look-up that meets a line without an entry finds nothing, just as one
  whose key is not there.  To tell the two apart, each question is asked
  here once more so that a missing entry is a fault (`entryAt`), and so is
  a way up that does not lead to an earlier line, where going up might
  never end (`climb`).  Whatever a key finds is a line of the outline and
  comes after the entry that it was looked up in
  (`Linked.lt_of_lookup?`), so where entries hang together no question
  has a fault, and each has the answer it always has
  (`Linked.faultless`).
-/
import DocNav.Proofs.Outline.Navigation

namespace DocNav.Outline

/-! ## §1. Questions with faults. -/

/-- How a question can go wrong. -/
inductive Fault where
  /-- The line has no entry. -/
  | noEntry (line : Nat)
  /-- The entry above the line does not come before it. -/
  | noAscent (line : Nat)
  deriving Repr, DecidableEq

/-- The entry of a line that has to be there. -/
def entryAt (o : Outline) (line : Nat) : Except Fault Entry :=
  match o.entry? line with
  | some e => .ok e
  | none => .error (.noEntry line)

/-- The entries from a line up to its root, each with its line. -/
def climb (o : Outline) (line : Nat) : Except Fault (List (Nat × Entry)) :=
  match o.entryAt line with
  | .error fault => .error fault
  | .ok e =>
      match e.parent with
      | none => .ok [(line, e)]
      | some above =>
          if above < line then (climb o above).map ((line, e) :: ·)
          else .error (.noAscent line)
termination_by line

/-- The pointer of a line that has to be there. -/
def pointerAt (o : Outline) (line : Nat) : Except Fault String :=
  (o.climb line).map fun walk => written (walk.map (·.2.key)).reverse

/-- The line that some keys lead to, down from `line`. -/
def stepDown (o : Outline) : List String → Nat → Except Fault (Option Nat)
  | [], line => .ok (some line)
  | key :: keys, line =>
      match o.entryAt line with
      | .error fault => .error fault
      | .ok e =>
          match e.child? key with
          | none => .ok none
          | some below => stepDown o keys below

/-- The line that a pointer leads to. -/
def resolveAt (o : Outline) (pointer : String) : Except Fault (Option Nat) :=
  match spelledKeys pointer with
  | [] => .ok none
  | key :: keys =>
      match o.root? key with
      | none => .ok none
      | some root => o.stepDown keys root

/-- Where the key stands that the value of `line` points to.  There need not
be such a line, but the one that is pointed to has to be there. -/
def definitionAt (o : Outline) (line : Nat) : Except Fault (Option Range) :=
  match o.entry? line with
  | none => .ok none
  | some source =>
      match o.resolveAt source.value with
      | .error fault => .error fault
      | .ok none => .ok none
      | .ok (some target) => (o.entryAt target).map (some ·.keyRange)

/-- Where the values stand that are the pointer of `line`.  There need not be
such a line, but those above it have to be there. -/
def referencesAt (o : Outline) (line : Nat) : Except Fault (List Range) :=
  if o.size ≤ line then .ok []
  else (o.pointerAt line).map fun pointer =>
    (o.entries.toList.filter (·.value == pointer)).map (·.valueRange)

/-- Every question is answered without a fault, and as it always is. -/
structure Faultless (o : Outline) : Prop where
  resolve : ∀ pointer, o.resolveAt pointer = .ok (o.resolve? pointer)
  definition : ∀ line, o.definitionAt line = .ok (o.definition? line)
  references : ∀ line, o.referencesAt line = .ok (o.references line)

/-- A key that leads to a line without an entry goes unnoticed if it is the
last one, and is a fault if another comes after it. -/
example : (Outline.mk #[] (.ofList [("a", 3)])).resolveAt "#/a" = .ok (some 3)
    ∧ (Outline.mk #[] (.ofList [("a", 3)])).resolveAt "#/a/b" = .error (.noEntry 3) := by
  decide +kernel

/-! ## §2. Where entries hang together. -/

variable {o : Outline} {i : Nat}

theorem exists_entryAt (hi : i < o.size) : ∃ e, o.entry? i = some e ∧ o.entryAt i = .ok e := by
  obtain ⟨e, he⟩ := exists_entry? hi
  refine ⟨e, he, ?_⟩
  unfold entryAt
  rw [he]

/-- What a key finds is a line of the outline, and a later one than the entry
it was looked up in. -/
theorem Linked.lt_of_lookup? (h : o.Linked) (parent : Option Nat) {key : String}
    (hfound : o.lookup? parent key = some i) : i < o.size ∧ ∀ p, parent = some p → p < i := by
  have hplace := h.place?_of_lookup? hfound
  refine ⟨lt_size_of_place? hplace, ?_⟩
  rintro p rfl
  exact h.nested i p key hplace

/-- Going up passes the lineage of a line, and finds each entry of it. -/
theorem Linked.exists_climb (h : o.Linked) (hi : i < o.size) :
    ∃ walk, o.climb i = .ok walk ∧ walk.map (·.1) = o.lineage i
      ∧ ∀ x ∈ walk, o.entry? x.1 = some x.2 := by
  -- By the line: the entry above it is on an earlier one, and has an entry itself.
  induction i using Nat.strong_induction_on with
  | _ i ih =>
    obtain ⟨e, he, hat⟩ := exists_entryAt hi
    have hplace : o.place? i = some (e.parent, e.key) := place?_eq_some_iff.mpr ⟨e, he, rfl, rfl⟩
    have hlineage := h.lineage_of_place? hplace
    rw [climb]
    simp only [hat]
    cases hparent : e.parent with
    | none =>
      rw [hparent] at hlineage
      refine ⟨[(i, e)], rfl, hlineage.symm, ?_⟩
      intro x hx
      rw [List.mem_singleton.mp hx]
      exact he
    | some above =>
      rw [hparent] at hplace hlineage
      have habove := h.nested i above e.key hplace
      obtain ⟨walk, hwalk, hlines, hentries⟩ := ih above habove (Nat.lt_trans habove hi)
      refine ⟨(i, e) :: walk, ?_, ?_, ?_⟩
      · simp only [if_pos habove, hwalk]
        rfl
      · rw [List.map_cons, hlines, hlineage]
        rfl
      · intro x hx
        rcases List.mem_cons.mp hx with rfl | hx
        · exact he
        · exact hentries x hx

/-- The keys of a line are those of the entries that going up passes, the
last of them first. -/
theorem keys_eq_of_walk {walk : List (Nat × Entry)} (hlines : walk.map (·.1) = o.lineage i)
    (hentries : ∀ x ∈ walk, o.entry? x.1 = some x.2) :
    o.keys i = (walk.map (·.2.key)).reverse := by
  have hkeys : ∀ x ∈ walk, (o.entry? x.1).map (·.key) = some x.2.key := by
    intro x hx
    rw [hentries x hx]
    rfl
  unfold keys
  rw [← hlines, ← List.map_reverse, List.filterMap_map, ← List.map_reverse,
    ← List.filterMap_eq_map]
  refine List.filterMap_congr ?_
  intro x hx
  exact hkeys x (List.mem_reverse.mp hx)

theorem Linked.pointerAt_eq (h : o.Linked) (hi : i < o.size) :
    o.pointerAt i = .ok (written (o.keys i)) := by
  obtain ⟨walk, hwalk, hlines, hentries⟩ := h.exists_climb hi
  unfold pointerAt
  rw [hwalk, keys_eq_of_walk hlines hentries]
  rfl

/-- Going down from a line never leaves the outline. -/
theorem Linked.stepDown_eq (h : o.Linked) (keys : List String) (hi : i < o.size) :
    o.stepDown keys i = .ok (keys.foldlM o.child? i) := by
  -- What is kept along the keys is that the line reached so far has an entry.
  induction keys generalizing i with
  | nil => rfl
  | cons key keys ih =>
    obtain ⟨e, he, hat⟩ := exists_entryAt hi
    have hchild : o.child? i key = e.child? key := by
      unfold child?
      rw [he]
      rfl
    unfold stepDown
    simp only [hat]
    rw [List.foldlM_cons, hchild]
    cases hbelow : e.child? key with
    | none => rfl
    | some below =>
      have hlt := (h.lt_of_lookup? (some i) (hchild.trans hbelow)).1
      exact ih hlt

theorem Linked.resolveAt_eq (h : o.Linked) (pointer : String) :
    o.resolveAt pointer = .ok (o.resolve? pointer) := by
  unfold resolveAt resolve?
  cases spelledKeys pointer with
  | nil => rfl
  | cons key keys =>
    show (match o.root? key with
      | none => .ok none
      | some root => o.stepDown keys root)
        = Except.ok ((o.root? key).bind fun root => keys.foldlM o.child? root)
    cases hroot : o.root? key with
    | none => rfl
    | some root => exact h.stepDown_eq keys (h.lt_of_lookup? none hroot).1

theorem Linked.definitionAt_eq (h : o.Linked) (line : Nat) :
    o.definitionAt line = .ok (o.definition? line) := by
  unfold definitionAt definition?
  cases o.entry? line with
  | none => rfl
  | some source =>
    simp only [h.resolveAt_eq]
    show _ = Except.ok ((o.resolve? source.value).bind fun target =>
      (o.entry? target).bind fun e => some e.keyRange)
    cases htarget : o.resolve? source.value with
    | none => rfl
    | some target =>
      obtain ⟨hlt, -⟩ := h.pointerOf?_eq htarget
      obtain ⟨e, he, hat⟩ := exists_entryAt hlt
      show (o.entryAt target).map _ = .ok ((o.entry? target).bind fun e => some e.keyRange)
      rw [hat, he]
      rfl

theorem Linked.referencesAt_eq (h : o.Linked) (line : Nat) :
    o.referencesAt line = .ok (o.references line) := by
  unfold referencesAt references
  by_cases hline : o.size ≤ line
  · have hnone : o.pointerOf? line = none := if_neg (Nat.not_lt.mpr hline)
    rw [if_pos hline, hnone]
  · rw [if_neg hline, h.pointerAt_eq (by omega), pointerOf?_of_lt (by omega)]
    rfl

theorem Linked.faultless (h : o.Linked) : o.Faultless where
  resolve := h.resolveAt_eq
  definition := h.definitionAt_eq
  references := h.referencesAt_eq

/-! ## §3. Outlines that are read. -/

/-- The line has the given key and the given entry above it, or nothing. -/
def HasPlace (o : Outline) (parent : Option Nat) (key : String) (line : Nat) : Prop :=
  ∃ e, o.entry? line = some e ∧ e.parent = parent ∧ e.key = key

/-- **Look-ups are exact**: a key finds, below an entry or among those with
nothing above them, the last line that has its place there with that key.  So
what is found is always a line, and one after the entry that it is below,
and no pointer and no line makes a question ask for a line that is not
there. -/
theorem lookups_exact (source : List Char) :
    (∀ p key i, (parse source).child? p key = some i
      ↔ IsGreatest {j | (parse source).HasPlace (some p) key j} i)
    ∧ (∀ key i, (parse source).root? key = some i
      ↔ IsGreatest {j | (parse source).HasPlace none key j} i)
    ∧ (∀ p key i, (parse source).child? p key = some i → p < i ∧ i < (parse source).size)
    ∧ (∀ key i, (parse source).root? key = some i → i < (parse source).size)
    ∧ (parse source).Faultless := by
  have hlinked := linked_parse source
  have hlatest : ∀ parent key i, (parse source).lookup? parent key = some i
      ↔ IsGreatest {j | (parse source).HasPlace parent key j} i := by
    intro parent key i
    rw [hlinked.latest]
    simp only [place?_eq_some_iff]
    rfl
  refine ⟨fun p => hlatest (some p), hlatest none, ?_, ?_, hlinked.faultless⟩
  · intro p key i hfound
    obtain ⟨hlt, hparent⟩ := hlinked.lt_of_lookup? (some p) hfound
    exact ⟨hparent p rfl, hlt⟩
  · intro key i hfound
    exact (hlinked.lt_of_lookup? none hfound).1

/-- A root and a child that are there twice, and a blank line that has a child. -/
def repeatedKeys : List Char :=
  "a: 1\na:\n  k: x\n  k: '#/a/k'\n\n  k: y".toList

/-- The later child is found and the child of the blank line is not, and a
pointer that goes on below it leads nowhere, without a fault. -/
theorem lookups_exact_sample :
    (parse repeatedKeys).child? 1 "k" = some 3
    ∧ IsGreatest {j | (parse repeatedKeys).HasPlace (some 1) "k" j} 3
    ∧ (parse repeatedKeys).resolveAt "#/a/k/k" = .ok none := by
  have hchild : (parse repeatedKeys).child? 1 "k" = some 3 := by decide +kernel
  have hnone : (parse repeatedKeys).resolve? "#/a/k/k" = none := by decide +kernel
  obtain ⟨hlatest, -, -, -, hfaultless⟩ := lookups_exact repeatedKeys
  refine ⟨hchild, (hlatest 1 "k" 3).mp hchild, ?_⟩
  rw [hfaultless.resolve, hnone]

end DocNav.Outline

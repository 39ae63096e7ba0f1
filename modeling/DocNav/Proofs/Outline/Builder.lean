/-
  DocNav.Proofs.Outline.Builder
  ─────────────────────────────
  What adding a line does to an outline.

  One line adds one entry with what the line says, leaves what the other
  entries say (`item?_add`) and where they stand (`place?_add`), and
  changes one look-up: the key of the line under the entry above it finds
  the new line (`lookup?_add`).  An invariant of builders that `add` keeps
  holds of every outline that is read (`invariant_after`).  So a key finds
  the last line that has it, and an entry comes after the one above it
  (`linked_ofLines`).
-/
import DocNav.Outline.Basic
import DocNav.Proofs.Outline.Item

namespace DocNav.Outline

/-- The entry with the given key under `parent`, or among those that have
nothing above them. -/
def lookup? (o : Outline) (parent : Option Nat) (key : String) : Option Nat :=
  match parent with
  | none => o.root? key
  | some line => o.child? line key

theorem entry?_eq_none_iff {o : Outline} {i : Nat} : o.entry? i = none ↔ o.size ≤ i :=
  Array.getElem?_eq_none_iff

theorem exists_entry? {o : Outline} {i : Nat} (h : i < o.size) : ∃ e, o.entry? i = some e :=
  ⟨_, Array.getElem?_eq_getElem h⟩

/-- What a line says. -/
def item? (o : Outline) (line : Nat) : Option Item :=
  (o.entry? line).map Entry.toItem

/-- Where a line stands: the entry above it, and its key. -/
def place? (o : Outline) (line : Nat) : Option (Option Nat × String) :=
  (o.entry? line).map fun e => (e.parent, e.key)

theorem place?_eq_some_iff {o : Outline} {i : Nat} {parent : Option Nat} {key : String} :
    o.place? i = some (parent, key)
      ↔ ∃ e, o.entry? i = some e ∧ e.parent = parent ∧ e.key = key := by
  unfold place?
  rw [Option.map_eq_some_iff]
  simp only [Prod.mk.injEq]

theorem lt_size_of_place? {o : Outline} {i : Nat} {parent : Option Nat} {key : String}
    (h : o.place? i = some (parent, key)) : i < o.size := by
  by_contra hge
  unfold place? at h
  rw [entry?_eq_none_iff.mpr (Nat.le_of_not_lt hge)] at h
  exact absurd h (by simp)

/-- How the entries of an outline hang together. -/
structure Linked (o : Outline) : Prop where
  /-- A key finds the last of the lines that have it under one parent. -/
  latest : ∀ parent key i,
    o.lookup? parent key = some i ↔ IsGreatest {j | o.place? j = some (parent, key)} i
  /-- An entry comes after the one above it. -/
  nested : ∀ i parent key, o.place? i = some (some parent, key) → parent < i

/-- A key finds a line that has it under that parent. -/
theorem Linked.place?_of_lookup? {o : Outline} (h : o.Linked) {parent : Option Nat}
    {key : String} {i : Nat} (hfound : o.lookup? parent key = some i) :
    o.place? i = some (parent, key) :=
  ((h.latest parent key i).mp hfound).1

namespace Builder

/-! ## §1. One line. -/

/-- The entry above a line with the given indentation. -/
def above (b : Builder) (indent : Nat) : Option Nat :=
  (b.remaining indent).head?.map Open.line

/-- Linking adds a child to one entry. -/
theorem entry?_link (o : Outline) (parent : Option Nat) (key : String) (line i : Nat) :
    Outline.entry? (link o parent key line) i
      = (o.entry? i).map fun e =>
          if parent = some i then { e with children := e.children.insert key line } else e := by
  cases parent with
  | none => simp [link, entry?]
  | some p =>
    simp only [link, entry?, Array.getElem?_modify, Option.some.injEq]
    split <;> simp

theorem entry?_add (b : Builder) (item : Item) (i : Nat) :
    Outline.entry? (b.add item).outline i
      = if i = b.outline.size then
          some { toItem := item, parent := b.above item.indent, children := ∅ }
        else Outline.entry? (link b.outline (b.above item.indent) item.key b.outline.size) i := by
  have hsize := size_link b.outline (b.above item.indent) item.key b.outline.size
  show (Array.push _ _)[i]? = _
  rw [Array.getElem?_push]
  show (if i = (link b.outline (b.above item.indent) item.key b.outline.size).size
    then _ else _) = _
  rw [hsize]
  rfl

/-- What does not depend on the children of an entry is as it was for all
entries but the new one. -/
theorem map_entry?_add {α : Type} {f : Entry → α}
    (hf : ∀ e children, f { e with children := children } = f e) (b : Builder) (item : Item)
    (i : Nat) :
    (Outline.entry? (b.add item).outline i).map f
      = if i = b.outline.size then
          some (f { toItem := item, parent := b.above item.indent, children := ∅ })
        else (b.outline.entry? i).map f := by
  rw [entry?_add]
  split
  next => rfl
  next =>
    rw [entry?_link, Option.map_map]
    congr 1
    funext e
    show f (if _ then _ else e) = f e
    split
    · exact hf e _
    · rfl

/-- The new entry says what the line says, and all others what they said. -/
theorem item?_add (b : Builder) (item : Item) (i : Nat) :
    (b.add item).outline.item? i
      = if i = b.outline.size then some item else b.outline.item? i :=
  map_entry?_add (fun _ _ => rfl) b item i

/-- The new entry stands below the last one that is indented less, and all
others where they stood. -/
theorem place?_add (b : Builder) (item : Item) (i : Nat) :
    (b.add item).outline.place? i
      = if i = b.outline.size then some (b.above item.indent, item.key)
        else b.outline.place? i :=
  map_entry?_add (fun _ _ => rfl) b item i

/-- The lines at a place after a line was added. -/
theorem place?_add_eq_some_iff {b : Builder} {item : Item} {i : Nat} {parent : Option Nat}
    {key : String} :
    (b.add item).outline.place? i = some (parent, key)
      ↔ (i = b.outline.size ∧ parent = b.above item.indent ∧ key = item.key)
        ∨ b.outline.place? i = some (parent, key) := by
  rw [place?_add]
  split
  next hi =>
    have hnone : b.outline.place? i ≠ some (parent, key) := by
      intro hplace
      exact absurd (lt_size_of_place? hplace) (by omega)
    rw [Option.some.injEq, Prod.mk.injEq, eq_comm (b := parent), eq_comm (b := key),
      or_iff_left hnone, and_iff_right hi]
  next hi => simp only [hi, false_and, false_or]

/-- What stays open is a part of what was open. -/
theorem mem_of_mem_remaining {b : Builder} {indent : Nat} {x : Open}
    (h : x ∈ b.remaining indent) : x ∈ b.stack :=
  (List.dropWhile_sublist _).subset h

/-- Every open entry is one of the outline. -/
def Settled (b : Builder) : Prop :=
  ∀ x ∈ b.stack, x.line < b.outline.size

theorem settled_start : Settled start := by
  intro x hx
  exact absurd hx List.not_mem_nil

theorem Settled.above_lt {b : Builder} (h : b.Settled) {indent p : Nat}
    (hp : b.above indent = some p) : p < b.outline.size := by
  unfold above at hp
  rw [Option.map_eq_some_iff] at hp
  obtain ⟨x, hx, rfl⟩ := hp
  exact h x (mem_of_mem_remaining (List.mem_of_mem_head? hx))

theorem Settled.add {b : Builder} (h : b.Settled) (item : Item) : (b.add item).Settled := by
  intro x hx
  rw [size_add]
  rcases List.mem_cons.mp hx with rfl | hx
  · exact Nat.lt_succ_self _
  · exact Nat.lt_succ_of_lt (h x (mem_of_mem_remaining hx))

/-- The key of the new line finds it under the entry above it, and every
other look-up is as before. -/
theorem lookup?_add {b : Builder} (h : b.Settled) (item : Item) (parent : Option Nat)
    (key : String) :
    (b.add item).outline.lookup? parent key
      = if parent = b.above item.indent ∧ key = item.key then some b.outline.size
        else b.outline.lookup? parent key := by
  cases parent with
  | none =>
    show (link b.outline (b.above item.indent) item.key b.outline.size).roots[key]? = _
    cases habove : b.above item.indent with
    | none =>
      show (b.outline.roots.insert item.key b.outline.size)[key]? = _
      rw [Std.ExtTreeMap.getElem?_insert]
      simp only [Std.LawfulEqCmp.compare_eq_iff_eq, true_and, eq_comm (a := key)]
      rfl
    | some p =>
      rw [if_neg (by simp)]
      rfl
  | some p =>
    show (Outline.entry? (b.add item).outline p).bind (·.child? key) = _
    rw [entry?_add]
    split
    next hp =>
      -- The new entry has no children yet, and nothing was found under it before.
      have habove : some p ≠ b.above item.indent := by
        intro heq
        exact absurd (h.above_lt heq.symm) (by omega)
      have hnone : b.outline.entry? p = none := entry?_eq_none_iff.mpr (by omega)
      rw [if_neg (fun hand => habove hand.1)]
      show (∅ : KeyMap)[key]? = (b.outline.entry? p).bind (·.child? key)
      rw [hnone]
      exact Std.ExtTreeMap.getElem?_empty
    next hp =>
      -- An old entry takes the line as its child when it is the one above it.
      rw [entry?_link, Option.bind_map]
      show _ = if _ then _ else (b.outline.entry? p).bind (·.child? key)
      by_cases habove : b.above item.indent = some p
      · obtain ⟨e, he⟩ := exists_entry? (h.above_lt habove)
        rw [he, habove]
        simp only [Option.bind_some, Function.comp_apply, if_true, true_and]
        show (e.children.insert item.key b.outline.size)[key]? = _
        rw [Std.ExtTreeMap.getElem?_insert]
        simp only [Std.LawfulEqCmp.compare_eq_iff_eq, eq_comm (a := key)]
        rfl
      · rw [if_neg (fun hand => habove hand.1.symm)]
        simp [habove]

/-! ## §2. All lines. -/

/-- The builder after the given lines. -/
def after (lines : List (List Char)) : Builder :=
  lines.foldl addLine start

theorem after_concat (lines : List (List Char)) (text : List Char) :
    after (lines ++ [text])
      = (after lines).add (Item.read (after lines).outline.size.toUInt32 text) := by
  unfold after
  rw [List.foldl_append]
  rfl

/-- What holds at the start and is kept by every line holds after any lines. -/
theorem invariant_after {P : Builder → Prop} (hstart : P start)
    (hadd : ∀ b item, P b → P (b.add item)) (lines : List (List Char)) : P (after lines) := by
  induction lines using List.reverseRecOn with
  | nil => exact hstart
  | append_singleton lines text ih =>
    rw [after_concat]
    exact hadd _ _ ih

/-- What a builder keeps: its open entries are entries, and its outline
hangs together. -/
structure Sound (b : Builder) : Prop where
  settled : b.Settled
  linked : Linked b.outline

theorem place?_start (i : Nat) : start.outline.place? i = none := by
  simp [place?, entry?, start, empty]

theorem lookup?_start (parent : Option Nat) (key : String) :
    start.outline.lookup? parent key = none := by
  cases parent with
  | none =>
    show (∅ : KeyMap)[key]? = none
    exact Std.ExtTreeMap.getElem?_empty
  | some p => simp [lookup?, child?, entry?, start, empty]

theorem sound_start : Sound start where
  settled := settled_start
  linked := by
    refine ⟨?_, ?_⟩
    · intro parent key i
      rw [lookup?_start]
      constructor
      · intro h
        cases h
      · intro h
        have hplace : start.outline.place? i = some (parent, key) := h.1
        rw [place?_start] at hplace
        cases hplace
    · intro i parent key h
      rw [place?_start] at h
      cases h

/-- The new line is the last of those with its place, and at every other
place the last line is as before. -/
theorem Sound.latest_add {b : Builder} (h : b.Sound) (item : Item) (parent : Option Nat)
    (key : String) (i : Nat) :
    (b.add item).outline.lookup? parent key = some i
      ↔ IsGreatest {j | (b.add item).outline.place? j = some (parent, key)} i := by
  rw [lookup?_add h.settled]
  split
  next hnew =>
    have hgreatest : IsGreatest {j | (b.add item).outline.place? j = some (parent, key)}
        b.outline.size := by
      refine ⟨place?_add_eq_some_iff.mpr (.inl ⟨rfl, hnew⟩), ?_⟩
      intro j hj
      obtain ⟨rfl, -⟩ | hj := place?_add_eq_some_iff.mp hj
      · exact Nat.le_refl _
      · exact Nat.le_of_lt (lt_size_of_place? hj)
    rw [Option.some.injEq]
    constructor
    · rintro rfl
      exact hgreatest
    · exact fun hi => hgreatest.unique hi
  next hold =>
    simp only [place?_add_eq_some_iff, hold, and_false, false_or]
    exact h.linked.latest parent key i

theorem Sound.add {b : Builder} (h : b.Sound) (item : Item) : (b.add item).Sound where
  settled := h.settled.add item
  linked := by
    refine ⟨h.latest_add item, ?_⟩
    intro i parent key hplace
    obtain ⟨rfl, habove, -⟩ | hplace := place?_add_eq_some_iff.mp hplace
    · exact h.settled.above_lt habove.symm
    · exact h.linked.nested i parent key hplace

theorem sound_after (lines : List (List Char)) : Sound (after lines) :=
  invariant_after sound_start (fun _ item h => h.add item) lines

@[simp] theorem size_after (lines : List (List Char)) :
    (after lines).outline.size = lines.length := by
  induction lines using List.reverseRecOn with
  | nil => rfl
  | append_singleton lines text ih => rw [after_concat, size_add, ih, List.length_append]; rfl

end Builder

open Builder

@[simp] theorem size_ofLines (lines : List (List Char)) : (ofLines lines).size = lines.length :=
  size_after lines

/-- Every entry says what its line says. -/
theorem item?_ofLines (lines : List (List Char)) (i : Nat) :
    (ofLines lines).item? i = lines[i]?.map (Item.read i.toUInt32) := by
  show (after lines).outline.item? i = _
  induction lines using List.reverseRecOn with
  | nil => rfl
  | append_singleton lines text ih =>
    rw [after_concat, item?_add, size_after, ih]
    split
    next h =>
      subst h
      rw [List.getElem?_concat_length]
      rfl
    next h =>
      rw [List.getElem?_append]
      split
      next => rfl
      next hge =>
        rw [List.getElem?_eq_none (by omega), List.getElem?_eq_none (by simp; omega)]

theorem linked_ofLines (lines : List (List Char)) : Linked (ofLines lines) :=
  (sound_after lines).linked

end DocNav.Outline

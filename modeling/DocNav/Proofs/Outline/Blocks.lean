/-
  DocNav.Proofs.Outline.Blocks
  ────────────────────────────
  The outline of a text that is made of blocks.

  A line without indentation closes every open entry, so what follows it
  is nested as if nothing came before (`add_of_indent_eq_zero`).  From
  there on a builder that started behind another outline and one that
  started with nothing take the same steps, line numbers apart
  (`addLine_behind`).  So where a text is cut before a line that is not
  indented, its outline is the outlines of the two parts, one after the
  other (`parse_append_block`).
-/
import DocNav.Proofs.Outline.Locality

namespace DocNav

open Text Utf16

/-! ## §1. Outlines one after the other. -/

/-- The range, `n` lines further on. -/
def Range.shifted (n : Nat) (r : Range) : Range :=
  ⟨⟨r.start.line + n.toUInt32, r.start.character⟩, ⟨r.stop.line + n.toUInt32, r.stop.character⟩⟩

/-- What a line says, with its ranges `n` lines further on. -/
def Item.shifted (n : Nat) (item : Item) : Item :=
  { item with
    keyRange := item.keyRange.shifted n
    valueRange := item.valueRange.shifted n }

/-- An entry whose line and all the lines around it are `n` lines further on. -/
def Entry.shifted (n : Nat) (e : Entry) : Entry :=
  { toItem := e.toItem.shifted n
    parent := e.parent.map (· + n)
    children := e.children.map fun _ line => line + n }

/-- What one line says does not depend on its number, its ranges apart. -/
theorem Item.read_add (line : UInt32) (n : Nat) (text : List Char) :
    read (line + n.toUInt32) text = (read line text).shifted n := by
  rw [read_eq, read_eq]
  split
  · rfl
  · split <;> rfl

namespace Outline

/-- The entries of one outline and then those of another.  Where both have
a root with some key, the key finds the later one. -/
def followedBy (o o' : Outline) : Outline :=
  { entries := o.entries ++ o'.entries.map (Entry.shifted o.size)
    roots := o.roots ∪ o'.roots.map fun _ line => line + o.size }

@[simp] theorem size_followedBy (o o' : Outline) :
    (o.followedBy o').size = o.size + o'.size := by
  simp [followedBy, size]

theorem map_empty (n : Nat) : (∅ : KeyMap).map (fun _ line => line + n) = ∅ := by
  apply Std.ExtTreeMap.ext_getElem?
  intro key
  rw [Std.ExtTreeMap.getElem?_map, Std.ExtTreeMap.getElem?_empty]
  rfl

theorem getElem?_union_map (m m' : KeyMap) (n : Nat) (key : String) :
    (m ∪ m'.map fun _ line => line + n)[key]? = (m'[key]?.map (· + n)).or m[key]? := by
  rw [Std.ExtTreeMap.getElem?_union, Std.ExtTreeMap.getElem?_map]

@[simp] theorem followedBy_empty (o : Outline) : o.followedBy empty = o := by
  have hroots : o.roots ∪ (∅ : KeyMap) = o.roots := by
    apply Std.ExtTreeMap.ext_getElem?
    intro key
    rw [Std.ExtTreeMap.getElem?_union, Std.ExtTreeMap.getElem?_empty]
    rfl
  unfold followedBy empty
  simp only [map_empty, hroots, Array.map_empty, Array.append_empty]

namespace Builder

/-! ## §2. Adding a line behind an outline. -/

/-- A new child of an entry that comes later is its child there. -/
theorem shifted_insert (n : Nat) (e : Entry) (key : String) (line : Nat) :
    Entry.shifted n { e with children := e.children.insert key line }
      = { e.shifted n with children := (e.shifted n).children.insert key (line + n) } := by
  have hchildren : (e.children.insert key line).map (fun _ line => line + n)
      = (e.children.map fun _ line => line + n).insert key (line + n) := by
    apply Std.ExtTreeMap.ext_getElem?
    intro k
    rw [Std.ExtTreeMap.getElem?_map, Std.ExtTreeMap.getElem?_insert, Std.ExtTreeMap.getElem?_insert,
      Std.ExtTreeMap.getElem?_map]
    split <;> rfl
  unfold Entry.shifted
  rw [hchildren]

/-- A change of one element of the second part of an array. -/
theorem modify_append_map {α : Type} {move f g : α → α} (h : ∀ y, move (g y) = f (move y))
    (xs ys : Array α) (i : Nat) :
    (xs ++ ys.map move).modify (i + xs.size) f = xs ++ (ys.modify i g).map move := by
  apply Array.ext_getElem?
  intro j
  rw [Array.getElem?_modify, Array.getElem?_append, Array.getElem?_append]
  by_cases hj : j < xs.size
  · rw [if_neg (by omega), if_pos hj, if_pos hj]
  · rw [if_neg hj, if_neg hj, Array.getElem?_map, Array.getElem?_map, Array.getElem?_modify]
    by_cases hi : i + xs.size = j
    · rw [if_pos hi, if_pos (by omega), Option.map_map, Option.map_map]
      congr 1
      funext y
      exact (h y).symm
    · rw [if_neg hi, if_neg (by omega)]

/-- Linking below an entry that comes later, or to no entry, is linking in
the later outline. -/
theorem link_followedBy (o o' : Outline) (parent : Option Nat) (key : String) (line : Nat) :
    link (o.followedBy o') (parent.map (· + o.size)) key (line + o.size)
      = o.followedBy (link o' parent key line) := by
  cases parent with
  | none =>
    have hroots : (o.roots ∪ o'.roots.map fun _ line => line + o.size).insert key (line + o.size)
        = o.roots ∪ (o'.roots.insert key line).map fun _ line => line + o.size := by
      apply Std.ExtTreeMap.ext_getElem?
      intro k
      rw [Std.ExtTreeMap.getElem?_insert, getElem?_union_map, getElem?_union_map,
        Std.ExtTreeMap.getElem?_insert]
      split <;> rfl
    exact congrArg (Outline.mk _) hroots
  | some above =>
    have hentries : (o.entries ++ o'.entries.map (Entry.shifted o.size)).modify
          (above + o.entries.size)
          (fun e => { e with children := e.children.insert key (line + o.size) })
        = o.entries ++ (o'.entries.modify above fun e =>
            { e with children := e.children.insert key line }).map (Entry.shifted o.size) :=
      modify_append_map (fun e => shifted_insert o.size e key line) o.entries o'.entries above
    exact congrArg (Outline.mk · _) hentries

/-- The outline with one more entry. -/
def pushed (o : Outline) (e : Entry) : Outline :=
  { o with entries := o.entries.push e }

theorem pushed_followedBy (o o' : Outline) (e : Entry) :
    pushed (o.followedBy o') (e.shifted o.size) = o.followedBy (pushed o' e) := by
  unfold pushed followedBy
  rw [Array.map_push, Array.append_push]

theorem add_eq (b : Builder) (item : Item) :
    b.add item
      = ⟨pushed (link b.outline (b.above item.indent) item.key b.outline.size)
          ⟨item, b.above item.indent, ∅⟩,
        ⟨b.outline.size, item.indent⟩ :: b.remaining item.indent⟩ :=
  rfl

/-- An open entry, `n` lines further on. -/
def Open.shifted (n : Nat) (x : Open) : Open :=
  { x with line := x.line + n }

/-- The builder of an outline that comes after `o`. -/
def behind (o : Outline) (b : Builder) : Builder :=
  ⟨o.followedBy b.outline, b.stack.map (Open.shifted o.size)⟩

theorem remaining_behind (o : Outline) (b : Builder) (indent : Nat) :
    (b.behind o).remaining indent = (b.remaining indent).map (Open.shifted o.size) := by
  unfold remaining behind
  rw [List.dropWhile_map]
  rfl

theorem above_behind (o : Outline) (b : Builder) (indent : Nat) :
    (b.behind o).above indent = (b.above indent).map (· + o.size) := by
  unfold above
  rw [remaining_behind, List.head?_map, Option.map_map, Option.map_map]
  rfl

theorem size_behind (o : Outline) (b : Builder) :
    (b.behind o).outline.size = b.outline.size + o.size := by
  show (o.followedBy b.outline).size = _
  rw [size_followedBy, Nat.add_comm]

/-- **One line** behind an outline is added as if there were nothing before
it, and then everything is moved behind the outline. -/
theorem add_behind (o : Outline) (b : Builder) (item : Item) :
    (b.behind o).add (item.shifted o.size) = (b.add item).behind o := by
  have hlink : link (b.behind o).outline ((b.above item.indent).map (· + o.size)) item.key
      (b.outline.size + o.size)
      = o.followedBy (link b.outline (b.above item.indent) item.key b.outline.size) :=
    link_followedBy o b.outline _ item.key _
  have hentry : Entry.mk (item.shifted o.size) ((b.above item.indent).map (· + o.size)) ∅
      = (Entry.mk item (b.above item.indent) ∅).shifted o.size := by
    unfold Entry.shifted
    rw [map_empty]
  rw [add_eq, add_eq, size_behind]
  show Builder.mk (pushed (link (b.behind o).outline ((b.behind o).above item.indent) item.key _)
    ⟨item.shifted o.size, (b.behind o).above item.indent, ∅⟩)
    (⟨_, item.indent⟩ :: (b.behind o).remaining item.indent) = _
  rw [above_behind, remaining_behind, hlink, hentry, pushed_followedBy]
  rfl

/-- A line without indentation closes every open entry. -/
theorem remaining_zero (b : Builder) : b.remaining 0 = [] := by
  unfold remaining
  rw [List.dropWhile_eq_nil_iff]
  intro x _
  simp

/-- So it is added as if no entry had been open. -/
theorem add_of_indent_eq_zero {item : Item} (h : item.indent = 0) (b : Builder) :
    b.add item = (start.behind b.outline).add item := by
  have habove : ∀ b : Builder, b.above 0 = none := by
    intro b
    unfold above
    rw [remaining_zero]
    rfl
  have hstart : (start.behind b.outline).outline = b.outline := followedBy_empty b.outline
  rw [add_eq, add_eq, h, habove, habove, remaining_zero, remaining_zero, hstart]

theorem addLine_behind (o : Outline) (b : Builder) (text : List Char) :
    (b.behind o).addLine text = (b.addLine text).behind o := by
  have hnumber : (b.behind o).outline.size.toUInt32
      = b.outline.size.toUInt32 + o.size.toUInt32 := by
    rw [size_behind]
    simp
  unfold addLine
  rw [hnumber, Item.read_add, add_behind]

theorem foldl_addLine_behind (o : Outline) (b : Builder) (lines : List (List Char)) :
    lines.foldl addLine (b.behind o) = (lines.foldl addLine b).behind o := by
  induction lines generalizing b with
  | nil => rfl
  | cons text lines ih => rw [List.foldl_cons, List.foldl_cons, addLine_behind, ih]

theorem addLine_of_not_indented {text : List Char} (h : Item.indentation text = []) (b : Builder) :
    b.addLine text = (start.addLine text).behind b.outline := by
  have hindent : (Item.read b.outline.size.toUInt32 text).indent = 0 := by
    rw [Item.indent_read, h]
    rfl
  have hsize : (start.behind b.outline).outline.size = b.outline.size := by
    rw [size_behind]
    exact Nat.zero_add _
  rw [← addLine_behind]
  unfold addLine
  rw [hsize]
  exact add_of_indent_eq_zero hindent b

end Builder

open Builder

/-! ## §3. Texts. -/

/-- Lines that follow others and begin with one that is not indented. -/
theorem ofLines_append (front back : List (List Char))
    (h : ∀ text, back.head? = some text → Item.indentation text = []) :
    ofLines (front ++ back) = (ofLines front).followedBy (ofLines back) := by
  cases back with
  | nil =>
    rw [List.append_nil]
    exact (followedBy_empty _).symm
  | cons text back =>
    show ((front ++ text :: back).foldl addLine start).outline = _
    rw [List.foldl_append, List.foldl_cons, addLine_of_not_indented (h text rfl),
      foldl_addLine_behind]
    rfl

theorem indentation_of_head?_lines {cs text : List Char} (hcs : cs.head? ≠ some ' ')
    (h : (lines cs).head? = some text) : Item.indentation text = [] := by
  have hfirst : (lines cs)[0]? = some text := by rw [← List.head?_eq_getElem?, h]
  obtain ⟨front, back, rfl, hfront, hcount, -⟩ := getElem?_lines hfirst
  obtain rfl := eq_nil_of_whole hfront hcount
  unfold Item.indentation
  cases text with
  | nil => rfl
  | cons c text =>
    have hc : c ≠ ' ' := by
      rintro rfl
      exact hcs rfl
    rw [List.takeWhile_cons_of_neg (by simpa using hc)]

/-- What the lines of a later text say is said by the same lines of it, with
their numbers counted on. -/
theorem moved_shifted {cs : List Char} {n : Nat} (hsize : n + (parse cs).size ≤ 2 ^ 32)
    {e : Entry} (he : e ∈ (parse cs).entries) : e.toItem.Moved n (e.shifted n).toItem := by
  obtain ⟨i, hi⟩ := Array.mem_iff_getElem?.mp he
  have hlt : i < (parse cs).size := (Array.getElem?_eq_some_iff.mp hi).1
  obtain ⟨text, -, hread⟩ := exists_read hi
  show e.toItem.Moved n (e.toItem.shifted n)
  rw [← hread, ← Item.read_add]
  refine Item.moved_read ?_ text
  rw [UInt32.toNat_add, toNat_toUInt32 (by omega), toNat_toUInt32 (by omega),
    Nat.mod_eq_of_lt (by omega)]
  omega

/-- Where a text is cut at the start of a line that is not indented, its
outline is the outline of the first part and then that of the second,
counted on from there; no line number is lost in doing so. -/
theorem parse_append_block (cs ds : List Char) (hcs : Whole '\n' cs) (hds : ds.head? ≠ some ' ')
    (hsize : (parse (cs ++ ds)).size ≤ 2 ^ 32) :
    parse (cs ++ ds) = (parse cs).followedBy (parse ds)
    ∧ ∀ e ∈ (parse ds).entries, e.toItem.Moved (parse cs).size (e.shifted (parse cs).size).toItem := by
  have hparse : parse (cs ++ ds) = (parse cs).followedBy (parse ds) := by
    unfold parse
    rw [lines_append_of_whole hcs]
    exact ofLines_append _ _ fun text h => indentation_of_head?_lines hds h
  refine ⟨hparse, ?_⟩
  rw [hparse, size_followedBy] at hsize
  intro e he
  exact moved_shifted hsize he

/-- A block whose last line is indented. -/
def firstBlock : List Char :=
  "a:\n b: 1\r\n  c:\n".toList

/-- A block that has a root with a key of the first one. -/
def secondBlock : List Char :=
  "d: '#/a/b'\n e:\na: 2".toList

/-- The second block is not nested in the first, and its root takes over. -/
theorem parse_append_block_sample :
    (parse (firstBlock ++ secondBlock)).size ≤ 2 ^ 32
    ∧ parse (firstBlock ++ secondBlock) = (parse firstBlock).followedBy (parse secondBlock)
    ∧ (parse (firstBlock ++ secondBlock)).root? "a" = some 5
    ∧ (Outline.entry? (parse (firstBlock ++ secondBlock)) 4).map (·.parent) = some (some 3) := by
  have hsize : (parse (firstBlock ++ secondBlock)).size ≤ 2 ^ 32 := by decide +kernel
  have hwhole : Whole '\n' firstBlock := .inr ⟨"a:\n b: 1\r\n  c:".toList, by decide +kernel⟩
  exact ⟨hsize, (parse_append_block firstBlock secondBlock hwhole (by decide +kernel) hsize).1,
    by decide +kernel, by decide +kernel⟩

end Outline

end DocNav

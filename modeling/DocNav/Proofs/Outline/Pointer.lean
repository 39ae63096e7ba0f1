/-
  DocNav.Proofs.Outline.Pointer
  ─────────────────────────────
  Writing the pointer of an entry and following a pointer.

  Keys without a slash are read back from the pointer that is written for
  them, and no others are (`spelledKeys_written_iff`).  A pointer leads to
  an entry only if it spells the keys of the entry
  (`Linked.resolve?_eq_some_iff`), so the pointer of the entry is that
  pointer again, but for what stands before the first slash
  (`Linked.pointerOf?_eq`).  The other way round, the pointer of an entry
  leads back to it exactly where no key on its path has a slash and no line
  on its path is hidden by a later one (`Linked.resolve?_written_iff`).
-/
import DocNav.Proofs.Outline.Path

namespace DocNav.Outline

open Text

/-! ## §1. The text of a pointer. -/

theorem toList_written (keys : List String) :
    (written keys).toList = ['#'] ++ '/' :: ['/'].intercalate (keys.map String.toList) := by
  unfold written
  rw [String.toList_append, String.toList_intercalate]
  rfl

theorem toList_hash_append (cs : List Char) : ("#" ++ String.ofList cs).toList = ['#'] ++ cs := by
  rw [String.toList_append, String.toList_ofList (l := cs)]
  rfl

theorem map_toList_map_ofList (parts : List (List Char)) :
    (parts.map String.ofList).map String.toList = parts := by
  rw [List.map_map]
  exact List.map_id'' (fun _ => String.toList_ofList) parts

/-- A text with a slash is what stands before its first slash, and then the
slash and the rest. -/
theorem exists_slash {cs : List Char} (h : '/' ∈ cs) :
    ∃ front back, cs = front ++ '/' :: back ∧ '/' ∉ front
      ∧ cs.dropWhile (· != '/') = '/' :: back := by
  obtain ⟨front, back, rfl, hfront⟩ := List.eq_append_cons_of_mem h
  refine ⟨front, back, rfl, hfront, ?_⟩
  rw [List.dropWhile_append_of_pos, List.dropWhile_cons_of_neg (by simp)]
  intro c hc
  rw [bne_iff_ne]
  rintro rfl
  exact hfront hc

/-- The keys of a pointer are the parts after its first slash. -/
theorem spelledKeys_of_toList {pointer : String} {front back : List Char} (h : '/' ∉ front)
    (hpointer : pointer.toList = front ++ '/' :: back) :
    spelledKeys pointer = (splitOn '/' back).map String.ofList := by
  unfold spelledKeys
  rw [hpointer, splitOn_append_sep h, List.drop_one, List.tail_cons]

/-- A pointer without a slash spells no keys. -/
theorem slash_mem_of_spelledKeys {pointer : String} (h : spelledKeys pointer ≠ []) :
    '/' ∈ pointer.toList := by
  by_contra hmem
  refine h ?_
  have hlength := length_splitOn '/' pointer.toList
  rw [List.count_eq_zero_of_not_mem hmem] at hlength
  unfold spelledKeys
  rw [List.drop_eq_nil_of_le (by omega), List.map_nil]

theorem not_slash_mem_of_mem_spelledKeys {pointer key : String}
    (h : key ∈ spelledKeys pointer) : '/' ∉ key.toList := by
  unfold spelledKeys at h
  rw [List.mem_map] at h
  obtain ⟨part, hpart, rfl⟩ := h
  rw [String.toList_ofList]
  exact not_mem_of_mem_splitOn (List.mem_of_mem_drop hpart)

/-- What is written for the keys of a pointer is the pointer, with `#` in
front of its first slash. -/
theorem written_spelledKeys {pointer : String} (h : '/' ∈ pointer.toList) :
    written (spelledKeys pointer)
      = "#" ++ String.ofList (pointer.toList.dropWhile (· != '/')) := by
  obtain ⟨front, back, hpointer, hfront, hdrop⟩ := exists_slash h
  rw [← String.toList_inj, toList_written, spelledKeys_of_toList hfront hpointer,
    map_toList_map_ofList, splitOn_eq, List.intercalate_splitOn, hdrop, toList_hash_append]

/-- Keys are read back from what is written for them exactly when none of
them has a slash. -/
theorem spelledKeys_written_iff {keys : List String} (hkeys : keys ≠ []) :
    spelledKeys (written keys) = keys ↔ ∀ key ∈ keys, '/' ∉ key.toList := by
  constructor
  · intro h key hkey
    rw [← h] at hkey
    exact not_slash_mem_of_mem_spelledKeys hkey
  · intro h
    have hslash : '/' ∉ ['#'] := by decide
    have hparts : ∀ part ∈ keys.map String.toList, '/' ∉ part := by
      intro part hpart
      obtain ⟨key, hkey, rfl⟩ := List.mem_map.mp hpart
      exact h key hkey
    rw [spelledKeys_of_toList hslash (toList_written keys), splitOn_eq,
      List.splitOn_intercalate '/' hparts (by simpa using hkeys), List.map_map]
    exact List.map_id'' (fun _ => String.ofList_toList) keys

/-- A pointer is what is written for its keys exactly when it starts as
written pointers do. -/
theorem written_spelledKeys_eq_iff {pointer : String} (h : '/' ∈ pointer.toList) :
    written (spelledKeys pointer) = pointer ↔ ['#', '/'] <+: pointer.toList := by
  obtain ⟨front, back, hpointer, hfront, hdrop⟩ := exists_slash h
  rw [written_spelledKeys h, ← String.toList_inj, hdrop, toList_hash_append, hpointer,
    List.append_cancel_right_eq]
  constructor
  · rintro rfl
    exact ⟨back, rfl⟩
  · rintro ⟨rest, hrest⟩
    -- Both sides have the same first part.
    have hparts : splitOn '/' (['#'] ++ '/' :: rest) = splitOn '/' (front ++ '/' :: back) :=
      congrArg (splitOn '/') hrest
    rw [splitOn_append_sep (by decide), splitOn_append_sep hfront] at hparts
    injection hparts

/-! ## §2. From a pointer to an entry and back. -/

variable {o : Outline} {i m : Nat}

/-- The key of the line has no slash in it. -/
def SlashFree (o : Outline) (line : Nat) : Prop :=
  ∃ e, o.entry? line = some e ∧ '/' ∉ e.key.toList

/-- No later line has the same entry above it and the same key. -/
def LastOfItsKey (o : Outline) (line : Nat) : Prop :=
  ∃ e, o.entry? line = some e
    ∧ ∀ later f, o.entry? later = some f → f.parent = e.parent → f.key = e.key → later ≤ line

/-- The line that its key finds is the last one with its parent and its key. -/
theorem Linked.found_iff_lastOfItsKey (h : o.Linked) : o.Found i ↔ o.LastOfItsKey i := by
  refine exists_congr fun e => and_congr_right fun he => ?_
  rw [h.latest]
  constructor
  · rintro ⟨-, hgreatest⟩ later f hf hparent hkey
    exact hgreatest (place?_eq_some_iff.mpr ⟨f, hf, hparent, hkey⟩)
  · intro hlast
    refine ⟨place?_eq_some_iff.mpr ⟨e, he, rfl, rfl⟩, ?_⟩
    intro later hlater
    obtain ⟨f, hf, hparent, hkey⟩ := place?_eq_some_iff.mp hlater
    exact hlast later f hf hparent hkey

/-- A pointer leads to an entry exactly when it spells the keys of the entry
and each entry on the path is the one that its key finds. -/
theorem Linked.resolve?_eq_some_iff (h : o.Linked) {pointer : String} :
    o.resolve? pointer = some i
      ↔ o.keys i = spelledKeys pointer ∧ ∀ m, o.OnPath i m → o.Found m :=
  h.descend?_eq_some_iff

theorem pointerOf?_of_lt (h : i < o.size) : o.pointerOf? i = some (written (o.keys i)) :=
  if_pos h

/-- The pointer of the entry that a pointer leads to. -/
theorem Linked.pointerOf?_eq (h : o.Linked) {pointer : String}
    (hfound : o.resolve? pointer = some i) :
    i < o.size ∧ '/' ∈ pointer.toList
      ∧ o.pointerOf? i = some (written (spelledKeys pointer)) := by
  obtain ⟨hkeys, hpath⟩ := h.resolve?_eq_some_iff.mp hfound
  have hi := lt_size_of_found (hpath i .refl)
  refine ⟨hi, slash_mem_of_spelledKeys ?_, ?_⟩
  · rw [← hkeys]
    exact h.keys_ne_nil hi
  · rw [pointerOf?_of_lt hi, hkeys]

/-- The keys of an entry have no slash exactly when no key on its path has one. -/
theorem Linked.keys_slashFree_iff (h : o.Linked) (hi : i < o.size) :
    (∀ key ∈ o.keys i, '/' ∉ key.toList) ↔ ∀ m, o.OnPath i m → o.SlashFree m := by
  constructor
  · intro hkeys m hm
    obtain ⟨parent, key, hplace⟩ := exists_place? (Nat.lt_of_le_of_lt (h.le_of_onPath hm) hi)
    have hkey := hkeys key ((h.mem_keys_iff hi).mpr ⟨m, parent, hm, hplace⟩)
    obtain ⟨e, he, -, rfl⟩ := place?_eq_some_iff.mp hplace
    exact ⟨e, he, hkey⟩
  · intro hpath key hkey
    obtain ⟨m, parent, hm, hplace⟩ := (h.mem_keys_iff hi).mp hkey
    obtain ⟨e, he, hslash⟩ := hpath m hm
    obtain ⟨e', he', -, rfl⟩ := place?_eq_some_iff.mp hplace
    rw [he] at he'
    injection he' with he'
    rw [← he']
    exact hslash

/-- The pointer that is written for an entry leads back to it exactly when
no key on its path has a slash and each entry on its path is the one that
its key finds. -/
theorem Linked.resolve?_written_iff (h : o.Linked) (hi : i < o.size) :
    o.resolve? (written (o.keys i)) = some i
      ↔ ∀ m, o.OnPath i m → o.SlashFree m ∧ o.Found m := by
  rw [h.resolve?_eq_some_iff, eq_comm, spelledKeys_written_iff (h.keys_ne_nil hi),
    h.keys_slashFree_iff hi]
  constructor
  · rintro ⟨hslash, hfound⟩ m hm
    exact ⟨hslash m hm, hfound m hm⟩
  · intro hpath
    exact ⟨fun m hm => (hpath m hm).1, fun m hm => (hpath m hm).2⟩

/-! ## §3. Outlines that are read. -/

theorem linked_parse (source : List Char) : (parse source).Linked :=
  linked_ofLines (lines source)

/-- A pointer that leads somewhere has a slash and leads to an entry, and
the pointer of that entry is `#` and then all that stands from the first
slash on.  So a pointer with `#` as its first part leads to no entry but
one whose pointer it is. -/
theorem pointerOf?_of_resolve? (source : List Char) (pointer : String) (i : Nat)
    (h : (parse source).resolve? pointer = some i) :
    i < (parse source).size
    ∧ '/' ∈ pointer.toList
    ∧ (parse source).pointerOf? i
        = some ("#" ++ String.ofList (pointer.toList.dropWhile (· != '/')))
    ∧ ((splitOn '/' pointer.toList).head? = some ['#'] →
        (parse source).pointerOf? i = some pointer) := by
  obtain ⟨hi, hslash, hpointer⟩ := (linked_parse source).pointerOf?_eq h
  refine ⟨hi, hslash, by rw [hpointer, written_spelledKeys hslash], ?_⟩
  intro hhead
  rw [hpointer, Option.some.injEq, written_spelledKeys_eq_iff hslash]
  obtain ⟨front, back, htext, hfront, -⟩ := exists_slash hslash
  rw [htext, splitOn_append_sep hfront, List.head?_cons] at hhead
  injection hhead with hhead
  exact ⟨back, by rw [htext, hhead]; rfl⟩

/-- Past a key that is there twice, and from another document's part. -/
theorem pointerOf?_of_resolve?_sample :
    (parse "a:\n b:\na:\n b:\n  c: 1".toList).resolve? "x.yaml#/a/b/c" = some 4
    ∧ (parse "a:\n b:\na:\n b:\n  c: 1".toList).pointerOf? 4 = some "#/a/b/c" := by
  have hfound : (parse "a:\n b:\na:\n b:\n  c: 1".toList).resolve? "x.yaml#/a/b/c" = some 4 := by
    decide +kernel
  exact ⟨hfound, (pointerOf?_of_resolve? _ _ _ hfound).2.2.1⟩

/-- The pointer of an entry leads back to it exactly when no key on its
path has a slash, and each line on its path is the last one with the same
entry above it and the same key. -/
theorem resolve?_pointerOf?_iff (source : List Char) (n : Nat) (hn : n < (parse source).size) :
    ∃ pointer, (parse source).pointerOf? n = some pointer
      ∧ ((parse source).resolve? pointer = some n
        ↔ ∀ m, (parse source).OnPath n m →
            (parse source).SlashFree m ∧ (parse source).LastOfItsKey m) := by
  refine ⟨_, pointerOf?_of_lt hn, ?_⟩
  simp only [(linked_parse source).resolve?_written_iff hn,
    (linked_parse source).found_iff_lastOfItsKey]

/-- An empty key on the path does no harm; a root that a later one hides does. -/
theorem resolve?_pointerOf?_sample :
    (∀ m, (parse "a:\n\n  b: 1".toList).OnPath 2 m →
      (parse "a:\n\n  b: 1".toList).SlashFree m
        ∧ (parse "a:\n\n  b: 1".toList).LastOfItsKey m)
    ∧ ¬ ∀ m, (parse "a:\n b: 1\na:".toList).OnPath 1 m →
      (parse "a:\n b: 1\na:".toList).SlashFree m
        ∧ (parse "a:\n b: 1\na:".toList).LastOfItsKey m := by
  constructor
  · obtain ⟨pointer, hpointer, hiff⟩ :=
      resolve?_pointerOf?_iff "a:\n\n  b: 1".toList 2 (by decide +kernel)
    have hwritten : (parse "a:\n\n  b: 1".toList).pointerOf? 2 = some "#//b" := by
      decide +kernel
    rw [hwritten] at hpointer
    injection hpointer with hpointer
    exact hiff.mp (by rw [← hpointer]; decide +kernel)
  · obtain ⟨pointer, hpointer, hiff⟩ :=
      resolve?_pointerOf?_iff "a:\n b: 1\na:".toList 1 (by decide +kernel)
    have hwritten : (parse "a:\n b: 1\na:".toList).pointerOf? 1 = some "#/a/b" := by
      decide +kernel
    rw [hwritten] at hpointer
    injection hpointer with hpointer
    rw [← hiff, ← hpointer]
    decide +kernel

end DocNav.Outline

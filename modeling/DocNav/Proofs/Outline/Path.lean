/-
  DocNav.Proofs.Outline.Path
  ──────────────────────────
  Paths of an outline, from an entry up and from a root down.

  The path of an entry is followed along the links to the entries above
  (`OnPath`).  Its lines are the lineage of the entry (`mem_lineage_iff`),
  and its keys are the keys of the entry above and then its own
  (`keys_of_place?`).  Going down by some keys ends at an entry exactly
  when these are its keys and each entry on its path is the one that its
  key finds (`descend?_eq_some_iff`).
-/
import DocNav.Outline.Pointer
import DocNav.Proofs.Outline.Builder

namespace DocNav.Outline

variable {o : Outline} {i m : Nat} {parent : Option Nat} {key : String}

/-! ## §1. Up from an entry. -/

/-- The entry above a line. -/
def parent? (o : Outline) (line : Nat) : Option Nat :=
  (o.entry? line).bind Entry.parent

/-- The line `m` is on the path from the root above line `i` down to `i`. -/
def OnPath (o : Outline) (i m : Nat) : Prop :=
  Relation.ReflTransGen (fun child above => o.parent? child = some above) i m

theorem parent?_of_place? (h : o.place? i = some (parent, key)) : o.parent? i = parent := by
  obtain ⟨e, he, hparent, -⟩ := place?_eq_some_iff.mp h
  unfold parent?
  rw [he]
  exact hparent

theorem exists_place? (h : i < o.size) : ∃ parent key, o.place? i = some (parent, key) := by
  obtain ⟨e, he⟩ := exists_entry? h
  exact ⟨e.parent, e.key, place?_eq_some_iff.mpr ⟨e, he, rfl, rfl⟩⟩

/-- The path of an entry is the entry and the path of the one above it. -/
theorem onPath_iff (h : o.place? i = some (parent, key)) :
    o.OnPath i m ↔ m = i ∨ ∃ above, parent = some above ∧ o.OnPath above m := by
  unfold OnPath
  rw [Relation.ReflTransGen.cases_head_iff, parent?_of_place? h, eq_comm (a := i)]

/-- No line on the path of an entry comes after the entry. -/
theorem Linked.le_of_onPath (h : o.Linked) (hm : o.OnPath i m) : m ≤ i := by
  induction hm with
  | refl => exact Nat.le_refl i
  | @tail child above _ hstep ih =>
    obtain ⟨e, he, hparent⟩ := Option.bind_eq_some_iff.mp hstep
    have habove := h.nested child above e.key (place?_eq_some_iff.mpr ⟨e, he, hparent, rfl⟩)
    omega

/-- In an outline that hangs together the check for an earlier line always
passes, so the lineage goes on with the entry above. -/
theorem Linked.lineage_of_place? (h : o.Linked) (hplace : o.place? i = some (parent, key)) :
    o.lineage i = i :: (parent.map o.lineage).getD [] := by
  obtain ⟨e, he, hparent, -⟩ := place?_eq_some_iff.mp hplace
  rw [lineage.eq_def, he]
  simp only [hparent]
  cases parent with
  | none => rfl
  | some above =>
    simp only [if_pos (h.nested i above key hplace)]
    rfl

/-- The lineage of an entry holds the lines on its path. -/
theorem Linked.mem_lineage_iff (h : o.Linked) (hi : i < o.size) :
    m ∈ o.lineage i ↔ o.OnPath i m := by
  induction i using Nat.strong_induction_on with
  | _ i ih =>
    obtain ⟨parent, key, hplace⟩ := exists_place? hi
    rw [h.lineage_of_place? hplace, onPath_iff hplace, List.mem_cons]
    refine or_congr Iff.rfl ?_
    cases parent with
    | none => simp
    | some above =>
      have habove := h.nested i above key hplace
      simp only [Option.map_some, Option.getD_some, Option.some.injEq, exists_eq_left']
      exact ih above habove (Nat.lt_trans habove hi)

/-- The keys of an entry are those of the entry above it and then its own. -/
theorem Linked.keys_of_place? (h : o.Linked) (hplace : o.place? i = some (parent, key)) :
    o.keys i = (parent.map o.keys).getD [] ++ [key] := by
  obtain ⟨e, he, -, rfl⟩ := place?_eq_some_iff.mp hplace
  unfold keys
  rw [h.lineage_of_place? hplace, List.reverse_cons, List.filterMap_append]
  congr 1
  · cases parent <;> rfl
  · simp [he]

theorem Linked.keys_ne_nil (h : o.Linked) (hi : i < o.size) : o.keys i ≠ [] := by
  obtain ⟨parent, key, hplace⟩ := exists_place? hi
  rw [h.keys_of_place? hplace]
  simp

/-- The keys of an entry are the keys of the lines on its path. -/
theorem Linked.mem_keys_iff (h : o.Linked) (hi : i < o.size) :
    key ∈ o.keys i ↔ ∃ m parent, o.OnPath i m ∧ o.place? m = some (parent, key) := by
  unfold keys
  simp only [List.mem_filterMap, List.mem_reverse, h.mem_lineage_iff hi, Option.map_eq_some_iff,
    place?_eq_some_iff]
  constructor
  · rintro ⟨m, hm, e, he, hkey⟩
    exact ⟨m, e.parent, hm, e, he, rfl, hkey⟩
  · rintro ⟨m, -, hm, e, he, -, hkey⟩
    exact ⟨m, hm, e, he, hkey⟩

/-! ## §2. Down from a root. -/

/-- The line is the one that its key finds under the entry above it. -/
def Found (o : Outline) (line : Nat) : Prop :=
  ∃ e, o.entry? line = some e ∧ o.lookup? e.parent e.key = some line

theorem found_iff (h : o.place? i = some (parent, key)) :
    o.Found i ↔ o.lookup? parent key = some i := by
  obtain ⟨e, he, rfl, rfl⟩ := place?_eq_some_iff.mp h
  constructor
  · rintro ⟨e', he', hlookup⟩
    rw [he] at he'
    injection he' with he'
    rw [he']
    exact hlookup
  · intro hlookup
    exact ⟨e, he, hlookup⟩

theorem lt_size_of_found (h : o.Found i) : i < o.size := by
  obtain ⟨e, he, -⟩ := h
  exact lt_size_of_place? (place?_eq_some_iff.mpr ⟨e, he, rfl, rfl⟩)

theorem descend?_singleton (o : Outline) (key : String) :
    o.descend? [key] = o.lookup? none key := by
  show (o.root? key).bind some = o.root? key
  exact Option.bind_fun_some _

theorem descend?_concat {keys : List String} (hkeys : keys ≠ []) (key : String) :
    o.descend? (keys ++ [key])
      = (o.descend? keys).bind fun above => o.lookup? (some above) key := by
  cases keys with
  | nil => exact absurd rfl hkeys
  | cons first keys =>
    show (o.root? first).bind (fun root => (keys ++ [key]).foldlM o.child? root)
      = ((o.root? first).bind fun root => keys.foldlM o.child? root).bind _
    rw [Option.bind_assoc]
    congr 1
    funext root
    rw [List.foldlM_append]
    show (keys.foldlM o.child? root).bind (fun above => (o.child? above key).bind some) = _
    simp only [Option.bind_fun_some]
    rfl

/-- Going down by some keys ends at an entry with these keys, and each
entry on its path is the one that its key finds. -/
theorem Linked.keys_of_descend? (h : o.Linked) {keys : List String}
    (hfound : o.descend? keys = some i) : o.keys i = keys ∧ ∀ m, o.OnPath i m → o.Found m := by
  induction keys using List.reverseRecOn generalizing i with
  | nil => exact absurd hfound (by simp [descend?])
  | append_singleton keys key ih =>
    by_cases hkeys : keys = []
    · -- The first key finds a root, which is all of its path.
      subst hkeys
      rw [List.nil_append, descend?_singleton] at hfound
      have hplace := h.place?_of_lookup? hfound
      refine ⟨h.keys_of_place? hplace, ?_⟩
      intro m hm
      rw [onPath_iff hplace] at hm
      obtain rfl | ⟨above, habove, -⟩ := hm
      · exact (found_iff hplace).mpr hfound
      · exact absurd habove (by simp)
    · -- Every other key finds a child of the entry that the keys before it lead to.
      rw [descend?_concat hkeys] at hfound
      obtain ⟨above, habove, hchild⟩ := Option.bind_eq_some_iff.mp hfound
      obtain ⟨hkeysAbove, hpath⟩ := ih habove
      have hplace := h.place?_of_lookup? hchild
      refine ⟨?_, ?_⟩
      · rw [h.keys_of_place? hplace, Option.map_some, Option.getD_some, hkeysAbove]
      · intro m hm
        rw [onPath_iff hplace] at hm
        obtain rfl | ⟨above', habove', hm⟩ := hm
        · exact (found_iff hplace).mpr hchild
        · injection habove' with habove'
          exact hpath m (by rw [habove']; exact hm)

/-- The keys of an entry lead down to it if each entry on its path is the
one that its key finds. -/
theorem Linked.descend?_keys (h : o.Linked) (hpath : ∀ m, o.OnPath i m → o.Found m) :
    o.descend? (o.keys i) = some i := by
  induction i using Nat.strong_induction_on with
  | _ i ih =>
    have hfound : o.Found i := hpath i .refl
    obtain ⟨parent, key, hplace⟩ := exists_place? (lt_size_of_found hfound)
    have hlookup := (found_iff hplace).mp hfound
    rw [h.keys_of_place? hplace]
    cases parent with
    | none => exact (descend?_singleton o key).trans hlookup
    | some above =>
      have habove := h.nested i above key hplace
      have hpathAbove : ∀ m, o.OnPath above m → o.Found m := fun m hm =>
        hpath m ((onPath_iff hplace).mpr (.inr ⟨above, rfl, hm⟩))
      have hsize := lt_size_of_found (hpathAbove above .refl)
      rw [Option.map_some, Option.getD_some, descend?_concat (h.keys_ne_nil hsize),
        ih above habove hpathAbove]
      exact hlookup

/-- Where going down by some keys ends. -/
theorem Linked.descend?_eq_some_iff (h : o.Linked) {keys : List String} :
    o.descend? keys = some i ↔ o.keys i = keys ∧ ∀ m, o.OnPath i m → o.Found m := by
  constructor
  · exact h.keys_of_descend?
  · rintro ⟨rfl, hpath⟩
    exact h.descend?_keys hpath

end DocNav.Outline

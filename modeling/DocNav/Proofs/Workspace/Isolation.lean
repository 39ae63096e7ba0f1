/-
  DocNav.Proofs.Workspace.Isolation
  ─────────────────────────────────
  Documents do not disturb each other.

  A step touches the document at its address and no other, so the steps of
  a history that concern one document may be run by themselves: what comes
  of each of them is the same, readings of the text included
  (`run_filter`).  In what order steps on different documents follow each
  other therefore never shows.
-/
import DocNav.Proofs.Workspace.Local

namespace DocNav

/-- The step is on the document at the given address. -/
def Step.concerns (uri : Uri) (s : Step) : Bool :=
  s.uri.text == uri.text

/-- What came of those steps of a history that concern one document. -/
def answersTo (uri : Uri) (steps : List Step) (answers : List Performed) : List Performed :=
  ((steps.zip answers).filter fun x => x.1.concerns uri).map Prod.snd

theorem answersTo_cons (uri : Uri) (s : Step) (steps : List Step) (p : Performed)
    (answers : List Performed) :
    answersTo uri (s :: steps) (p :: answers)
      = if s.concerns uri then p :: answersTo uri steps answers
        else answersTo uri steps answers := by
  unfold answersTo
  rw [List.zip_cons_cons, List.filter_cons]
  split <;> rfl

namespace Workspace

/-! ## §1. One step. -/

theorem run_cons (w : Workspace) (s : Step) (steps : List Step) :
    w.run (s :: steps)
      = ((w.perform s).1 :: ((w.perform s).2.run steps).1, ((w.perform s).2.run steps).2) :=
  rfl

/-- A step on one document leaves all others as they were. -/
theorem find?_perform_of_not_concerns (w : Workspace) {s : Step} {uri : Uri}
    (h : s.concerns uri = false) : (w.perform s).2.find? uri = w.find? uri := by
  rw [find?_perform, if_neg (by simpa [Step.concerns] using h)]

/-- What a step answers and leaves depends on the document it concerns alone. -/
theorem perform_congr {w w' : Workspace} {s : Step} {uri : Uri} (h : s.concerns uri = true)
    (hfind : w.find? uri = w'.find? uri) :
    (w.perform s).1 = (w'.perform s).1
      ∧ (w.perform s).2.find? uri = (w'.perform s).2.find? uri := by
  have huri : s.uri.text = uri.text := by simpa [Step.concerns] using h
  rw [perform_fst, perform_fst, find?_perform, find?_perform, if_pos huri, if_pos huri,
    w.find?_congr huri, w'.find?_congr huri, hfind]
  exact ⟨rfl, rfl⟩

/-! ## §2. Histories. -/

/-- The steps on one document may be run by themselves. -/
theorem run_filter {w w' : Workspace} {uri : Uri} (h : w.find? uri = w'.find? uri)
    (steps : List Step) :
    answersTo uri steps (w.run steps).1 = (w'.run (steps.filter (Step.concerns uri))).1
      ∧ (w.run steps).2.find? uri = (w'.run (steps.filter (Step.concerns uri))).2.find? uri := by
  induction steps generalizing w w' with
  | nil => exact ⟨rfl, h⟩
  | cons s steps ih =>
    rw [run_cons, answersTo_cons]
    cases hs : s.concerns uri with
    | false =>
      -- The run of the one document is not told of the step.
      rw [List.filter_cons_of_neg (by simp [hs]), if_neg (by simp)]
      exact ih ((w.find?_perform_of_not_concerns hs).trans h)
    | true =>
      obtain ⟨hanswer, hleft⟩ := perform_congr hs h
      obtain ⟨hanswers, hrest⟩ := ih hleft
      rw [List.filter_cons_of_pos hs, if_pos rfl, run_cons, hanswer, hanswers]
      exact ⟨rfl, hrest⟩

/-- Two steps on different documents may be taken in either order. -/
theorem run_pair_comm (w : Workspace) {s t : Step} (h : s.uri.text ≠ t.uri.text) :
    (w.run [t, s]).1 = (w.run [s, t]).1.reverse
      ∧ ∀ uri, (w.run [t, s]).2.find? uri = (w.run [s, t]).2.find? uri := by
  have hst : ∀ v : Workspace, (v.perform s).2.find? t.uri = v.find? t.uri := fun v =>
    v.find?_perform_of_not_concerns (by simpa [Step.concerns] using h)
  have hts : ∀ v : Workspace, (v.perform t).2.find? s.uri = v.find? s.uri := fun v =>
    v.find?_perform_of_not_concerns (by simpa [Step.concerns] using Ne.symm h)
  constructor
  · show [(w.perform t).1, ((w.perform t).2.perform s).1]
      = [((w.perform s).2.perform t).1, (w.perform s).1]
    rw [perform_fst _ s, perform_fst _ t, perform_fst _ t, perform_fst _ s, hst, hts]
  · intro uri
    show ((w.perform t).2.perform s).2.find? uri = ((w.perform s).2.perform t).2.find? uri
    rw [find?_perform (w.perform t).2 s, hts, find?_perform w t, find?_perform (w.perform s).2 t,
      hst, find?_perform w s]
    -- No document is at both addresses, so the two tests may be made in either order.
    split
    next hs => rw [if_neg fun ht => h (hs.trans ht.symm)]
    next => rfl

/-- In every history, what comes of the steps on one document, and the
document they leave, are as if they were all there was.  So two histories
in which each document has the same steps in the same order answer these
alike, however the documents take turns, and any two steps on different
documents may change places. -/
theorem run_isolated (steps : List Step) :
    (∀ uri,
      answersTo uri steps (empty.run steps).1
          = (empty.run (steps.filter (Step.concerns uri))).1
      ∧ (empty.run steps).2.find? uri
          = (empty.run (steps.filter (Step.concerns uri))).2.find? uri)
    ∧ (∀ other : List Step,
        (∀ uri, other.filter (Step.concerns uri) = steps.filter (Step.concerns uri)) →
        ∀ uri, answersTo uri other (empty.run other).1 = answersTo uri steps (empty.run steps).1
          ∧ (empty.run other).2.find? uri = (empty.run steps).2.find? uri)
    ∧ ∀ s t : Step, s.uri.text ≠ t.uri.text →
        ((empty.run steps).2.run [t, s]).1 = ((empty.run steps).2.run [s, t]).1.reverse
        ∧ ∀ uri, ((empty.run steps).2.run [t, s]).2.find? uri
            = ((empty.run steps).2.run [s, t]).2.find? uri := by
  have halone : ∀ (history : List Step) (uri : Uri),
      answersTo uri history (empty.run history).1
          = (empty.run (history.filter (Step.concerns uri))).1
        ∧ (empty.run history).2.find? uri
          = (empty.run (history.filter (Step.concerns uri))).2.find? uri :=
    fun history uri => run_filter rfl history
  refine ⟨halone steps, ?_, fun s t h => run_pair_comm _ h⟩
  intro other hother uri
  rw [(halone other uri).1, (halone other uri).2, hother uri, (halone steps uri).1,
    (halone steps uri).2]
  exact ⟨rfl, rfl⟩

end Workspace

end DocNav

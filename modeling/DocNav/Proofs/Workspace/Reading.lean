/-
  DocNav.Proofs.Workspace.Reading
  ───────────────────────────────
  When the text of a document is read.

  A step on a document renews it (opens it, or makes a batch of edits),
  leaves it closed, or leaves it as it was but for the outline that a
  question puts in place (`find?_perform_cases`).  From this one fact
  follow, by induction over the history, whether an outline is kept
  (`cached_isSome_iff`), which version the document has
  (`lastVersion?_trace`), and which question the outline that is kept was
  used for last (`exists_question_of_cached`).
-/
import DocNav.Proofs.Workspace.Coherence
import DocNav.Proofs.Workspace.Isolation

namespace DocNav

/-! ## §1. Operations that ask and operations that renew. -/

namespace Operation

/-- What an operation asks about the outline of its document, if it is a
question. -/
def question? (op : Operation) (uri : Uri) : Option (Outline → Outcome) :=
  match op with
  | .outline => some .outline
  | .definition p =>
      some fun o => .definition ((o.definition? p.line.toNat).map (⟨uri, ·⟩))
  | .references p =>
      some fun o => .references ((o.references p.line.toNat).map (⟨uri, ·⟩))
  | _ => none

/-- The version that an operation gives to its document. -/
def version? : Operation → Option Int32
  | .openDocument _ version => some version
  | .change version _ => some version
  | _ => none

/-- The version that an operation with the given outcome has given to its
document; none if it has neither opened it nor made a batch of edits. -/
def renewal? (op : Operation) (outcome : Outcome) : Option Int32 :=
  if outcome = .done then op.version? else none

/-- The document as an operation leaves it that neither renews nor closes
it: with its outline kept after a question, and otherwise as it was. -/
def tended (op : Operation) (uri : Uri) (d : Document) : Document :=
  if (op.question? uri).isSome then { d with cached := some d.outline } else d

theorem renewal?_of_version? {op : Operation} (h : op.version? = none) (outcome : Outcome) :
    op.renewal? outcome = none := by
  unfold renewal?
  rw [h]
  split <;> rfl

theorem act_of_question? {op : Operation} {uri : Uri} {ask : Outline → Outcome}
    (h : op.question? uri = some ask) (d? : Option Document) :
    op.act uri d? = answer uri ask d? := by
  cases op with
  | outline =>
    injection h with h
    rw [← h]
    rfl
  | definition p =>
    injection h with h
    rw [← h]
    rfl
  | references p =>
    injection h with h
    rw [← h]
    rfl
  | _ => cases h

/-- What an operation leaves of its document: a new text under the version
that it gives, nothing, or the document tended. -/
theorem act_cases (op : Operation) (uri : Uri) (d? : Option Document) :
    (∃ version buffer, op.renewal? (op.act uri d?).1.outcome = some version
      ∧ (op.act uri d?).2 = some (.ofBuffer buffer version))
    ∨ op.renewal? (op.act uri d?).1.outcome = none
      ∧ ((op.act uri d?).2 = none ∨ (op.act uri d?).2 = d?.map (op.tended uri)) := by
  -- All questions do the same with the document.
  have hquestion : ∀ ask, op.question? uri = some ask →
      (op.act uri d?).2 = d?.map (op.tended uri) := by
    intro ask hask
    rw [act_of_question? hask]
    cases d? with
    | none => rfl
    | some d =>
      show some (d.consult ask).state = some (op.tended uri d)
      unfold tended
      rw [Document.consult_state, hask]
      rfl
  have hquiet : op.question? uri = none → d?.map (op.tended uri) = d? := by
    intro hask
    unfold tended
    rw [hask]
    exact Option.map_id_apply
  cases op with
  | openDocument source version => exact .inl ⟨version, _, rfl, rfl⟩
  | closeDocument => exact .inr ⟨rfl, .inl rfl⟩
  | change version edits =>
    cases d? with
    | none => exact .inr ⟨rfl, .inl rfl⟩
    | some d =>
      -- The version counts only if the batch is made.
      simp only [act, edit, Document.change]
      cases d.buffer.applyAll edits with
      | error e => exact .inr ⟨rfl, .inr rfl⟩
      | ok buffer => exact .inl ⟨version, buffer, rfl, rfl⟩
  | outline => exact .inr ⟨renewal?_of_version? rfl _, .inr (hquestion _ rfl)⟩
  | text => exact .inr ⟨renewal?_of_version? rfl _, .inr (hquiet rfl).symm⟩
  | isOpen => exact .inr ⟨renewal?_of_version? rfl _, .inr (hquiet rfl).symm⟩
  | definition p => exact .inr ⟨renewal?_of_version? rfl _, .inr (hquestion _ rfl)⟩
  | references p => exact .inr ⟨renewal?_of_version? rfl _, .inr (hquestion _ rfl)⟩

end Operation

/-! ## §2. Histories and what came of them. -/

/-- The step is a question about the outline of the document at the given
address. -/
def Step.asks (uri : Uri) (s : Step) : Bool :=
  s.concerns uri && (s.operation.question? s.uri).isSome

/-- The version that a step has given to the document at the given address. -/
def renewal? (uri : Uri) (x : Step × Performed) : Option Int32 :=
  if x.1.concerns uri then x.1.operation.renewal? x.2.outcome else none

/-- The part of a history since the document was last opened or changed. -/
def sinceRenewal (uri : Uri) (history : List (Step × Performed)) : List (Step × Performed) :=
  history.rtakeWhile fun x => (renewal? uri x).isNone

/-- The version that the document was given when it was last opened or
changed. -/
def lastVersion? (uri : Uri) (history : List (Step × Performed)) : Option Int32 :=
  history.reverse.findSome? (renewal? uri)

/-- The document was asked about since it was last opened or changed. -/
def Asked (uri : Uri) (history : List (Step × Performed)) : Prop :=
  ∃ x ∈ sinceRenewal uri history, x.1.asks uri = true

theorem asked_concat {uri : Uri} {history : List (Step × Performed)} {x : Step × Performed} :
    Asked uri (history ++ [x])
      ↔ renewal? uri x = none ∧ (x.1.asks uri = true ∨ Asked uri history) := by
  unfold Asked sinceRenewal
  cases hx : renewal? uri x with
  | none =>
    rw [List.rtakeWhile_concat_pos _ _ _ (by rw [hx]; rfl)]
    simp only [List.mem_append, List.mem_singleton, or_and_right, exists_or, exists_eq_left,
      true_and]
    exact Or.comm
  | some version =>
    rw [List.rtakeWhile_concat_neg _ _ _ (by rw [hx]; simp)]
    simp

theorem lastVersion?_concat (uri : Uri) (history : List (Step × Performed))
    (x : Step × Performed) :
    lastVersion? uri (history ++ [x]) = (renewal? uri x).or (lastVersion? uri history) := by
  unfold lastVersion?
  rw [List.reverse_concat, List.findSome?_cons]
  cases renewal? uri x <;> rfl

namespace Workspace

/-- The steps of a history, each with what came of it. -/
def trace (w : Workspace) (steps : List Step) : List (Step × Performed) :=
  steps.zip (w.run steps).1

theorem run_concat (w : Workspace) (steps : List Step) (s : Step) :
    w.run (steps ++ [s])
      = ((w.run steps).1 ++ [((w.run steps).2.perform s).1], ((w.run steps).2.perform s).2) := by
  induction steps generalizing w with
  | nil => rfl
  | cons t steps ih =>
    rw [List.cons_append, run_cons, run_cons, ih]
    rfl

theorem length_run (w : Workspace) (steps : List Step) :
    (w.run steps).1.length = steps.length := by
  induction steps generalizing w with
  | nil => rfl
  | cons s steps ih =>
    rw [run_cons, List.length_cons, List.length_cons, ih]

theorem trace_concat (w : Workspace) (steps : List Step) (s : Step) :
    w.trace (steps ++ [s]) = w.trace steps ++ [(s, ((w.run steps).2.perform s).1)] := by
  unfold trace
  rw [run_concat, List.zip_append (w.length_run steps).symm]
  rfl

/-- **One step**: the document at an address is renewed, or it is not open
afterwards, or it was open and is tended by a question and left alone by
anything else. -/
theorem find?_perform_cases (w : Workspace) (s : Step) (uri : Uri) :
    (∃ version buffer, renewal? uri (s, (w.perform s).1) = some version
      ∧ (w.perform s).2.find? uri = some (.ofBuffer buffer version))
    ∨ renewal? uri (s, (w.perform s).1) = none
      ∧ ((w.perform s).2.find? uri = none
        ∨ ∃ d, w.find? uri = some d
          ∧ (w.perform s).2.find? uri
            = some (if s.asks uri then { d with cached := some d.outline } else d)) := by
  cases hs : s.concerns uri with
  | false =>
    have hrenewal : renewal? uri (s, (w.perform s).1) = none := by
      unfold renewal?
      rw [if_neg (by simp [hs])]
    have hasks : s.asks uri = false := by
      unfold Step.asks
      rw [hs, Bool.false_and]
    rw [w.find?_perform_of_not_concerns hs, hasks]
    cases w.find? uri with
    | none => exact .inr ⟨hrenewal, .inl rfl⟩
    | some d => exact .inr ⟨hrenewal, .inr ⟨d, rfl, rfl⟩⟩
  | true =>
    have huri : s.uri.text = uri.text := by simpa [Step.concerns] using hs
    have hrenewal : renewal? uri (s, (w.perform s).1)
        = s.operation.renewal? (s.operation.act s.uri (w.find? s.uri)).1.outcome := by
      unfold renewal?
      rw [if_pos hs, perform_fst]
    have hasks : s.asks uri = (s.operation.question? s.uri).isSome := by
      unfold Step.asks
      rw [hs, Bool.true_and]
    rw [hrenewal, find?_perform, if_pos huri, ← w.find?_congr huri, hasks]
    obtain hnew | ⟨hold, hleft⟩ := s.operation.act_cases s.uri (w.find? s.uri)
    · exact .inl hnew
    · refine .inr ⟨hold, ?_⟩
      obtain hnone | hsome := hleft
      · exact .inl hnone
      · rw [hsome]
        cases w.find? s.uri with
        | none => exact .inl rfl
        | some d => exact .inr ⟨d, rfl, rfl⟩

/-! ## §3. What a history leaves of a document. -/

/-- **Induction over the history of a document**: what holds of a document
that has just been renewed, and goes on to hold while the document is
tended or left alone, holds of every open document. -/
theorem document_induction {uri : Uri} {P : List Step → Document → Prop}
    (hrenewed : ∀ past s version buffer,
      renewal? uri (s, ((empty.run past).2.perform s).1) = some version →
      P (past ++ [s]) (.ofBuffer buffer version))
    (htended : ∀ past s d d', (empty.run past).2.find? uri = some d →
      ((empty.run past).2.perform s).2.find? uri = some d' →
      d' = (if s.asks uri then { d with cached := some d.outline } else d) →
      renewal? uri (s, ((empty.run past).2.perform s).1) = none →
      P past d → P (past ++ [s]) d')
    {past : List Step} {d : Document} (h : (empty.run past).2.find? uri = some d) : P past d := by
  induction past using List.reverseRecOn generalizing d with
  | nil =>
    have hnone : (empty.run []).2.find? uri = none := find?_empty uri
    rw [hnone] at h
    cases h
  | append_singleton past s ih =>
    rw [run_concat] at h
    obtain ⟨version, buffer, hnew, hfind⟩ | ⟨hold, hnone | ⟨d', hd', hfind⟩⟩ :=
      (empty.run past).2.find?_perform_cases s uri
    · rw [hfind] at h
      injection h with h
      rw [← h]
      exact hrenewed past s version buffer hnew
    · rw [hnone] at h
      cases h
    · rw [hfind] at h
      injection h with h
      exact htended past s d' d hd' (by rw [hfind, h]) h.symm hold (ih hd')

/-- An outline is kept exactly when the document was asked about since it
was last opened or changed. -/
theorem cached_isSome_iff {past : List Step} {uri : Uri} {d : Document}
    (h : (empty.run past).2.find? uri = some d) :
    d.cached.isSome = true ↔ Asked uri (empty.trace past) := by
  refine document_induction (P := fun past d => d.cached.isSome = true
    ↔ Asked uri (empty.trace past)) ?_ ?_ h
  · intro past s version buffer hnew
    rw [trace_concat, asked_concat, hnew]
    simp [Document.ofBuffer]
  · rintro past s d d' - - rfl hold ih
    rw [trace_concat, asked_concat, hold, ← ih]
    cases s.asks uri <;> simp

/-- A document has the version that it was last given. -/
theorem lastVersion?_trace {past : List Step} {uri : Uri} {d : Document}
    (h : (empty.run past).2.find? uri = some d) :
    lastVersion? uri (empty.trace past) = some d.version := by
  refine document_induction (P := fun past d => lastVersion? uri (empty.trace past)
    = some d.version) ?_ ?_ h
  · intro past s version buffer hnew
    rw [trace_concat, lastVersion?_concat, hnew]
    rfl
  · rintro past s d d' - - rfl hold ih
    rw [trace_concat, lastVersion?_concat, hold, Option.none_or, ih]
    cases s.asks uri <;> rfl

/-- A question is asked of the outline of the document. -/
theorem perform_of_question? {w : Workspace} {s : Step} {ask : Outline → Outcome} {d : Document}
    (hask : s.operation.question? s.uri = some ask) (hfind : w.find? s.uri = some d) :
    (w.perform s).1
      = ⟨ask d.outline, if d.cached.isSome then none else some ⟨d.version, d.read.size⟩⟩ := by
  rw [perform_fst, Operation.act_of_question? hask, hfind]
  simp only [Operation.answer, Document.consult_value, Document.consult_reading]

/-- An outline that is kept was last used by a question that was answered
from it, and the document is as that question left it. -/
theorem exists_question_of_cached {past : List Step} {uri : Uri} {d : Document} {o : Outline}
    (h : (empty.run past).2.find? uri = some d) (ho : d.cached = some o) :
    ∃ front q back ask, past = front ++ q :: back ∧ q.concerns uri = true
      ∧ q.operation.question? q.uri = some ask ∧ (∀ t ∈ back, t.asks uri = false)
      ∧ ((empty.run front).2.perform q).1.outcome = ask o
      ∧ ((empty.run front).2.perform q).2.find? uri = some d := by
  revert ho
  refine document_induction (P := fun past d => d.cached = some o →
    ∃ front q back ask, past = front ++ q :: back ∧ q.concerns uri = true
      ∧ q.operation.question? q.uri = some ask ∧ (∀ t ∈ back, t.asks uri = false)
      ∧ ((empty.run front).2.perform q).1.outcome = ask o
      ∧ ((empty.run front).2.perform q).2.find? uri = some d) ?_ ?_ h
  · intro past s version buffer _ ho
    cases ho
  · intro past s d d' hfind hleft hd' _ ih ho
    cases hasks : s.asks uri with
    | true =>
      -- The last step is the question.
      rw [hasks, if_pos rfl] at hd'
      rw [hd'] at ho
      injection ho with ho
      unfold Step.asks at hasks
      rw [Bool.and_eq_true, Option.isSome_iff_exists] at hasks
      obtain ⟨hconcerns, ask, hask⟩ := hasks
      have huri : s.uri.text = uri.text := by simpa [Step.concerns] using hconcerns
      rw [← find?_congr _ huri] at hfind
      refine ⟨past, s, [], ask, rfl, hconcerns, hask, by simp, ?_, hleft⟩
      rw [perform_of_question? hask hfind, ho]
    | false =>
      -- The last step leaves the document alone, and the question came before it.
      rw [hasks, if_neg (by simp)] at hd'
      obtain ⟨front, q, back, ask, rfl, hconcerns, hask, hback, houtcome, hq⟩ := ih (hd' ▸ ho)
      refine ⟨front, q, back ++ [s], ask, by simp, hconcerns, hask, ?_, houtcome, hd' ▸ hq⟩
      intro t ht
      rcases List.mem_append.mp ht with ht | ht
      · exact hback t ht
      · rw [List.mem_singleton.mp ht]
        exact hasks

/-! ## §4. When a text is read. -/

/-- The outline that is kept for the document at an address. -/
def kept? (w : Workspace) (uri : Uri) : Option Outline :=
  (w.find? uri).bind Document.cached

/-- The workspace with `o` kept for a document, whatever its text says. -/
def keeping (w : Workspace) (uri : Uri) (o : Outline) : Workspace :=
  match w.find? uri with
  | none => w
  | some d => w.put uri { d with cached := some o }

/-- After the history `past`, the question `s` is answered from the outline
`o` of the text as it stands, which is read for it and kept. -/
structure ReadAnew (past : List Step) (s : Step) (ask : Outline → Outcome) (r : Reading)
    (o : Outline) : Prop where
  /-- The version is the one that the document was last given. -/
  version : lastVersion? s.uri (empty.trace past) = some r.version
  /-- The lines are those of the outline. -/
  lines : r.lines = o.size
  /-- The outline is that of the text as it stands. -/
  text : ∃ d, (empty.run past).2.find? s.uri = some d ∧ o = d.read
  /-- No outline was kept before. -/
  missing : (empty.run past).2.kept? s.uri = none
  /-- The answer comes from the outline. -/
  outcome : ((empty.run past).2.perform s).1.outcome = ask o
  /-- The outline is kept. -/
  kept : ((empty.run past).2.perform s).2.kept? s.uri = some o

/-- After the history `past`, the question `s` is answered from the outline
`o` that the last question before it, `q`, left in place. -/
structure UsedAgain (past : List Step) (s : Step) (ask : Outline → Outcome) (front : List Step)
    (q : Step) (back : List Step) (o : Outline) : Prop where
  /-- The question `q` is a step of the history. -/
  split : past = front ++ q :: back
  /-- It was about the same document. -/
  asks : q.asks s.uri = true
  /-- No other question about it came after. -/
  last : ∀ t ∈ back, t.asks s.uri = false
  /-- It was answered from the outline. -/
  first : ∃ ask', q.operation.question? q.uri = some ask'
    ∧ ((empty.run front).2.perform q).1.outcome = ask' o
  /-- It left the outline in place. -/
  kept : ((empty.run front).2.perform q).2.kept? s.uri = some o
  /-- Nothing has been done to the document since. -/
  untouched : (empty.run past).2.find? s.uri = ((empty.run front).2.perform q).2.find? s.uri
  /-- The answer comes from the outline. -/
  outcome : ((empty.run past).2.perform s).1.outcome = ask o
  /-- Whatever were kept in its place, the answer would come from that. -/
  instead : ∀ o', (((empty.run past).2.keeping s.uri o').perform s).1 = ⟨ask o', none⟩

theorem perform_keeping {w : Workspace} {s : Step} {ask : Outline → Outcome} {d : Document}
    (hask : s.operation.question? s.uri = some ask) (hfind : w.find? s.uri = some d)
    (o : Outline) : ((w.keeping s.uri o).perform s).1 = ⟨ask o, none⟩ := by
  have hkeeping : (w.keeping s.uri o).find? s.uri = some { d with cached := some o } := by
    unfold keeping
    rw [hfind]
    show (w.put s.uri _).find? s.uri = _
    rw [find?_put, if_pos rfl]
  rw [perform_of_question? hask hkeeping]
  rfl

theorem readAnew_of_cached {past : List Step} {s : Step} {ask : Outline → Outcome} {d : Document}
    (hask : s.operation.question? s.uri = some ask)
    (hfind : (empty.run past).2.find? s.uri = some d) (hcached : d.cached = none) :
    ReadAnew past s ask ⟨d.version, d.read.size⟩ d.read := by
  have houtline : d.outline = d.read := by
    unfold Document.outline
    rw [hcached]
    rfl
  refine ⟨lastVersion?_trace hfind, rfl, ⟨d, hfind, rfl⟩, ?_, ?_, ?_⟩
  · unfold kept?
    rw [hfind]
    exact hcached
  · rw [perform_of_question? hask hfind, houtline]
  · have hleft : ((empty.run past).2.perform s).2.find? s.uri = some (d.consult ask).state := by
      rw [find?_perform, if_pos rfl, Operation.act_of_question? hask, hfind]
      rfl
    unfold kept?
    rw [hleft, Document.consult_state, houtline]
    rfl

theorem usedAgain_of_cached {past : List Step} {s : Step} {ask : Outline → Outcome} {d : Document}
    {o : Outline} (hask : s.operation.question? s.uri = some ask)
    (hfind : (empty.run past).2.find? s.uri = some d) (hcached : d.cached = some o) :
    ∃ front q back, UsedAgain past s ask front q back o := by
  obtain ⟨front, q, back, ask', hsplit, hconcerns, hask', hback, hfirst, hq⟩ :=
    exists_question_of_cached hfind hcached
  have houtline : d.outline = o := by
    unfold Document.outline
    rw [hcached]
    rfl
  refine ⟨front, q, back, hsplit, ?_, hback, ⟨ask', hask', hfirst⟩, ?_, hfind.trans hq.symm, ?_,
    perform_keeping hask hfind⟩
  · unfold Step.asks
    rw [hconcerns, hask']
    rfl
  · unfold kept?
    rw [hq]
    exact hcached
  · rw [perform_of_question? hask hfind, houtline]

/-- A question about an open document takes a reading of the text exactly
when the document was not asked about since it was last opened or changed.
The reading tells the version that was given then and the lines of the new
outline.  Any other question is answered from the outline that the last
question before it was answered from. -/
theorem reading_iff_not_asked (past : List Step) (s : Step) (ask : Outline → Outcome)
    (hask : s.operation.question? s.uri = some ask)
    (hopen : (empty.run past).2.isOpen s.uri = true) :
    (((empty.run past).2.perform s).1.reading ≠ none ↔ ¬ Asked s.uri (empty.trace past))
    ∧ (∀ r, ((empty.run past).2.perform s).1.reading = some r → ∃ o, ReadAnew past s ask r o)
    ∧ (((empty.run past).2.perform s).1.reading = none →
        ∃ front q back o, UsedAgain past s ask front q back o) := by
  obtain ⟨d, hfind⟩ := Option.isSome_iff_exists.mp hopen
  have hreading : ((empty.run past).2.perform s).1.reading
      = if d.cached.isSome then none else some ⟨d.version, d.read.size⟩ := by
    rw [perform_of_question? hask hfind]
  rw [hreading, ← cached_isSome_iff hfind]
  cases hcached : d.cached with
  | none =>
    refine ⟨by simp, ?_, fun h => absurd h (by simp)⟩
    intro r hr
    injection hr with hr
    rw [← hr]
    exact ⟨d.read, readAnew_of_cached hask hfind hcached⟩
  | some o =>
    refine ⟨by simp, fun r hr => absurd hr (by simp), ?_⟩
    intro _
    obtain ⟨front, q, back, h⟩ := usedAgain_of_cached hask hfind hcached
    exact ⟨front, q, back, o, h⟩

/-- The address of a document. -/
def pageUri : Uri :=
  ⟨"file", none, .rooted ["page.yaml"], none, none⟩

/-- A document is opened and asked about, and then an empty batch of edits
is made. -/
def renewedHistory : List Step :=
  [⟨pageUri, .openDocument "a:\n b: 1" 1⟩, ⟨pageUri, .outline⟩, ⟨pageUri, .change 2 []⟩]

/-- After that it is asked about again, and a batch of edits fails. -/
def askedHistory : List Step :=
  renewedHistory ++
    [⟨pageUri, .definition ⟨1, 0⟩⟩, ⟨pageUri, .change 3 [⟨none, ""⟩, ⟨some ⟨⟨9, 9⟩, ⟨9, 9⟩⟩, "x"⟩]⟩]

/-- The empty batch makes a question read the text again, and the batch that
fails does not. -/
theorem reading_iff_not_asked_sample :
    (empty.run renewedHistory).2.isOpen pageUri = true
    ∧ ((empty.run renewedHistory).2.perform ⟨pageUri, .outline⟩).1.reading = some ⟨2, 2⟩
    ∧ ¬ Asked pageUri (empty.trace renewedHistory)
    ∧ (empty.run askedHistory).2.isOpen pageUri = true
    ∧ ∃ front q back o, UsedAgain askedHistory ⟨pageUri, .outline⟩ .outline front q back o := by
  have hopen : (empty.run renewedHistory).2.isOpen pageUri = true := by decide +kernel
  have hopen' : (empty.run askedHistory).2.isOpen pageUri = true := by decide +kernel
  have hread : ((empty.run renewedHistory).2.perform ⟨pageUri, .outline⟩).1.reading
      = some ⟨2, 2⟩ := by
    decide +kernel
  have hunread : ((empty.run askedHistory).2.perform ⟨pageUri, .outline⟩).1.reading = none := by
    decide +kernel
  obtain ⟨hiff, -, -⟩ := reading_iff_not_asked renewedHistory ⟨pageUri, .outline⟩ _ rfl hopen
  obtain ⟨-, -, hagain⟩ := reading_iff_not_asked askedHistory ⟨pageUri, .outline⟩ _ rfl hopen'
  exact ⟨hopen, hread, hiff.mp (by rw [hread]; simp), hopen', hagain hunread⟩

end Workspace

end DocNav

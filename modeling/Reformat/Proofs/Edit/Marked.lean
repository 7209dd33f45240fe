import Reformat.Proofs.Edit.Changed
import Reformat.Proofs.Edit.Run

/-
  The changed spans of ascending replacements.

  Each replacement that is made adds a span that holds just
  its value.  The spans from before end in the part of the
  text that is finished, so they stay where they are, with one
  exception: a value that is put right behind the last
  replacement, and takes nothing away, pushes the end of the
  last span along.  It is then held by both spans.

  Key definitions include:
    * `Span.Before`
    * `Replacement.InsertsAt`
    * `Edit.Apart`
    * `Edit.Mirrors`
    * `Edit.Marked`

  Main statements:
    * `Edit.pairwise_before_replace_iff`
    * `Edit.Marked.replace`
    * `Edit.Marked.steps`
    * `Document.transact_changed_mirrors`
-/

------------------------------------------------------------
-- Spans In A Row
------------------------------------------------------------

namespace Reformat

/- A span that ends before another one begins. -/
def Span.Before (a b : Span) : Prop :=
  a.stop ≤ b.start

/- Ending before another one is decidable. -/
instance (a b : Span) : Decidable (a.Before b) := by
  unfold Span.Before
  infer_instance

namespace Edit

variable {r : Span}
variable {spans : List Span}
variable {inserted n : Nat}

/-
  A position up to the start of an edit moves only if the edit
  is at that very position and takes nothing away.
-/
theorem shift_of_le_start
    {p : Nat}
    (hOrder : r.start ≤ r.stop)
    (hLe : p ≤ r.start) :
    shift r inserted p =
      if r.stop = p then p + inserted else p := by
  unfold shift
  split
  · rw [if_pos (by omega)]
    omega
  · rw [if_neg (by omega), if_neg (by omega)]

/- Spans before an edit, and its own, end where it ends. -/
theorem forall_within_replace
    (hOrder : r.start ≤ r.stop)
    (hBehind : n ≤ r.start)
    (hWithin : ∀ s ∈ spans, s.Within n) :
    ∀ s ∈
        spans.map (shiftSpan r inserted) ++
          [⟨r.start, r.start + inserted⟩],
      s.Within (r.start + inserted) := by
  intro s hs
  rw [List.mem_append, List.mem_map, List.mem_singleton]
    at hs
  rcases hs with ⟨q, hq, rfl⟩ | rfl
  · rcases hWithin q hq with ⟨hFront, hBack⟩
    refine ⟨shift_mono hOrder hFront, ?_⟩
    change shift r inserted q.stop ≤ _
    rw [shift_of_le_start hOrder (by omega)]
    split <;> omega
  · exact ⟨Nat.le_add_right _ _, Nat.le_refl _⟩

/-
  Spans before an edit stay where they are, unless the edit
  puts something where they end and takes nothing away.
-/
theorem map_shiftSpan_of_apart
    (hOrder : r.start ≤ r.stop)
    (hBehind : n ≤ r.start)
    (hApart : spans ≠ [] → n < r.stop ∨ inserted = 0)
    (hWithin : ∀ s ∈ spans, s.Within n) :
    spans.map (shiftSpan r inserted) = spans := by
  have hSame :
      ∀ s ∈ spans, shiftSpan r inserted s = s := by
    intro s hs
    have hAway := hApart (List.ne_nil_of_mem hs)
    have hStays :
        ∀ p, p ≤ n → shift r inserted p = p := by
      intro p hLe
      rw [shift_of_le_start hOrder (by omega)]
      split <;> omega
    rcases hWithin s hs with ⟨hStart, hStop⟩
    unfold shiftSpan
    rw [hStays _ (hStart.trans hStop), hStays _ hStop]
  exact
    (List.map_congr_left hSame).trans
      (List.map_id'' (fun _ => rfl) spans)

/-
  Spans that end in what is finished, the last one at its end.
  With that of an edit behind it they are in a row if they were
  before, and if the edit does not put anything right there.
-/
theorem pairwise_before_replace_iff
    (hOrder : r.start ≤ r.stop)
    (hBehind : n ≤ r.start)
    (hWithin : ∀ s ∈ spans, s.Within n)
    (hLast : ∀ s ∈ spans.getLast?, s.stop = n) :
    List.Pairwise Span.Before
        (spans.map (shiftSpan r inserted) ++
          [⟨r.start, r.start + inserted⟩]) ↔
      spans.Pairwise Span.Before ∧
        (spans ≠ [] → n < r.stop ∨ inserted = 0) := by
  by_cases hApart : n < r.stop ∨ inserted = 0
  · have hRow :
        ∀ s ∈ spans,
          s.Before ⟨r.start, r.start + inserted⟩ :=
      fun s hs => (hWithin s hs).2.trans hBehind
    rw [map_shiftSpan_of_apart hOrder hBehind
        (fun _ => hApart) hWithin,
      List.pairwise_append]
    simpa [hApart] using fun _ => hRow
  · rcases List.eq_nil_or_concat spans with
      rfl | ⟨front, last, rfl⟩
    · simp
    · -- The last span is pushed past the start of the edit.
      have hStop : last.stop = n := hLast last (by simp)
      have hMoved :
          (shiftSpan r inserted last).stop =
            n + inserted := by
        change shift r inserted last.stop = _
        rw [shift_of_le_start hOrder (by omega),
          if_pos (by omega), hStop]
      have hCrossed :
          ¬ (shiftSpan r inserted last).Before
            ⟨r.start, r.start + inserted⟩ := by
        unfold Span.Before
        simp only [hMoved]
        omega
      constructor
      · intro hRow
        rw [List.pairwise_append] at hRow
        exact
          absurd
            (hRow.2.2 _ (List.mem_map_of_mem (by simp)) _
              (List.mem_singleton.mpr rfl))
            hCrossed
      · intro hRow
        exact absurd (hRow.2 (by simp)) hApart

end Edit

end Reformat

------------------------------------------------------------
-- Mirrored Values
------------------------------------------------------------

namespace Reformat

/- A value that is put somewhere and takes nothing away. -/
def Replacement.InsertsAt
    (r : Replacement)
    (p : Nat) : Prop :=
  r.offset = p ∧ r.length = 0 ∧ r.value ≠ ""

/- Putting a value somewhere is decidable. -/
instance
    (r : Replacement)
    (p : Nat) :
    Decidable (r.InsertsAt p) := by
  unfold Replacement.InsertsAt
  infer_instance

namespace Edit

/- Nothing is put right where another replacement ends. -/
def Apart (rs : List Replacement) : Prop :=
  rs.IsChain fun a b => ¬ b.InsertsAt a.stop

/- Being apart is decidable. -/
instance
    (rs : List Replacement) :
    Decidable (Apart rs) := by
  unfold Apart
  infer_instance

/- A span of a text that holds just a replacement's value. -/
def Mirrors
    (s : String)
    (span : Span)
    (r : Replacement) : Prop :=
  ∃ front back,
    s = front ++ r.value ++ back ∧
      span =
        ⟨Text.size front,
          Text.size front + Text.size r.value⟩

/- One more replacement is apart from the last one. -/
theorem apart_concat_iff
    {done : List Replacement}
    {r : Replacement}
    {reached : Nat}
    (hReached : ∀ q ∈ done.getLast?, q.stop = reached) :
    Apart (done ++ [r]) ↔
      Apart done ∧ (done ≠ [] → ¬ r.InsertsAt reached) := by
  unfold Apart
  rw [List.isChain_append]
  rcases List.eq_nil_or_concat done with
    rfl | ⟨front, last, rfl⟩
  · simp
  · have hStop : last.stop = reached :=
      hReached last (by simp)
    simp [hStop]

/- A value stays where it is when more text follows. -/
theorem Mirrors.append
    {s : String}
    {span : Span}
    {r : Replacement}
    (h : Mirrors s span r)
    (more : String) :
    Mirrors (s ++ more) span r := by
  rcases h with ⟨front, back, rfl, hSpan⟩
  exact ⟨front, back ++ more, String.append_assoc, hSpan⟩

end Edit

end Reformat

------------------------------------------------------------
-- Marked Drafts
------------------------------------------------------------

namespace Reformat

namespace Edit

variable {original made : String}
variable {reached : Nat}
variable {p : Progress}

/- Where a replacement stands, behind what is finished. -/
def landing
    (made : String)
    (reached : Nat)
    (r : Replacement) : Span :=
  ⟨Text.size made + (r.offset - reached),
    Text.size made + (r.offset - reached) + r.length⟩

/- What passes in a staged buffer fits the original text. -/
theorem Staged.fits_of_isPlaced
    {β : Type}
    [TextBuffer β] [LawfulTextBuffer β]
    {b : β}
    {r : Replacement}
    {placed : Placed}
    (h : Staged original made reached p b)
    (hFirst : reached ≤ r.offset)
    (hPlaced :
      IsPlaced p (LawfulTextBuffer.text b) r placed) :
    Fits original r ∧
      placed.span = landing made reached r := by
  have hStart :
      placed.span.start =
        Text.size made + (r.offset - reached) := by
    have hShifted := hPlaced.start_eq
    rw [h.offset_add_drift hFirst] at hShifted
    exact Int.ofNat.inj hShifted
  have hStop :
      placed.span.stop =
        Text.size made + (r.stop - reached) := by
    have hStopEq : r.stop = r.offset + r.length := rfl
    rw [hPlaced.stop_eq, hStart]
    omega
  refine ⟨⟨?_, ?_, ?_⟩, ?_⟩
  · have hLe := hPlaced.stop_le
    have hSize := h.size_add
    have hStopEq : r.stop = r.offset + r.length := rfl
    omega
  · rw [← h.isBoundary_iff hFirst, ← hStart]
    exact hPlaced.start_boundary
  · have hBehind : reached ≤ r.stop :=
      hFirst.trans (Nat.le_add_right _ _)
    rw [← h.isBoundary_iff hBehind, ← hStop]
    exact hPlaced.stop_boundary
  · unfold landing
    rw [← hStart, ← hPlaced.stop_eq]

/-
  A draft in the middle of a run over ascending replacements,
  with those that are done.  Its changed spans lie in the part
  that is finished, and each holds its value unless something
  was put right where a replacement ends.
-/
structure Marked
    (original made : String)
    (reached : Nat)
    (p : Progress)
    (t : Draft)
    (done : List Replacement) : Prop where
  staged : Staged original made reached p t
  reached_eq : ∀ r ∈ done.getLast?, r.stop = reached
  length_eq : t.changed.toList.length = done.length
  within : ∀ s ∈ t.changed.toList, s.Within (Text.size made)
  last_stop :
    ∀ s ∈ t.changed.toList.getLast?, s.stop = Text.size made
  pairwise_iff :
    t.changed.toList.Pairwise Span.Before ↔ Apart done
  mirrors :
    Apart done →
      List.Forall₂ (Mirrors made) t.changed.toList done

/- A draft is marked before the first replacement. -/
theorem marked_ofDocument (d : Document) :
    Marked d.text "" 0 {} (Draft.ofDocument d) [] where
  staged := Staged.init (Draft.ofDocument d)
  reached_eq := by simp
  length_eq := rfl
  within := by simp [Draft.ofDocument]
  last_stop := by simp [Draft.ofDocument]
  pairwise_iff := by simp [Draft.ofDocument, Apart]
  mirrors := fun _ => .nil

variable {t : Draft}
variable {done : List Replacement}

/- It lands behind unless it is put right where that ends. -/
theorem landing_apart_iff
    (made : String)
    {r : Replacement}
    (hFirst : reached ≤ r.offset) :
    (Text.size made < (landing made reached r).stop ∨
        Text.size r.value = 0) ↔
      ¬ r.InsertsAt reached := by
  have hValue : Text.size r.value = 0 ↔ r.value = "" :=
    String.utf8ByteSize_eq_zero_iff
  unfold Replacement.InsertsAt
  rw [Ne, ← hValue]
  simp only [landing]
  omega

/- The part that is finished then ends behind the value. -/
theorem Staged.size_made_replace
    {r : Replacement}
    (h : Staged original made reached p t)
    (hFirst : reached ≤ r.offset)
    (hFits : Fits original r) :
    Text.size
          (made ++ Text.slice original reached r.offset) =
        (landing made reached r).start ∧
      Text.size
          (made ++
            (Text.slice original reached r.offset ++
              r.value)) =
        (landing made reached r).start +
          Text.size r.value := by
  have hSlice :=
    Text.size_slice h.boundary hFits.2.1 hFirst
  simp only [Text.size, String.utf8ByteSize_append, landing]
    at hSlice ⊢
  omega

/- A replacement that fits leaves a marked draft. -/
theorem Marked.replace
    {r : Replacement}
    (h : Marked original made reached p t done)
    (hFirst : reached ≤ r.offset)
    (hFits : Fits original r) :
    Marked original
      (made ++
        (Text.slice original reached r.offset ++ r.value))
      r.stop ⟨r.offset, p.drift + r.gain⟩
      (TextBuffer.replace t (landing made reached r) r.value)
      (done ++ [r]) := by
  have hOrder :
      (landing made reached r).start ≤
        (landing made reached r).stop :=
    Nat.le_add_right _ _
  have hBehind :
      Text.size made ≤ (landing made reached r).start :=
    Nat.le_add_right _ _
  have hChanged :
      (TextBuffer.replace t (landing made reached r)
            r.value).changed.toList =
        t.changed.toList.map
            (shiftSpan (landing made reached r)
              (Text.size r.value)) ++
          [⟨(landing made reached r).start,
            (landing made reached r).start +
              Text.size r.value⟩] :=
    changed_replace t _ r.value
  rcases h.staged.size_made_replace hFirst hFits with
    ⟨hCopied, hMade⟩
  have hSome : t.changed.toList ≠ [] ↔ done ≠ [] := by
    rw [← List.length_pos_iff, ← List.length_pos_iff,
      h.length_eq]
  have hApart := apart_concat_iff (r := r) h.reached_eq
  have hInserts := landing_apart_iff made hFirst
  refine
    ⟨h.staged.replace hFirst hFits, by simp, ?_, ?_, ?_, ?_,
      ?_⟩
  · rw [hChanged]
    simp [h.length_eq]
  · rw [hChanged, hMade]
    exact forall_within_replace hOrder hBehind h.within
  · rw [hChanged, hMade]
    simp
  · rw [hChanged,
      pairwise_before_replace_iff hOrder hBehind h.within
        h.last_stop,
      hApart, h.pairwise_iff, hSome, hInserts]
  · intro hRow
    rcases hApart.mp hRow with ⟨hDone, hNext⟩
    have hSame :
        t.changed.toList.map
            (shiftSpan (landing made reached r)
              (Text.size r.value)) =
          t.changed.toList :=
      map_shiftSpan_of_apart hOrder hBehind
        (fun hNone => hInserts.mpr (hNext (hSome.mp hNone)))
        h.within
    have hOld :=
      (h.mirrors hDone).imp fun _ _ hOne =>
        hOne.append
          (Text.slice original reached r.offset ++ r.value)
    have hNew :
        Mirrors
          (made ++
            (Text.slice original reached r.offset ++
              r.value))
          ⟨(landing made reached r).start,
            (landing made reached r).start +
              Text.size r.value⟩
          r :=
      ⟨made ++ Text.slice original reached r.offset, "",
        by simp [String.append_assoc], by rw [hCopied]⟩
    rw [hChanged, hSame]
    exact List.rel_append hOld (.cons hNew .nil)

/- A run over ascending replacements leaves a marked draft. -/
theorem Marked.steps
    {p' : Progress}
    {t' : Draft}
    {rs : List Replacement}
    (h : Marked original made reached p t done)
    (hSteps : Steps p t rs p' t')
    (hFirst : ∀ r ∈ rs.head?, reached ≤ r.offset)
    (hAscends : Ascends rs) :
    ∃ made' reached',
      Marked original made' reached' p' t' (done ++ rs) := by
  induction hSteps generalizing made reached done with
  | nil =>
      rw [List.append_nil]
      exact ⟨made, reached, h⟩
  | @cons p p' t t' r rest placed hPlace hRest ih =>
      -- What is done grows by `r` before the others follow.
      rcases List.isChain_cons.mp hAscends with
        ⟨hNext, hOthers⟩
      have hOffset : reached ≤ r.offset := hFirst r (by simp)
      have hPlaced := isPlaced_of_place hPlace
      rcases h.staged.fits_of_isPlaced hOffset hPlaced with
        ⟨hFits, hSpan⟩
      have hStep := h.replace hOffset hFits
      rw [← hPlaced.next_eq, ← hSpan] at hStep
      have hMarked := ih hStep hNext hOthers
      rwa [List.append_assoc] at hMarked

end Edit

end Reformat

------------------------------------------------------------
-- Changed Spans Of A Patch
------------------------------------------------------------

namespace Reformat

namespace Document

/-
  Ascending replacements that are committed.  The patch has a
  changed span for each.  The spans are in a row if and only if
  nothing is put right where another replacement ends, and then
  each holds just the value of its replacement.
-/
theorem transact_changed_mirrors
    {d d' : Document}
    {cursor : Nat}
    {rs : List Replacement}
    {patch : Patch}
    (hAscends : Edit.Ascends rs)
    (hMade :
      d.transact (Edit.applyReply · (.edits cursor rs)) =
        (d', .ok patch)) :
    patch.changed.length = rs.length ∧
      (patch.changed.Pairwise Span.Before ↔
        Edit.Apart rs) ∧
      (Edit.Apart rs →
        List.Forall₂ (Edit.Mirrors d'.text) patch.changed
          rs) := by
  rcases exists_draft_of_transact hMade with
    ⟨_, hEdit, rfl, rfl⟩
  rcases Edit.exists_run_of_applyReply hEdit with
    ⟨t, drift, hRun, rfl⟩
  rcases Edit.steps_of_applyFrom_ok hRun with
    ⟨p, hSteps, -⟩
  rcases (Edit.marked_ofDocument d).steps hSteps
      (fun _ _ => Nat.zero_le _) hAscends with
    ⟨made, reached, hMarked⟩
  refine ⟨hMarked.length_eq, hMarked.pairwise_iff, ?_⟩
  intro hApart
  have hMirrors :
      List.Forall₂ (Edit.Mirrors t.text) t.changed.toList
        rs := by
    have hText :
        t.text = made ++ Text.dropBytes d.text reached :=
      hMarked.staged.text_eq
    rw [hText]
    exact
      (hMarked.mirrors hApart).imp fun _ _ hOne =>
        hOne.append (Text.dropBytes d.text reached)
  by_cases hNone : t.changed.size = 0
  · have hEmpty : t.changed.toList = [] :=
      List.length_eq_zero_iff.mp hNone
    change List.Forall₂ _ t.changed.toList rs
    rw [hEmpty] at hMirrors ⊢
    cases hMirrors
    exact .nil
  · have hChanged : (t.moveCaret cursor).changed.size ≠ 0 :=
      hNone
    rw [commit_of_changed hChanged]
    exact hMirrors

/-
  A replacement that goes on where another one ends, and a
  value that is put between two characters further on.
-/
theorem transact_changed_mirrors_sample :
    let d : Document := ⟨"a→bc", ⟨4, 5⟩, 2⟩
    let rs : List Replacement :=
      [⟨0, 1, "xy"⟩, ⟨1, 3, "é"⟩, ⟨5, 0, "!"⟩]
    Edit.Ascends rs ∧
      Edit.Apart rs ∧
        ∃ d' patch,
          d.transact (Edit.applyReply · (.edits 9 rs)) =
              (d', .ok patch) ∧
            d'.text = "xyéb!c" ∧
              patch.changed = [⟨0, 2⟩, ⟨2, 4⟩, ⟨5, 6⟩] ∧
                patch.changed.Pairwise Span.Before ∧
                  List.Forall₂ (Edit.Mirrors d'.text)
                    patch.changed rs := by
  intro d rs
  have hAscends : Edit.Ascends rs := by decide
  have hApart : Edit.Apart rs := by decide
  have hMade :
      d.transact (Edit.applyReply · (.edits 9 rs)) =
        (⟨"xyéb!c", ⟨7, 7⟩, 3⟩,
          .ok ⟨[⟨0, 2⟩, ⟨2, 4⟩, ⟨5, 6⟩], ⟨7, 7⟩, 3⟩) := by
    decide +kernel
  rcases transact_changed_mirrors hAscends hMade with
    ⟨-, hRow, hMirrors⟩
  exact
    ⟨hAscends, hApart, _, _, hMade, rfl, rfl,
      hRow.mpr hApart, hMirrors hApart⟩

/-
  Two values that are put in one place.  The span of the first
  one holds both, and it does not end before the second.
-/
theorem transact_changed_not_mirrored :
    let d : Document := ⟨"abc", ⟨0, 0⟩, 0⟩
    let rs : List Replacement := [⟨1, 0, "x"⟩, ⟨1, 0, "y"⟩]
    Edit.Ascends rs ∧
      ∃ d' patch,
        d.transact (Edit.applyReply · (.edits 0 rs)) =
            (d', .ok patch) ∧
          d'.text = "axybc" ∧
            patch.changed = [⟨1, 3⟩, ⟨2, 3⟩] ∧
              d'.slice ⟨1, 3⟩ = "xy" ∧
                ¬ patch.changed.Pairwise Span.Before := by
  intro d rs
  have hMade :
      d.transact (Edit.applyReply · (.edits 0 rs)) =
        (⟨"axybc", ⟨0, 0⟩, 1⟩,
          .ok ⟨[⟨1, 3⟩, ⟨2, 3⟩], ⟨0, 0⟩, 1⟩) := by
    decide +kernel
  refine ⟨by decide, _, _, hMade, rfl, rfl, ?_, ?_⟩
  · decide +kernel
  · decide

end Document

end Reformat
